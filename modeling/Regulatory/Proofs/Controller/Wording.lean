import Regulatory.Proofs.Controller.Clock
import Regulatory.Proofs.CountryCode

/-!
Wording does not matter. Wherever a controller is given a raw text, another one that stands for the
same code would do as well.
-/

namespace Regulatory

variable {ι κ σ : Type}

/-- The event without the raw text of telephony, which the log quotes. -/
def Event.unworded : Event ι κ → Event ι κ
  | .logged (.telephonyUpdated _ active accepted) =>
    .logged (.telephonyUpdated "" active accepted)
  | e => e

def Trace.unworded (t : Trace ι κ) : Trace ι κ :=
  t.map Event.unworded

theorem Trace.unworded_append (s t : Trace ι κ) : unworded (s ++ t) = unworded s ++ unworded t :=
  List.map_append

namespace Controller

/-- What there is to know of the network source: whether it is attached, and the code that its
answer stands for. -/
def codeOffered (network : Option (Option String)) : Option (Option CountryCode) :=
  network.map (·.bind CountryCode.parse)

/-- The same operation in other words. -/
inductive Operation.Reworded : Operation ι κ σ → Operation ι κ σ → Prop
  | ready (value : Bool) : Reworded (.ready value) (.ready value)
  | country {raw raw' : String} (hcode : CountryCode.parse raw' = CountryCode.parse raw) :
      Reworded (.country raw) (.country raw')
  | add (i : ι) : Reworded (.add i) (.add i)
  | remove (name : String) : Reworded (.remove name) (.remove name)
  | adjust (change : σ → σ) : Reworded (.adjust change) (.adjust change)
  | network {answer answer' : Option String}
      (hcode : answer'.bind CountryCode.parse = answer.bind CountryCode.parse) :
      Reworded (.network answer) (.network answer')
  | listen (l : κ) : Reworded (.listen l) (.listen l)

/-- Two worlds are the same but for times and for the wording of the network's answer. -/
structure World.Reworded (w w' : World ι κ σ) : Prop where
  state : w'.state.timeless = w.state.timeless
  registry : w'.registry = w.registry
  outside : w'.outside = w.outside
  network : codeOffered w'.network = codeOffered w.network

/-- Two calls are the same but for times and for the wording of what the controller was given. -/
structure Record.Reworded (r r' : Record ι κ σ) : Prop where
  operation : r.operation.Reworded r'.operation
  before : r.before.Reworded r'.before
  result : r'.call.result = r.call.result
  world : r.call.world.Reworded r'.call.world
  trace : r'.call.trace.unworded = r.call.trace.unworded

/-- Where the network's answer is looked at, only its code matters. -/
theorem probe_reworded (env : Environment ι κ σ) (w : World ι κ σ)
    (network : Option (Option String)) (hnetwork : codeOffered network = codeOffered w.network) :
    probe env (w.withNetwork network) =
      ((probe env w).1.withNetwork network, (probe env w).2) := by
  obtain ⟨state, registry, network₀, outside, readings⟩ := w
  obtain ⟨telephony, driver, ready, telephonyUpdated, driverUpdated, readyChanged, lastPush,
    listeners⟩ := state
  cases telephony with
  | some code => rfl
  | none =>
    cases network with
    | none =>
      obtain rfl : network₀ = none := Option.map_eq_none_iff.1 hnetwork.symm
      rfl
    | some answer =>
      obtain ⟨answer₀, rfl, hcode⟩ := Option.map_eq_some_iff.1 hnetwork.symm
      cases hanswer : answer₀.bind CountryCode.parse with
      | none | some code =>
        rw [hanswer] at hcode
        simp [probe, World.withNetwork, hanswer, ← hcode]

variable [Named ι]

/-- Other words make no difference to what comes before a push, nor to whether there is one, nor to
what is answered. -/
theorem stage_reworded (env : Environment ι κ σ) (c : Controller) (w : World ι κ σ)
    {network : Option (Option String)} (hnetwork : codeOffered network = codeOffered w.network)
    {op op' : Operation ι κ σ} (hop : op.Reworded op') :
    op'.pushes w.state.ready = op.pushes w.state.ready ∧
      op'.answer c (w.withNetwork network) = op.answer c w ∧
      ∃ network', codeOffered network' = codeOffered (stage env c w op).1.network ∧
        (stage env c (w.withNetwork network) op').1 = (stage env c w op).1.withNetwork network' ∧
        (stage env c (w.withNetwork network) op').2.unworded = (stage env c w op).2.unworded := by
  cases hop with
  | ready value =>
    cases value with
    | false => exact ⟨rfl, rfl, network, hnetwork, rfl, rfl⟩
    | true =>
      have hprobe := probe_reworded env (marked env true w) network hnetwork
      obtain ⟨_, _, _, hkeeps⟩ := probe_keeps env (marked env true w)
      refine ⟨rfl, rfl, network, hnetwork.trans ?_, congrArg Prod.fst hprobe, ?_⟩
      · simp only [stage, if_true, hkeeps]
        rfl
      · exact congrArg (fun p => Trace.unworded (.logged (.readinessUpdated true) :: p.2)) hprobe
  | @country raw raw' hcode =>
    have hworld : updated env c raw' (w.withNetwork network) =
        (updated env c raw w).withNetwork network := by
      simp only [updated, World.withNetwork, hcode]
    refine ⟨rfl, ?_, network, hnetwork, hworld, ?_⟩
    · simp only [Operation.answer, hcode]
    · simp only [stage, hworld, hcode]
      rfl
  | @network answer answer' hcode =>
    refine ⟨rfl, rfl, network.map fun _ => answer', ?_, rfl, rfl⟩
    have hattached := congrArg (Option.map fun _ => answer.bind CountryCode.parse) hnetwork
    simpa [codeOffered, stage, step, Function.comp_def, hcode] using hattached
  | add _ | remove _ | adjust _ | listen _ => exact ⟨rfl, rfl, network, hnetwork, rfl, rfl⟩

/-- Under one clock. -/
theorem step_reworded (env : Environment ι κ σ) (c : Controller) (w : World ι κ σ)
    {network : Option (Option String)} (hnetwork : codeOffered network = codeOffered w.network)
    {op op' : Operation ι κ σ} (hop : op.Reworded op') :
    (step env c (w.withNetwork network) op').result = (step env c w op).result ∧
      (step env c (w.withNetwork network) op').trace.unworded =
        (step env c w op).trace.unworded ∧
      ∃ network', codeOffered network' = codeOffered (step env c w op).world.network ∧
        (step env c (w.withNetwork network) op').world =
          (step env c w op).world.withNetwork network' := by
  obtain ⟨hpushes, hanswer, network', hnetwork', hworld, htrace⟩ :=
    stage_reworded env c w hnetwork hop
  rw [step_network]
  cases hpush : op.pushes w.state.ready with
  | true =>
    rw [step_of_pushes env c w op hpush,
      step_of_pushes env c (w.withNetwork network) op' (hpushes.trans hpush), hworld,
      push_withNetwork, hanswer]
    refine ⟨rfl, ?_, network', hnetwork', rfl⟩
    change Trace.unworded (_ ++ _) = Trace.unworded (_ ++ _)
    rw [Trace.unworded_append, Trace.unworded_append, htrace]
    rfl
  | false =>
    rw [step_of_not_pushes env c w op hpush,
      step_of_not_pushes env c (w.withNetwork network) op' (hpushes.trans hpush), hworld, hanswer]
    exact ⟨rfl, htrace, network', hnetwork', rfl⟩

/-- Under two clocks, from two worlds that need not be quite the same. -/
theorem record_reworded (env : Environment ι κ σ) (clock : Nat → Nat) (c : Controller)
    {w w' : World ι κ σ} (hworld : w.Reworded w') {op op' : Operation ι κ σ}
    (hop : op.Reworded op') :
    Record.Reworded ⟨w, op, step env c w op⟩ ⟨w', op', step (env.withClock clock) c w' op'⟩ := by
  obtain ⟨hstate, hregistry, houtside, hnetwork⟩ := hworld
  obtain ⟨hresult, htrace, network, hcode, hafter⟩ := step_reworded env c w hnetwork hop
  -- Between the two calls lies that in the first world with the second's answer of the network. The
  -- first differs from it in words only, the second in times only.
  have htimeless : (w.withNetwork w'.network).timeless = w'.timeless := by
    simp only [World.timeless, World.withNetwork, hstate, hregistry, houtside]
  have hclock := step_clock env clock c htimeless op'
  simp only [Call.timeless, Call.mk.injEq] at hclock
  obtain ⟨hresult', hafter', htrace'⟩ := hclock
  rw [hafter] at hafter'
  refine ⟨hop, ⟨hstate, hregistry, houtside, hnetwork⟩, hresult'.symm.trans hresult,
    ⟨?_, ?_, ?_, ?_⟩, (congrArg Trace.unworded htrace'.symm).trans htrace⟩
  · exact (congrArg World.state hafter').symm
  · exact (congrArg World.registry hafter').symm
  · exact (congrArg World.outside hafter').symm
  · exact (congrArg (fun v => codeOffered (World.network v)) hafter').symm.trans hcode

/-- Two runs in different words are the same call by call. -/
theorem history_reworded (env : Environment ι κ σ) (clock : Nat → Nat) (c : Controller)
    {w w' : World ι κ σ} (hworld : w.Reworded w') {ops ops' : List (Operation ι κ σ)}
    (hops : List.Forall₂ Operation.Reworded ops ops') :
    List.Forall₂ Record.Reworded (history env c w ops)
      (history (env.withClock clock) c w' ops') := by
  induction hops generalizing w w' with
  | nil => exact .nil
  | cons hop _ ih =>
    have hrecord := record_reworded env clock c hworld hop
    exact .cons hrecord (ih hrecord.world)

theorem ofDefault_reworded {raw raw' : String}
    (hcode : CountryCode.parse raw' = CountryCode.parse raw) (revertOnLoss : Bool) :
    ofDefault raw' revertOnLoss = ofDefault raw revertOnLoss := by
  unfold ofDefault
  rw [hcode]

/-- Parsing knows raw texts by their canonical form, and controllers know them by what parsing
makes of them: inputs that are parsed alike make the same controller, and lead through runs that
are the same up to times and to the raw texts quoted in the log. -/
theorem reworded_of_parsing :
    (∀ raw, CountryCode.Parsing raw) ∧
      ∀ (env : Environment ι κ σ) (clock : Nat → Nat) (raw raw' : String) (revertOnLoss : Bool)
        (registry : Registry ι) (network network' : Option (Option String)) (outside : σ)
        (ops ops' : List (Operation ι κ σ)),
        CountryCode.parse raw' = CountryCode.parse raw →
        codeOffered network' = codeOffered network →
        List.Forall₂ Operation.Reworded ops ops' →
        ofDefault raw' revertOnLoss = ofDefault raw revertOnLoss ∧
          ∀ c, ofDefault raw revertOnLoss = .ok c →
            List.Forall₂ Record.Reworded (history env c (start registry network outside) ops)
              (history (env.withClock clock) c (start registry network' outside) ops') := by
  refine ⟨CountryCode.parsing, ?_⟩
  intro env clock raw raw' revertOnLoss registry network network' outside ops ops' hdefault hnetwork
    hops
  have hstart : World.Reworded (start registry network outside : World ι κ σ)
      (start registry network' outside) := ⟨rfl, rfl, rfl, hnetwork⟩
  exact ⟨ofDefault_reworded hdefault revertOnLoss, fun c _ =>
    history_reworded env clock c hstart hops⟩

/-- Withdrawals and codes, with the network heard in between. -/
def wordedRun : List Fleet.Operation :=
  [.ready true, .country "", .network (some "jp"), .ready true, .country " de"]

/-- The same run in other words. A blank answer of the network is no better than none. -/
def rewordedRun : List Fleet.Operation :=
  [.ready true, .country "\u3000\t", .network (some " Jp"), .ready true, .country "De\n"]

theorem reworded_of_rewordedRun :
    ofDefault "us\t" false = .ok sampleController ∧
      List.Forall₂ Record.Reworded
        (history Fleet.environment sampleController
          (start sampleWorld.registry (some none) [("wlan0", .ok)]) wordedRun)
        (history (Fleet.environment.withClock (100 * ·)) sampleController
          (start sampleWorld.registry (some (some " ")) [("wlan0", .ok)]) rewordedRun) := by
  have hdefault : ofDefault "US" false = .ok sampleController := by rfl
  obtain ⟨hsame, hruns⟩ := reworded_of_parsing.2 Fleet.environment (100 * ·) "US" "us\t" false
    sampleWorld.registry (some none) (some (some " ")) [("wlan0", .ok)] wordedRun rewordedRun
    (by decide) (by decide)
    (.cons (.ready true) (.cons (.country (by decide)) (.cons (.network (by decide))
      (.cons (.ready true) (.cons (.country (by decide)) .nil)))))
  exact ⟨hsame.trans hdefault, hruns sampleController hdefault⟩

end Controller

end Regulatory
