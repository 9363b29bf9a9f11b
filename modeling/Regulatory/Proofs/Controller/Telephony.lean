import Regulatory.Proofs.Controller.Panic

/-!
The telephony code as a function of what a controller was told. Telephony supplies codes and
withdrawals, and the network source a code when it is asked for want of one. The last of them
counts, where a controller that does not revert on loss passes over the withdrawals. Whatever else
happens in a run, panics included, has no part in it.
-/

namespace Regulatory.Controller

variable {ι κ σ : Type} [Named ι]

/-- What a call supplies for the telephony code. Telephony supplies a code or the withdrawal of one
in each of its calls; the network source does so when it is asked and knows a country. -/
def Record.supply? (r : Record ι κ σ) : Option (Option CountryCode) :=
  match r.operation with
  | .country raw => some (CountryCode.parse raw)
  | .ready true =>
    if r.before.state.telephony = none then
      (r.before.network.join.bind CountryCode.parse).map some
    else none
  | _ => none

/-- All that was supplied in some calls, in order. -/
def supplies (h : List (Record ι κ σ)) : List (Option CountryCode) :=
  h.filterMap Record.supply?

/-- Which of the codes and withdrawals supplied counts in the end. -/
def latest (revertOnLoss : Bool) (supplied : List (Option CountryCode)) : Option CountryCode :=
  if revertOnLoss then supplied.getLast?.join else (supplied.filterMap id).getLast?

/-- What a world keeps of the codes that it was told: the telephony code, and what the network
source would answer, if one is attached. -/
structure Reception where
  telephony : Option CountryCode
  network : Option (Option String)
deriving DecidableEq

def World.reception (w : World ι κ σ) : Reception where
  telephony := w.state.telephony
  network := w.network

/-- What can be said to a controller that bears on its codes. -/
inductive Cue where
  | country (raw : String)
  /-- The subsystem is ready, so that a code is wanted. -/
  | ready
  | network (answer : Option String)
deriving DecidableEq

/-- What an operation has to say on codes, if it has anything to say. -/
def Operation.cue? : Operation ι κ σ → Option Cue
  | .country raw => some (.country raw)
  | .ready true => some .ready
  | .network answer => some (.network answer)
  | _ => none

/-- What a controller makes of a cue. Being ready, it takes the network's country for want of a
code. -/
def Reception.heed (revertOnLoss : Bool) (s : Reception) : Cue → Reception
  | .country raw =>
    { s with telephony := resolveTelephony s.telephony (CountryCode.parse raw) revertOnLoss }
  | .ready => { s with telephony := s.telephony.or (s.network.join.bind CountryCode.parse) }
  | .network answer => { s with network := s.network.map fun _ => answer }

omit [Named ι] in
theorem probe_reception (env : Environment ι κ σ) (revertOnLoss : Bool) (w : World ι κ σ) :
    (probe env w).1.reception = w.reception.heed revertOnLoss .ready := by
  have hend := probe_ends env w
  generalize probe env w = probed at hend ⊢
  cases hend with
  | unasked hneedless =>
    obtain hsome | hnetwork := hneedless
    · obtain ⟨code, hcode⟩ := Option.ne_none_iff_exists'.1 hsome
      simp [World.reception, Reception.heed, hcode]
    · simp [World.reception, Reception.heed, hnetwork]
  | blank answer hnone hnetwork hblank =>
    simp [World.reception, Reception.heed, hnone, hnetwork, hblank]
  | adopted answer code hnone hnetwork hcode =>
    simp [World.reception, Reception.heed, hnone, hnetwork, hcode]

/-- What a call makes of the codes depends on nothing but its cue, and is there at the end of the
call even if it panics. -/
theorem step_reception (env : Environment ι κ σ) (c : Controller) (w : World ι κ σ)
    (op : Operation ι κ σ) :
    (step env c w op).world.reception =
      op.cue?.elim w.reception (w.reception.heed c.revertOnLoss) := by
  have hstage : (step env c w op).world.reception = (stage env c w op).1.reception := by
    obtain ⟨htelephony, _⟩ := step_keeps env c w op
    simp only [World.reception, htelephony, step_network]
  rw [hstage]
  cases op with
  | ready value =>
    cases value with
    | false => rfl
    | true => exact probe_reception env c.revertOnLoss (marked env true w)
  | country _ | add _ | remove _ | adjust _ | network _ | listen _ => rfl

theorem run_reception (env : Environment ι κ σ) (c : Controller) (w : World ι κ σ)
    (ops : List (Operation ι κ σ)) :
    (run env c w ops).1.reception =
      (ops.filterMap Operation.cue?).foldl (Reception.heed c.revertOnLoss) w.reception := by
  induction ops generalizing w with
  | nil => rfl
  | cons op rest ih =>
    rw [run, ih, step_reception, List.filterMap_cons]
    cases op.cue? <;> rfl

theorem step_telephony (env : Environment ι κ σ) (c : Controller) (w : World ι κ σ)
    (op : Operation ι κ σ) :
    (step env c w op).world.state.telephony =
      (Record.supply? ⟨w, op, step env c w op⟩).elim w.state.telephony
        (resolveTelephony w.state.telephony · c.revertOnLoss) := by
  have hreception := congrArg Reception.telephony (step_reception env c w op)
  cases op with
  | ready value =>
    cases value with
    | false => exact hreception
    | true =>
      have hheeded : (step env c w (.ready true)).world.state.telephony =
          w.state.telephony.or (w.network.join.bind CountryCode.parse) := hreception
      rw [hheeded]
      cases htelephony : w.state.telephony with
      | some code => simp [Record.supply?, htelephony]
      | none =>
        -- The answer is supplied only if there is a country in it; without one nothing changes.
        cases hanswer : w.network.join.bind CountryCode.parse with
        | none => simp [Record.supply?, htelephony, hanswer]
        | some code => simp [Record.supply?, htelephony, hanswer, resolveTelephony]
  | country _ | add _ | remove _ | adjust _ | network _ | listen _ => exact hreception

theorem run_telephony (env : Environment ι κ σ) (c : Controller) (w : World ι κ σ)
    (ops : List (Operation ι κ σ)) :
    (run env c w ops).1.state.telephony =
      (supplies (history env c w ops)).foldl (resolveTelephony · · c.revertOnLoss)
        w.state.telephony := by
  induction ops generalizing w with
  | nil => rfl
  | cons op rest ih =>
    rw [run, ih, step_telephony, history, supplies, supplies, List.filterMap_cons]
    cases Record.supply? ⟨w, op, step env c w op⟩ <;> rfl

/-- A code kept and one supplied count as the one that comes of them. -/
theorem latest_cons_cons (revertOnLoss : Bool) (previous incoming : Option CountryCode)
    (supplied : List (Option CountryCode)) :
    latest revertOnLoss (previous :: incoming :: supplied) =
      latest revertOnLoss (resolveTelephony previous incoming revertOnLoss :: supplied) := by
  cases revertOnLoss with
  | true =>
    have hresolve : resolveTelephony previous incoming true = incoming := by
      cases incoming <;> rfl
    simp only [latest, if_true, hresolve, List.getLast?_cons_cons]
  | false =>
    cases incoming with
    | none => cases previous <;> rfl
    | some code =>
      cases previous with
      | none => rfl
      | some _ => exact List.getLast?_cons_cons

/-- Without a code to start with, what is supplied decides alone. -/
theorem latest_none_cons (revertOnLoss : Bool) (supplied : List (Option CountryCode)) :
    latest revertOnLoss (none :: supplied) = latest revertOnLoss supplied := by
  cases revertOnLoss with
  | false => rfl
  | true =>
    cases supplied with
    | nil => rfl
    | cons incoming rest => simp only [latest, if_true, List.getLast?_cons_cons]

theorem foldl_resolveTelephony (revertOnLoss : Bool) (supplied : List (Option CountryCode))
    (previous : Option CountryCode) :
    supplied.foldl (resolveTelephony · · revertOnLoss) previous =
      latest revertOnLoss (previous :: supplied) := by
  induction supplied generalizing previous with
  | nil => cases revertOnLoss <;> cases previous <;> rfl
  | cons incoming rest ih => rw [List.foldl_cons, ih, latest_cons_cons]

/-- How the codes of a controller follow from what it was supplied with in the calls before. -/
structure TelephonyTrace (env : Environment ι κ σ) (c : Controller) (w : World ι κ σ)
    (ops : List (Operation ι κ σ)) : Prop where
  telephony : ∀ n, (run env c w (ops.take n)).1.state.telephony =
    latest c.revertOnLoss (supplies ((history env c w ops).take n))
  active : ∀ n, c.active (run env c w (ops.take n)).1.state =
    (latest c.revertOnLoss (supplies ((history env c w ops).take n))).getD c.defaultCode
  /-- A call of telephony answers unless somebody panics, and only the withdrawals that are ignored
  are refused. -/
  accepted : ∀ r ∈ history env c w ops, ∀ raw, r.operation = .country raw →
    ∃ flag, (flag = false ↔
        (∀ ch ∈ raw.toList, Text.isWhiteSpace ch = true) ∧ c.revertOnLoss = false) ∧
      r.call.result = if r.interfacePanic env c = none ∧ r.listenerPanic env c = none then
        some (.accepted flag) else none

/-- After every operation, also one that panicked, the last code supplied counts. Two runs that get
the same cues come to the same codes, whatever else happens in them: they may differ in interfaces
and listeners and how these answer or panic, in the registry, in the clock, and in the operations
that give no cue. -/
theorem telephonyTrace_of_run (env : Environment ι κ σ) (c : Controller) (registry : Registry ι)
    (network : Option (Option String)) (outside : σ) (ops : List (Operation ι κ σ)) :
    TelephonyTrace env c (start registry network outside) ops ∧
      ∀ {ι' κ' σ' : Type} [Named ι'] (env' : Environment ι' κ' σ') (registry' : Registry ι')
        (outside' : σ') (ops' : List (Operation ι' κ' σ')),
        ops'.filterMap Operation.cue? = ops.filterMap Operation.cue? →
          (run env' c (start registry' network outside') ops').1.state.telephony =
              (run env c (start registry network outside) ops).1.state.telephony ∧
            c.active (run env' c (start registry' network outside') ops').1.state =
              c.active (run env c (start registry network outside) ops).1.state := by
  have htelephony : ∀ n, (run env c (start registry network outside) (ops.take n)).1.state.telephony =
      latest c.revertOnLoss
        (supplies ((history env c (start registry network outside) ops).take n)) := by
    intro n
    rw [history_take, run_telephony, foldl_resolveTelephony]
    exact latest_none_cons _ _
  refine ⟨⟨htelephony, fun n => ?_, ?_⟩, ?_⟩
  · rw [Controller.active, activeCode, htelephony]
  · refine forall_mem_history fun before op raw hop => ?_
    obtain rfl : op = .country raw := hop
    refine ⟨_, ?_, step_result env c before (.country raw)⟩
    rw [Bool.or_eq_false_iff, ← CountryCode.parse_eq_none_iff, Option.isSome_eq_false_iff,
      Option.isNone_iff_eq_none]
  · intro ι' κ' σ' _ env' registry' outside' ops' hcues
    have hreception : (run env' c (start registry' network outside') ops').1.reception =
        (run env c (start registry network outside) ops).1.reception := by
      rw [run_reception, run_reception, hcues]
      rfl
    have hsame := congrArg Reception.telephony hreception
    exact ⟨hsame, congrArg (activeCode c.defaultCode) hsame⟩

/-- In the second run a code is adopted although an interface panics, and a withdrawal is ignored
although a listener panics. The first run has the same cues, and neither interfaces nor
listeners. -/
theorem telephony_of_bare_run :
    ([.ready true, .country " ", .country "de", .ready true] : List Fleet.Operation).filterMap
        Operation.cue? =
      ([.listen ⟨0, true⟩, .ready true, .adjust (Fleet.setMode "wlan0" .reject), .country " ",
        .ready false, .country "de", .ready true] : List Fleet.Operation).filterMap
          Operation.cue? ∧
    (run Fleet.environment sampleController (start ∅ (some (some " jp ")) [])
        [.ready true, .country " ", .country "de", .ready true]).1.state.telephony =
      (run Fleet.environment sampleController
        (start ⟨[⟨some 0, { name := "wlan0" }⟩]⟩ (some (some " jp ")) [("wlan0", .panic)])
        [.listen ⟨0, true⟩, .ready true, .adjust (Fleet.setMode "wlan0" .reject), .country " ",
          .ready false, .country "de", .ready true]).1.state.telephony :=
  ⟨by decide, ((telephonyTrace_of_run Fleet.environment sampleController
    ⟨[⟨some 0, { name := "wlan0" }⟩]⟩ (some (some " jp ")) [("wlan0", .panic)] _).2
      Fleet.environment ∅ [] _ (by decide)).1⟩

end Regulatory.Controller
