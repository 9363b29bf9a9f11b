import Regulatory.Proofs.Controller.Notification

/-!
Interfaces that fail are kept apart from all else. Two runs in which everybody does the same, and
which differ only in how calls of interfaces end, come to the same but for the names in the report
of the last push.
-/

namespace Regulatory

variable {ι κ σ σ' : Type}

/-- What an interface does to the registry while it applies a code, in order. -/
def Reaction.deeds (r : Reaction ι) : List (Action ι) :=
  r.actions.filter fun | .log _ => false | _ => true

/-- Surroundings in which interfaces do the same to the registry and listeners answer the same. Only
the outcome of an interface's call may be different. States outside that belong together in the two
are related by `R`. The clocks need not agree. -/
structure Environment.Twin (R : σ → σ' → Prop) (env : Environment ι κ σ)
    (env' : Environment ι κ σ') : Prop where
  deeds {s : σ} {s' : σ'} (hstates : R s s') (i : ι) (code : CountryCode) :
    (env.apply i code s).1.deeds = (env'.apply i code s').1.deeds
  applied {s : σ} {s' : σ'} (hstates : R s s') (i : ι) (code : CountryCode) :
    R (env.apply i code s).2 (env'.apply i code s').2
  answer {s : σ} {s' : σ'} (hstates : R s s') (l : κ) (code : CountryCode) :
    (env.notify l code s).1 = (env'.notify l code s').1
  notified {s : σ} {s' : σ'} (hstates : R s s') (l : κ) (code : CountryCode) :
    R (env.notify l code s).2 (env'.notify l code s').2

namespace Registry

variable [Named ι]

/-- Log entries aside, an interface's actions come to what it does to the registry. -/
theorem perform_deeds (r : Registry ι) (actions : List (Action ι)) :
    (r.perform (κ := κ) actions).1 =
        (r.perform (κ := κ) (actions.filter fun | .log _ => false | _ => true)).1 ∧
      (r.perform actions).2.unlogged =
        ((r.perform (actions.filter fun | .log _ => false | _ => true)).2 :
          Trace ι κ).unlogged := by
  induction actions generalizing r with
  | nil => exact ⟨rfl, rfl⟩
  | cons action rest ih =>
    cases action with
    | add i =>
      obtain ⟨hregistry, htrace⟩ := ih (r.add i)
      refine ⟨hregistry, ?_⟩
      change Trace.unlogged (_ ++ _) = Trace.unlogged (_ ++ _)
      rw [Trace.unlogged_append, Trace.unlogged_append, htrace]
    | remove name =>
      obtain ⟨hregistry, htrace⟩ := ih (r.remove name)
      refine ⟨hregistry, ?_⟩
      change Trace.unlogged (_ ++ _) = Trace.unlogged (_ ++ _)
      rw [Trace.unlogged_append, Trace.unlogged_append, htrace]
    | log _ => exact ih r

end Registry

namespace Controller

/-- The same operation of two runs. One that changes how interfaces behave may do so in different
ways. -/
inductive Operation.Twin (R : σ → σ' → Prop) : Operation ι κ σ → Operation ι κ σ' → Prop
  | ready (value : Bool) : Twin R (.ready value) (.ready value)
  | country (raw : String) : Twin R (.country raw) (.country raw)
  | add (i : ι) : Twin R (.add i) (.add i)
  | remove (name : String) : Twin R (.remove name) (.remove name)
  | adjust {change : σ → σ} {change' : σ' → σ'}
      (hstates : ∀ s s', R s s' → R (change s) (change' s')) :
      Twin R (.adjust change) (.adjust change')
  | network (answer : Option String) : Twin R (.network answer) (.network answer)
  | listen (l : κ) : Twin R (.listen l) (.listen l)

/-- Two states are the same but for their times and for who failed in the last push. -/
structure State.Alike (s s' : State κ) : Prop where
  telephony : s.telephony = s'.telephony
  driver : s.driver = s'.driver
  ready : s.ready = s'.ready
  telephonyUpdated : s.telephonyUpdated.isSome = s'.telephonyUpdated.isSome
  driverUpdated : s.driverUpdated.isSome = s'.driverUpdated.isSome
  readyChanged : s.readyChanged.isSome = s'.readyChanged.isSome
  report : s.lastPush.map (fun p => (p.code, p.attempted)) =
    s'.lastPush.map fun p => (p.code, p.attempted)
  listeners : s.listeners = s'.listeners

structure World.Alike (R : σ → σ' → Prop) (w : World ι κ σ) (w' : World ι κ σ') : Prop where
  state : w.state.Alike w'.state
  registry : w.registry = w'.registry
  network : w.network = w'.network
  outside : R w.outside w'.outside

variable [Named ι] {R : σ → σ' → Prop} {env : Environment ι κ σ} {env' : Environment ι κ σ'}

/-- What the first call of an offering leaves to the rest, if all calls return. Whether it failed
shows in the log alone. -/
theorem offerAll_cons {code : CountryCode} {i : ι} {rest : List ι} {registry : Registry ι}
    {outside : σ} (hfinished : (offerAll env code (i :: rest) registry outside).finished = true) :
    ∃ later, later = offerAll env code rest
        (registry.perform (κ := κ) (env.apply i code outside).1.actions).1
        (env.apply i code outside).2 ∧
      later.finished = true ∧
      (offerAll env code (i :: rest) registry outside).registry = later.registry ∧
      (offerAll env code (i :: rest) registry outside).outside = later.outside ∧
      (offerAll env code (i :: rest) registry outside).trace.unlogged = .offered i code ::
        (registry.perform (env.apply i code outside).1.actions).2.unlogged ++
          later.trace.unlogged := by
  refine ⟨_, rfl, ?_⟩
  rw [offerAll] at hfinished ⊢
  cases houtcome : (env.apply i code outside).1.outcome with
  | panicked => simp [houtcome] at hfinished
  | applied | failed _ =>
    simp only [houtcome] at hfinished
    refine ⟨hfinished, rfl, rfl, ?_⟩
    simp [Trace.unlogged]

/-- Offering a code to interfaces that all return does the same in both surroundings. -/
theorem offerAll_alike (htwin : env.Twin R env') (code : CountryCode) (entries : List ι)
    (registry : Registry ι) {outside : σ} {outside' : σ'} (hstates : R outside outside')
    (hfinished : (offerAll env code entries registry outside).finished = true)
    (hfinished' : (offerAll env' code entries registry outside').finished = true) :
    (offerAll env code entries registry outside).registry =
        (offerAll env' code entries registry outside').registry ∧
      R (offerAll env code entries registry outside).outside
        (offerAll env' code entries registry outside').outside ∧
      (offerAll env code entries registry outside).trace.unlogged =
        (offerAll env' code entries registry outside').trace.unlogged := by
  induction entries generalizing registry outside outside' with
  | nil => exact ⟨rfl, hstates, rfl⟩
  | cons i rest ih =>
    obtain ⟨later, hlater, hdone, hregistry, houtside, htrace⟩ := offerAll_cons hfinished
    obtain ⟨later', hlater', hdone', hregistry', houtside', htrace'⟩ := offerAll_cons hfinished'
    have hdeeds := htwin.deeds hstates i code
    obtain ⟨hperformed, hseen⟩ :=
      registry.perform_deeds (κ := κ) (env.apply i code outside).1.actions
    obtain ⟨hperformed', hseen'⟩ :=
      registry.perform_deeds (κ := κ) (env'.apply i code outside').1.actions
    have hsame : (registry.perform (κ := κ) (env.apply i code outside).1.actions).1 =
        (registry.perform (κ := κ) (env'.apply i code outside').1.actions).1 :=
      hperformed.trans ((congrArg (fun deeds => (registry.perform (κ := κ) deeds).1) hdeeds).trans
        hperformed'.symm)
    have hsight : (registry.perform (env.apply i code outside).1.actions).2.unlogged =
        ((registry.perform (env'.apply i code outside').1.actions).2 : Trace ι κ).unlogged :=
      hseen.trans ((congrArg (fun deeds => Trace.unlogged (registry.perform deeds).2) hdeeds).trans
        hseen'.symm)
    rw [hsame] at hlater
    subst hlater hlater'
    obtain ⟨hregistries, houtsides, htraces⟩ :=
      ih _ (htwin.applied hstates i code) hdone hdone'
    rw [hregistry, hregistry', houtside, houtside', htrace, htrace', hsight, htraces]
    exact ⟨hregistries, houtsides, rfl⟩

omit [Named ι] in
/-- Listeners are told the same, and one that panics does so in both surroundings. -/
theorem notifyAll_alike (htwin : env.Twin R env') (code : CountryCode) (listeners : List κ)
    {outside : σ} {outside' : σ'} (hstates : R outside outside') :
    R (notifyAll env code listeners outside : Notification ι κ σ).outside
        (notifyAll env' code listeners outside' : Notification ι κ σ').outside ∧
      (notifyAll env code listeners outside).trace =
        ((notifyAll env' code listeners outside').trace : Trace ι κ) := by
  induction listeners generalizing outside outside' with
  | nil => exact ⟨hstates, rfl⟩
  | cons l rest ih =>
    have hanswer := htwin.answer hstates l code
    have hnotified := htwin.notified hstates l code
    obtain ⟨houtside, htrace⟩ := ih hnotified
    rw [notifyAll, notifyAll, ← hanswer]
    cases (env.notify l code outside).1 with
    | true =>
      refine ⟨houtside, ?_⟩
      simpa using htrace
    | false => exact ⟨hnotified, rfl⟩

omit [Named ι] in
theorem active_alike (c : Controller) {s s' : State κ} (halike : s.Alike s') :
    c.active s = c.active s' := by
  rw [active, active, halike.telephony]

theorem push_done {c : Controller} {w : World ι κ σ} (hreturned : (push env c w).result ≠ none) :
    (offering env c w).finished = true ∧
      push env c w = ⟨some (), reportedWorld env c w, fullTrace env c w⟩ := by
  have hend := push_ends env c w
  generalize push env c w = p at hend hreturned ⊢
  cases hend with
  | cut _ | unheard _ _ => exact absurd rfl hreturned
  | done hoffered _ => exact ⟨hoffered, rfl⟩

/-- Pushes that return come to the same, whoever failed in them. -/
theorem push_alike (htwin : env.Twin R env') (c : Controller) {w : World ι κ σ} {w' : World ι κ σ'}
    (halike : w.Alike R w') (hreturned : (push env c w).result ≠ none)
    (hreturned' : (push env' c w').result ≠ none) :
    (push env c w).world.Alike R (push env' c w').world ∧
      (push env c w).trace.unlogged = (push env' c w').trace.unlogged := by
  obtain ⟨hoffered, hpush⟩ := push_done hreturned
  obtain ⟨hoffered', hpush'⟩ := push_done hreturned'
  obtain ⟨hstate, hregistry, hnetwork, hstates⟩ := halike
  have hactive := active_alike c hstate
  have hoffering : (offering env c w).registry = (offering env' c w').registry ∧
      R (offering env c w).outside (offering env' c w').outside ∧
      (offering env c w).trace.unlogged = (offering env' c w').trace.unlogged := by
    unfold offering at hoffered hoffered' ⊢
    rw [hactive, hregistry] at hoffered ⊢
    exact offerAll_alike htwin _ _ _ hstates hoffered hoffered'
  obtain ⟨hregistries, houtsides, hseen⟩ := hoffering
  have htelling : R (telling env c w).outside (telling env' c w').outside ∧
      (telling env c w).trace = (telling env' c w').trace := by
    unfold telling
    rw [hactive, hstate.driver, hstate.listeners]
    split
    · exact ⟨houtsides, rfl⟩
    · exact notifyAll_alike htwin _ _ houtsides
  obtain ⟨htold, htidings⟩ := htelling
  rw [hpush, hpush']
  refine ⟨⟨?_, hregistries, hnetwork, htold⟩, ?_⟩
  · exact {
      telephony := hstate.telephony
      driver := congrArg some hactive
      ready := hstate.ready
      telephonyUpdated := hstate.telephonyUpdated
      driverUpdated := rfl
      readyChanged := hstate.readyChanged
      report := by simp [reportedWorld, report, hactive, hregistry]
      listeners := hstate.listeners }
  · simpa [fullTrace, cutTrace, Trace.unlogged, hregistry, htidings] using hseen

omit [Named ι] in
/-- Consulting the network source does the same in both surroundings. -/
theorem probe_alike (env : Environment ι κ σ) (env' : Environment ι κ σ') {w : World ι κ σ}
    {w' : World ι κ σ'} (halike : w.Alike R w') :
    (probe env w).1.Alike R (probe env' w').1 ∧ (probe env w).2 = (probe env' w').2 := by
  obtain ⟨hstate, hregistry, hnetwork, hstates⟩ := halike
  unfold probe
  rw [hstate.telephony, hnetwork]
  cases w'.state.telephony with
  | some _ => exact ⟨⟨hstate, hregistry, hnetwork, hstates⟩, rfl⟩
  | none =>
    cases hanswer : w'.network with
    | none => exact ⟨⟨hstate, hregistry, hnetwork, hstates⟩, rfl⟩
    | some answer =>
      dsimp only
      cases answer.bind CountryCode.parse with
      | none => exact ⟨⟨hstate, hregistry, hnetwork, hstates⟩, rfl⟩
      | some code =>
        exact ⟨⟨{ hstate with telephony := rfl, telephonyUpdated := rfl }, hregistry, rfl, hstates⟩,
          rfl⟩

/-- Up to its push an operation does the same in both runs. -/
theorem stage_alike (env : Environment ι κ σ) (env' : Environment ι κ σ') (c : Controller)
    {w : World ι κ σ} {w' : World ι κ σ'} (halike : w.Alike R w') {op : Operation ι κ σ}
    {op' : Operation ι κ σ'} (hop : Operation.Twin R op op') :
    (stage env c w op).1.Alike R (stage env' c w' op').1 ∧
      (stage env c w op).2 = (stage env' c w' op').2 := by
  have ⟨hstate, hregistry, hnetwork, hstates⟩ := halike
  cases hop with
  | ready value =>
    have hmarked : (marked env value w).Alike R (marked env' value w') :=
      ⟨{ hstate with ready := rfl, readyChanged := rfl }, hregistry, hnetwork, hstates⟩
    cases value with
    | false => exact ⟨hmarked, rfl⟩
    | true =>
      obtain ⟨hprobed, hseen⟩ := probe_alike env env' hmarked
      simp only [stage, if_true, hseen]
      exact ⟨hprobed, trivial⟩
  | country raw =>
    have hworld : (updated env c raw w).Alike R (updated env' c raw w') := by
      simp only [updated, hstate.telephony]
      exact ⟨{ hstate with telephony := rfl, telephonyUpdated := rfl }, hregistry, hnetwork,
        hstates⟩
    simp only [stage, active_alike c hworld.state, hstate.ready]
    exact ⟨hworld, trivial⟩
  | add i =>
    exact ⟨⟨hstate, congrArg (Registry.add · i) hregistry, hnetwork, hstates⟩, rfl⟩
  | remove name =>
    have hworld : World.Alike R { w with registry := w.registry.remove name }
        { w' with registry := w'.registry.remove name } :=
      ⟨hstate, congrArg (Registry.remove · name) hregistry, hnetwork, hstates⟩
    exact ⟨hworld, congrArg (Registry.removalTrace · name) hregistry⟩
  | adjust hchange => exact ⟨⟨hstate, hregistry, hnetwork, hchange _ _ hstates⟩, rfl⟩
  | network answer =>
    exact ⟨⟨hstate, hregistry, congrArg (Option.map fun _ => answer) hnetwork, hstates⟩, rfl⟩
  | listen l =>
    exact ⟨⟨{ hstate with listeners := congrArg (· ++ [l]) hstate.listeners }, hregistry, hnetwork,
      hstates⟩, rfl⟩

/-- What calls of two runs have in common: what they return, what the outside sees but for the log,
and what they leave, but for times and for who failed. -/
structure Record.Alike (R : σ → σ' → Prop) (r : Record ι κ σ) (r' : Record ι κ σ') : Prop where
  operation : Operation.Twin R r.operation r'.operation
  result : r.call.result = r'.call.result
  /-- The offers, the notices and the queries, in order, and all that is added to the registry and
  taken from it. -/
  trace : r.call.trace.unlogged = r'.call.trace.unlogged
  world : r.call.world.Alike R r'.call.world

theorem step_alike (htwin : env.Twin R env') (c : Controller) {w : World ι κ σ} {w' : World ι κ σ'}
    (halike : w.Alike R w') {op : Operation ι κ σ} {op' : Operation ι κ σ'}
    (hop : Operation.Twin R op op') (hreturned : (step env c w op).result ≠ none)
    (hreturned' : (step env' c w' op').result ≠ none) :
    Record.Alike R ⟨w, op, step env c w op⟩ ⟨w', op', step env' c w' op'⟩ := by
  obtain ⟨hstaged, hseen⟩ := stage_alike env env' c halike hop
  have hanswer : op.answer c w = op'.answer c w' := by
    cases hop with
    | remove name => simp only [Operation.answer, halike.registry]
    | _ => rfl
  have hpushes : op.pushes w.state.ready = op'.pushes w'.state.ready := by
    rw [halike.state.ready]
    cases hop <;> rfl
  cases hpush : op.pushes w.state.ready with
  | false =>
    rw [step_of_not_pushes env c w op hpush,
      step_of_not_pushes env' c w' op' (hpushes.symm.trans hpush)]
    exact ⟨hop, congrArg some hanswer, congrArg Trace.unlogged hseen, hstaged⟩
  | true =>
    rw [step_of_pushes env c w op hpush] at hreturned ⊢
    rw [step_of_pushes env' c w' op' (hpushes.symm.trans hpush)] at hreturned' ⊢
    have hpushed : (push env c (stage env c w op).1).result ≠ none :=
      fun hnone => hreturned (congrArg (Option.map _) hnone)
    have hpushed' : (push env' c (stage env' c w' op').1).result ≠ none :=
      fun hnone => hreturned' (congrArg (Option.map _) hnone)
    obtain ⟨hafter, hsights⟩ := push_alike htwin c hstaged hpushed hpushed'
    refine ⟨hop, ?_, ?_, hafter⟩
    · simp [Call.map, Call.after, (push_done hpushed).2, (push_done hpushed').2, hanswer]
    · simp [Call.map, Call.after, hseen, hsights]

theorem history_alike (htwin : env.Twin R env') (c : Controller) {w : World ι κ σ}
    {w' : World ι κ σ'} (halike : w.Alike R w') {ops : List (Operation ι κ σ)}
    {ops' : List (Operation ι κ σ')} (hops : List.Forall₂ (Operation.Twin R) ops ops')
    (hcalm : Calm env c w ops) (hcalm' : Calm env' c w' ops') :
    List.Forall₂ (Record.Alike R) (history env c w ops) (history env' c w' ops') := by
  induction hops generalizing w w' with
  | nil => exact .nil
  | cons hop _ ih =>
    obtain ⟨hreturned, hrest⟩ := hcalm.tail
    obtain ⟨hreturned', hrest'⟩ := hcalm'.tail
    have hstep := step_alike htwin c halike hop hreturned hreturned'
    exact .cons hstep (ih hstep.world hrest hrest')

/-- The names of the interfaces that failed in the push of a call, in order of their calls, if the
call pushes. -/
def Record.failures? (env : Environment ι κ σ) (c : Controller) (r : Record ι κ σ) :
    Option (List String) :=
  if r.operation.pushes r.before.state.ready then
    some (env.failures (c.active r.call.world.state) r.before.registry.entries r.before.outside)
  else none

/-- After any number of operations the report names those that failed in the last push, each as
often as it failed. -/
def FailuresReported (env : Environment ι κ σ) (c : Controller) (w : World ι κ σ)
    (ops : List (Operation ι κ σ)) : Prop :=
  ∀ n, (run env c w (ops.take n)).1.state.lastPush.map PushReport.failed =
    (((history env c w ops).take n).filterMap fun r => r.failures? env c).getLast?

theorem step_failed (env : Environment ι κ σ) (c : Controller) (w : World ι κ σ)
    (op : Operation ι κ σ) (hreturned : (step env c w op).result ≠ none) :
    (step env c w op).world.state.lastPush.map PushReport.failed =
      (Record.failures? env c ⟨w, op, step env c w op⟩).or
        (w.state.lastPush.map PushReport.failed) := by
  cases hpush : op.pushes w.state.ready with
  | false =>
    obtain ⟨_, _, hreport⟩ := stage_undriven env c w op
    have hstep := step_of_not_pushes env c w op hpush
    simp [Record.failures?, hpush, hstep, hreport]
  | true =>
    obtain ⟨_, hstate⟩ := (step_of_returned env c w op hpush hreturned).state
    have hreport := congrArg State.lastPush hstate
    dsimp only at hreport
    simp [Record.failures?, hpush, hreport]

theorem run_failed (env : Environment ι κ σ) (c : Controller) (w : World ι κ σ)
    (ops : List (Operation ι κ σ)) (hcalm : Calm env c w ops) :
    (run env c w ops).1.state.lastPush.map PushReport.failed =
      ((history env c w ops).filterMap fun r => r.failures? env c).getLast?.or
        (w.state.lastPush.map PushReport.failed) := by
  induction ops generalizing w with
  | nil => rfl
  | cons op rest ih =>
    obtain ⟨hreturned, hrest⟩ := hcalm.tail
    rw [run, ih _ hrest, step_failed env c w op hreturned, history, getLast?_filterMap_cons,
      Option.or_assoc]

theorem failuresReported_of_calm (env : Environment ι κ σ) (c : Controller) (registry : Registry ι)
    (network : Option (Option String)) (outside : σ) (ops : List (Operation ι κ σ))
    (hcalm : Calm env c (start registry network outside) ops) :
    FailuresReported env c (start registry network outside) ops := by
  intro n
  rw [history_take, run_failed]
  · exact Option.or_none
  · intro r hr
    rw [← history_take] at hr
    exact hcalm r (List.mem_of_mem_take hr)

/-- Interfaces that fail spoil nothing for the others. As long as nobody panics, two runs in which
only the outcomes of single calls differ do the same call by call, and in each of them the report
names exactly the interfaces that failed. -/
theorem isolated_of_twins {R : σ → σ' → Prop} {env : Environment ι κ σ} {env' : Environment ι κ σ'}
    (htwin : env.Twin R env') (c : Controller) (registry : Registry ι)
    (network : Option (Option String)) (outside : σ) (outside' : σ')
    (hstates : R outside outside') {ops : List (Operation ι κ σ)} {ops' : List (Operation ι κ σ')}
    (hops : List.Forall₂ (Operation.Twin R) ops ops')
    (hcalm : Calm env c (start registry network outside) ops)
    (hcalm' : Calm env' c (start registry network outside') ops') :
    List.Forall₂ (Record.Alike R) (history env c (start registry network outside) ops)
        (history env' c (start registry network outside') ops') ∧
      FailuresReported env c (start registry network outside) ops ∧
      FailuresReported env' c (start registry network outside') ops' := by
  have halike : (start registry network outside : World ι κ σ).Alike R
      (start registry network outside') :=
    ⟨⟨rfl, rfl, rfl, rfl, rfl, rfl, rfl, rfl⟩, rfl, rfl, hstates⟩
  exact ⟨history_alike htwin c halike hops hcalm hcalm',
    failuresReported_of_calm env c registry network outside ops hcalm,
    failuresReported_of_calm env' c registry network outside' ops' hcalm'⟩

/-- The modes of a fleet decide nothing but the outcomes of calls. -/
theorem fleet_twin : Fleet.environment.Twin (fun _ _ => True) Fleet.environment where
  deeds _ _ _ := rfl
  applied _ _ _ := trivial
  answer _ _ _ := rfl
  notified _ _ _ := trivial

/-- One interface, which adds a sibling to the registry with each call. -/
def growingWorld (mode : Fleet.Mode) : World Fleet.Member Fleet.Listener Fleet.Modes :=
  start ⟨[⟨some 0, { name := "wlan0", adds := some "ap0" }⟩]⟩ none [("wlan0", mode)]

/-- A run in which the behaviour of interfaces changes between two pushes. -/
def changingRun (change : Fleet.Modes → Fleet.Modes) : List Fleet.Operation :=
  [.listen ⟨0, false⟩, .ready true, .adjust change, .country "de"]

/-- In the first run the interface refuses a code and is out of reach later. In the second one it
never fails. -/
theorem isolated_of_refusing_interface :
    Calm Fleet.environment sampleController (growingWorld .reject)
        (changingRun (Fleet.setMode "wlan0" .unavailable)) ∧
      Calm Fleet.environment sampleController (growingWorld .ok) (changingRun id) ∧
      List.Forall₂ (Record.Alike fun _ _ => True)
        (history Fleet.environment sampleController (growingWorld .reject)
          (changingRun (Fleet.setMode "wlan0" .unavailable)))
        (history Fleet.environment sampleController (growingWorld .ok) (changingRun id)) ∧
      FailuresReported Fleet.environment sampleController (growingWorld .reject)
        (changingRun (Fleet.setMode "wlan0" .unavailable)) := by
  have hops : List.Forall₂ (Operation.Twin fun _ _ => True)
      (changingRun (Fleet.setMode "wlan0" .unavailable)) (changingRun id) :=
    .cons (.listen _) (.cons (.ready true) (.cons (.adjust fun _ _ _ => trivial)
      (.cons (.country "de") .nil)))
  have hcalm : Calm Fleet.environment sampleController (growingWorld .reject)
      (changingRun (Fleet.setMode "wlan0" .unavailable)) := by decide
  have hcalm' : Calm Fleet.environment sampleController (growingWorld .ok) (changingRun id) := by
    decide
  obtain ⟨halike, hreported, _⟩ := isolated_of_twins fleet_twin sampleController _ _ _ _ trivial
    hops hcalm hcalm'
  exact ⟨hcalm, hcalm', halike, hreported⟩

end Controller

end Regulatory
