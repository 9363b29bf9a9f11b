import Regulatory.Proofs.Controller.History

/-!
What a call leaves behind that panics in the middle of its push, and how a later call makes up for
it. A push is cut off by an interface, or by a listener once all interfaces have returned; where the
cut falls decides who was called and what was written.
-/

namespace Regulatory.Controller

variable {ι κ σ : Type} [Named ι]

/-- The number of the interface that panics in the push of a call, in the list that the push has
read. -/
def Record.interfacePanic (env : Environment ι κ σ) (c : Controller) (r : Record ι κ σ) :
    Option Nat :=
  if r.operation.pushes r.before.state.ready then
    env.interfacePanic (c.active r.call.world.state) r.before.registry.entries r.before.outside
  else none

/-- The code that a call gives the driver, if it differs from the one before. The call must push,
and no interface may panic. -/
def Record.change (env : Environment ι κ σ) (c : Controller) (r : Record ι κ σ) :
    Option CountryCode :=
  if r.operation.pushes r.before.state.ready = true ∧ r.interfacePanic env c = none ∧
      r.before.state.driver ≠ some (c.active r.call.world.state) then
    some (c.active r.call.world.state)
  else none

/-- The number of the listener that panics in the push of a call. Listeners are called only when
the driver's code changes. -/
def Record.listenerPanic (env : Environment ι κ σ) (c : Controller) (r : Record ι κ σ) :
    Option Nat :=
  (r.change env c).bind fun code =>
    env.listenerPanic code r.before.state.listeners
      (env.afterOffers code r.before.registry.entries r.before.outside)

/-- What the outside and the state show of a call in which interface number `k` panics. -/
structure Record.CutByInterface (env : Environment ι κ σ) (c : Controller) (k : Nat)
    (r : Record ι κ σ) : Prop where
  unreturned : r.call.result = none
  offers : r.call.trace.offers =
    (r.before.registry.entries.take (k + 1)).map (·, c.active r.call.world.state)
  notices : r.call.trace.notices = []
  /-- All that the call recorded before its push stays, and the push wrote nothing. -/
  state : r.call.world.state = (stage env c r.before r.operation).1.state
  driver : r.call.world.state.driver = r.before.state.driver
  driverUpdated : r.call.world.state.driverUpdated = r.before.state.driverUpdated
  report : r.call.world.state.lastPush = r.before.state.lastPush

/-- What the outside and the state show of a call in which listener number `j` panics. -/
structure Record.CutByListener (env : Environment ι κ σ) (c : Controller) (j : Nat)
    (r : Record ι κ σ) : Prop where
  unreturned : r.call.result = none
  offers : r.call.trace.offers =
    r.before.registry.entries.map (·, c.active r.call.world.state)
  notices : r.call.trace.notices =
    (r.before.state.listeners.take (j + 1)).map (·, c.active r.call.world.state)
  /-- The driver has the code already. -/
  state : ∃ now, r.call.world.state =
    { (stage env c r.before r.operation).1.state with
      driver := some (c.active r.call.world.state)
      driverUpdated := some now }
  report : r.call.world.state.lastPush = r.before.state.lastPush

/-- What the outside and the state show of a call that pushes and returns. -/
structure Record.Reported (env : Environment ι κ σ) (c : Controller) (r : Record ι κ σ) :
    Prop where
  offers : r.call.trace.offers =
    r.before.registry.entries.map (·, c.active r.call.world.state)
  notices : r.call.trace.notices = if (r.change env c).isSome then
    r.before.state.listeners.map (·, c.active r.call.world.state) else []
  /-- The report is of this push, and dated as the driver's code is. -/
  state : ∃ now, r.call.world.state =
    { (stage env c r.before r.operation).1.state with
      driver := some (c.active r.call.world.state)
      driverUpdated := some now
      lastPush := some {
        code := c.active r.call.world.state
        attempted := r.before.registry.entries.length
        failed := env.failures (c.active r.call.world.state) r.before.registry.entries
          r.before.outside
        timestamp := now } }

/-- The code that a push offers is still the active one when the call is over. -/
theorem active_step (env : Environment ι κ σ) (c : Controller) (w : World ι κ σ)
    (op : Operation ι κ σ) :
    c.active (step env c w op).world.state = c.active (stage env c w op).1.state := by
  obtain ⟨htelephony, _⟩ := step_keeps env c w op
  simp only [active, htelephony]

/-- How far the push of a call gets with the interfaces, and what it comes to with them. -/
theorem offering_stage (env : Environment ι κ σ) (c : Controller) (w : World ι κ σ)
    (op : Operation ι κ σ) (hpush : op.pushes w.state.ready = true) :
    (offering env c (stage env c w op).1).finished =
        (Record.interfacePanic env c ⟨w, op, step env c w op⟩).isNone ∧
      (offering env c (stage env c w op).1).After env (c.active (step env c w op).world.state)
        (upTo w.registry.entries (Record.interfacePanic env c ⟨w, op, step env c w op⟩))
        w.outside := by
  obtain ⟨hregistry, houtside, _⟩ := stage_surroundings env c w op hpush
  simp only [offering, Record.interfacePanic, hpush, if_true, active_step, hregistry, houtside]
  exact ⟨offerAll_finished env _ _ _ _, offerAll_after env _ _ _ _⟩

/-- Whom a push tells, and whether it returns, once all interfaces have returned. -/
theorem telling_stage (env : Environment ι κ σ) (c : Controller) (w : World ι κ σ)
    (op : Operation ι κ σ) (hpush : op.pushes w.state.ready = true)
    (hcalm : Record.interfacePanic env c ⟨w, op, step env c w op⟩ = none) :
    (telling env c (stage env c w op).1).finished =
        (Record.listenerPanic env c ⟨w, op, step env c w op⟩).isNone ∧
      (telling env c (stage env c w op).1).trace.Calls []
        (if (Record.change env c ⟨w, op, step env c w op⟩).isSome then
          (upTo w.state.listeners (Record.listenerPanic env c ⟨w, op, step env c w op⟩)).map
            (·, c.active (step env c w op).world.state)
        else []) := by
  obtain ⟨_, _, hlisteners⟩ := stage_surroundings env c w op hpush
  obtain ⟨hdriver, _⟩ := stage_undriven env c w op
  obtain ⟨_, hafter⟩ := offering_stage env c w op hpush
  rw [hcalm] at hafter
  simp only [telling, ← active_step, hdriver, hlisteners, hafter.outside]
  by_cases hsame : w.state.driver = some (c.active (step env c w op).world.state)
  · have hchange : Record.change env c ⟨w, op, step env c w op⟩ = none :=
      if_neg fun h => h.2.2 hsame
    rw [if_pos hsame, Record.listenerPanic, hchange]
    exact ⟨rfl, .nil⟩
  · have hchange : Record.change env c ⟨w, op, step env c w op⟩ =
        some (c.active (step env c w op).world.state) := if_pos ⟨hpush, hcalm, hsame⟩
    rw [if_neg hsame, Record.listenerPanic, hchange]
    exact ⟨notifyAll_finished env _ _ _, notifyAll_calls env _ _ _⟩

/-- The offers and notices of a push stand alone in the trace of its call. -/
theorem calls_of_push (env : Environment ι κ σ) (c : Controller) (w : World ι κ σ)
    (op : Operation ι κ σ) (entries : List ι) {t : Trace ι κ} {o : List (ι × CountryCode)}
    {n : List (κ × CountryCode)} (ht : t.Calls o n) :
    Trace.offers ((stage env c w op).2 ++ .listed entries :: t) = o ∧
      Trace.notices ((stage env c w op).2 ++ .listed entries :: t) = n := by
  obtain ⟨hoffers, hnotices, _⟩ := stage_calls env c w op
  rw [Trace.offers_append, Trace.notices_append, hoffers, hnotices]
  exact ⟨ht.offers, ht.notices⟩

theorem step_of_interfacePanic (env : Environment ι κ σ) (c : Controller) (w : World ι κ σ)
    (op : Operation ι κ σ) (k : Nat)
    (hcut : Record.interfacePanic env c ⟨w, op, step env c w op⟩ = some k) :
    Record.CutByInterface env c k ⟨w, op, step env c w op⟩ := by
  obtain ⟨hpush, _⟩ := Option.ite_none_right_eq_some.1 hcut
  obtain ⟨hfinished, hafter⟩ := offering_stage env c w op hpush
  rw [hcut] at hfinished hafter
  have hstep : step env c w op = ⟨none, cutWorld env c (stage env c w op).1,
      (stage env c w op).2 ++ cutTrace env c (stage env c w op).1⟩ := by
    rw [step_of_pushes env c w op hpush, push_eq, if_neg (by simp [hfinished])]
    rfl
  obtain ⟨hoffers, hnotices⟩ :=
    calls_of_push env c w op (stage env c w op).1.registry.entries hafter.calls
  obtain ⟨hdriver, hdriverUpdated, hreport⟩ := stage_undriven env c w op
  rw [hstep] at hoffers ⊢
  exact ⟨rfl, hoffers, hnotices, rfl, hdriver, hdriverUpdated, hreport⟩

/-- A call that pushes to interfaces that all return gives the driver the active code, and tells
the listeners if that is a change. -/
theorem step_of_calm (env : Environment ι κ σ) (c : Controller) (w : World ι κ σ)
    (op : Operation ι κ σ) (hpush : op.pushes w.state.ready = true)
    (hcalm : Record.interfacePanic env c ⟨w, op, step env c w op⟩ = none) :
    step env c w op =
        (if (Record.listenerPanic env c ⟨w, op, step env c w op⟩).isNone then
          ⟨some (op.answer c w), reportedWorld env c (stage env c w op).1,
            (stage env c w op).2 ++ fullTrace env c (stage env c w op).1⟩
        else ⟨none, drivenWorld env c (stage env c w op).1,
          (stage env c w op).2 ++ fullTrace env c (stage env c w op).1⟩) ∧
      (step env c w op).trace.offers =
        w.registry.entries.map (·, c.active (step env c w op).world.state) ∧
      (step env c w op).trace.notices =
        if (Record.change env c ⟨w, op, step env c w op⟩).isSome then
          (upTo w.state.listeners (Record.listenerPanic env c ⟨w, op, step env c w op⟩)).map
            (·, c.active (step env c w op).world.state)
        else [] := by
  obtain ⟨hreturned, htold⟩ := telling_stage env c w op hpush hcalm
  obtain ⟨hfinished, hafter⟩ := offering_stage env c w op hpush
  rw [hcalm] at hfinished hafter
  have hpushed := step_of_pushes env c w op hpush
  rw [push_eq, hfinished, Option.isNone_none, if_pos rfl, hreturned] at hpushed
  have htrace : (step env c w op).trace =
      (stage env c w op).2 ++ fullTrace env c (stage env c w op).1 := by
    rw [hpushed]
    split
    · rfl
    · rfl
  obtain ⟨hoffers, hnotices⟩ := calls_of_push env c w op (stage env c w op).1.registry.entries
    (hafter.calls.append (htold.logged (.codePushed (c.active (stage env c w op).1.state)
      (stage env c w op).1.registry.entries.length
      (offering env c (stage env c w op).1).failed.length)))
  rw [List.append_nil] at hoffers
  change Trace.offers (_ ++ fullTrace env c (stage env c w op).1) = _ at hoffers
  change Trace.notices (_ ++ fullTrace env c (stage env c w op).1) = _ at hnotices
  rw [← htrace] at hoffers
  rw [← htrace] at hnotices
  refine ⟨hpushed.trans ?_, hoffers, hnotices⟩
  split
  · rfl
  · rfl

theorem step_of_listenerPanic (env : Environment ι κ σ) (c : Controller) (w : World ι κ σ)
    (op : Operation ι κ σ) (j : Nat)
    (hcut : Record.listenerPanic env c ⟨w, op, step env c w op⟩ = some j) :
    Record.CutByListener env c j ⟨w, op, step env c w op⟩ := by
  obtain ⟨code, hchange, _⟩ := Option.bind_eq_some_iff.1 hcut
  obtain ⟨⟨hpush, hcalm, _⟩, _⟩ := Option.ite_none_right_eq_some.1 hchange
  obtain ⟨hstep, hoffers, hnotices⟩ := step_of_calm env c w op hpush hcalm
  obtain ⟨_, _, hreport⟩ := stage_undriven env c w op
  have hactive := active_step env c w op
  rw [hcut, if_neg (by simp)] at hstep
  rw [hcut, hchange, Option.isSome_some, if_pos rfl] at hnotices
  refine ⟨?_, hoffers, hnotices, ⟨env.clock (stage env c w op).1.readings, ?_⟩, ?_⟩
  · rw [hstep]
  · rw [hactive, hstep]
    rfl
  · rw [hstep]
    exact hreport

theorem step_of_returned (env : Environment ι κ σ) (c : Controller) (w : World ι κ σ)
    (op : Operation ι κ σ) (hpush : op.pushes w.state.ready = true)
    (hreturned : (step env c w op).result ≠ none) :
    Record.Reported env c ⟨w, op, step env c w op⟩ := by
  have hcalm : Record.interfacePanic env c ⟨w, op, step env c w op⟩ = none :=
    Option.eq_none_iff_forall_ne_some.2 fun k hcut =>
      hreturned (step_of_interfacePanic env c w op k hcut).unreturned
  have hheard : Record.listenerPanic env c ⟨w, op, step env c w op⟩ = none :=
    Option.eq_none_iff_forall_ne_some.2 fun j hcut =>
      hreturned (step_of_listenerPanic env c w op j hcut).unreturned
  obtain ⟨hstep, hoffers, hnotices⟩ := step_of_calm env c w op hpush hcalm
  obtain ⟨_, hafter⟩ := offering_stage env c w op hpush
  obtain ⟨hregistry, _⟩ := stage_surroundings env c w op hpush
  have hactive := active_step env c w op
  have hfailed := hafter.failed
  rw [hheard, Option.isNone_none, if_pos rfl] at hstep
  rw [hheard] at hnotices
  rw [hcalm, hactive, upTo] at hfailed
  refine ⟨hoffers, hnotices, env.clock (stage env c w op).1.readings, ?_⟩
  dsimp only
  rw [hactive, ← hfailed, ← hregistry, hstep]
  rfl

/-- A call answers unless somebody panics in its push. -/
theorem step_result (env : Environment ι κ σ) (c : Controller) (w : World ι κ σ)
    (op : Operation ι κ σ) :
    (step env c w op).result =
      if Record.interfacePanic env c ⟨w, op, step env c w op⟩ = none ∧
          Record.listenerPanic env c ⟨w, op, step env c w op⟩ = none then
        some (op.answer c w)
      else none := by
  cases hcut : Record.interfacePanic env c ⟨w, op, step env c w op⟩ with
  | some k => exact (step_of_interfacePanic env c w op k hcut).unreturned
  | none =>
    cases hheard : Record.listenerPanic env c ⟨w, op, step env c w op⟩ with
    | some j => exact (step_of_listenerPanic env c w op j hheard).unreturned
    | none =>
      rw [if_pos ⟨rfl, rfl⟩]
      cases hpush : op.pushes w.state.ready with
      | false => rw [step_of_not_pushes env c w op hpush]
      | true =>
        obtain ⟨hstep, _⟩ := step_of_calm env c w op hpush hcut
        rw [hheard, Option.isNone_none, if_pos rfl] at hstep
        rw [hstep]

/-- A call of the controller that leaves the subsystem ready has pushed. -/
theorem pushes_of_ready (env : Environment ι κ σ) (c : Controller) (w : World ι κ σ)
    (op : Operation ι κ σ)
    (hcall : (∃ value, op = .ready value) ∨ ∃ raw, op = .country raw)
    (hready : (step env c w op).world.state.ready = true) : op.pushes w.state.ready = true := by
  rw [step_ready] at hready
  obtain ⟨value, rfl⟩ | ⟨raw, rfl⟩ := hcall
  · exact hready
  · exact hready

/-- Whoever panics in a push, exactly those before it have been called, and what was written before
it stays. The operations after it go on from there, and the next call that returns with the
subsystem ready puts driver, report and times right again, whatever happened before it. -/
theorem panics_of_run (env : Environment ι κ σ) (c : Controller) (registry : Registry ι)
    (network : Option (Option String)) (outside : σ) (ops : List (Operation ι κ σ)) :
    (∀ r ∈ history env c (start registry network outside) ops,
        r.operation.pushes r.before.state.ready = true →
          (∀ k, r.interfacePanic env c = some k → r.CutByInterface env c k) ∧
          (∀ j, r.listenerPanic env c = some j → r.CutByListener env c j) ∧
          (r.call.result = none → r.interfacePanic env c ≠ none ∨ r.listenerPanic env c ≠ none)) ∧
      (∀ n r later, (history env c (start registry network outside) ops)[n]? = some r →
        (history env c (start registry network outside) ops)[n + 1]? = some later →
          later.before = r.call.world) ∧
      ∀ r ∈ history env c (start registry network outside) ops,
        ((∃ value, r.operation = .ready value) ∨ ∃ raw, r.operation = .country raw) →
          r.call.result ≠ none → r.call.world.state.ready = true → r.Reported env c := by
  refine ⟨?_, ?_, ?_⟩
  · refine forall_mem_history fun before op hpush => ?_
    refine ⟨step_of_interfacePanic env c before op, step_of_listenerPanic env c before op, ?_⟩
    intro hpanicked
    dsimp only at hpanicked
    rw [step_result, ite_eq_right_iff] at hpanicked
    exact Decidable.not_and_iff_not_or_not.1 fun hcalm => Option.some_ne_none _ (hpanicked hcalm)
  · intro n r later hr hlater
    rw [world_of_getElem? hr]
    rw [history_getElem?, Option.map_eq_some_iff] at hlater
    obtain ⟨_, _, rfl⟩ := hlater
    rfl
  · refine forall_mem_history fun before op hcall hreturned hready => ?_
    exact step_of_returned env c before op (pushes_of_ready env c before op hcall hready) hreturned

/-- Two interfaces, the second of which panics. -/
def faultyWorld : World Fleet.Member Fleet.Listener Fleet.Modes :=
  start ⟨[⟨some 0, { name := "wlan0" }⟩, ⟨some 1, { name := "wlan1" }⟩]⟩ none
    [("wlan0", .ok), ("wlan1", .panic)]

/-- Three listeners, the second of which panics. The second interface panics once, and only refuses
codes later. -/
def faultyRun : List Fleet.Operation :=
  [.listen ⟨0, false⟩, .listen ⟨1, true⟩, .listen ⟨2, false⟩, .country "de", .ready true,
    .adjust (Fleet.setMode "wlan1" .reject), .ready true, .ready true]

theorem panics_of_faultyRun :
    (∃ r ∈ history Fleet.environment sampleController faultyWorld faultyRun,
        r.interfacePanic Fleet.environment sampleController = some 1 ∧
          r.CutByInterface Fleet.environment sampleController 1) ∧
      (∃ r ∈ history Fleet.environment sampleController faultyWorld faultyRun,
        r.listenerPanic Fleet.environment sampleController = some 1 ∧
          r.CutByListener Fleet.environment sampleController 1) ∧
      ∃ r ∈ history Fleet.environment sampleController faultyWorld faultyRun,
        r.call.result ≠ none ∧ r.call.world.state.ready = true ∧
          r.Reported Fleet.environment sampleController := by
  obtain ⟨hcut, _, hhealed⟩ := panics_of_run Fleet.environment sampleController
    ⟨[⟨some 0, { name := "wlan0" }⟩, ⟨some 1, { name := "wlan1" }⟩]⟩ none
    [("wlan0", .ok), ("wlan1", .panic)] faultyRun
  refine ⟨⟨_, List.mem_of_getElem? (i := 4) rfl, by decide, ?_⟩,
    ⟨_, List.mem_of_getElem? (i := 6) rfl, by decide, ?_⟩,
    ⟨_, List.mem_of_getElem? (i := 7) rfl, by decide, by decide, ?_⟩⟩
  · exact (hcut _ (List.mem_of_getElem? (i := 4) rfl) (by decide)).1 1 (by decide)
  · exact (hcut _ (List.mem_of_getElem? (i := 6) rfl) (by decide)).2.1 1 (by decide)
  · exact hhealed _ (List.mem_of_getElem? (i := 7) rfl) (.inl ⟨true, rfl⟩) (by decide) (by decide)

end Regulatory.Controller
