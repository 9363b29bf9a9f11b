import Regulatory.Proofs.Controller.Panic

/-!
Pushes to a registry that changes under them. A push works on the entries that it has read at its
start. What the interfaces do to the registry meanwhile counts from the next push on.
-/

namespace Regulatory

variable {ι κ σ : Type} [Named ι]

/-- The registry after one thing that an interface does. -/
def Registry.after (r : Registry ι) : Action ι → Registry ι
  | .add i => r.add i
  | .remove name => r.remove name
  | .log _ => r

omit [Named ι] in
/-- All that some interfaces do, in order of the calls, if they are offered a code one after
another. -/
def Environment.doings (env : Environment ι κ σ) (code : CountryCode) :
    List ι → σ → List (Action ι)
  | [], _ => []
  | i :: rest, outside =>
    (env.apply i code outside).1.actions ++ env.doings code rest (env.apply i code outside).2

theorem Registry.perform_eq_foldl (r : Registry ι) (actions : List (Action ι)) :
    (r.perform (κ := κ) actions).1 = actions.foldl Registry.after r := by
  induction actions generalizing r with
  | nil => rfl
  | cons action rest ih =>
    cases action with
    | add i => exact ih (r.add i)
    | remove name => exact ih (r.remove name)
    | log _ => exact ih r

namespace Controller

/-- The additions and removals of those that are called, the one that panics included, come into
effect one after another. -/
theorem offerAll_registry (env : Environment ι κ σ) (code : CountryCode) (entries : List ι)
    (registry : Registry ι) (outside : σ) :
    (offerAll env code entries registry outside).registry =
      (env.doings code (upTo entries (env.interfacePanic code entries outside))
        outside).foldl Registry.after registry := by
  induction entries generalizing registry outside with
  | nil => rfl
  | cons i rest ih =>
    have hperform := registry.perform_eq_foldl (κ := κ) (env.apply i code outside).1.actions
    rw [offerAll, Environment.interfacePanic_cons]
    cases (env.apply i code outside).1.outcome with
    | panicked =>
      rw [if_pos rfl, upTo, List.take_succ_cons, Environment.doings, List.take_zero,
        Environment.doings, List.append_nil]
      exact hperform
    | applied | failed _ =>
      rw [if_neg (by simp), upTo_cons_succ, Environment.doings, List.foldl_append, ← hperform]
      exact ih _ _

theorem push_listings (env : Environment ι κ σ) (c : Controller) (w : World ι κ σ) :
    (push env c w).trace.listings = [w.registry.entries] := by
  obtain ⟨seen, _, _, htrace, hcalls⟩ := push_calls env c w
  rw [htrace]
  exact congrArg (w.registry.entries :: ·) hcalls.listings

theorem push_registry (env : Environment ι κ σ) (c : Controller) (w : World ι κ σ) :
    (push env c w).world.registry = (offering env c w).registry := by
  have hend := push_ends env c w
  generalize push env c w = p at hend ⊢
  cases hend <;> rfl

/-- A call that pushes goes by the entries that the registry held when it was made, up to the first
one that panics. -/
theorem step_offers (env : Environment ι κ σ) (c : Controller) (w : World ι κ σ)
    (op : Operation ι κ σ) (hpush : op.pushes w.state.ready = true) :
    (step env c w op).trace.listings = [w.registry.entries] ∧
      (step env c w op).trace.offers =
        (upTo w.registry.entries (Record.interfacePanic env c ⟨w, op, step env c w op⟩)).map
          (·, c.active (step env c w op).world.state) := by
  constructor
  · obtain ⟨_, _, hquiet⟩ := stage_calls env c w op
    obtain ⟨hregistry, _⟩ := stage_surroundings env c w op hpush
    rw [step_of_pushes env c w op hpush, ← hregistry]
    change Trace.listings (_ ++ (push env c (stage env c w op).1).trace) = _
    rw [Trace.listings_append, hquiet, push_listings]
    rfl
  · cases hcut : Record.interfacePanic env c ⟨w, op, step env c w op⟩ with
    | none => exact (step_of_calm env c w op hpush hcut).2.1
    | some k => exact (step_of_interfacePanic env c w op k hcut).offers

/-- What an operation itself does to the registry. -/
def Operation.action? : Operation ι κ σ → Option (Action ι)
  | .add i => some (.add i)
  | .remove name => some (.remove name)
  | _ => none

/-- All that a call does, as far as the registry is concerned: what the interfaces do that its push
calls, or what it has been asked for itself. -/
def Record.doings (env : Environment ι κ σ) (c : Controller) (r : Record ι κ σ) :
    List (Action ι) :=
  if r.operation.pushes r.before.state.ready then
    env.doings (c.active r.call.world.state)
      (upTo r.before.registry.entries (r.interfacePanic env c)) r.before.outside
  else r.operation.action?.toList

theorem step_registry (env : Environment ι κ σ) (c : Controller) (w : World ι κ σ)
    (op : Operation ι κ σ) :
    (step env c w op).world.registry =
      (Record.doings env c ⟨w, op, step env c w op⟩).foldl Registry.after w.registry := by
  cases hpush : op.pushes w.state.ready with
  | false =>
    simp only [Record.doings, hpush, Bool.false_eq_true, if_false]
    rw [step_of_not_pushes env c w op hpush]
    cases op with
    | ready value =>
      obtain rfl : value = false := hpush
      rfl
    | country _ | add _ | remove _ | adjust _ | network _ | listen _ => rfl
  | true =>
    obtain ⟨hregistry, houtside, _⟩ := stage_surroundings env c w op hpush
    have hoffering : (step env c w op).world.registry =
        (offering env c (stage env c w op).1).registry := by
      rw [step_of_pushes env c w op hpush]
      exact push_registry env c _
    simp only [Record.doings, Record.interfacePanic, hpush, if_true]
    rw [hoffering, offering, offerAll_registry, active_step, hregistry, houtside]

/-- The registry is the one at the start with all additions and removals carried out in their order,
by whomever they are made and whoever panics. -/
theorem run_registry (env : Environment ι κ σ) (c : Controller) (w : World ι κ σ)
    (ops : List (Operation ι κ σ)) :
    (run env c w ops).1.registry =
      ((history env c w ops).flatMap (Record.doings env c)).foldl Registry.after w.registry := by
  induction ops generalizing w with
  | nil => rfl
  | cons op rest ih =>
    rw [run, ih, step_registry, history, List.flatMap_cons, List.foldl_append]

/-- What shows of a push that all interfaces return from, whatever they do to the registry. -/
structure Record.Detached (env : Environment ι κ σ) (c : Controller) (r : Record ι κ σ) :
    Prop where
  offers : r.call.trace.offers =
    r.before.registry.entries.map (·, c.active r.call.world.state)
  count : r.call.trace.offers.length = r.before.registry.size
  /-- There is a report unless a listener panics. -/
  report : r.call.result ≠ none → ∃ now, r.call.world.state.lastPush = some {
    code := c.active r.call.world.state
    attempted := r.before.registry.size
    failed := env.failures (c.active r.call.world.state) r.before.registry.entries r.before.outside
    timestamp := now }
  registry : r.call.world.registry =
    (env.doings (c.active r.call.world.state) r.before.registry.entries r.before.outside).foldl
      Registry.after r.before.registry

theorem step_detached (env : Environment ι κ σ) (c : Controller) (w : World ι κ σ)
    (op : Operation ι κ σ) (hpush : op.pushes w.state.ready = true)
    (hcalm : Record.interfacePanic env c ⟨w, op, step env c w op⟩ = none) :
    Record.Detached env c ⟨w, op, step env c w op⟩ := by
  obtain ⟨_, hoffers⟩ := step_offers env c w op hpush
  have hregistry := step_registry env c w op
  rw [hcalm, upTo] at hoffers
  simp only [Record.doings, hpush, if_true, hcalm, upTo] at hregistry
  refine ⟨hoffers, ?_, ?_, hregistry⟩
  · rw [hoffers, List.length_map]
    rfl
  · intro hreturned
    obtain ⟨now, hstate⟩ := (step_of_returned env c w op hpush hreturned).state
    exact ⟨now, congrArg State.lastPush hstate⟩

/-- Each push of a run reads the registry once, at its start, and finds there what all calls before
it have made of it. If no interface panics, each entry read is called once and in order, and nobody
else is, whatever becomes of the registry meanwhile. Entries may repeat. -/
theorem detached_of_run (env : Environment ι κ σ) (c : Controller) (w : World ι κ σ)
    (ops : List (Operation ι κ σ)) :
    ∀ n r, (history env c w ops)[n]? = some r →
      r.operation.pushes r.before.state.ready = true →
        r.call.trace.listings = [r.before.registry.entries] ∧
          r.before.registry =
            (((history env c w ops).take n).flatMap (Record.doings env c)).foldl Registry.after
              w.registry ∧
          (r.interfacePanic env c = none → r.Detached env c) := by
  intro n r hr hpush
  rw [history_getElem?, Option.map_eq_some_iff] at hr
  obtain ⟨op, _, rfl⟩ := hr
  obtain ⟨hlistings, _⟩ := step_offers env c _ op hpush
  refine ⟨hlistings, ?_, step_detached env c _ op hpush⟩
  rw [history_take]
  exact run_registry env c w (ops.take n)

/-- One interface under management twice, which adds a sibling and takes itself off with each call,
and one that refuses codes and adds another of its own name. -/
def restlessWorld : World Fleet.Member Fleet.Listener Fleet.Modes :=
  start ⟨[⟨some 0, { name := "wlan0", adds := some "ap0", removes := some "wlan0" }⟩,
      ⟨some 0, { name := "wlan0", adds := some "ap0", removes := some "wlan0" }⟩,
      ⟨some 1, { name := "wlan1", adds := some "wlan1" }⟩]⟩ none
    [("wlan0", .ok), ("wlan1", .reject)]

/-- The first push calls three entries, one of which is off the registry by then, and leaves four,
which the second push calls. -/
theorem detached_of_restlessWorld :
    ∃ r later,
      (history Fleet.environment sampleController restlessWorld [.ready true, .country "de"])[0]? =
          some r ∧
        (history Fleet.environment sampleController restlessWorld [.ready true, .country "de"])[1]? =
          some later ∧
        r.Detached Fleet.environment sampleController ∧
        r.call.trace.offers.map (Named.name ·.1) = ["wlan0", "wlan0", "wlan1"] ∧
        r.call.world.registry.names = ["wlan1", "ap0", "ap0", "wlan1"] ∧
        later.call.trace.listings = [r.call.world.registry.entries] := by
  have hrun := detached_of_run Fleet.environment sampleController restlessWorld
    [.ready true, .country "de"]
  refine ⟨_, _, rfl, rfl, ?_, by decide, by decide, ?_⟩
  · exact (hrun 0 _ rfl rfl).2.2 (by decide)
  · exact (hrun 1 _ rfl rfl).1

end Controller

end Regulatory
