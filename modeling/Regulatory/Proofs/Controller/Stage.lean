import Regulatory.Controller.Operation
import Regulatory.Proofs.Controller.Push

/-!
Operations seen as a stage before the push and the push itself. Whether there is one depends on the
operation and on the readiness recorded before it.
-/

namespace Regulatory.Controller

variable {ι κ σ : Type} [Named ι]

/-- The readiness that an operation records. -/
def Operation.readiness? : Operation ι κ σ → Option Bool
  | .ready value => some value
  | _ => none

/-- The listener that an operation registers. -/
def Operation.listener? : Operation ι κ σ → Option κ
  | .listen l => some l
  | _ => none

/-- Whether an operation is to push, when `ready` is the readiness recorded before it. -/
def Operation.pushes (ready : Bool) : Operation ι κ σ → Bool
  | .ready value => value
  | .country _ => ready
  | _ => false

/-- What an operation answers, provided that nobody panics. -/
def Operation.answer (c : Controller) (w : World ι κ σ) : Operation ι κ σ → Answer
  | .country raw => .accepted ((CountryCode.parse raw).isSome || c.revertOnLoss)
  | .remove name => .removed (w.registry.count name)
  | _ => .done

def marked (env : Environment ι κ σ) (value : Bool) (w : World ι κ σ) : World ι κ σ :=
  { w with
    state := { w.state with ready := value, readyChanged := some (env.clock w.readings) }
    readings := w.readings + 1 }

/-- The world with a telephony code, or the withdrawal of one, recorded. -/
def updated (env : Environment ι κ σ) (c : Controller) (raw : String) (w : World ι κ σ) :
    World ι κ σ :=
  { w with
    state := { w.state with
      telephony := resolveTelephony w.state.telephony (CountryCode.parse raw) c.revertOnLoss
      telephonyUpdated := some (env.clock w.readings) }
    readings := w.readings + 1 }

/-- All of an operation but its push: the world it comes to, and what the outside sees of it. -/
def stage (env : Environment ι κ σ) (c : Controller) (w : World ι κ σ) :
    Operation ι κ σ → World ι κ σ × Trace ι κ
  | .ready value =>
    let probed := if value then probe env (marked env value w) else (marked env value w, [])
    (probed.1, .logged (.readinessUpdated value) :: probed.2)
  | .country raw =>
    let active := c.active (updated env c raw w).state
    (updated env c raw w,
      .logged (.telephonyUpdated raw active ((CountryCode.parse raw).isSome || c.revertOnLoss)) ::
        if w.state.ready then [] else [.logged (.pushDeferred active)])
  | op => ((step env c w op).world, (step env c w op).trace)

omit [Named ι] in
theorem Call.map_map {α β γ : Type} (f : α → β) (g : β → γ) (call : Call ι κ σ α) :
    (call.map f).map g = call.map fun a => g (f a) := by
  simp only [Call.map, Option.map_map, Function.comp_def]

theorem setCountry_eq (env : Environment ι κ σ) (c : Controller) (raw : String)
    (w : World ι κ σ) :
    setCountry env c raw w =
      if w.state.ready then
        ((push env c (updated env c raw w)).after (stage env c w (.country raw)).2).map fun _ =>
          (CountryCode.parse raw).isSome || c.revertOnLoss
      else ⟨some ((CountryCode.parse raw).isSome || c.revertOnLoss), updated env c raw w,
        (stage env c w (.country raw)).2⟩ := by
  change (if w.state.ready then Call.map _ (Call.after _ (push env c (updated env c raw w)))
    else ⟨_, updated env c raw w, _⟩) = _
  by_cases hready : w.state.ready = true
  · rw [if_pos hready, if_pos hready, stage, if_pos hready]
    rfl
  · rw [if_neg hready, if_neg hready, stage, if_neg hready]
    rfl

theorem step_of_pushes (env : Environment ι κ σ) (c : Controller) (w : World ι κ σ)
    (op : Operation ι κ σ) (hpush : op.pushes w.state.ready = true) :
    step env c w op = ((push env c (stage env c w op).1).after (stage env c w op).2).map
      fun _ => op.answer c w := by
  cases op with
  | ready value =>
    obtain rfl : value = true := hpush
    rfl
  | country raw =>
    have hready : w.state.ready = true := hpush
    rw [step, setCountry_eq, if_pos hready, Call.map_map]
    rfl
  | add _ | remove _ | adjust _ | network _ | listen _ => cases hpush

theorem step_of_not_pushes (env : Environment ι κ σ) (c : Controller) (w : World ι κ σ)
    (op : Operation ι κ σ) (hpush : op.pushes w.state.ready = false) :
    step env c w op = ⟨some (op.answer c w), (stage env c w op).1, (stage env c w op).2⟩ := by
  cases op with
  | ready value =>
    obtain rfl : value = false := hpush
    rfl
  | country raw =>
    have hready : w.state.ready = false := hpush
    rw [step, setCountry_eq, if_neg (by rw [hready]; exact Bool.false_ne_true)]
    rfl
  | add _ | remove _ | adjust _ | network _ | listen _ => rfl

/-- The ways in which the network source is consulted. -/
inductive ProbeEnds (env : Environment ι κ σ) (w : World ι κ σ) :
    World ι κ σ × Trace ι κ → Prop
  /-- There is a telephony code already, or no source. -/
  | unasked (hneedless : w.state.telephony ≠ none ∨ w.network = none) : ProbeEnds env w (w, [])
  /-- The source knows no country. -/
  | blank (answer : Option String) (hnone : w.state.telephony = none)
      (hnetwork : w.network = some answer) (hblank : answer.bind CountryCode.parse = none) :
      ProbeEnds env w (w, [.queried])
  | adopted (answer : Option String) (code : CountryCode) (hnone : w.state.telephony = none)
      (hnetwork : w.network = some answer) (hcode : answer.bind CountryCode.parse = some code) :
      ProbeEnds env w
        ({ w with
            state := { w.state with
              telephony := some code
              telephonyUpdated := some (env.clock w.readings) }
            readings := w.readings + 1 },
          [.queried, .logged (.networkAdopted code)])

omit [Named ι] in
theorem probe_ends (env : Environment ι κ σ) (w : World ι κ σ) :
    ProbeEnds env w (probe env w) := by
  unfold probe
  split
  · rename_i answer hnone hnetwork
    split
    · rename_i code hcode
      exact .adopted answer code hnone hnetwork hcode
    · rename_i hblank
      exact .blank answer hnone hnetwork hblank
  · rename_i hother
    refine .unasked ?_
    cases htelephony : w.state.telephony with
    | some code => exact .inl (Option.some_ne_none code)
    | none =>
      cases hnetwork : w.network with
      | none => exact .inr rfl
      | some answer => exact absurd hnetwork (hother answer htelephony)

omit [Named ι] in
/-- A query can change the telephony code, with its time, and nothing else. -/
theorem probe_keeps (env : Environment ι κ σ) (w : World ι κ σ) :
    ∃ telephony time readings, (probe env w).1 =
      { w with
        state := { w.state with telephony := telephony, telephonyUpdated := time }
        readings := readings } := by
  have hend := probe_ends env w
  generalize probe env w = probed at hend ⊢
  cases hend <;> exact ⟨_, _, _, rfl⟩

omit [Named ι] in
/-- A query is no call of an interface or a listener. -/
theorem probe_calls (env : Environment ι κ σ) (w : World ι κ σ) :
    (probe env w).2.offers = [] ∧ (probe env w).2.notices = [] ∧ (probe env w).2.listings = [] := by
  have hend := probe_ends env w
  generalize probe env w = probed at hend ⊢
  cases hend <;> exact ⟨rfl, rfl, rfl⟩

/-- The driver's side of the state is left to the push. -/
theorem stage_undriven (env : Environment ι κ σ) (c : Controller) (w : World ι κ σ)
    (op : Operation ι κ σ) :
    (stage env c w op).1.state.driver = w.state.driver ∧
      (stage env c w op).1.state.driverUpdated = w.state.driverUpdated ∧
      (stage env c w op).1.state.lastPush = w.state.lastPush := by
  cases op with
  | ready value =>
    cases value with
    | false => exact ⟨rfl, rfl, rfl⟩
    | true =>
      obtain ⟨_, _, _, hprobe⟩ := probe_keeps env (marked env true w)
      simp only [stage, if_true, hprobe]
      exact ⟨rfl, rfl, rfl⟩
  | country _ | add _ | remove _ | adjust _ | network _ | listen _ => exact ⟨rfl, rfl, rfl⟩

/-- Only readiness calls touch readiness and its time. -/
theorem stage_readiness (env : Environment ι κ σ) (c : Controller) (w : World ι κ σ)
    (op : Operation ι κ σ) :
    (stage env c w op).1.state.ready = op.readiness?.getD w.state.ready ∧
      (stage env c w op).1.state.readyChanged =
        if op.readiness?.isSome then some (env.clock w.readings) else w.state.readyChanged := by
  cases op with
  | ready value =>
    cases value with
    | false => exact ⟨rfl, rfl⟩
    | true =>
      obtain ⟨_, _, _, hprobe⟩ := probe_keeps env (marked env true w)
      simp only [stage, if_true, hprobe]
      exact ⟨rfl, rfl⟩
  | country _ | add _ | remove _ | adjust _ | network _ | listen _ => exact ⟨rfl, rfl⟩

/-- A new listener comes behind those before it. Nothing else touches the listeners. -/
theorem stage_listeners (env : Environment ι κ σ) (c : Controller) (w : World ι κ σ)
    (op : Operation ι κ σ) :
    (stage env c w op).1.state.listeners = w.state.listeners ++ op.listener?.toList := by
  cases op with
  | ready value =>
    cases value with
    | false => exact (List.append_nil _).symm
    | true =>
      obtain ⟨_, _, _, hprobe⟩ := probe_keeps env (marked env true w)
      simp only [stage, if_true, hprobe]
      exact (List.append_nil _).symm
  | listen _ => rfl
  | country _ | add _ | remove _ | adjust _ | network _ => exact (List.append_nil _).symm

/-- A push finds the registry, the listeners and all outside as they were when the call began. -/
theorem stage_surroundings (env : Environment ι κ σ) (c : Controller) (w : World ι κ σ)
    (op : Operation ι κ σ) (hpush : op.pushes w.state.ready = true) :
    (stage env c w op).1.registry = w.registry ∧ (stage env c w op).1.outside = w.outside ∧
      (stage env c w op).1.state.listeners = w.state.listeners := by
  cases op with
  | ready value =>
    obtain rfl : value = true := hpush
    obtain ⟨_, _, _, hprobe⟩ := probe_keeps env (marked env true w)
    simp only [stage, if_true, hprobe]
    exact ⟨rfl, rfl, rfl⟩
  | country _ => exact ⟨rfl, rfl, rfl⟩
  | add _ | remove _ | adjust _ | network _ | listen _ => cases hpush

/-- What a call records before its push stands when the call is over, be it by a panic. -/
theorem step_keeps (env : Environment ι κ σ) (c : Controller) (w : World ι κ σ)
    (op : Operation ι κ σ) :
    (step env c w op).world.state.telephony = (stage env c w op).1.state.telephony ∧
      (step env c w op).world.state.ready = (stage env c w op).1.state.ready ∧
      (step env c w op).world.state.telephonyUpdated =
        (stage env c w op).1.state.telephonyUpdated ∧
      (step env c w op).world.state.readyChanged = (stage env c w op).1.state.readyChanged ∧
      (step env c w op).world.state.listeners = (stage env c w op).1.state.listeners := by
  cases hpush : op.pushes w.state.ready with
  | true =>
    rw [step_of_pushes env c w op hpush]
    exact push_keeps env c (stage env c w op).1
  | false =>
    rw [step_of_not_pushes env c w op hpush]
    exact ⟨rfl, rfl, rfl, rfl, rfl⟩

theorem step_network (env : Environment ι κ σ) (c : Controller) (w : World ι κ σ)
    (op : Operation ι κ σ) :
    (step env c w op).world.network = (stage env c w op).1.network := by
  cases hpush : op.pushes w.state.ready with
  | true =>
    rw [step_of_pushes env c w op hpush]
    exact push_network env c (stage env c w op).1
  | false => rw [step_of_not_pushes env c w op hpush]

theorem step_ready (env : Environment ι κ σ) (c : Controller) (w : World ι κ σ)
    (op : Operation ι κ σ) :
    (step env c w op).world.state.ready = op.readiness?.getD w.state.ready :=
  (step_keeps env c w op).2.1.trans (stage_readiness env c w op).1

/-- Listeners are registered for good, be it by an operation whose call panics. -/
theorem step_listeners (env : Environment ι κ σ) (c : Controller) (w : World ι κ σ)
    (op : Operation ι κ σ) :
    (step env c w op).world.state.listeners = w.state.listeners ++ op.listener?.toList := by
  obtain ⟨_, _, _, _, hlisteners⟩ := step_keeps env c w op
  rw [hlisteners, stage_listeners]

/-- Without its push an operation calls no interface and no listener and does not read the
registry. -/
theorem stage_calls (env : Environment ι κ σ) (c : Controller) (w : World ι κ σ)
    (op : Operation ι κ σ) :
    (stage env c w op).2.offers = [] ∧ (stage env c w op).2.notices = [] ∧
      (stage env c w op).2.listings = [] := by
  cases op with
  | ready value =>
    cases value with
    | false => exact ⟨rfl, rfl, rfl⟩
    | true => exact probe_calls env (marked env true w)
  | country raw =>
    simp only [stage]
    split <;> exact ⟨rfl, rfl, rfl⟩
  | remove name =>
    have hquiet := Registry.removalTrace_quiet (κ := κ) w.registry name
    exact ⟨hquiet.offers, hquiet.notices, hquiet.listings⟩
  | add _ | adjust _ | network _ | listen _ => exact ⟨rfl, rfl, rfl⟩

/-- An operation that does not say that the subsystem is ready calls nobody before its push. -/
theorem stage_quiet (env : Environment ι κ σ) (c : Controller) (w : World ι κ σ)
    {op : Operation ι κ σ} (hop : op.readiness? ≠ some true) : (stage env c w op).2.Quiet := by
  obtain ⟨hoffers, hnotices, hlistings⟩ := stage_calls env c w op
  refine ⟨hoffers, hnotices, hlistings, ?_⟩
  cases op with
  | ready value =>
    cases value with
    | false => rfl
    | true => exact absurd rfl hop
  | country raw =>
    simp only [stage]
    split <;> rfl
  | remove name => exact (Registry.removalTrace_quiet w.registry name).queries
  | add _ | adjust _ | network _ | listen _ => rfl

end Regulatory.Controller
