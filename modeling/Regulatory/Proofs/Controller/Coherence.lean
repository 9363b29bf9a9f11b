import Regulatory.Snapshot
import Regulatory.Proofs.Controller.History

/-!
What snapshots can be relied on for: always, and as long as no call has panicked.
-/

namespace Regulatory

/-- What every snapshot satisfies, also one taken after calls that panicked. -/
structure Snapshot.Coherent (s : Snapshot) : Prop where
  active_eq : s.active = s.telephony.getD s.defaultCode
  driver_dated : s.driver.isSome ↔ s.driverUpdated.isSome
  /-- A driver's code comes from a push, and there is none before the subsystem was ready. -/
  driver_ready : s.driver.isSome → s.readyChanged.isSome
  ready_dated : s.ready = true → s.readyChanged.isSome
  report : ∀ p, s.lastPush = some p → s.driver.isSome ∧ p.failed.length ≤ p.attempted
  telephony_dated : s.telephony.isSome → s.telephonyUpdated.isSome

/-- What a snapshot satisfies besides if no call has panicked yet. -/
structure Snapshot.Settled (s : Snapshot) : Prop where
  reported : s.lastPush.isSome ↔ s.driver.isSome
  report : ∀ p, s.lastPush = some p → s.driver = some p.code ∧ s.driverUpdated = some p.timestamp
  in_effect : s.ready = true → s.driver = some s.active

namespace Controller

variable {ι κ σ : Type} [Named ι]

/-- The call found no telephony code, and left one behind that the network source supplied. -/
def Record.Adopts (r : Record ι κ σ) : Prop :=
  r.operation = .ready true ∧ r.before.state.telephony = none ∧
    r.call.world.state.telephony ≠ none

/-- The calls that set the time of the telephony code: all that telephony makes, ignored
withdrawals too, and those that adopt a code from the network. -/
def Record.DatesTelephony (r : Record ι κ σ) : Prop :=
  (∃ raw, r.operation = .country raw) ∨ r.Adopts

/-- Either an operation sets the time of the telephony code, or it leaves code and time alone. -/
theorem stage_telephony (env : Environment ι κ σ) (c : Controller) (w : World ι κ σ)
    (op : Operation ι κ σ) :
    ((∃ raw, op = .country raw) ∨ op = .ready true ∧ w.state.telephony = none ∧
        (stage env c w op).1.state.telephony ≠ none) ∧
        (stage env c w op).1.state.telephonyUpdated.isSome ∨
      (∀ raw, op ≠ .country raw) ∧
        (stage env c w op).1.state.telephony = w.state.telephony ∧
        (stage env c w op).1.state.telephonyUpdated = w.state.telephonyUpdated := by
  cases op with
  | ready value =>
    cases value with
    | false => exact .inr ⟨by simp, rfl, rfl⟩
    | true =>
      have hend := probe_ends env (marked env true w)
      simp only [stage, if_true]
      generalize probe env (marked env true w) = probed at hend ⊢
      cases hend with
      | unasked _ => exact .inr ⟨by simp, rfl, rfl⟩
      | blank _ _ _ _ => exact .inr ⟨by simp, rfl, rfl⟩
      | adopted _ code hnone _ _ =>
        exact .inl ⟨.inr ⟨trivial, hnone, Option.some_ne_none code⟩, rfl⟩
  | country raw => exact .inl ⟨.inl ⟨raw, rfl⟩, rfl⟩
  | add _ | remove _ | adjust _ | network _ | listen _ =>
    exact .inr ⟨by simp, rfl, rfl⟩

theorem stage_coherent (env : Environment ι κ σ) (c : Controller) (w : World ι κ σ)
    (op : Operation ι κ σ) (hcoherent : (c.snapshot w.state).Coherent) :
    (c.snapshot (stage env c w op).1.state).Coherent := by
  obtain ⟨hdriver, hdriverUpdated, hlastPush⟩ := stage_undriven env c w op
  obtain ⟨hready, hreadyChanged⟩ := stage_readiness env c w op
  have hdated : w.state.readyChanged.isSome → (stage env c w op).1.state.readyChanged.isSome := by
    intro h
    rw [hreadyChanged]
    split
    · rfl
    · exact h
  constructor
  · rfl
  · change Option.isSome (State.driver _) ↔ Option.isSome (State.driverUpdated _)
    rw [hdriver, hdriverUpdated]
    exact hcoherent.driver_dated
  · change Option.isSome (State.driver _) → Option.isSome (State.readyChanged _)
    rw [hdriver]
    exact fun h => hdated (hcoherent.driver_ready h)
  · change State.ready _ = true → Option.isSome (State.readyChanged _)
    rw [hready, hreadyChanged]
    cases op.readiness? with
    | none => exact hcoherent.ready_dated
    | some value => exact fun _ => rfl
  · change ∀ p, State.lastPush _ = some p → Option.isSome (State.driver _) ∧ _
    rw [hdriver, hlastPush]
    exact hcoherent.report
  · change Option.isSome (State.telephony _) → Option.isSome (State.telephonyUpdated _)
    obtain ⟨_, hset⟩ | ⟨_, htelephony, hupdated⟩ := stage_telephony env c w op
    · exact fun _ => hset
    · rw [htelephony, hupdated]
      exact hcoherent.telephony_dated

/-- A push keeps a snapshot coherent wherever it is cut off. -/
theorem push_coherent (env : Environment ι κ σ) (c : Controller) (w : World ι κ σ)
    (hcoherent : (c.snapshot w.state).Coherent) (hready : w.state.ready = true) :
    (c.snapshot (push env c w).world.state).Coherent := by
  have hend := push_ends env c w
  generalize push env c w = p at hend ⊢
  have hdated : w.state.readyChanged.isSome := hcoherent.ready_dated hready
  cases hend with
  | cut _ => exact hcoherent
  | unheard _ _ =>
    exact ⟨rfl, Iff.rfl, fun _ => hdated, fun _ => hdated,
      fun p hp => ⟨rfl, (hcoherent.report p hp).2⟩, hcoherent.telephony_dated⟩
  | done _ _ =>
    refine ⟨rfl, Iff.rfl, fun _ => hdated, fun _ => hdated, ?_, hcoherent.telephony_dated⟩
    intro p hp
    obtain rfl : report env c w = p := Option.some.inj hp
    refine ⟨rfl, ?_⟩
    have hfailed := (offerAll_failed_sublist env (c.active w.state) w.registry.entries w.registry
      w.outside).length_le
    rwa [List.length_map] at hfailed

theorem step_coherent (env : Environment ι κ σ) (c : Controller) (w : World ι κ σ)
    (op : Operation ι κ σ) (hcoherent : (c.snapshot w.state).Coherent) :
    (c.snapshot (step env c w op).world.state).Coherent := by
  have hstaged := stage_coherent env c w op hcoherent
  cases hpush : op.pushes w.state.ready with
  | false =>
    rw [step_of_not_pushes env c w op hpush]
    exact hstaged
  | true =>
    rw [step_of_pushes env c w op hpush]
    refine push_coherent env c (stage env c w op).1 hstaged ?_
    rw [(stage_readiness env c w op).1]
    cases op with
    | ready value => exact hpush
    | country raw => exact hpush
    | add _ | remove _ | adjust _ | network _ | listen _ => cases hpush

theorem run_coherent (env : Environment ι κ σ) (c : Controller) (w : World ι κ σ)
    (ops : List (Operation ι κ σ)) (hcoherent : (c.snapshot w.state).Coherent) :
    (c.snapshot (run env c w ops).1.state).Coherent := by
  induction ops generalizing w with
  | nil => exact hcoherent
  | cons op rest ih => exact ih _ (step_coherent env c w op hcoherent)

/-- The time of the telephony code tells whether any call of the run has set it. -/
theorem run_telephonyUpdated (env : Environment ι κ σ) (c : Controller) (w : World ι κ σ)
    (ops : List (Operation ι κ σ)) :
    (run env c w ops).1.state.telephonyUpdated.isSome ↔
      w.state.telephonyUpdated.isSome ∨ ∃ r ∈ history env c w ops, r.DatesTelephony := by
  induction ops generalizing w with
  | nil => simp only [run, history, List.not_mem_nil, false_and, exists_false, or_false]
  | cons op rest ih =>
    obtain ⟨htelephony, _, hupdated, _, _⟩ := step_keeps env c w op
    rw [run, ih, history]
    simp only [List.mem_cons, or_and_right, exists_or, exists_eq_left]
    rw [hupdated, ← or_assoc]
    refine or_congr ?_ Iff.rfl
    obtain ⟨hcause, hset⟩ | ⟨hother, hkept, hsame⟩ := stage_telephony env c w op
    · rw [← htelephony] at hcause
      exact ⟨fun _ => .inr hcause, fun _ => hset⟩
    · rw [hsame]
      refine ⟨.inl, ?_⟩
      rintro (h | ⟨raw, hraw⟩ | ⟨_, hnone, hsome⟩)
      · exact h
      · exact absurd hraw (hother raw)
      · exact absurd ((htelephony.trans hkept).trans hnone) hsome

/-- A push that returns settles everything, whatever there was before. -/
theorem push_settled (env : Environment ι κ σ) (c : Controller) (w : World ι κ σ)
    (hreturned : (push env c w).result ≠ none) :
    (c.snapshot (push env c w).world.state).Settled := by
  obtain ⟨_, _, hworld⟩ := push_returned env c w hreturned
  rw [hworld]
  refine ⟨Iff.rfl, ?_, fun _ => rfl⟩
  intro p hp
  obtain rfl : report env c w = p := Option.some.inj hp
  exact ⟨rfl, rfl⟩

theorem step_settled (env : Environment ι κ σ) (c : Controller) (w : World ι κ σ)
    (op : Operation ι κ σ) (hsettled : (c.snapshot w.state).Settled)
    (hreturned : (step env c w op).result ≠ none) :
    (c.snapshot (step env c w op).world.state).Settled := by
  cases hpush : op.pushes w.state.ready with
  | true =>
    rw [step_of_pushes env c w op hpush] at hreturned ⊢
    exact push_settled env c _ fun hnone => hreturned (congrArg (Option.map _) hnone)
  | false =>
    cases op with
    | ready value =>
      obtain rfl : value = false := hpush
      exact ⟨hsettled.reported, hsettled.report, nofun⟩
    | country raw =>
      have hready : w.state.ready = false := hpush
      rw [step_of_not_pushes env c w _ hpush]
      refine ⟨hsettled.reported, hsettled.report, fun h => ?_⟩
      exact absurd (hready.symm.trans h) Bool.false_ne_true
    | add _ | remove _ | adjust _ | network _ | listen _ => exact hsettled

theorem run_settled (env : Environment ι κ σ) (c : Controller) (w : World ι κ σ)
    (ops : List (Operation ι κ σ)) (hsettled : (c.snapshot w.state).Settled)
    (hcalm : Calm env c w ops) : (c.snapshot (run env c w ops).1.state).Settled := by
  induction ops generalizing w with
  | nil => exact hsettled
  | cons op rest ih =>
    obtain ⟨hreturned, hrest⟩ := hcalm.tail
    exact ih _ (step_settled env c w op hsettled hreturned) hrest

/-- What a snapshot of a new controller shows after any operations. Panics may cut calls off
anywhere; only the last part asks that there was none so far. -/
theorem snapshot_coherent (env : Environment ι κ σ) (c : Controller) (registry : Registry ι)
    (network : Option (Option String)) (outside : σ) (ops : List (Operation ι κ σ)) :
    (c.snapshot (run env c (start registry network outside) ops).1.state).Coherent ∧
      ((c.snapshot (run env c (start registry network outside) ops).1.state).telephonyUpdated.isSome ↔
        ∃ r ∈ history env c (start registry network outside) ops, r.DatesTelephony) ∧
      (Calm env c (start registry network outside) ops →
        (c.snapshot (run env c (start registry network outside) ops).1.state).Settled) := by
  refine ⟨?_, ?_, ?_⟩
  · refine run_coherent env c _ ops ⟨rfl, Iff.rfl, nofun, nofun, nofun, nofun⟩
  · have hdated := run_telephonyUpdated env c (start registry network outside) ops
    exact hdated.trans (or_iff_right nofun)
  · exact run_settled env c _ ops ⟨Iff.rfl, nofun, nofun⟩

theorem settled_of_restless_registry :
    Calm Fleet.environment sampleController sampleWorld
        [.country "de", .ready true, .country " ", .ready false, .country "fr"] ∧
      (sampleController.snapshot (run Fleet.environment sampleController sampleWorld
        [.country "de", .ready true, .country " ", .ready false, .country "fr"]).1.state).Settled :=
  ⟨by decide, (snapshot_coherent _ _ _ _ _ _).2.2 (by decide)⟩

end Controller

end Regulatory
