import Regulatory.Snapshot
import Regulatory.Proofs.Controller.History

/-!
Times are written down and never looked at: what a run does is the same under every clock.
-/

namespace Regulatory

/-- The same surroundings under another clock. -/
def Environment.withClock {ι κ σ : Type} (env : Environment ι κ σ) (clock : Nat → Nat) :
    Environment ι κ σ :=
  { env with clock := clock }

/-- The same surroundings with the clock stopped at zero. -/
def Environment.still {ι κ σ : Type} (env : Environment ι κ σ) : Environment ι κ σ :=
  env.withClock fun _ => 0

namespace Controller

variable {ι κ σ α : Type} [Named ι]

/-- The state with every time that is set put to zero. -/
def State.timeless (s : State κ) : State κ :=
  { s with
    telephonyUpdated := s.telephonyUpdated.map fun _ => 0
    driverUpdated := s.driverUpdated.map fun _ => 0
    readyChanged := s.readyChanged.map fun _ => 0
    lastPush := s.lastPush.map fun p => { p with timestamp := 0 } }

/-- The world without its times, and without a count of the readings of the clock. -/
def World.timeless (w : World ι κ σ) : World ι κ σ :=
  { w with state := w.state.timeless, readings := 0 }

def Call.timeless (call : Call ι κ σ α) : Call ι κ σ α :=
  { call with world := call.world.timeless }

theorem snapshot_timeless (c : Controller) (s : State κ) :
    (c.snapshot s).timeless = c.snapshot s.timeless := rfl

omit [Named ι] in
theorem timeless_timeless (w : World ι κ σ) : w.timeless.timeless = w.timeless := by
  simp only [World.timeless, State.timeless, Option.map_map, Function.comp_def]

theorem offerAll_still (env : Environment ι κ σ) (code : CountryCode) (entries : List ι)
    (registry : Registry ι) (outside : σ) :
    offerAll env.still code entries registry outside =
      offerAll env code entries registry outside := by
  induction entries generalizing registry outside with
  | nil => rfl
  | cons i rest ih =>
    simp only [offerAll, ih]
    rfl

omit [Named ι] in
theorem notifyAll_still (env : Environment ι κ σ) (code : CountryCode) (listeners : List κ)
    (outside : σ) : (notifyAll env.still code listeners outside : Notification ι κ σ) =
      notifyAll env code listeners outside := by
  induction listeners generalizing outside with
  | nil => rfl
  | cons l rest ih =>
    simp only [notifyAll, ih]
    rfl

theorem offering_timeless (env : Environment ι κ σ) (c : Controller) (w : World ι κ σ) :
    offering env.still c w.timeless = offering env c w :=
  offerAll_still env (c.active w.state) w.registry.entries w.registry w.outside

theorem telling_timeless (env : Environment ι κ σ) (c : Controller) (w : World ι κ σ) :
    telling env.still c w.timeless = telling env c w := by
  unfold telling
  rw [offering_timeless, notifyAll_still]
  rfl

theorem reportedWorld_timeless (env : Environment ι κ σ) (c : Controller) (w : World ι κ σ) :
    (reportedWorld env c w).timeless =
      { (drivenWorld env c w).timeless with
        state := { (drivenWorld env c w).timeless.state with
          lastPush := some { report env c w with timestamp := 0 } } } := rfl

theorem push_timeless (env : Environment ι κ σ) (c : Controller) (w : World ι κ σ) :
    (push env c w).timeless = (push env.still c w.timeless).timeless := by
  rw [push_eq, push_eq, offering_timeless, telling_timeless]
  -- Both pushes branch alike now, so that the three worlds and two traces are left to compare.
  have hcut : cutTrace env.still c w.timeless = cutTrace env c w := by
    unfold cutTrace
    rw [offering_timeless]
    rfl
  have hfull : fullTrace env.still c w.timeless = fullTrace env c w := by
    unfold fullTrace
    rw [hcut, offering_timeless, telling_timeless]
    rfl
  have hcutWorld : (cutWorld env.still c w.timeless).timeless = (cutWorld env c w).timeless := by
    unfold cutWorld
    rw [offering_timeless]
    simp only [World.timeless, State.timeless, Option.map_map, Function.comp_def]
  have hdriven :
      (drivenWorld env.still c w.timeless).timeless = (drivenWorld env c w).timeless := by
    unfold drivenWorld
    rw [offering_timeless, telling_timeless]
    simp only [World.timeless, State.timeless, Option.map_map, Option.map_some]
    rfl
  have hreport : { report env.still c w.timeless with timestamp := 0 } =
      { report env c w with timestamp := 0 } := by
    unfold report
    rw [offering_timeless]
    rfl
  have hreported : (reportedWorld env.still c w.timeless).timeless =
      (reportedWorld env c w).timeless := by
    rw [reportedWorld_timeless, reportedWorld_timeless, hdriven, hreport]
  rw [hcut, hfull]
  split
  · split
    · simp only [Call.timeless, hreported]
    · simp only [Call.timeless, hdriven]
  · simp only [Call.timeless, hcutWorld]

omit [Named ι] in
theorem probe_timeless (env : Environment ι κ σ) (w : World ι κ σ) :
    (probe env w).1.timeless = (probe env.still w.timeless).1.timeless ∧
      (probe env w).2 = (probe env.still w.timeless).2 := by
  obtain ⟨state, registry, network, outside, readings⟩ := w
  obtain ⟨telephony, driver, ready, telephonyUpdated, driverUpdated, readyChanged, lastPush,
    listeners⟩ := state
  cases telephony with
  | some code => exact ⟨(timeless_timeless _).symm, rfl⟩
  | none =>
    cases network with
    | none => exact ⟨(timeless_timeless _).symm, rfl⟩
    | some answer =>
      cases hcode : answer.bind CountryCode.parse with
      | none | some code =>
        simp [probe, World.timeless, State.timeless, hcode, Function.comp_def]

theorem stage_timeless (env : Environment ι κ σ) (c : Controller) (w : World ι κ σ)
    (op : Operation ι κ σ) :
    (stage env c w op).1.timeless = (stage env.still c w.timeless op).1.timeless ∧
      (stage env c w op).2 = (stage env.still c w.timeless op).2 := by
  cases op with
  | ready value =>
    have hmarked :
        (marked env.still value w.timeless).timeless = (marked env value w).timeless := by
      simp only [marked, World.timeless, State.timeless, Option.map_map, Option.map_some]
      rfl
    cases value with
    | false => exact ⟨hmarked.symm, rfl⟩
    | true =>
      obtain ⟨hworld, htrace⟩ := probe_timeless env (marked env true w)
      obtain ⟨hworld', htrace'⟩ := probe_timeless env.still (marked env.still true w.timeless)
      rw [hmarked] at hworld' htrace'
      refine ⟨hworld.trans hworld'.symm, ?_⟩
      simp only [stage, if_true]
      rw [htrace, htrace']
      rfl
  | country raw =>
    refine ⟨?_, rfl⟩
    simp only [stage, updated, World.timeless, State.timeless, Option.map_map, Option.map_some]
    rfl
  | add _ | remove _ | adjust _ | network _ | listen _ =>
    simp only [stage, step, World.timeless, State.timeless, Option.map_map, Function.comp_def,
      and_self]

/-- A call does the same with the clock stopped, up to the times that it writes down. -/
theorem step_timeless (env : Environment ι κ σ) (c : Controller) (w : World ι κ σ)
    (op : Operation ι κ σ) :
    (step env c w op).timeless = (step env.still c w.timeless op).timeless := by
  obtain ⟨hworld, htrace⟩ := stage_timeless env c w op
  cases hpush : op.pushes w.state.ready with
  | true =>
    rw [step_of_pushes env c w op hpush, step_of_pushes env.still c w.timeless op hpush, ← htrace]
    -- The two stages need not be equal, but both push like the same world without times.
    have hpushed := push_timeless env c (stage env c w op).1
    have hpushed' := push_timeless env.still c (stage env.still c w.timeless op).1
    rw [← hworld] at hpushed'
    have hpushes := hpushed.trans hpushed'.symm
    simp only [Call.timeless, Call.mk.injEq] at hpushes
    obtain ⟨hresult, hafter, hseen⟩ := hpushes
    simp only [Call.timeless, Call.map, Call.after, hresult, hafter, hseen]
    rfl
  | false =>
    rw [step_of_not_pushes env c w op hpush, step_of_not_pushes env.still c w.timeless op hpush]
    simp only [Call.timeless, hworld, htrace]
    rfl

/-- Two clocks and two worlds that differ in their times only. -/
theorem step_clock (env : Environment ι κ σ) (clock : Nat → Nat) (c : Controller)
    {w v : World ι κ σ} (heq : w.timeless = v.timeless) (op : Operation ι κ σ) :
    (step env c w op).timeless = (step (env.withClock clock) c v op).timeless := by
  rw [step_timeless env, step_timeless (env.withClock clock), heq]
  rfl

/-- The times that a run writes down are all that its clock decides. -/
theorem run_clock (env : Environment ι κ σ) (clock : Nat → Nat) (c : Controller)
    {w v : World ι κ σ} (heq : w.timeless = v.timeless) (ops : List (Operation ι κ σ)) :
    (run env c w ops).1.timeless = (run (env.withClock clock) c v ops).1.timeless ∧
      (run env c w ops).2 = (run (env.withClock clock) c v ops).2 := by
  induction ops generalizing w v with
  | nil => exact ⟨heq, rfl⟩
  | cons op rest ih =>
    have hstep := step_clock env clock c heq op
    simp only [Call.timeless, Call.mk.injEq] at hstep
    obtain ⟨_, hworld, htrace⟩ := hstep
    obtain ⟨hrest, hlater⟩ := ih hworld
    refine ⟨hrest, ?_⟩
    simp only [run, htrace, hlater]

end Controller

end Regulatory
