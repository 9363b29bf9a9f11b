import Regulatory.Proofs.Controller.Isolation

/-!
What a controller writes to the log itself. Interfaces can write there too, even what looks like an
entry of the controller, so its own entries are told by a run in which all interfaces keep quiet.
Such a run is the same but for the log.
-/

namespace Regulatory

variable {ι κ σ : Type}

/-- The entries of a trace that bear the mark of the controller. -/
def Trace.controllerLog (t : Trace ι κ) : List Log.Entry :=
  t.log.filter fun e => e.target = "regdomain_radio::controller"

@[simp] theorem Trace.controllerLog_append (s t : Trace ι κ) :
    controllerLog (s ++ t) = controllerLog s ++ controllerLog t := by
  unfold controllerLog log
  rw [List.filterMap_append, List.filter_append]

/-- What the controller writes of a call of an interface that returns. -/
def Outcome.verdict? (name : String) (code : CountryCode) : Outcome → Option Log.Entry
  | .applied => some (.codeApplied name code)
  | .failed cause => some (.applyFailed name code cause)
  | .panicked => none

namespace Environment

/-- No interface writes to the log under the mark of the controller. -/
def Discreet (env : Environment ι κ σ) : Prop :=
  ∀ i code outside entry, .log entry ∈ (env.apply i code outside).1.actions →
    entry.target ≠ "regdomain_radio::controller"

/-- The same surroundings, but no interface writes to the log. -/
def silent (env : Environment ι κ σ) : Environment ι κ σ where
  apply i code outside :=
    (⟨(env.apply i code outside).1.deeds, (env.apply i code outside).1.outcome⟩,
      (env.apply i code outside).2)
  notify := env.notify
  clock := env.clock

theorem silent_discreet (env : Environment ι κ σ) : env.silent.Discreet := by
  intro i code outside entry hlog
  simp [silent, Reaction.deeds] at hlog

theorem outcomes_silent (env : Environment ι κ σ) (code : CountryCode) (entries : List ι)
    (outside : σ) :
    env.silent.outcomes code entries outside = env.outcomes code entries outside := by
  induction entries generalizing outside with
  | nil => rfl
  | cons i rest ih => exact congrArg (_ :: ·) (ih _)

/-- What the controller writes of the calls of some interfaces that it offers a code to. -/
def verdicts [Named ι] (env : Environment ι κ σ) (code : CountryCode) (called : List ι)
    (outside : σ) : List Log.Entry :=
  (called.zip (env.outcomes code called outside)).filterMap fun e =>
    e.2.verdict? (Named.name e.1) code

theorem verdicts_cons [Named ι] (env : Environment ι κ σ) (code : CountryCode) (i : ι)
    (rest : List ι) (outside : σ) :
    env.verdicts code (i :: rest) outside =
      ((env.apply i code outside).1.outcome.verdict? (Named.name i) code).toList ++
        env.verdicts code rest (env.apply i code outside).2 := by
  simp only [verdicts, outcomes, List.zip_cons_cons, List.filterMap_cons]
  cases (env.apply i code outside).1.outcome.verdict? (Named.name i) code <;> rfl

end Environment

variable [Named ι]

/-- What an interface does to the registry is logged under the mark of the registry. -/
theorem Registry.perform_controllerLog (r : Registry ι) (actions : List (Action ι))
    (hdiscreet : ∀ entry, .log entry ∈ actions → entry.target ≠ "regdomain_radio::controller") :
    ((r.perform actions).2 : Trace ι κ).controllerLog = [] := by
  induction actions generalizing r with
  | nil => rfl
  | cons action rest ih =>
    have hrest := fun r => ih r fun entry hentry => hdiscreet entry (List.mem_cons_of_mem _ hentry)
    cases action with
    | add i =>
      change Trace.controllerLog (_ ++ _) = _
      rw [Trace.controllerLog_append, hrest]
      rfl
    | remove name =>
      change Trace.controllerLog (_ ++ _) = _
      rw [Trace.controllerLog_append, hrest, Registry.removalTrace]
      split
      · rfl
      · rfl
    | log entry =>
      have hentry := hdiscreet entry List.mem_cons_self
      change List.filter _ (entry :: Trace.log _) = _
      rw [List.filter_cons_of_neg (by simpa using hentry)]
      exact hrest r

namespace Controller

theorem offerAll_controllerLog {env : Environment ι κ σ} (hdiscreet : env.Discreet)
    (code : CountryCode) (entries : List ι) (registry : Registry ι) (outside : σ) :
    (offerAll env code entries registry outside).trace.controllerLog =
      env.verdicts code (upTo entries (env.interfacePanic code entries outside)) outside := by
  induction entries generalizing registry outside with
  | nil => rfl
  | cons i rest ih =>
    have hseen : Trace.controllerLog (.offered i code ::
        (registry.perform (env.apply i code outside).1.actions).2 : Trace ι κ) = [] :=
      registry.perform_controllerLog _ (hdiscreet i code outside)
    rw [offerAll, Environment.interfacePanic_cons]
    cases houtcome : (env.apply i code outside).1.outcome with
    | panicked =>
      rw [if_pos rfl, upTo, List.take_succ_cons, Environment.verdicts_cons, houtcome]
      exact hseen
    | applied =>
      rw [if_neg (by simp), upTo_cons_succ, Environment.verdicts_cons, houtcome, ← ih]
      change Trace.controllerLog (_ ++ _) = _
      rw [Trace.controllerLog_append, hseen]
      rfl
    | failed cause =>
      rw [if_neg (by simp), upTo_cons_succ, Environment.verdicts_cons, houtcome, ← ih]
      change Trace.controllerLog (_ ++ _) = _
      rw [Trace.controllerLog_append, hseen]
      rfl

/-- Telling the listeners is not logged. -/
theorem telling_controllerLog (env : Environment ι κ σ) (c : Controller) (w : World ι κ σ) :
    (telling env c w).trace.controllerLog = [] := by
  have hnotify (listeners : List κ) (outside : σ) :
      ((notifyAll env (c.active w.state) listeners outside).trace : Trace ι κ).controllerLog =
        [] := by
    induction listeners generalizing outside with
    | nil => rfl
    | cons l rest ih =>
      rw [notifyAll]
      split
      · exact ih _
      · rfl
  unfold telling
  split
  · rfl
  · exact hnotify _ _

/-- What a push writes to the log: how each call of an interface ended, and if all of them have
returned, what it comes to. -/
def pushLog (env : Environment ι κ σ) (code : CountryCode) (entries : List ι) (outside : σ) :
    List Log.Entry :=
  env.verdicts code (upTo entries (env.interfacePanic code entries outside)) outside ++
    if env.interfacePanic code entries outside = none then
      [.codePushed code entries.length (env.failures code entries outside).length]
    else []

theorem push_controllerLog {env : Environment ι κ σ} (hdiscreet : env.Discreet) (c : Controller)
    (w : World ι κ σ) :
    (push env c w).trace.controllerLog =
      pushLog env (c.active w.state) w.registry.entries w.outside := by
  have hfinished : (offering env c w).finished = _ := offerAll_finished env _ _ _ _
  have hfailed : (offering env c w).failed = _ := (offerAll_after env _ _ _ _).failed
  have hcut : (cutTrace env c w).controllerLog =
      env.verdicts (c.active w.state) (upTo w.registry.entries
        (env.interfacePanic (c.active w.state) w.registry.entries w.outside)) w.outside :=
    offerAll_controllerLog hdiscreet _ _ _ _
  have hfull (hreturned : (offering env c w).finished = true) :
      (fullTrace env c w).controllerLog =
        pushLog env (c.active w.state) w.registry.entries w.outside := by
    have hnone := Option.isNone_iff_eq_none.1 (hfinished.symm.trans hreturned)
    rw [fullTrace, Trace.controllerLog_append, hcut, hfailed, pushLog, hnone, if_pos rfl]
    exact congrArg (_ ++ _ :: ·) (telling_controllerLog env c w)
  have hend := push_ends env c w
  generalize push env c w = p at hend ⊢
  cases hend with
  | cut hpanicked =>
    have hsome : env.interfacePanic (c.active w.state) w.registry.entries w.outside ≠ none := by
      intro hnone
      rw [hfinished, hnone] at hpanicked
      cases hpanicked
    rw [pushLog, if_neg hsome, List.append_nil]
    exact hcut
  | unheard hreturned _ | done hreturned _ => exact hfull hreturned

/-- What an operation records of readiness and of telephony's code before it pushes, and what it
writes to the log of that. -/
inductive Recorded (c : Controller) (before : State κ) :
    Operation ι κ σ → State κ → List Log.Entry → Prop
  | readiness (value : Bool) (after : State κ) (hready : after.ready = value)
      (hkept : after.telephony = before.telephony) :
      Recorded c before (.ready value) after [.readinessUpdated value]
  /-- The network source knows a country, which is adopted. -/
  | adoption (after : State κ) (hready : after.ready = true) (code : CountryCode)
      (hadopted : after.telephony = some code) :
      Recorded c before (.ready true) after [.readinessUpdated true, .networkAdopted code]
  | country (raw : String) (accepted : Bool) (after : State κ)
      (hready : after.ready = before.ready) :
      Recorded c before (.country raw) after (.telephonyUpdated raw (c.active after) accepted ::
        if before.ready then [] else [.pushDeferred (c.active after)])
  | other (op : Operation ι κ σ) (hother : ∀ raw, op ≠ .country raw) (after : State κ)
      (hready : after.ready = before.ready) (hkept : after.telephony = before.telephony) :
      Recorded c before op after []

theorem stage_recorded (env : Environment ι κ σ) (c : Controller) (w : World ι κ σ)
    (op : Operation ι κ σ) :
    Recorded c w.state op (stage env c w op).1.state (stage env c w op).2.controllerLog := by
  cases op with
  | ready value =>
    cases value with
    | false => exact .readiness false _ rfl rfl
    | true =>
      simp only [stage, if_true]
      have hend := probe_ends env (marked env true w)
      generalize probe env (marked env true w) = probed at hend ⊢
      cases hend with
      | unasked _ => exact .readiness true _ rfl rfl
      | blank _ _ _ _ => exact .readiness true _ rfl rfl
      | adopted _ code _ _ _ => exact .adoption _ rfl code rfl
  | country raw =>
    have hlog : (stage env c w (.country raw)).2.controllerLog =
        .telephonyUpdated raw (c.active (updated env c raw w).state)
            ((CountryCode.parse raw).isSome || c.revertOnLoss) ::
          if w.state.ready then []
          else [.pushDeferred (c.active (updated env c raw w).state)] := by
      simp only [stage]
      split
      · rfl
      · rfl
    rw [hlog]
    exact .country raw _ _ rfl
  | remove name =>
    have hlog : (stage env c w (.remove name)).2.controllerLog = [] := by
      change (Registry.removalTrace _ _ : Trace ι κ).controllerLog = []
      rw [Registry.removalTrace]
      split
      · rfl
      · rfl
    rw [hlog]
    exact .other _ (by simp) _ rfl rfl
  | add _ | adjust _ | network _ | listen _ => exact .other _ (by simp) _ rfl rfl

/-- What a call writes to the log when it pushes. -/
def Record.pushLog (env : Environment ι κ σ) (c : Controller) (r : Record ι κ σ) :
    List Log.Entry :=
  if r.operation.pushes r.before.state.ready then
    Controller.pushLog env (c.active r.call.world.state) r.before.registry.entries r.before.outside
  else []

theorem step_controllerLog {env : Environment ι κ σ} (hdiscreet : env.Discreet) (c : Controller)
    (w : World ι κ σ) (op : Operation ι κ σ) :
    (step env c w op).trace.controllerLog =
      (stage env c w op).2.controllerLog ++ Record.pushLog env c ⟨w, op, step env c w op⟩ := by
  cases hpush : op.pushes w.state.ready with
  | false =>
    simp only [Record.pushLog, hpush, Bool.false_eq_true, if_false, List.append_nil]
    rw [step_of_not_pushes env c w op hpush]
  | true =>
    obtain ⟨hregistry, houtside, _⟩ := stage_surroundings env c w op hpush
    simp only [Record.pushLog, hpush, if_true, active_step]
    rw [step_of_pushes env c w op hpush, ← hregistry, ← houtside, ← push_controllerLog hdiscreet]
    exact Trace.controllerLog_append _ _

/-- What interfaces write to the log changes nothing but the trace. -/
theorem offerAll_silent (env : Environment ι κ σ) (code : CountryCode) (entries : List ι)
    (registry : Registry ι) (outside : σ) :
    ∃ t, offerAll env.silent code entries registry outside =
      { (offerAll env code entries registry outside : Offering ι κ σ) with trace := t } := by
  induction entries generalizing registry outside with
  | nil => exact ⟨[], rfl⟩
  | cons i rest ih =>
    have hperform : (registry.perform (κ := κ) (env.silent.apply i code outside).1.actions).1 =
        (registry.perform (κ := κ) (env.apply i code outside).1.actions).1 :=
      (registry.perform_deeds (κ := κ) _).1.symm
    have hoffer : env.silent.apply i code outside =
      (⟨(env.apply i code outside).1.deeds, (env.apply i code outside).1.outcome⟩,
        (env.apply i code outside).2) := rfl
    obtain ⟨t, ht⟩ := ih (registry.perform (κ := κ) (env.apply i code outside).1.actions).1
      (env.apply i code outside).2
    rw [offerAll, offerAll, hperform, hoffer, ht]
    cases (env.apply i code outside).1.outcome with
    | panicked | applied | failed _ => exact ⟨_, rfl⟩

omit [Named ι] in
theorem notifyAll_silent (env : Environment ι κ σ) (code : CountryCode) (listeners : List κ)
    (outside : σ) :
    (notifyAll env.silent code listeners outside : Notification ι κ σ) =
      notifyAll env code listeners outside := by
  induction listeners generalizing outside with
  | nil => rfl
  | cons l rest ih =>
    rw [notifyAll, notifyAll, ih]
    rfl

theorem push_silent (env : Environment ι κ σ) (c : Controller) (w : World ι κ σ) :
    ∃ t, push env.silent c w = { push env c w with trace := t } := by
  obtain ⟨t, hoffering⟩ : ∃ t, offering env.silent c w = { offering env c w with trace := t } :=
    offerAll_silent env _ _ _ _
  have htelling : telling env.silent c w = telling env c w := by
    simp only [telling, hoffering, notifyAll_silent]
  rw [push_eq, push_eq, htelling, hoffering]
  simp only [reportedWorld, drivenWorld, report, cutWorld, hoffering, htelling]
  split
  · split
    · exact ⟨_, rfl⟩
    · exact ⟨_, rfl⟩
  · exact ⟨_, rfl⟩

theorem pushLog_silent (env : Environment ι κ σ) (code : CountryCode) (entries : List ι)
    (outside : σ) : pushLog env.silent code entries outside = pushLog env code entries outside := by
  have hpanic : env.silent.interfacePanic code entries outside =
      env.interfacePanic code entries outside := by
    rw [Environment.interfacePanic, Environment.outcomes_silent, Environment.interfacePanic]
  simp only [pushLog, hpanic, Environment.verdicts, Environment.failures,
    Environment.outcomes_silent]

/-- A stage calls no interface. -/
theorem stage_silent (env : Environment ι κ σ) (c : Controller) (w : World ι κ σ)
    (op : Operation ι κ σ) : stage env.silent c w op = stage env c w op := by
  cases op <;> rfl

theorem step_silent (env : Environment ι κ σ) (c : Controller) (w : World ι κ σ)
    (op : Operation ι κ σ) :
    ∃ t, step env.silent c w op = { step env c w op with trace := t } := by
  cases hpush : op.pushes w.state.ready with
  | false =>
    rw [step_of_not_pushes _ c w op hpush, step_of_not_pushes _ c w op hpush, stage_silent]
    exact ⟨_, rfl⟩
  | true =>
    obtain ⟨t, ht⟩ := push_silent env c (stage env c w op).1
    rw [step_of_pushes _ c w op hpush, step_of_pushes _ c w op hpush, stage_silent, ht]
    exact ⟨_, rfl⟩

/-- What the controller itself writes to the log in a call: all that is written under its mark if
the interfaces keep quiet. -/
def Record.ownLog (env : Environment ι κ σ) (c : Controller) (r : Record ι κ σ) : List Log.Entry :=
  (step env.silent c r.before r.operation).trace.controllerLog

theorem ownLog_eq (env : Environment ι κ σ) (c : Controller) (w : World ι κ σ)
    (op : Operation ι κ σ) :
    Record.ownLog env c ⟨w, op, step env c w op⟩ =
      (stage env c w op).2.controllerLog ++ Record.pushLog env c ⟨w, op, step env c w op⟩ := by
  obtain ⟨t, hstep⟩ := step_silent env c w op
  have hpushLog : Record.pushLog env.silent c ⟨w, op, step env.silent c w op⟩ =
      Record.pushLog env c ⟨w, op, step env c w op⟩ := by
    simp only [Record.pushLog, hstep, pushLog_silent]
  rw [Record.ownLog, step_controllerLog env.silent_discreet, stage_silent, hpushLog]

/-- If no interface writes under the controller's mark, its part of the log is all its own. -/
theorem ownLog_of_discreet {env : Environment ι κ σ} (hdiscreet : env.Discreet) (c : Controller)
    (w : World ι κ σ) (op : Operation ι κ σ) :
    Record.ownLog env c ⟨w, op, step env c w op⟩ = (step env c w op).trace.controllerLog := by
  rw [ownLog_eq, step_controllerLog hdiscreet]

/-- What the controller itself writes to the log from its creation to the end of a run. -/
def ownLog (env : Environment ι κ σ) (c : Controller) (w : World ι κ σ)
    (ops : List (Operation ι κ σ)) : List Log.Entry :=
  (creationTrace c : Trace ι κ).controllerLog ++
    (history env c w ops).flatMap (Record.ownLog env c)

theorem run_ownLog_of_discreet {env : Environment ι κ σ} (hdiscreet : env.Discreet) (c : Controller)
    (w : World ι κ σ) (ops : List (Operation ι κ σ)) :
    ownLog env c w ops = (creationTrace c ++ (run env c w ops).2).controllerLog := by
  have hrun : (history env c w ops).flatMap (Record.ownLog env c) =
      (run env c w ops).2.controllerLog := by
    induction ops generalizing w with
    | nil => rfl
    | cons op rest ih =>
      rw [history, List.flatMap_cons, ih, ownLog_of_discreet hdiscreet, run,
        Trace.controllerLog_append]
  rw [ownLog, hrun, Trace.controllerLog_append]

end Controller

end Regulatory
