import Regulatory.Proofs.Controller.OwnLog

/-!
The log as an audit trail. Readiness, the active code and the driver's code can be read off the last
entries that the controller has written about them, after every call and whoever panics.
-/

namespace Regulatory

namespace Log

def Entry.field? (e : Entry) (name : String) : Option Value :=
  e.fields.lookup name

/-- The entries with one of some messages. -/
def about (messages : List String) (log : List Entry) : List Entry :=
  log.filter fun e => e.message ∈ messages

/-- What the last entry with one of some messages says in a field. -/
def last? (messages : List String) (name : String) (log : List Entry) : Option Value :=
  (about messages log).getLast?.bind (·.field? name)

@[simp] theorem about_append (messages : List String) (log later : List Entry) :
    about messages (log ++ later) = about messages log ++ about messages later :=
  List.filter_append log later

theorem about_eq_nil {messages : List String} {log : List Entry}
    (hother : ∀ e ∈ log, e.message ∉ messages) : about messages log = [] :=
  List.filter_eq_nil_iff.2 fun e he => by simpa using hother e he

/-- Later entries with other messages change nothing. -/
theorem last?_append_of_eq_nil {messages : List String} {later : List Entry}
    (hnone : about messages later = []) (name : String) (log : List Entry) :
    last? messages name (log ++ later) = last? messages name log := by
  rw [last?, about_append, hnone, List.append_nil, last?]

/-- The last of the later entries takes the place of all earlier ones. -/
theorem last?_append_of_eq_singleton {messages : List String} {later : List Entry} {e : Entry}
    (hsome : about messages later = [e]) (name : String) (log : List Entry) :
    last? messages name (log ++ later) = e.field? name := by
  rw [last?, about_append, hsome, List.getLast?_append]
  rfl

end Log

variable {ι κ σ : Type} [Named ι]

/-- The messages of what the controller writes of an interface's call that returns. -/
abbrev verdictMessages : List String := ["Country code applied", "Failed to apply country code"]

/-- The messages of what an operation writes before its push. -/
abbrev stageMessages : List String :=
  ["Readiness for country code change updated", "Adopted network country reported by telephony",
    "Telephony country code updated", "Not ready, deferring push"]

namespace Environment

theorem verdicts_message (env : Environment ι κ σ) (code : CountryCode) (called : List ι)
    (outside : σ) :
    ∀ e ∈ env.verdicts code called outside, e.message ∈ verdictMessages := by
  induction called generalizing outside with
  | nil => exact List.forall_mem_nil _
  | cons i rest ih =>
    rw [verdicts_cons]
    refine List.forall_mem_append.2 ⟨?_, ih _⟩
    cases (env.apply i code outside).1.outcome <;> simp [Outcome.verdict?, Log.Entry.message]

theorem about_verdicts_of_other (env : Environment ι κ σ) (code : CountryCode) (called : List ι)
    (outside : σ) {messages : List String} (hother : ∀ m ∈ verdictMessages, m ∉ messages) :
    Log.about messages (env.verdicts code called outside) = [] :=
  Log.about_eq_nil fun e he => hother _ (env.verdicts_message code called outside e he)

theorem about_verdicts (env : Environment ι κ σ) (code : CountryCode) (called : List ι)
    (outside : σ) :
    Log.about verdictMessages (env.verdicts code called outside) =
      env.verdicts code called outside :=
  List.filter_eq_self.2 fun e he => decide_eq_true (env.verdicts_message code called outside e he)

/-- The interfaces that failed are named in the log as they are in the report. -/
theorem about_failed_verdicts (env : Environment ι κ σ) (code : CountryCode) (called : List ι)
    (outside : σ) :
    (Log.about ["Failed to apply country code"] (env.verdicts code called outside)).map
        (·.field? "interface") =
      (env.failures code called outside).map fun name => some (.quoted name) := by
  induction called generalizing outside with
  | nil => rfl
  | cons i rest ih =>
    rw [verdicts_cons, failures_cons, Log.about_append, List.map_append, List.map_append, ih]
    cases (env.apply i code outside).1.outcome <;> rfl

theorem verdicts_of_calm (env : Environment ι κ σ) (code : CountryCode) (entries : List ι)
    (outside : σ) (hcalm : env.interfacePanic code entries outside = none) :
    (env.verdicts code entries outside).map (·.field? "interface") =
      entries.map fun i => some (.quoted (Named.name i)) := by
  induction entries generalizing outside with
  | nil => rfl
  | cons i rest ih =>
    rw [interfacePanic_cons] at hcalm
    rw [verdicts_cons, List.map_append, List.map_cons]
    cases houtcome : (env.apply i code outside).1.outcome with
    | panicked =>
      rw [houtcome, if_pos rfl] at hcalm
      cases hcalm
    | applied | failed _ =>
      rw [houtcome, if_neg (by simp), Option.map_eq_none_iff] at hcalm
      rw [ih _ hcalm]
      rfl

end Environment

namespace Controller

/-- A state as the log tells it. -/
structure State.ToldBy (c : Controller) (log : List Log.Entry) (s : State κ) : Prop where
  ready : (Log.last? ["Readiness for country code change updated"] "ready" log).getD
    (.bool false) = .bool s.ready
  active : (Log.last? ["Telephony country code updated",
        "Adopted network country reported by telephony"] "country_code" log).or
      (Log.last? ["Country code controller created"] "default_country_code" log) =
    some (.plain (c.active s).text)
  driver : Log.last? ["Country code pushed to driver"] "country_code" log =
    s.driver.map fun code => .plain code.text

omit [Named ι] in
theorem start_toldBy (c : Controller) (registry : Registry ι) (network : Option (Option String))
    (outside : σ) :
    (start registry network outside : World ι κ σ).state.ToldBy c
      (creationTrace c : Trace ι κ).controllerLog :=
  ⟨rfl, rfl, rfl⟩

omit [Named ι] in
theorem Recorded.toldBy {c : Controller} {before after : State κ} {op : Operation ι κ σ}
    {log later : List Log.Entry} (hrecorded : Recorded c before op after later)
    (hdriver : after.driver = before.driver) (htold : before.ToldBy c log) :
    after.ToldBy c (log ++ later) := by
  obtain ⟨hready, hactive, hdriven⟩ := htold
  rw [← hdriver] at hdriven
  cases hrecorded with
  | readiness value after hvalue hkept =>
    refine ⟨?_, ?_, ?_⟩
    · rw [Log.last?_append_of_eq_singleton (e := .readinessUpdated value) rfl, hvalue]
      rfl
    · rw [Log.last?_append_of_eq_nil rfl, Log.last?_append_of_eq_nil rfl, hactive]
      simp only [active, hkept]
    · rw [Log.last?_append_of_eq_nil rfl, hdriven]
  | adoption after hvalue code hadopted =>
    refine ⟨?_, ?_, ?_⟩
    · rw [Log.last?_append_of_eq_singleton (e := .readinessUpdated true) rfl, hvalue]
      rfl
    · rw [Log.last?_append_of_eq_singleton (e := .networkAdopted code) rfl]
      simp only [active, activeCode, hadopted]
      rfl
    · rw [Log.last?_append_of_eq_nil rfl, hdriven]
  | country raw accepted after hkept =>
    -- A deferral is about none of the three.
    have hlater (messages : List String) (hother : "Not ready, deferring push" ∉ messages) :
        Log.about messages (.telephonyUpdated raw (c.active after) accepted ::
            if before.ready then [] else [.pushDeferred (c.active after)]) =
          Log.about messages [.telephonyUpdated raw (c.active after) accepted] := by
      have hdeferral : Log.about messages
          (if before.ready then [] else [.pushDeferred (c.active after)]) = [] := by
        refine Log.about_eq_nil fun e he => ?_
        split at he
        · cases he
        · obtain rfl := List.mem_singleton.1 he
          exact hother
      rw [← List.singleton_append, Log.about_append, hdeferral, List.append_nil]
    refine ⟨?_, ?_, ?_⟩
    · rw [Log.last?_append_of_eq_nil (hlater _ (by decide)), hready, hkept]
    · rw [Log.last?_append_of_eq_singleton (hlater _ (by decide))]
      rfl
    · rw [Log.last?_append_of_eq_nil (hlater _ (by decide)), hdriven]
  | other op _ after hkept hsame =>
    rw [List.append_nil]
    refine ⟨hready.trans ?_, hactive.trans ?_, hdriven⟩
    · rw [hkept]
    · simp only [active, hsame]

/-- Of anything but its calls and its end a push writes nothing. -/
theorem Record.about_pushLog_of_other (env : Environment ι κ σ) (c : Controller)
    (r : Record ι κ σ) {messages : List String}
    (hother : ∀ m ∈ "Country code pushed to driver" :: verdictMessages, m ∉ messages) :
    Log.about messages (r.pushLog env c) = [] := by
  obtain ⟨hpushed, hverdicts⟩ := List.forall_mem_cons.1 hother
  refine Log.about_eq_nil fun e he => ?_
  obtain ⟨_, he⟩ := List.mem_ite_nil_right.1 he
  obtain hverdict | he := List.mem_append.1 he
  · exact hverdicts _ (env.verdicts_message _ _ _ e hverdict)
  · obtain ⟨_, he⟩ := List.mem_ite_nil_right.1 he
    obtain rfl := List.mem_singleton.1 he
    exact hpushed

theorem Record.pushLog_of_calm (env : Environment ι κ σ) (c : Controller) (r : Record ι κ σ)
    (hpush : r.operation.pushes r.before.state.ready = true)
    (hcalm : r.interfacePanic env c = none) :
    r.pushLog env c =
      env.verdicts (c.active r.call.world.state) r.before.registry.entries r.before.outside ++
        [.codePushed (c.active r.call.world.state) r.before.registry.entries.length
          (env.failures (c.active r.call.world.state) r.before.registry.entries
            r.before.outside).length] := by
  rw [Record.interfacePanic, hpush, if_pos rfl] at hcalm
  rw [Record.pushLog, hpush, if_pos rfl, Controller.pushLog, hcalm, if_pos rfl, upTo]

theorem Record.about_pushLog_of_pushed (env : Environment ι κ σ) (c : Controller)
    (r : Record ι κ σ) :
    Log.about ["Country code pushed to driver"] (r.pushLog env c) =
      if r.operation.pushes r.before.state.ready = true ∧ r.interfacePanic env c = none then
        [.codePushed (c.active r.call.world.state) r.before.registry.entries.length
          (env.failures (c.active r.call.world.state) r.before.registry.entries
            r.before.outside).length]
      else [] := by
  cases hpush : r.operation.pushes r.before.state.ready with
  | false =>
    rw [Record.pushLog, hpush, if_neg Bool.false_ne_true, if_neg (by simp)]
    rfl
  | true =>
    rw [Record.pushLog, hpush, if_pos rfl, Controller.pushLog, Log.about_append,
      env.about_verdicts_of_other _ _ _ (by decide), List.nil_append, Record.interfacePanic, hpush,
      if_pos rfl]
    by_cases hcalm : env.interfacePanic (c.active r.call.world.state) r.before.registry.entries
        r.before.outside = none
    · rw [if_pos hcalm, if_pos ⟨rfl, hcalm⟩]
      rfl
    · rw [if_neg hcalm, if_neg fun h => hcalm h.2]
      rfl

theorem step_toldBy (env : Environment ι κ σ) (c : Controller) (w : World ι κ σ)
    (op : Operation ι κ σ) {log : List Log.Entry} (htold : w.state.ToldBy c log) :
    (step env c w op).world.state.ToldBy c
      (log ++ Record.ownLog env c ⟨w, op, step env c w op⟩) := by
  obtain ⟨hdriver, _⟩ := stage_undriven env c w op
  obtain ⟨hready, hactive, hdriven⟩ := (stage_recorded env c w op).toldBy hdriver htold
  obtain ⟨_, hkept, _⟩ := step_keeps env c w op
  have hother {messages : List String}
      (hother : ∀ m ∈ "Country code pushed to driver" :: verdictMessages, m ∉ messages) :
      Log.about messages (Record.pushLog env c ⟨w, op, step env c w op⟩) = [] :=
    Record.about_pushLog_of_other env c _ hother
  have hpushed := Record.about_pushLog_of_pushed env c ⟨w, op, step env c w op⟩
  rw [ownLog_eq, ← List.append_assoc]
  refine ⟨?_, ?_, ?_⟩
  · rw [Log.last?_append_of_eq_nil (hother (by decide)), hready, hkept]
  · rw [Log.last?_append_of_eq_nil (hother (by decide)),
      Log.last?_append_of_eq_nil (hother (by decide)), hactive, active_step]
  · rw [step_driver_eq]
    split at hpushed
    · rename_i hpush
      rw [if_pos hpush, Log.last?_append_of_eq_singleton hpushed]
      rfl
    · rename_i hpush
      rw [if_neg hpush, Log.last?_append_of_eq_nil hpushed, hdriven, hdriver]

/-- Whatever a run does, its log goes on telling the state. -/
theorem run_toldBy (env : Environment ι κ σ) (c : Controller) (w : World ι κ σ)
    (ops : List (Operation ι κ σ)) {log : List Log.Entry} (htold : w.state.ToldBy c log) :
    (run env c w ops).1.state.ToldBy c
      (log ++ (history env c w ops).flatMap (Record.ownLog env c)) := by
  induction ops generalizing w log with
  | nil =>
    rw [history, List.flatMap_nil, List.append_nil]
    exact htold
  | cons op rest ih =>
    rw [history, List.flatMap_cons, ← List.append_assoc]
    exact ih _ (step_toldBy env c w op htold)

/-- What the controller's log shows of a call. -/
structure Record.Logged (env : Environment ι κ σ) (c : Controller) (r : Record ι κ σ) :
    Prop where
  /-- A telephony update either defers its push or makes it. One that it makes is logged unless an
  interface panics. -/
  deferral : ∀ raw, r.operation = .country raw →
    (r.before.state.ready = false ∧
        (Log.about ["Not ready, deferring push"] (r.ownLog env c)).length = 1 ∧
        (Log.about ["Country code pushed to driver"] (r.ownLog env c)).length = 0) ∨
      (r.before.state.ready = true ∧
        (Log.about ["Not ready, deferring push"] (r.ownLog env c)).length = 0 ∧
        (Log.about ["Country code pushed to driver"] (r.ownLog env c)).length =
          if r.interfacePanic env c = none then 1 else 0)
  verdicts : ∀ e ∈ Log.about ["Country code pushed to driver"] (r.ownLog env c),
    (Log.about verdictMessages (r.ownLog env c)).map (·.field? "interface") =
        r.call.trace.offers.map (fun offer => some (.quoted (Named.name offer.1))) ∧
      e.field? "interfaces" = some (.nat (Log.about verdictMessages (r.ownLog env c)).length) ∧
      e.field? "failed" =
        some (.nat (Log.about ["Failed to apply country code"] (r.ownLog env c)).length)

omit [Named ι] in
theorem Recorded.message {c : Controller} {before after : State κ} {op : Operation ι κ σ}
    {later : List Log.Entry} (hrecorded : Recorded c before op after later) :
    ∀ e ∈ later, e.message ∈ stageMessages := by
  cases hrecorded with
  | readiness => simp [Log.Entry.message]
  | adoption => simp [Log.Entry.message]
  | country => split <;> simp [Log.Entry.message]
  | other => exact List.forall_mem_nil _

omit [Named ι] in
theorem Recorded.about_deferral {c : Controller} {before after : State κ} {raw : String}
    {later : List Log.Entry}
    (hrecorded : Recorded c before (.country raw : Operation ι κ σ) after later) :
    Log.about ["Not ready, deferring push"] later =
      if before.ready then [] else [.pushDeferred (c.active after)] := by
  cases hrecorded with
  | country =>
    split
    · rfl
    · rfl
  | other _ hother => exact absurd rfl (hother raw)

theorem step_logged (env : Environment ι κ σ) (c : Controller) (w : World ι κ σ)
    (op : Operation ι κ σ) : Record.Logged env c ⟨w, op, step env c w op⟩ := by
  have hrecorded := stage_recorded env c w op
  have hown {messages : List String} (hother : ∀ m ∈ stageMessages, m ∉ messages) :
      Log.about messages (Record.ownLog env c ⟨w, op, step env c w op⟩) =
        Log.about messages (Record.pushLog env c ⟨w, op, step env c w op⟩) := by
    rw [ownLog_eq, Log.about_append,
      Log.about_eq_nil fun e he => hother _ (hrecorded.message e he), List.nil_append]
  have hpushed := (hown (by decide)).trans (Record.about_pushLog_of_pushed env c _)
  refine ⟨?_, ?_⟩
  · rintro raw ⟨rfl⟩
    have hdeferral : Log.about ["Not ready, deferring push"]
        (Record.ownLog env c ⟨w, .country raw, step env c w (.country raw)⟩) =
          if w.state.ready then []
          else [.pushDeferred (c.active (stage env c w (.country raw)).1.state)] := by
      rw [ownLog_eq, Log.about_append, hrecorded.about_deferral,
        Record.about_pushLog_of_other env c _ (by decide), List.append_nil]
    rw [hdeferral, hpushed]
    cases hready : w.state.ready with
    | false => exact .inl ⟨rfl, rfl, rfl⟩
    | true =>
      refine .inr ⟨rfl, rfl, ?_⟩
      simp only [Operation.pushes, true_and]
      split
      · rfl
      · rfl
  · intro e he
    rw [hpushed] at he
    obtain ⟨⟨hpush, hcalm⟩, he⟩ := List.mem_ite_nil_right.1 he
    obtain rfl := List.mem_singleton.1 he
    obtain ⟨_, hoffers, _⟩ := step_of_calm env c w op hpush hcalm
    have hlog := Record.pushLog_of_calm env c ⟨w, op, step env c w op⟩ hpush hcalm
    have hverdicts := env.verdicts_of_calm (c.active (step env c w op).world.state)
      w.registry.entries w.outside (by simpa [Record.interfacePanic, hpush] using hcalm)
    have hfailed := env.about_failed_verdicts (c.active (step env c w op).world.state)
      w.registry.entries w.outside
    have hall : Log.about verdictMessages (Record.ownLog env c ⟨w, op, step env c w op⟩) =
        env.verdicts (c.active (step env c w op).world.state) w.registry.entries w.outside := by
      rw [hown (by decide), hlog, Log.about_append, env.about_verdicts]
      exact List.append_nil _
    have hsome : Log.about ["Failed to apply country code"]
          (Record.ownLog env c ⟨w, op, step env c w op⟩) =
        Log.about ["Failed to apply country code"]
          (env.verdicts (c.active (step env c w op).world.state) w.registry.entries w.outside) := by
      rw [hown (by decide), hlog, Log.about_append]
      exact List.append_nil _
    have hcount := congrArg List.length hverdicts
    have hfailedCount := congrArg List.length hfailed
    rw [List.length_map, List.length_map] at hcount hfailedCount
    refine ⟨?_, ?_, ?_⟩
    · rw [hall, hverdicts, hoffers, List.map_map]
      rfl
    · rw [hall, hcount]
      rfl
    · rw [hsome, hfailedCount]
      rfl

/-- After every operation, be it one that panicked, what the controller has written to the log tells
readiness, the active code and the driver's code, and each of its calls is accounted for there.
Interfaces that write to the log change nothing of this. If they do not pose as the controller, the
entries under its mark are the ones to read. -/
theorem log_tells_state (env : Environment ι κ σ) (c : Controller) (registry : Registry ι)
    (network : Option (Option String)) (outside : σ) (ops : List (Operation ι κ σ)) :
    (∀ n, (run env c (start registry network outside) (ops.take n)).1.state.ToldBy c
        (ownLog env c (start registry network outside) (ops.take n))) ∧
      (∀ r ∈ history env c (start registry network outside) ops,
        r.Logged env c ∧
          ∃ t, step env.silent c r.before r.operation = { r.call with trace := t }) ∧
      (env.Discreet → ∀ n, ownLog env c (start registry network outside) (ops.take n) =
        (creationTrace c ++
          (run env c (start registry network outside) (ops.take n)).2).controllerLog) := by
  refine ⟨fun n => ?_, ?_, fun hdiscreet n => run_ownLog_of_discreet hdiscreet c _ _⟩
  · exact run_toldBy env c _ _ (start_toldBy c registry network outside)
  · exact forall_mem_history fun before op =>
      ⟨step_logged env c before op, step_silent env c before op⟩

theorem fleet_discreet : Fleet.environment.Discreet := by
  intro m code modes entry hlog
  simp [Fleet.environment, Fleet.Member.apply, Fleet.Setup.actions] at hlog

/-- Two interfaces, one that refuses codes and one that panics, and a network source. -/
def auditedWorld : World Fleet.Member Fleet.Listener Fleet.Modes :=
  start ⟨[⟨some 0, { name := "wlan0" }⟩, ⟨some 1, { name := "wlan1" }⟩]⟩ (some (some "jp"))
    [("wlan0", .reject), ("wlan1", .panic)]

/-- A withdrawal that is ignored, a push that the second interface cuts, and one that a listener
cuts. -/
def auditedRun : List Fleet.Operation :=
  [.country " ", .ready true, .adjust (Fleet.setMode "wlan1" .ok), .listen ⟨0, true⟩, .country "de"]

theorem log_tells_state_of_auditedRun :
    (run Fleet.environment sampleController auditedWorld auditedRun).1.state.ToldBy sampleController
        (creationTrace sampleController ++
          (run Fleet.environment sampleController auditedWorld auditedRun).2).controllerLog ∧
      Log.last? ["Country code pushed to driver"] "country_code"
          (creationTrace sampleController ++
            (run Fleet.environment sampleController auditedWorld auditedRun).2).controllerLog =
        some (.plain "DE") ∧
      ∃ r ∈ history Fleet.environment sampleController auditedWorld auditedRun,
        r.call.result = none ∧ r.Logged Fleet.environment sampleController := by
  obtain ⟨htold, hlogged, hown⟩ := log_tells_state Fleet.environment sampleController
    ⟨[⟨some 0, { name := "wlan0" }⟩, ⟨some 1, { name := "wlan1" }⟩]⟩ (some (some "jp"))
    [("wlan0", .reject), ("wlan1", .panic)] auditedRun
  refine ⟨?_, by decide, ⟨_, List.mem_of_getElem? (i := 4) rfl, by decide, ?_⟩⟩
  · have hend := htold auditedRun.length
    rw [hown fleet_discreet, List.take_length] at hend
    exact hend
  · exact (hlogged _ (List.mem_of_getElem? (i := 4) rfl)).1

end Controller

end Regulatory
