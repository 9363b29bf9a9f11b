import Regulatory.Proofs.Daemon.Session

/-!
The start of the daemon: which arguments lead to a configuration, and what comes of one that loads.
-/

namespace Regulatory.Daemon

open Controller EventLoop

variable {contentOf : String → Option (List UInt8)}

/-- The arguments name no file, or the first file they name gives this configuration. What stands
behind its path is of no account. -/
inductive Loads (contentOf : String → Option (List UInt8)) : List String → Config → Prop
  | standard {args : List String} (hnone : "--config" ∉ args) : Loads contentOf args .standard
  | file {before : List String} {path : String} {after : List String} {config : Config}
      (hfirst : "--config" ∉ before) (hload : Config.load (contentOf path) = .ok config) :
      Loads contentOf (before ++ "--config" :: path :: after) config

/-- The first `--config` comes last, or the file named right after it does not load. -/
inductive Refused (contentOf : String → Option (List UInt8)) : List String → Prop
  | pathless {before : List String} (hfirst : "--config" ∉ before) :
      Refused contentOf (before ++ ["--config"])
  | unloadable {before : List String} {path : String} {after : List String}
      (hfirst : "--config" ∉ before) (hload : ∀ config, Config.load (contentOf path) ≠ .ok config) :
      Refused contentOf (before ++ "--config" :: path :: after)

theorem Refused.mem {args : List String} (hrefused : Refused contentOf args) :
    "--config" ∈ args := by
  cases hrefused with
  | pathless _ => simp
  | unloadable _ _ => simp

theorem asksVersion_eq_false {args : List String} (hversion : "--version-json" ∉ args) :
    Arguments.asksVersion args = false := by
  simpa [Arguments.asksVersion] using hversion

theorem configPath?_append {before : List String} (hfirst : "--config" ∉ before)
    (rest : List String) :
    Arguments.configPath? (before ++ rest) = Arguments.configPath? rest := by
  induction before with
  | nil => rfl
  | cons arg before ih =>
    obtain ⟨harg, hbefore⟩ := not_or.1 (mt List.mem_cons.2 hfirst)
    rw [List.cons_append, Arguments.configPath?.eq_def]
    simp only [if_neg (Ne.symm harg), ih hbefore]

theorem loads_or_refused (contentOf : String → Option (List UInt8)) (args : List String) :
    (∃ config, Loads contentOf args config) ∨ Refused contentOf args := by
  by_cases hmem : "--config" ∈ args
  · obtain ⟨before, rest, rfl, hfirst⟩ := List.eq_append_cons_of_mem hmem
    cases rest with
    | nil => exact .inr (.pathless hfirst)
    | cons path after =>
      by_cases hload : ∃ config, Config.load (contentOf path) = .ok config
      · obtain ⟨config, hload⟩ := hload
        exact .inl ⟨config, .file hfirst hload⟩
      · exact .inr (.unloadable hfirst (not_exists.1 hload))
  · exact .inl ⟨.standard, .standard hmem⟩

theorem configure_of_loads {args : List String} {config : Config}
    (hloads : Loads contentOf args config) : configure contentOf args = .ok config := by
  cases hloads with
  | standard hnone =>
    have hpath := configPath?_append hnone []
    rw [List.append_nil] at hpath
    rw [configure, hpath]
    rfl
  | file hfirst hload =>
    rw [configure, configPath?_append hfirst]
    change (Config.load _).mapError _ = _
    rw [hload]
    rfl

theorem configure_of_refused {args : List String} (hrefused : Refused contentOf args) :
    ∃ message, configure contentOf args = .error message := by
  cases hrefused with
  | pathless hfirst =>
    rw [configure, configPath?_append hfirst]
    exact ⟨_, rfl⟩
  | @unloadable _ path after hfirst hload =>
    rw [configure, configPath?_append hfirst]
    change ∃ message, (Config.load (contentOf path)).mapError _ = .error message
    cases hresult : Config.load (contentOf path) with
    | ok config => exact absurd hresult (hload config)
    | error cause => exact ⟨_, rfl⟩

variable (clock : Nat → Nat)

/-- The world of a daemon that has not been requested anything. -/
def initial (names : List String) : World :=
  Controller.start (fleetOf names) none ()

theorem initial_kept (names : List String) : Kept names (initial names) :=
  ⟨rfl, nofun⟩

theorem initial_idle (names : List String) : Idle names (EventLoop.start (initial names)).loop :=
  ⟨start_alive (initial_kept names), rfl⟩

theorem run_add (c : Controller) (registry : Registry LoggedInterface) (names : List String) :
    (Controller.run (environment clock) c (Controller.start registry none ())
        (names.map fun name => .add ⟨name⟩)).1 =
      Controller.start ⟨registry.entries ++ names.map LoggedInterface.mk⟩ none () := by
  induction names generalizing registry with
  | nil => simp [Controller.run]
  | cons name rest ih =>
    refine (ih (registry.add ⟨name⟩)).trans ?_
    simp [Registry.add]

theorem start_of_controller {config : Config} {c : Controller}
    (hcontroller : config.controller = .ok c) :
    ∃ started, start clock config = .ok started ∧
      started.daemon = ⟨c, (EventLoop.start (initial config.interfaces)).loop⟩ := by
  have hadded := run_add clock c ∅ config.interfaces
  rw [start, hcontroller]
  refine ⟨_, rfl, ?_⟩
  exact congrArg (fun w => (⟨c, (EventLoop.start w).loop⟩ : Running)) hadded

theorem valid_of_loads {args : List String} {config : Config}
    (hloads : Loads contentOf args config) : config.validate = .ok () := by
  cases hloads with
  | standard _ => rfl
  | file _ hload =>
    obtain ⟨_, hdocument⟩ := Config.exists_document_of_load hload
    exact (Config.ofDocument_eq_ok_iff.1 hdocument).2

/-- A daemon whose configuration loads is a session, once it has started. -/
theorem run_of_started {args : List String} {config : Config} {started : Served}
    (hversion : "--version-json" ∉ args) (hloads : Loads contentOf args config)
    (hstart : start clock config = .ok started) (input : List UInt8) :
    run clock contentOf args input =
      let ended := (session (record clock) started.daemon (splitLines input)).run
        { log := started.log }
      { exitCode := if ended.1.error?.isSome then 1 else 0
        printed := ended.2.printed
        log := ended.2.log
        jsonLog := config.logging.json
        error := ended.1.error? } := by
  rw [run, if_neg (by simp [asksVersion_eq_false hversion])]
  simp only [configure_of_loads hloads, hstart]
  rfl

theorem run_of_loads {args : List String} {config : Config} (hversion : "--version-json" ∉ args)
    (hloads : Loads contentOf args config) :
    ∃ c, config.controller = .ok c ∧ ∀ input,
      (run clock contentOf args input).printed =
          (snapshotsOf (environment clock) c (initial config.interfaces)
            (requestsOf (splitLines input))).map shownLine ∧
        (run clock contentOf args input).error =
          (faultOf? (splitLines input)).map Text.Utf8.Fault.message ∧
        (run clock contentOf args input).exitCode =
          if (faultOf? (splitLines input)).isSome then 1 else 0 := by
  obtain ⟨c, hcontroller⟩ := config.exists_controller_iff.2 (valid_of_loads hloads)
  refine ⟨c, hcontroller, fun input => ?_⟩
  obtain ⟨started, hstart, hdaemon⟩ := start_of_controller clock hcontroller
  have hidle : Idle config.interfaces started.daemon.loop := by
    rw [hdaemon]
    exact initial_idle _
  obtain ⟨hprinted, herror⟩ :=
    session_spec clock hidle (splitLines input) { log := started.log }
  rw [run_of_started clock hversion hloads hstart]
  refine ⟨?_, herror, ?_⟩
  · have hdue : due clock started.daemon (splitLines input) =
        snapshotsOf (environment clock) c (initial config.interfaces)
          (requestsOf (splitLines input)) := by
      rw [due, hdaemon]
      rfl
    rw [hdue] at hprinted
    exact hprinted
  · simp only [herror, Option.isSome_map]

end Regulatory.Daemon
