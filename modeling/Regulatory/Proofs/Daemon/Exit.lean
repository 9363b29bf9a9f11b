import Regulatory.Proofs.Daemon.Configuration

/-!
How the daemon ends: with the version, with a configuration that does not load, with a line that it
cannot read, or well. To end well it waits for its loop, which comes to its end because nothing that
the daemon can be asked for makes the loop stop before.
-/

namespace Regulatory.Daemon

open Controller EventLoop

/-- How a daemon that has started comes to its end by way of its loop. `d` is the daemon after the
last line that it takes, still with its handle, and `next` is how this line has it go on. -/
structure Awaits (clock : Nat → Nat) (config : Config) (c : Controller) (input : List UInt8)
    (outcome : Outcome) (d : Running) (next : Next) : Prop where
  /-- In whatever pieces the input comes in. -/
  taken : ∃ started, start clock config = .ok started ∧
    ∀ pieces : List (List UInt8), pieces.flatten = input →
      ((takePieces (record clock) [] started.daemon pieces).run
        { log := started.log }).1 = (d, next)
  controller : d.controller = c
  /-- By then the controller has been called for every request. -/
  served : d.loop.world = (Controller.run (environment clock) c (initial config.interfaces)
    (calls (requestsOf (splitLines input)))).1
  /-- To end well, the daemon has to find its loop at the end. -/
  exit : outcome.exitCode = 0 ↔
    next.error? = none ∧ (close clock d).daemon.loop.status = .finished
  finished : (close clock d).daemon.loop.status = .finished
  drained : (close clock d).daemon.loop.queue = []

/-- How a daemon ends that has started with the configuration `config`. -/
structure Started (clock : Nat → Nat) (contentOf : String → Option (List UInt8))
    (args : List String) (config : Config) (c : Controller) : Prop where
  loads : Loads contentOf args config
  controller : config.controller = .ok c
  /-- Whatever is sent, however far the loop is behind, the channel is never found closed. -/
  unclosed (moves : List Move) (hown : ∀ m ∈ moves, Own m) (r : Reply)
    (hr : r ∈ ((EventLoop.start (initial config.interfaces)).loop.run (environment clock) c
      moves).replies) : r ≠ .closed ∧ ∀ n, r ≠ .discarded n
  /-- Once the handle is dropped the loop serves what is left, and its task ends well. -/
  finished (moves : List Move) (hown : ∀ m ∈ moves, Own m) :
    ∃ n, ((EventLoop.start (initial config.interfaces)).loop.run (environment clock) c
      (moves ++ .drop 0 :: List.replicate n .advance)).loop.status = .finished
  awaits (input : List UInt8) :
    ∃ d next, Awaits clock config c input (run clock contentOf args input) d next
  lines (input : List UInt8) : Lines input (splitLines input)
  broken (input : List UInt8) :
    (run clock contentOf args input).exitCode = 1 ↔ Broken (splitLines input)
  well (input : List UInt8) (hreadable : ¬Broken (splitLines input)) :
    (run clock contentOf args input).exitCode = 0 ∧ (run clock contentOf args input).error = none
  /-- The snapshots for all lines before the end are printed, be it a good or a bad one. -/
  printed (input : List UInt8) : (run clock contentOf args input).printed =
    (snapshotsOf (environment clock) c (initial config.interfaces)
      (requestsOf (splitLines input))).map shownLine

/-- The ways in which a daemon ends, depending on its arguments alone and on the file they name. -/
structure Ending (clock : Nat → Nat) (contentOf : String → Option (List UInt8))
    (args : List String) : Prop where
  version (hasks : "--version-json" ∈ args) (input : List UInt8) :
    run clock contentOf args input = { exitCode := 0, printed := [versionLine] }
  /-- The daemon gives up before it has read any input. -/
  refused (hversion : "--version-json" ∉ args) :
    (∃ message, ∀ input, run clock contentOf args input = .failure message) ↔
      Refused contentOf args
  started (hversion : "--version-json" ∉ args) (hloads : ¬Refused contentOf args) :
    ∃ config c, Started clock contentOf args config c
  /-- The loop is waited for, whatever has become of it: a daemon ends well if no line has failed
  and the loop has come to its end, and not otherwise. -/
  waits (d : Running) (lines : List (List UInt8)) (o : Output) :
    ((session (record clock) d lines).run o).1.error? = none ↔
      ((takeLines (record clock) d lines).run o).1.2.error? = none ∧
        (close clock ((takeLines (record clock) d lines).run o).1.1).daemon.loop.status = .finished
  /-- Arguments behind the first path do not count. -/
  later {before : List String} {path : String} {after : List String}
    (hsplit : args = before ++ "--config" :: path :: after) (hfirst : "--config" ∉ before)
    (hversion : "--version-json" ∉ args) {after' : List String}
    (hversion' : "--version-json" ∉ after') (input : List UInt8) :
    run clock contentOf (before ++ "--config" :: path :: after') input =
      run clock contentOf args input

theorem exists_awaits (clock : Nat → Nat) {contentOf : String → Option (List UInt8)}
    {args : List String} {config : Config} {c : Controller} (hversion : "--version-json" ∉ args)
    (hloads : Loads contentOf args config) (hcontroller : config.controller = .ok c)
    (input : List UInt8) :
    ∃ d next, Awaits clock config c input (run clock contentOf args input) d next := by
  obtain ⟨started, hstart, hdaemon⟩ := start_of_controller clock hcontroller
  have hidle : Idle config.interfaces started.daemon.loop := by
    rw [hdaemon]
    exact initial_idle _
  obtain ⟨_, _, hsame, hidle', hworld⟩ :=
    takeLines_taken clock hidle (splitLines input) { log := started.log }
  have herror := session_error_eq_none_iff clock started.daemon (splitLines input)
    { log := started.log }
  generalize htaken : (takeLines (record clock) started.daemon (splitLines input)).run
    { log := started.log } = taken at hsame hidle' hworld herror
  obtain ⟨hfinished, hdrained⟩ := close_of_alive clock hidle'.toAlive
  refine ⟨taken.1.1, taken.1.2, ⟨started, hstart, ?_⟩, ?_, ?_, ?_, hfinished, hdrained⟩
  · rintro pieces rfl
    rw [takePieces_eq, List.nil_append, htaken]
  · rw [hsame, hdaemon]
  · rw [hdaemon] at hworld
    exact hworld
  · rw [run_of_started clock hversion hloads hstart, ← herror]
    dsimp only
    cases ((session (record clock) started.daemon (splitLines input)).run
      { log := started.log }).1.error? with
    | none | some _ => simp

theorem started_of_loads (clock : Nat → Nat) {contentOf : String → Option (List UInt8)}
    {args : List String} {config : Config} (hversion : "--version-json" ∉ args)
    (hloads : Loads contentOf args config) :
    ∃ c, Started clock contentOf args config c := by
  obtain ⟨c, hcontroller, hrun⟩ := run_of_loads clock hversion hloads
  refine ⟨c, hloads, hcontroller, ?_, ?_, exists_awaits clock hversion hloads hcontroller,
    lines_splitLines, ?_, ?_, fun input => (hrun input).1⟩
  · intro moves hown r hr
    have hheard := (run_alive clock c (start_alive (initial_kept _)) hown).2 r hr
    cases hheard with
    | accepted _ | full | snapshot _ _ => exact ⟨nofun, nofun⟩
  · intro moves hown
    have halive := (run_alive clock c (start_alive (initial_kept config.interfaces)) hown).1
    generalize hloop : ((EventLoop.start (initial config.interfaces)).loop.run
      (environment clock) c moves).loop = l at halive
    have hfinished := (finish_of_dropped clock c (l := { l with handles := [false] })
      halive.running (by simp) halive.kept).1
    refine ⟨l.queue.length + 1, ?_⟩
    rw [EventLoop.run_append, Turn.andThen, hloop, EventLoop.run, EventLoop.step, halive.dropped]
    exact hfinished
  · intro input
    rw [(hrun input).2.2, ← faultOf?_isSome_iff]
    cases faultOf? (splitLines input) with
    | none | some _ => simp
  · intro input hreadable
    obtain ⟨_, herror, hexit⟩ := hrun input
    rw [← faultOf?_isSome_iff] at hreadable
    have hnone : faultOf? (splitLines input) = none := by simpa using hreadable
    simp [herror, hexit, hnone]

theorem ending_of_run (clock : Nat → Nat) (contentOf : String → Option (List UInt8))
    (args : List String) : Ending clock contentOf args := by
  constructor
  · intro hasks input
    have hversion : Arguments.asksVersion args = true := by
      simpa [Arguments.asksVersion] using hasks
    rw [run, if_pos hversion]
  · intro hversion
    constructor
    · rintro ⟨message, hfailure⟩
      obtain ⟨config, hloads⟩ | hrefused := loads_or_refused contentOf args
      · -- Without input the daemon would end well.
        obtain ⟨c, hstarted⟩ := started_of_loads clock hversion hloads
        have hempty : splitLines [] = [] := rfl
        have hreadable : ¬Broken (splitLines []) := by
          rw [hempty, ← faultOf?_isSome_iff]
          simp [faultOf?]
        have hwell := (hstarted.well [] hreadable).1
        rw [hfailure []] at hwell
        cases hwell
      · exact hrefused
    · intro hrefused
      obtain ⟨message, hconfigure⟩ := configure_of_refused hrefused
      refine ⟨message, fun input => ?_⟩
      simp [run, asksVersion_eq_false hversion, hconfigure]
  · intro hversion hloads
    obtain ⟨config, hloads⟩ := (loads_or_refused contentOf args).resolve_right hloads
    obtain ⟨c, hstarted⟩ := started_of_loads clock hversion hloads
    exact ⟨config, c, hstarted⟩
  · exact session_error_eq_none_iff clock
  · rintro before path after rfl hfirst hversion after' hversion' input
    have hversion'' : "--version-json" ∉ before ++ "--config" :: path :: after' := by
      simp only [List.mem_append, List.mem_cons, not_or] at hversion ⊢
      exact ⟨hversion.1, hversion.2.1, hversion.2.2.1, hversion'⟩
    have hconfigure : configure contentOf (before ++ "--config" :: path :: after') =
        configure contentOf (before ++ "--config" :: path :: after) := by
      simp [configure, configPath?_append hfirst, Arguments.configPath?]
    simp only [run, asksVersion_eq_false hversion, asksVersion_eq_false hversion'', hconfigure]

/-- A snapshot is asked for, and then comes a byte that no text has. The line after it would
quit. -/
def brokenInput : List UInt8 :=
  [100, 117, 109, 112, 10, 0xff, 10, 113, 117, 105, 116, 10]

/-- A daemon with a loop whose task has panicked. -/
def unwoundDaemon : Running where
  controller := sampleController
  loop := { world := initial ["wlan0"], status := .unwound }

theorem ending_of_brokenInput :
    "--version-json" ∉ ["regdomain-node"] ∧ ¬Refused (fun _ => none) ["regdomain-node"] ∧
      Broken (splitLines brokenInput) ∧
      (run (fun _ => 0) (fun _ => none) ["regdomain-node"] brokenInput).exitCode = 1 ∧
      (run (fun _ => 0) (fun _ => none) ["regdomain-node"] brokenInput).printed.length = 1 ∧
      ¬Broken (splitLines (brokenInput.take 5)) ∧
      (run (fun _ => 0) (fun _ => none) ["regdomain-node"] (brokenInput.take 5)).exitCode = 0 ∧
      ((session (record fun _ => 0) unwoundDaemon []).run {}).1.error? ≠ none := by
  have hversion : "--version-json" ∉ ["regdomain-node"] := by decide
  have hloads : ¬Refused (fun _ => none) ["regdomain-node"] := by
    intro hrefused
    have hmem := hrefused.mem
    simp at hmem
  have hbroken : Broken (splitLines brokenInput) := by
    rw [← faultOf?_isSome_iff]
    decide +kernel
  have hreadable : ¬Broken (splitLines (brokenInput.take 5)) := by
    rw [← faultOf?_isSome_iff]
    decide +kernel
  have hrequests : requestsOf (splitLines brokenInput) = [.dump] := by decide +kernel
  have hending := ending_of_run (fun _ => 0) (fun _ => none) ["regdomain-node"]
  obtain ⟨config, c, hstarted⟩ := hending.started hversion hloads
  have hunwound : (close (fun _ => 0) unwoundDaemon).daemon.loop.status ≠ .finished := by decide
  refine ⟨hversion, hloads, hbroken, (hstarted.broken brokenInput).2 hbroken, ?_, hreadable,
    (hstarted.well _ hreadable).1, fun hnone => hunwound ((hending.waits _ _ _).1 hnone).2⟩
  rw [hstarted.printed, hrequests, snapshotsOf_cons]
  rfl

end Regulatory.Daemon
