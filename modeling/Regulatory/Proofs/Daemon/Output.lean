import Regulatory.Proofs.Controller.Clock
import Regulatory.Proofs.Daemon.Configuration
import Regulatory.Proofs.Json

/-!
What the daemon prints: for each snapshot asked for, the one of a controller that is called directly
with the requests before.
-/

namespace Regulatory.Daemon

open Controller EventLoop

/-- The snapshots that a controller over the interfaces of some names gives to some requests. Times
do not count, neither the readings of the clock nor how far the loop is behind with its queue. -/
structure Shows (names : List String) (c : Controller) (requests : List Request)
    (shown : List Snapshot) : Prop where
  direct (clock : Nat → Nat) : shown.map Snapshot.timeless =
    (snapshotsOf (environment clock) c (initial names) requests).map Snapshot.timeless
  inTurn (clock : Nat → Nat) : ∃ moves, Paced clock c (initial names) requests moves
  paced (clock : Nat → Nat) (moves : List Move)
    (hpaced : Paced clock c (initial names) requests moves) : shown.map Snapshot.timeless =
      (((EventLoop.start (initial names)).loop.run (environment clock) c moves).replies.filterMap
        Reply.snapshot?).map Snapshot.timeless
  report (s : Snapshot) (hs : s ∈ shown) (p : PushReport) (hp : s.lastPush = some p) :
    p.attempted = names.length ∧ p.failed = []

/-- What a daemon prints whose arguments lead to the configuration `config`. -/
structure Printing (clock : Nat → Nat) (contentOf : String → Option (List UInt8))
    (args : List String) (config : Config) (c : Controller) : Prop where
  controller : config.controller = .ok c
  lines (input : List UInt8) : Lines input (splitLines input)
  printed (input : List UInt8) :
    ∃ shown, Shows config.interfaces c (requestsOf (splitLines input)) shown ∧
      (run clock contentOf args input).printed = shown.map shownLine
  /-- Each snapshot is one line of the output. -/
  framed (input : List UInt8) (line : String)
    (hline : line ∈ (run clock contentOf args input).printed) : '\n' ∉ line.toList
  ignored (input input' : List UInt8)
    (hsame : ((splitLines input).filter fun line => !isIgnored line) =
      (splitLines input').filter fun line => !isIgnored line) :
    (run clock contentOf args input).printed = (run clock contentOf args input').printed ∧
      (run clock contentOf args input).exitCode = (run clock contentOf args input').exitCode
  /-- What stands behind the end of a line that quits is not looked at. -/
  quit (bytes rest rest' : List UInt8)
    (hquit : ∃ line ∈ splitLines (bytes ++ [10]), commandOf? line = some .quit) :
    run clock contentOf args (bytes ++ 10 :: rest) =
      run clock contentOf args (bytes ++ 10 :: rest')

theorem snapshotsOf_clock (clock clock' : Nat → Nat) (c : Controller) (w : World)
    (requests : List Request) :
    (snapshotsOf (environment clock) c w requests).map Snapshot.timeless =
      (snapshotsOf (environment clock') c w requests).map Snapshot.timeless := by
  unfold snapshotsOf
  rw [List.map_filterMap, List.map_filterMap]
  congr 1
  funext n
  have hrun := (run_clock (environment clock) clock' c (w := w) (v := w) rfl
    (calls (requests.take n))).1
  have hstate := congrArg Controller.World.state hrun
  split
  · have hsnapshot := congrArg c.snapshot hstate
    exact congrArg some hsnapshot
  · rfl

theorem shows_snapshotsOf (clock : Nat → Nat) (names : List String) (c : Controller)
    (requests : List Request) :
    Shows names c requests (snapshotsOf (environment clock) c (initial names) requests) := by
  constructor
  · intro clock'
    exact snapshotsOf_clock clock clock' c (initial names) requests
  · intro clock'
    exact exists_paced clock' c (initial_kept names) requests
  · intro clock' moves hpaced
    rw [snapshots_of_paced clock' c (initial_kept names) hpaced]
    exact snapshotsOf_clock clock clock' c (initial names) requests
  · intro s hs p hp
    obtain ⟨n, _, hn⟩ := List.mem_filterMap.1 hs
    have hkept := run_kept clock c (initial_kept names) (requests.take n)
    split at hn
    · cases hn
      exact hkept.report p hp
    · cases hn

theorem printing_of_loads (clock : Nat → Nat) {contentOf : String → Option (List UInt8)}
    {args : List String} {config : Config} (hversion : "--version-json" ∉ args)
    (hloads : Loads contentOf args config) :
    ∃ c, Printing clock contentOf args config c := by
  obtain ⟨c, hcontroller, hrun⟩ := run_of_loads clock hversion hloads
  refine ⟨c, hcontroller, lines_splitLines, ?_, ?_, ?_, ?_⟩
  · intro input
    exact ⟨_, shows_snapshotsOf clock config.interfaces c _, (hrun input).1⟩
  · intro input line hline
    rw [(hrun input).1] at hline
    obtain ⟨s, _, rfl⟩ := List.mem_map.1 hline
    simpa [shownLine] using s.framed_json.not_mem
  · intro input input' hsame
    obtain ⟨hprinted, _, hexit⟩ := hrun input
    obtain ⟨hprinted', _, hexit'⟩ := hrun input'
    obtain ⟨hrequests, hfault⟩ := filter_isIgnored (splitLines input)
    obtain ⟨hrequests', hfault'⟩ := filter_isIgnored (splitLines input')
    rw [hsame] at hrequests hfault
    rw [hprinted, hprinted', hexit, hexit', ← hrequests, ← hfault, hrequests', hfault']
    exact ⟨rfl, rfl⟩
  · intro bytes rest rest' hquit
    obtain ⟨started, hstart, _⟩ := start_of_controller clock hcontroller
    rw [run_of_started clock hversion hloads hstart, run_of_started clock hversion hloads hstart,
      splitLines_append bytes rest, splitLines_append bytes rest', run_session, run_session,
      takeLines_of_quit clock hquit, takeLines_of_quit clock hquit]

/-- A file that names one interface twice. -/
def twiceFile : List UInt8 :=
  "interfaces=['wlan0','wlan0']\n[regulatory]\ndefault_country_code=' gb '".toList.flatMap
    String.utf8EncodeChar

def twiceConfig : Config where
  regulatory := { defaultCode := " gb " }
  interfaces := ["wlan0", "wlan0"]

/-- Three requests and two lines without one. The last line quits, and lacks its end. -/
def twiceInput : List UInt8 :=
  "country jp\r\n \nready on\nreboot\ndump\nquit".toList.flatMap String.utf8EncodeChar

theorem printing_of_twiceFile :
    "--version-json" ∉ ["regdomain-node", "--config", "twice.toml", "--config"] ∧
      Loads (fun _ => some twiceFile) ["regdomain-node", "--config", "twice.toml", "--config"]
        twiceConfig ∧
      (∃ c, Printing (fun _ => 0) (fun _ => some twiceFile)
        ["regdomain-node", "--config", "twice.toml", "--config"] twiceConfig c) ∧
      requestsOf (splitLines twiceInput) = [.country "jp", .ready true, .dump] := by
  have hload : Config.load (some twiceFile) = .ok twiceConfig := by
    have hsome : (Config.load (some twiceFile)).toOption = some twiceConfig := by decide +kernel
    cases hresult : Config.load (some twiceFile) with
    | ok config =>
      rw [hresult] at hsome
      exact congrArg Except.ok (Option.some.inj hsome)
    | error cause =>
      rw [hresult] at hsome
      cases hsome
  have hloads : Loads (fun _ => some twiceFile)
      (["regdomain-node"] ++ "--config" :: "twice.toml" :: ["--config"]) twiceConfig :=
    .file (by decide) hload
  exact ⟨by decide, hloads, printing_of_loads (fun _ => 0) (by decide) hloads, by decide +kernel⟩

end Regulatory.Daemon
