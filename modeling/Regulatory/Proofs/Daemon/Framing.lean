import Regulatory.Proofs.Daemon.Configuration
import Regulatory.Proofs.Json
import Regulatory.Proofs.Snapshot.Json

/-!
The daemon's dumps on its standard output: a line for each, from which the whole snapshot can be
read back.
-/

namespace Regulatory

namespace Daemon

open Controller EventLoop

/-- The characters on standard output, but for the log. Each line comes with its end. -/
def Outcome.stdout (o : Outcome) : List Char :=
  o.printed.flatMap fun line => line.toList ++ ['\n']

/-- Lines that hold no line end are the lines of a text in which each of them is ended. -/
theorem splitOn_flatMap {lines : List (List Char)} (hframed : ∀ line ∈ lines, Framed line) :
    (lines.flatMap fun line => line ++ ['\n']).splitOn '\n' = lines ++ [[]] := by
  rw [List.splitOn_eq_splitOnP]
  induction lines with
  | nil => rfl
  | cons line rest ih =>
    obtain ⟨hline, hrest⟩ := List.forall_mem_cons.1 hframed
    have hnone : ∀ c ∈ line, (c == '\n') = false := by
      intro c hc
      exact beq_eq_false_iff_ne.2 fun h => hline.not_mem (h ▸ hc)
    rw [List.flatMap_cons, List.append_assoc, List.singleton_append,
      List.splitOnP_append_cons_of_forall_mem hnone '\n' (by decide), ih hrest, List.cons_append]

theorem length_snapshotsOf {ι κ σ : Type} [Named ι] (env : Environment ι κ σ) (c : Controller)
    (w : Controller.World ι κ σ) (requests : List Request) :
    (snapshotsOf env c w requests).length = requests.count .dump := by
  induction requests generalizing w with
  | nil => rfl
  | cons r rest ih =>
    rw [snapshotsOf_cons, List.length_append, ih, List.count_cons, Nat.add_comm]
    by_cases hr : r = .dump
    · simp [hr]
    · simp [hr]

/-- How the dumps of a daemon with the configuration `config` stand on its standard output. -/
structure Framing (clock : Nat → Nat) (contentOf : String → Option (List UInt8))
    (args : List String) (config : Config) (c : Controller) : Prop where
  controller : config.controller = .ok c
  /-- There is one snapshot for each request to dump. -/
  each (input : List UInt8) :
    (snapshotsOf (environment clock) c (initial config.interfaces)
      (requestsOf (splitLines input))).length = (requestsOf (splitLines input)).count .dump
  /-- The lines of standard output are the snapshots, and the last one is ended too. -/
  lines (input : List UInt8) : (run clock contentOf args input).stdout.splitOn '\n' =
    (snapshotsOf (environment clock) c (initial config.interfaces)
      (requestsOf (splitLines input))).map Snapshot.json ++ [[]]

/-- The JSON form gives away the whole snapshot and holds no control character, so that each dump is
one line of standard output and can be read back from it. Codes and names may hold any characters. -/
theorem framing_of_loads :
    (∀ s s' : Snapshot, s.json = s'.json → s = s') ∧ (∀ s : Snapshot, Framed s.json) ∧
      ∀ (clock : Nat → Nat) (contentOf : String → Option (List UInt8)) (args : List String)
        (config : Config), "--version-json" ∉ args → Loads contentOf args config →
          ∃ c, Framing clock contentOf args config c := by
  refine ⟨fun _ _ hsame => Snapshot.json_injective hsame, Snapshot.framed_json, ?_⟩
  intro clock contentOf args config hversion hloads
  obtain ⟨c, hcontroller, hrun⟩ := run_of_loads clock hversion hloads
  refine ⟨c, hcontroller, fun input => length_snapshotsOf _ c _ _, fun input => ?_⟩
  rw [Outcome.stdout, (hrun input).1, List.flatMap_map]
  simp only [shownLine, String.toList_ofList]
  rw [← List.flatMap_map Snapshot.json fun line => line ++ ['\n']]
  refine splitOn_flatMap fun line hline => ?_
  obtain ⟨s, _, rfl⟩ := List.mem_map.1 hline
  exact s.framed_json

/-- A snapshot with a line end, quotes and a backslash in a code and in a name. -/
def escapedSnapshot : Snapshot where
  driver := some ⟨"J\n\"P\\", by decide, by decide, by decide⟩
  telephony := some ⟨"J\n\"P\\", by decide, by decide, by decide⟩
  defaultCode := sampleController.defaultCode
  active := ⟨"J\n\"P\\", by decide, by decide, by decide⟩
  ready := true
  revertOnLoss := false
  telephonyUpdated := some 0
  driverUpdated := some 0
  readyChanged := some 0
  lastPush := some ⟨⟨"J\n\"P\\", by decide, by decide, by decide⟩, 2, ["wlan0\",\"\n"], 0⟩

/-- The snapshot of a controller with two interfaces, one of which refuses the code. -/
def escapedRun : Snapshot :=
  sampleController.snapshot (Controller.run Fleet.environment sampleController
    (Controller.start ⟨[⟨some 0, { name := "wlan0\",\"\n" }⟩, ⟨some 1, { name := "wlan1" }⟩]⟩ none
      [("wlan0\",\"\n", .reject), ("wlan1", .ok)])
    [.country "j\n\"p\\ ", .ready true]).1.state

theorem framing_of_escaped_names :
    (escapedRun.json = escapedSnapshot.json ∧ escapedRun = escapedSnapshot) ∧
      "--version-json" ∉ ["regdomain-node"] ∧
      Loads (fun _ => none) ["regdomain-node"] .standard ∧
      ∃ c, Framing (fun n => n) (fun _ => none) ["regdomain-node"] .standard c := by
  have hsame : escapedRun.json = escapedSnapshot.json := by decide +kernel
  have hloads : Loads (fun _ => none) ["regdomain-node"] .standard := .standard (by decide)
  exact ⟨⟨hsame, framing_of_loads.1 _ _ hsame⟩, by decide, hloads,
    framing_of_loads.2.2 _ _ _ _ (by decide) hloads⟩

end Daemon

end Regulatory
