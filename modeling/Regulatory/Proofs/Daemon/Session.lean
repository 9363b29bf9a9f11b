import Regulatory.Proofs.Daemon.Lines
import Regulatory.Proofs.Daemon.Serving

/-!
A session of the daemon, from line to line to its end, where it waits for its loop. In which pieces
the lines come in does not matter.
-/

namespace Regulatory.Daemon

open Controller EventLoop

/-- The line that shows a snapshot. -/
def shownLine (s : Snapshot) : String :=
  String.ofList s.json

variable (clock : Nat → Nat)

/-- A request of an idle daemon is served before the daemon goes on. -/
theorem request_of_idle {names : List String} {d : Running} (hidle : Idle names d.loop)
    (r : Request) : request clock r d =
      { daemon := { d with loop := servedLoop clock d.controller r d.loop }
        printed :=
          (if r = .dump then [d.controller.snapshot d.loop.world.state] else []).map shownLine
        log := Trace.log (.logged (.requestReceived r) ::
          (serve (environment clock) d.controller r d.loop.world).trace) } := by
  have hsent : d.loop.sendWaiting (environment clock) d.controller 0 r =
      { loop := sentLoop r d.loop, replies := [.accepted d.loop.accepted] } := by
    rw [sendWaiting, if_pos (by simp [hidle.queue, capacity]), hidle.send]
  have hdrained : (sentLoop r d.loop).drain (environment clock) d.controller =
      (sentLoop r d.loop).advance (environment clock) d.controller := by
    simp [drain, sentLoop, EventLoop.run, EventLoop.step, Turn.andThen]
  simp only [request, hsent, Turn.andThen, hdrained, hidle.advance]
  by_cases hdump : r = .dump
  · simp [hdump, ofReply, shownLine]
  · simp [hdump, ofReply]

/-- The ways in which the daemon takes a line. -/
inductive LineEnds (line : List UInt8) (d : Running) : Served → Prop
  | unreadable (fault : Text.Utf8.Fault) (hdecode : Text.Utf8.decode line = .error fault) :
      LineEnds line d { daemon := d, next := .fail fault.message }
  /-- At most a log entry is made of it. -/
  | ignored (log : List Log.Entry) (hignored : isIgnored line = true) :
      LineEnds line d { daemon := d, log := log }
  | quit (hcommand : commandOf? line = some .quit) :
      LineEnds line d { daemon := d, next := .quit }
  | requested (command : Command) (r : Request)
      (hcommand : commandOf? line = some command) (hrequest : command.request? = some r) :
      LineEnds line d (request clock r d)

theorem takeLine_ends (line : List UInt8) (d : Running) :
    LineEnds clock line d (takeLine clock line d) := by
  unfold takeLine
  cases hdecode : Text.Utf8.decode line with
  | error fault => exact .unreadable fault hdecode
  | ok text =>
    have hcommand : commandOf? line = (Command.parse (String.ofList text)).toOption := by
      simp [commandOf?, hdecode]
    simp only
    split
    · rename_i hblank
      exact .ignored [] (by simp [isIgnored, hdecode, hblank])
    · cases hparse : Command.parse (String.ofList text) with
      | error reason => exact .ignored _ (by simp [isIgnored, hdecode, hparse, Except.toOption])
      | ok command =>
        rw [hparse] at hcommand
        cases command with
        | quit => exact .quit hcommand
        | ready value => exact .requested (.ready value) _ hcommand rfl
        | country raw => exact .requested (.country raw) _ hcommand rfl
        | dump => exact .requested .dump _ hcommand rfl

/-- What comes of a line when steps are recorded. -/
theorem run_takeLines_cons (line : List UInt8) (rest : List (List UInt8)) (d : Running)
    (o : Output) :
    (takeLines (record clock) d (line :: rest)).run o =
      if (takeLine clock line d).next = .goOn then
        (takeLines (record clock) (takeLine clock line d).daemon rest).run
          (o.add (takeLine clock line d))
      else (((takeLine clock line d).daemon, (takeLine clock line d).next),
        o.add (takeLine clock line d)) := by
  have hrecord : (record clock (fun clock => takeLine clock line) d).run o =
      pure (takeLine clock line d, o.add (takeLine clock line d)) := rfl
  rw [takeLines, StateT.run_bind, hrecord, pure_bind]
  cases (takeLine clock line d).next with
  | goOn => rfl
  | quit | fail _ => rfl

/-- The snapshots that the daemon has to show for some lines. -/
def due (d : Running) (lines : List (List UInt8)) : List Snapshot :=
  snapshotsOf (environment clock) d.controller d.loop.world (requestsOf lines)

/-- What an idle daemon `d` comes to by some lines. -/
structure Taken (names : List String) (d : Running) (lines : List (List UInt8)) (o : Output)
    (result : (Running × Next) × Output) : Prop where
  printed : result.2.printed = o.printed ++ (due clock d lines).map shownLine
  error : result.1.2.error? = (faultOf? lines).map Text.Utf8.Fault.message
  controller : result.1.1.controller = d.controller
  idle : Idle names result.1.1.loop
  world : result.1.1.loop.world =
    (Controller.run (environment clock) d.controller d.loop.world (calls (requestsOf lines))).1

/-- A line that the daemon does not go on after leaves it as it is. -/
theorem taken_of_stop {names : List String} {d : Running} (hidle : Idle names d.loop)
    {line : List UInt8} (hgoes : goesOn line = false) (rest : List (List UInt8)) {next : Next}
    (herror : next.error? = (faultIn? line).map Text.Utf8.Fault.message) (o : Output) :
    Taken clock names d (line :: rest) o ((d, next), o.add { daemon := d, next }) := by
  have hnone : requestsOf (line :: rest) = [] := by simp [requestsOf_cons, hgoes]
  refine ⟨?_, ?_, rfl, hidle, by rw [hnone]; rfl⟩
  · simp [Output.add, due, hnone, snapshotsOf]
  · simp [faultOf?_cons, hgoes, herror]

theorem takeLines_taken {names : List String} {d : Running} (hidle : Idle names d.loop)
    (lines : List (List UInt8)) (o : Output) :
    Taken clock names d lines o ((takeLines (record clock) d lines).run o) := by
  induction lines generalizing d o with
  | nil => exact ⟨(List.append_nil _).symm, rfl, rfl, hidle, rfl⟩
  | cons line rest ih =>
    have hend := takeLine_ends clock line d
    rw [run_takeLines_cons]
    generalize takeLine clock line d = s at hend ⊢
    cases hend with
    | unreadable fault hdecode =>
      have hfault : faultIn? line = some fault := by simp [faultIn?, hdecode]
      have hgoes : goesOn line = false := by simp [goesOn, isUtf8, hfault]
      rw [if_neg (by simp)]
      exact taken_of_stop clock hidle hgoes rest (by rw [hfault]; rfl) o
    | ignored log hignored =>
      obtain ⟨hgoes, hnone⟩ := goesOn_of_isIgnored hignored
      have hsame : requestsOf (line :: rest) = requestsOf rest := by
        simp [requestsOf_cons, hgoes, hnone]
      obtain ⟨hprinted, herror, hcontroller, hidle', hworld⟩ :=
        ih hidle (o.add { daemon := d, log })
      rw [if_pos rfl]
      refine ⟨?_, ?_, hcontroller, hidle', by rw [hsame, hworld]⟩
      · rw [hprinted]
        simp [Output.add, due, hsame]
      · simp [herror, faultOf?_cons, hgoes]
    | quit hcommand =>
      have hfault : faultIn? line = none := by simpa [isUtf8] using isUtf8_of_command hcommand
      have hgoes : goesOn line = false := by simp [goesOn, hcommand]
      rw [if_neg (by simp)]
      exact taken_of_stop clock hidle hgoes rest (by rw [hfault]; rfl) o
    | requested command r hcommand hrequest =>
      have hgoes : goesOn line = true := by
        rw [goesOn_iff, hcommand]
        refine ⟨isUtf8_of_command hcommand, ?_⟩
        rintro ⟨⟩
        cases hrequest
      have hfirst : requestsOf (line :: rest) = r :: requestsOf rest := by
        simp [requestsOf_cons, hgoes, hcommand, hrequest]
      rw [request_of_idle clock hidle r, if_pos rfl]
      obtain ⟨hprinted, herror, hcontroller, hidle', hworld⟩ := ih
        (d := { d with loop := servedLoop clock d.controller r d.loop })
        (hidle.served clock d.controller r) (o.add { daemon := _, printed := _, log := _ })
      refine ⟨?_, ?_, hcontroller, hidle', ?_⟩
      · rw [hprinted]
        simp [Output.add, due, hfirst, snapshotsOf_cons, servedLoop]
      · simp [herror, faultOf?_cons, hgoes]
      · rw [hworld, hfirst, run_calls_cons]
        rfl

/-- The daemon does not get to lines after one that quits. -/
theorem takeLines_of_quit {lines : List (List UInt8)}
    (hquit : ∃ line ∈ lines, commandOf? line = some .quit) (d : Running)
    (later : List (List UInt8)) (o : Output) :
    (takeLines (record clock) d (lines ++ later)).run o =
      (takeLines (record clock) d lines).run o := by
  induction lines generalizing d o with
  | nil => simp at hquit
  | cons line rest ih =>
    rw [List.cons_append, run_takeLines_cons, run_takeLines_cons]
    by_cases hlater : ∃ l ∈ rest, commandOf? l = some .quit
    · rw [ih hlater]
    · have hline : commandOf? line = some .quit := by
        obtain ⟨l, hmem, hl⟩ := hquit
        obtain rfl | hmem := List.mem_cons.1 hmem
        · exact hl
        · exact absurd ⟨l, hmem, hl⟩ hlater
      have hend := takeLine_ends clock line d
      generalize takeLine clock line d = s at hend ⊢
      cases hend with
      | unreadable _ _ | quit _ => rfl
      | ignored _ hignored =>
        rw [(goesOn_of_isIgnored hignored).2] at hline
        cases hline
      | requested command r hcommand hrequest =>
        rw [hcommand] at hline
        cases hline
        cases hrequest

/-- A daemon that drops its handle while its loop is alive finds the loop at its end. -/
theorem close_of_alive {names : List String} {d : Running} (halive : Alive names d.loop) :
    (close clock d).daemon.loop.status = .finished ∧ (close clock d).daemon.loop.queue = [] := by
  rw [close, halive.dropped]
  exact finish_of_dropped clock d.controller halive.running (by simp) halive.kept

/-- Waiting for the loop is no error if and only if the loop has come to its end. -/
theorem close_error_eq_none_iff (d : Running) :
    (close clock d).next.error? = none ↔ (close clock d).daemon.loop.status = .finished := by
  change (ofStatus (close clock d).daemon.loop.status).error? = none ↔ _
  cases (close clock d).daemon.loop.status with
  | finished => exact iff_of_true rfl rfl
  | running | aborted | unwound => exact iff_of_false nofun nofun

theorem run_session (d : Running) (lines : List (List UInt8)) (o : Output) :
    (session (record clock) d lines).run o =
      let taken := (takeLines (record clock) d lines).run o
      if taken.1.2.error?.isSome then (taken.1.2, taken.2)
      else ((close clock taken.1.1).next, taken.2.add (close clock taken.1.1)) := by
  rw [session]
  generalize htaken : takeLines (record clock) d lines = t
  change (conclude (record clock) (t.run o).1.1 (t.run o).1.2).run (t.run o).2 = _
  dsimp only
  cases (t.run o).1.2 with
  | goOn | quit | fail _ => rfl

/-- A session ends well if no line has failed and the loop has come to its end, and not otherwise.
Nothing is assumed of what has become of the loop. -/
theorem session_error_eq_none_iff (d : Running) (lines : List (List UInt8)) (o : Output) :
    ((session (record clock) d lines).run o).1.error? = none ↔
      ((takeLines (record clock) d lines).run o).1.2.error? = none ∧
        (close clock ((takeLines (record clock) d lines).run o).1.1).daemon.loop.status =
          .finished := by
  rw [run_session]
  dsimp only
  cases herror : ((takeLines (record clock) d lines).run o).1.2.error? with
  | some message => simp [herror]
  | none => simpa using close_error_eq_none_iff clock _

/-- The session of an idle daemon shows all that is due, and ends with the fault of the line that
ended it, if there is one. Waiting for the loop adds no error. -/
theorem session_spec {names : List String} {d : Running} (hidle : Idle names d.loop)
    (lines : List (List UInt8)) (o : Output) :
    ((session (record clock) d lines).run o).2.printed =
        o.printed ++ (due clock d lines).map shownLine ∧
      ((session (record clock) d lines).run o).1.error? =
        (faultOf? lines).map Text.Utf8.Fault.message := by
  obtain ⟨hprinted, herror, _, hidle', _⟩ := takeLines_taken clock hidle lines o
  rw [run_session]
  dsimp only
  split
  · exact ⟨hprinted, herror⟩
  · rename_i hnone
    have hclosed := (close_error_eq_none_iff clock _).2 (close_of_alive clock hidle'.toAlive).1
    rw [Option.not_isSome_iff_eq_none] at hnone
    refine ⟨(List.append_nil _).trans hprinted, hclosed.trans ?_⟩
    rw [← herror, hnone]

section Pieces

variable {m : Type → Type} [Monad m] [LawfulMonad m] (perform : Step → Running → m Served)

/-- Later lines are taken where the earlier ones have left the daemon, if it goes on. -/
theorem takeLines_append (lines later : List (List UInt8)) (d : Running) :
    takeLines perform d (lines ++ later) = do
      let (d, next) ← takeLines perform d lines
      match next with
      | .goOn => takeLines perform d later
      | next => return (d, next) := by
  induction lines generalizing d with
  | nil => simp [takeLines]
  | cons line rest ih =>
    rw [List.cons_append, takeLines, takeLines, bind_assoc]
    congr 1
    funext served
    cases served.next with
    | goOn => exact ih served.daemon
    | quit | fail _ => simp

/-- In whatever pieces an input comes in, the daemon takes the lines of the whole. -/
theorem takePieces_eq (pieces : List (List UInt8)) (unfinished : List UInt8) (d : Running) :
    takePieces perform unfinished d pieces =
      takeLines perform d (splitLines (unfinished ++ pieces.flatten)) := by
  induction pieces generalizing unfinished d with
  | nil => rw [List.flatten_nil, List.append_nil, takePieces]
  | cons piece rest ih =>
    rw [List.flatten_cons, ← List.append_assoc, splitLines_splitUnfinished, takeLines_append,
      takePieces, takePiece, bind_assoc]
    congr 1
    funext ⟨d, next⟩
    rw [pure_bind]
    cases next with
    | goOn => exact ih _ d
    | quit | fail _ => rfl

end Pieces

end Regulatory.Daemon
