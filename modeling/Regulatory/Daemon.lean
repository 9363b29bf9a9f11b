import Regulatory.Arguments
import Regulatory.Command
import Regulatory.Config.Load
import Regulatory.EventLoop

/-!
The daemon. It loads a configuration, starts an event loop over interfaces that only log the codes
they are given, and takes commands from its standard input line by line.
-/

namespace Regulatory

/-- An interface that logs every code it is given, and takes it. -/
structure LoggedInterface where
  name : String
deriving DecidableEq, Repr

instance : Named LoggedInterface where
  name i := i.name

namespace Daemon

abbrev Loop := EventLoop LoggedInterface Empty Unit

abbrev Turn := EventLoop.Turn LoggedInterface Empty Unit

def environment (clock : Nat → Nat) : Environment LoggedInterface Empty Unit where
  apply i code outside :=
    (⟨[.log (.applyingCode i.name code)], .applied⟩, outside)
  notify l := nomatch l
  clock := clock

def version : String := "0.1.0"

def protocolVersion : Nat := 1

/-- The line that answers `--version-json`. -/
def versionLine : String :=
  String.ofList <| Json.object
    [("version", Json.string version), ("protocol_version", Json.nat protocolVersion)]

/-- The configuration that the arguments ask for, or the message with which the daemon ends. -/
def configure (contentOf : String → Option (List UInt8)) (args : List String) :
    Except String Config := do
  match ← Arguments.configPath? args with
  | none => return .standard
  | some path => (Config.load (contentOf path)).mapError fun _ => "loading config from " ++ path

structure Running where
  controller : Controller
  loop : Loop

inductive Next where
  | goOn
  | quit
  | fail (message : String)
deriving DecidableEq, Repr

/-- What comes of a line of input: the daemon after it, the lines it printed, its log entries, and
how it goes on. -/
structure Served where
  daemon : Running
  printed : List String := []
  log : List Log.Entry := []
  next : Next := .goOn

/-- The daemon of a configuration before its first line, with its log entries so far. -/
def start (clock : Nat → Nat) (config : Config) : Except ServiceError Served := do
  let controller ← config.controller
  let adding := controller.run (environment clock)
    (Controller.start ∅ none ()) (config.interfaces.map fun name => .add ⟨name⟩)
  let turn := EventLoop.start adding.1
  return {
    daemon := ⟨controller, turn.loop⟩
    log := (adding.2 ++ controller.creationTrace ++ turn.trace).log ++
      [.nodeStarted config.interfaces] }

/-- What a reply to a request means for the daemon that sent it. -/
def ofReply : EventLoop.Reply → List String × Next
  | .snapshot _ s => ([String.ofList s.json], .goOn)
  | .closed | .discarded _ => ([], .fail ServiceError.channelClosed.message)
  | _ => ([], .goOn)

/-- Sends a request and lets the loop serve it. -/
def request (clock : Nat → Nat) (r : Request) (d : Running) : Served :=
  let env := environment clock
  let turn := (d.loop.sendWaiting env d.controller 0 r).andThen fun l => l.drain env d.controller
  let replies := turn.replies.map ofReply
  { daemon := { d with loop := turn.loop }
    printed := replies.flatMap Prod.fst
    log := turn.trace.log
    next := ((replies.map Prod.snd).find? (· ≠ .goOn)).getD .goOn }

/-- Takes one line of input, without its line end. Blank lines are passed over, and lines that are
no command are logged. -/
def takeLine (clock : Nat → Nat) (line : List UInt8) (d : Running) : Served :=
  match Text.Utf8.decode line with
  | .error fault => { daemon := d, next := .fail fault.message }
  | .ok text =>
    if Text.isBlank text then { daemon := d }
    else
      match Command.parse (String.ofList text) with
      | .ok (.ready value) => request clock (.ready value) d
      | .ok (.country raw) => request clock (.country raw) d
      | .ok .dump => request clock .dump d
      | .ok .quit => { daemon := d, next := .quit }
      | .error reason => { daemon := d, log := [.inputIgnored reason] }

/-- How a daemon ends that has waited for its loop: well if the loop has come to its end, and else
with the error of the loop's task. -/
def ofStatus : LoopStatus → Next
  | .finished => .quit
  | .unwound => .fail "task panicked"
  | .aborted => .fail "task was cancelled"
  -- Somebody else would have to hold a handle, and the daemon gives none away.
  | .running => .fail "task has not ended"

/-- Drops the daemon's handle, lets the loop come to its end, and waits for it. -/
def close (clock : Nat → Nat) (d : Running) : Served :=
  let turn := (d.loop.drop 0).andThen fun l => l.finish (environment clock) d.controller
  { daemon := { d with loop := turn.loop }
    log := turn.trace.log
    next := ofStatus turn.loop.status }

/-- The lines of an input. A line ends with a line feed, which a carriage return may precede; the
last one may end with the input. -/
def splitLines (bytes : List UInt8) : List (List UInt8) :=
  go [] bytes
where
  /-- Reads on with the bytes of an unfinished line, last byte first. -/
  go (line : List UInt8) : List UInt8 → List (List UInt8)
    | [] => if line.isEmpty then [] else [line.reverse]
    | b :: rest =>
      if b = 10 then (withoutReturn line).reverse :: go [] rest else go (b :: line) rest
  withoutReturn : List UInt8 → List UInt8
    | 13 :: line => line
    | line => line

/-- The whole lines that an input begins with, and the unfinished line after them. -/
def splitUnfinished (bytes : List UInt8) : List UInt8 × List UInt8 :=
  let reversed := bytes.reverse
  ((reversed.dropWhile (· ≠ 10)).reverse, (reversed.takeWhile (· ≠ 10)).reverse)

/-- Something that the daemon does by the clock. -/
abbrev Step := (Nat → Nat) → Running → Served

section Session

/- How steps are carried out is left open: which clock they go by, and where their output goes. -/
variable {m : Type → Type} [Monad m] (perform : Step → Running → m Served)

/-- Takes line after line until one of them ends the daemon. -/
def takeLines (d : Running) : List (List UInt8) → m (Running × Next)
  | [] => return (d, .goOn)
  | line :: rest => do
    let served ← perform (fun clock => takeLine clock line) d
    match served.next with
    | .goOn => takeLines served.daemon rest
    | next => return (served.daemon, next)

/-- Takes a piece of an input, behind the bytes of a line that has not ended yet. The bytes that are
unfinished after it come with the result. -/
def takePiece (unfinished piece : List UInt8) (d : Running) :
    m (List UInt8 × Running × Next) := do
  let (whole, unfinished) := splitUnfinished (unfinished ++ piece)
  let taken ← takeLines perform d (splitLines whole)
  return (unfinished, taken)

/-- Takes an input piece by piece. When it is over, the unfinished line is one too. -/
def takePieces (unfinished : List UInt8) (d : Running) :
    List (List UInt8) → m (Running × Next)
  | [] => takeLines perform d (splitLines unfinished)
  | piece :: rest => do
    let (unfinished, d, next) ← takePiece perform unfinished piece d
    match next with
    | .goOn => takePieces unfinished d rest
    | next => return (d, next)

/-- Brings the daemon to its end after its last line. One that failed does not wait for its loop. -/
def conclude (d : Running) : Next → m Next
  | .fail message => return .fail message
  | _ => return (← perform close d).next

/-- The daemon from its first line to its end. -/
def session (d : Running) (lines : List (List UInt8)) : m Next := do
  let (d, next) ← takeLines perform d lines
  conclude perform d next

end Session

/-- What a daemon has written so far. -/
structure Output where
  printed : List String := []
  log : List Log.Entry := []

def Output.add (o : Output) (served : Served) : Output where
  printed := o.printed ++ served.printed
  log := o.log ++ served.log

/-- Carries out a step by the given clock, and keeps what it writes. -/
def record (clock : Nat → Nat) (step : Step) (d : Running) : StateM Output Served := do
  let served := step clock d
  modify fun o => o.add served
  return served

/-- The message with which the daemon ends, if it does not end well. -/
def Next.error? : Next → Option String
  | .fail message => some message
  | .goOn | .quit => none

/-- All that can be seen of a daemon once it has ended. -/
structure Outcome where
  exitCode : Nat
  /-- The lines on standard output, but for the log. -/
  printed : List String := []
  log : List Log.Entry := []
  /-- Whether log lines are written as JSON. -/
  jsonLog : Bool := false
  error : Option String := none
deriving DecidableEq

def Outcome.failure (message : String) : Outcome where
  exitCode := 1
  error := some message

def run (clock : Nat → Nat) (contentOf : String → Option (List UInt8)) (args : List String)
    (input : List UInt8) : Outcome :=
  if Arguments.asksVersion args then { exitCode := 0, printed := [versionLine] }
  else
    match configure contentOf args with
    | .error message => .failure message
    | .ok config =>
      match start clock config with
      | .error cause => .failure cause.message
      | .ok started =>
        let (next, output) :=
          (session (record clock) started.daemon (splitLines input)).run { log := started.log }
        { exitCode := if next.error?.isSome then 1 else 0
          printed := output.printed
          log := output.log
          jsonLog := config.logging.json
          error := next.error? }

end Daemon

end Regulatory
