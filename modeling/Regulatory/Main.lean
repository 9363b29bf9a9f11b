import Regulatory.Daemon
import Std.Time.DateTime.Timestamp

/-!
The command line. It connects the daemon with the standard streams, the clock and the file system.
The log goes to standard output, and an environment variable sets its level.
-/

namespace Regulatory.Main

/-- The clock, in milliseconds since 1970. -/
def now : IO Nat := do
  return (← Std.Time.Timestamp.now).toMillisecondsSinceUnixEpoch.val.toNat

/-- How many bytes are read at a time. -/
def chunkSize : USize := 4096

/-- Where the daemon's output goes. -/
structure Sink where
  output : IO.FS.Stream
  filter : Log.Filter
  jsonLog : Bool

/-- Writes what the daemon has logged and printed. -/
def Sink.write (sink : Sink) (served : Daemon.Served) : IO Unit := do
  for entry in served.log.filter sink.filter.admits do
    sink.output.putStrLn (if sink.jsonLog then entry.json else entry.text)
  for line in served.printed do
    sink.output.putStrLn line
  sink.output.flush

/-- Ends the program with an error. -/
def fail (message : String) : IO UInt32 := do
  IO.eprintln ("Error: " ++ message)
  return 1

/-- Carries out a step by the time there is now, and writes what comes of it. -/
def Sink.perform (sink : Sink) (step : Daemon.Step) (d : Daemon.Running) : IO Daemon.Served := do
  let time ← now
  let served := step (fun _ => time) d
  sink.write served
  return served

/-- Takes the input piece by piece, as it comes in. -/
partial def takeInput (input : IO.FS.Stream) (sink : Sink) (unfinished : List UInt8)
    (d : Daemon.Running) : IO (Daemon.Running × Daemon.Next) := do
  let piece ← input.read chunkSize
  if piece.isEmpty then Daemon.takeLines sink.perform d (Daemon.splitLines unfinished)
  else
    let (unfinished, d, next) ← Daemon.takePiece sink.perform unfinished piece.toList d
    match next with
    | .goOn => takeInput input sink unfinished d
    | next => return (d, next)

/-- Serves the input to its end, and ends the program as the daemon ends. -/
def serve (input : IO.FS.Stream) (sink : Sink) (d : Daemon.Running) : IO UInt32 := do
  let (d, next) ← takeInput input sink [] d
  match (← Daemon.conclude sink.perform d next).error? with
  | some message => fail message
  | none => return 0

/-- The content of the configuration file, if the arguments name one that can be read. -/
def fileContent (args : List String) : IO (Option (List UInt8)) := do
  match Arguments.configPath? args with
  | .ok (some path) =>
    try return some (← IO.FS.readBinFile path).toList
    catch _ => return none
  | _ => return none

def logFilter : IO Log.Filter := do
  return ((← IO.getEnv "RUST_LOG").map Log.Filter.ofName).getD .standard

end Regulatory.Main

open Regulatory in
def main (args : List String) : IO UInt32 := do
  let output ← IO.getStdout
  if Arguments.asksVersion args then
    output.putStrLn Daemon.versionLine
    return 0
  let content ← Main.fileContent args
  match Daemon.configure (fun _ => content) args with
  | .error message => Main.fail message
  | .ok config =>
    let time ← Main.now
    match Daemon.start (fun _ => time) config with
    | .error cause => Main.fail cause.message
    | .ok started =>
      let sink : Main.Sink :=
        { output, filter := ← Main.logFilter, jsonLog := config.logging.json }
      sink.write started
      Main.serve (← IO.getStdin) sink started.daemon
