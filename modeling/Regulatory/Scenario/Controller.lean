import Regulatory.Fleet
import Regulatory.Snapshot

/-!
Scenarios: a controller over a simulated fleet is taken through a list of steps, and what can be
observed is written down after each.
-/

namespace Regulatory.Scenario

open Controller (ofDefault run step Call Answer)
open Fleet

structure Setting where
  defaultCode : String
  revertOnLoss : Bool
  interfaces : List Setup := []
  /-- What the network source answers, if one is attached. -/
  network : Option (Option String) := none
  /-- For each listener, whether it panics. -/
  listeners : List Bool := []

abbrev World := Controller.World Member Listener Modes

abbrev Trace := Regulatory.Trace Member Listener

/-- The operations that set up the interfaces of a setting. -/
def Setting.enrollments (s : Setting) : List Operation :=
  s.interfaces.zipIdx.flatMap fun entry => enroll entry.2 entry.1

/-- The operations that register the listeners of a setting. -/
def Setting.registrations (s : Setting) : List Operation :=
  s.listeners.zipIdx.map fun entry => .listen ⟨entry.2, entry.1⟩

/-- The controller of a setting, the world before the first step, and what led there. -/
def Setting.start (s : Setting) : Except ServiceError (Controller × World × Trace) := do
  let c ← ofDefault s.defaultCode s.revertOnLoss
  let enrolled := run environment c (Controller.start ∅ s.network []) s.enrollments
  let registered := run environment c enrolled.1 s.registrations
  return (c, registered.1, enrolled.2 ++ c.creationTrace ++ registered.2)

inductive Step where
  | ready (value : Bool)
  | country (raw : String)
  | add (setup : Setup)
  | remove (name : String)
  | mode (name : String) (value : Mode)
  | network (answer : Option String)
  | listen (panics : Bool)
  | dump
deriving DecidableEq, Repr

/-- The operations that a step consists of. -/
def Step.operations (w : World) : Step → List Operation
  | .ready value => [.ready value]
  | .country raw => [.country raw]
  | .add setup => enroll w.outside.length setup
  | .remove name => [.remove name]
  | .mode name value => [.adjust (setMode name value)]
  | .network answer => [.network answer]
  | .listen panics => [.listen ⟨w.state.listeners.length, panics⟩]
  | .dump => []

inductive Result where
  | answered (answer : Answer)
  | panicked
  | dumped (snapshot : Snapshot)

/-- What can be observed after a step: its result, what it did to the outside, the network queries
of the run so far, and the world. -/
structure Observation where
  result : Result
  trace : Trace
  queries : Nat
  world : World

/-- The operations of one step, taken together. Its result is that of the last of them. -/
def perform (c : Controller) (w : World) :
    List Operation → Call Member Listener Modes Answer
  | [] => ⟨some .done, w, []⟩
  | [op] => step environment c w op
  | op :: rest =>
    let call := step environment c w op
    (perform c call.world rest).after call.trace

def observe (c : Controller) (queries : Nat) (w : World) (s : Step) : Observation :=
  let call := perform c w (s.operations w)
  let result :=
    match s, call.result with
    | .dump, _ => Result.dumped (c.snapshot w.state).timeless
    | _, some answer => .answered answer
    | _, none => .panicked
  ⟨result, call.trace, queries + call.trace.queries, call.world⟩

/-- Takes the steps one after another, each from the world that the one before it left. -/
def play (c : Controller) (queries : Nat) (w : World) : List Step → List Observation
  | [] => []
  | s :: rest =>
    let seen := observe c queries w s
    seen :: play c seen.queries seen.world rest

end Regulatory.Scenario
