import Regulatory.EventLoop
import Regulatory.Scenario.Controller

/-!
Scenarios for the event loop: a list of things that clients do with its handles, over a simulated
fleet. The loop gets its turn when a client waits for it.
-/

namespace Regulatory.Scenario.Session

open Fleet

abbrev Loop := EventLoop Member Listener Modes

abbrev Turn := EventLoop.Turn Member Listener Modes

inductive Step where
  | ready (handle : Nat) (value : Bool)
  | country (handle : Nat) (raw : String)
  | dump (handle : Nat)
  | clone (handle : Nat)
  | drop (handle : Nat)
  /-- Stops the loop once it has served all that is queued. -/
  | abort
  /-- The same, but with a request for a snapshot in the queue that it does not get to. -/
  | dumpAbort (handle : Nat)
deriving DecidableEq, Repr

inductive Result where
  | done
  | cloned (handle : Nat)
  | dumped (snapshot : Snapshot)
  | failed (cause : ServiceError)
  /-- The handle is not held. -/
  | noHandle
deriving DecidableEq

/-- What a client learns from the replies to a step. The last of them counts, since a request that
was accepted may be dropped later. -/
def Result.ofReplies (replies : List EventLoop.Reply) : Result :=
  match replies.getLast? with
  | some (.snapshot _ s) => .dumped s.timeless
  | some (.cloned handle) => .cloned handle
  | some .closed | some (.discarded _) => .failed .channelClosed
  | some .noHandle => .noHandle
  | some (.accepted _) | some .full | none => .done

def sendWaiting (c : Controller) (handle : Nat) (request : Request) (l : Loop) : Turn :=
  l.sendWaiting environment c handle request

def drain (c : Controller) (l : Loop) : Turn :=
  l.drain environment c

def perform (c : Controller) (l : Loop) : Step → Turn
  | .ready handle value => sendWaiting c handle (.ready value) l
  | .country handle raw => sendWaiting c handle (.country raw) l
  | .dump handle => (sendWaiting c handle .dump l).andThen (drain c)
  | .clone handle => l.clone handle
  | .drop handle => l.drop handle
  | .abort => (drain c l).andThen EventLoop.abort
  | .dumpAbort handle =>
    ((drain c l).andThen (EventLoop.send handle .dump)).andThen EventLoop.abort

/-- Takes all steps. The results come with the loop at the end and all that the outside saw. -/
def play (c : Controller) (l : Loop) : List Step → List Result × Loop × Trace
  | [] => ([], l, [])
  | s :: rest =>
    let turn := perform c l s
    let later := play c turn.loop rest
    (Result.ofReplies turn.replies :: later.1, later.2.1, turn.trace ++ later.2.2)

/-- Drops every handle and lets the loop finish. -/
def close (c : Controller) (l : Loop) : Turn :=
  let released : Loop := { l with handles := l.handles.map fun _ => false }
  released.finish environment c

end Regulatory.Scenario.Session
