import Regulatory.Controller.Operation
import Regulatory.Snapshot

/-!
The event loop in front of a controller. Any number of handles send requests into one queue, from
which the loop takes them in order. How senders and the loop interleave is left open: a run is any
list of `Move`s.
-/

namespace Regulatory

/-- Whether the loop still runs, and if not, why. -/
inductive LoopStatus where
  | running
  /-- All handles were dropped and the queue was empty. -/
  | finished
  | aborted
  /-- A call of the controller panicked. -/
  | unwound
deriving DecidableEq, Repr

/-- A request in the queue, with the number under which it was accepted. -/
structure Ticket where
  number : Nat
  request : Request
deriving DecidableEq, Repr

structure EventLoop (ι κ σ : Type) where
  world : Controller.World ι κ σ
  /-- What was accepted and has not been applied, oldest first. -/
  queue : List Ticket := []
  /-- For every handle given out so far, whether it is still held. -/
  handles : List Bool := [true]
  status : LoopStatus := .running
  /-- How many requests have been accepted so far. -/
  accepted : Nat := 0

namespace EventLoop

variable {ι κ σ : Type}

/-- How many requests the queue holds before senders have to wait. -/
def capacity : Nat := 64

/-- What a sender, or the one who waits for a snapshot, is told. -/
inductive Reply where
  | accepted (number : Nat)
  /-- The loop has stopped, so the request was not queued. -/
  | closed
  /-- The queue is full, so the sender waits, that is, it tries again later. -/
  | full
  /-- There is no such handle, or it has been dropped. -/
  | noHandle
  | cloned (handle : Nat)
  | snapshot (number : Nat) (s : Snapshot)
  /-- The request of this number was dropped, and no snapshot will come. -/
  | discarded (number : Nat)
deriving DecidableEq

/-- The result of a move: the loop after it, what senders are told, and what the outside saw. -/
structure Turn (ι κ σ : Type) where
  loop : EventLoop ι κ σ
  replies : List Reply := []
  trace : Trace ι κ := []

def Turn.andThen (t : Turn ι κ σ) (next : EventLoop ι κ σ → Turn ι κ σ) : Turn ι κ σ :=
  let later := next t.loop
  ⟨later.loop, t.replies ++ later.replies, t.trace ++ later.trace⟩

def holds (l : EventLoop ι κ σ) (handle : Nat) : Bool :=
  l.handles[handle]?.getD false

/-- One attempt to send. A sender that waits for room in the queue is not recorded in the loop: its
wait is a run of attempts that are answered `full`, up to the first one that is not. -/
def send (handle : Nat) (request : Request) (l : EventLoop ι κ σ) : Turn ι κ σ :=
  if !l.holds handle then { loop := l, replies := [.noHandle] }
  else if l.status ≠ .running then { loop := l, replies := [.closed] }
  else if l.queue.length < capacity then
    { loop := { l with queue := l.queue ++ [⟨l.accepted, request⟩], accepted := l.accepted + 1 }
      replies := [.accepted l.accepted] }
  else { loop := l, replies := [.full] }

def clone (handle : Nat) (l : EventLoop ι κ σ) : Turn ι κ σ :=
  if l.holds handle then
    { loop := { l with handles := l.handles ++ [true] }, replies := [.cloned l.handles.length] }
  else { loop := l, replies := [.noHandle] }

def drop (handle : Nat) (l : EventLoop ι κ σ) : Turn ι κ σ :=
  if l.holds handle then { loop := { l with handles := l.handles.set handle false } }
  else { loop := l, replies := [.noHandle] }

/-- Stops the loop. What is queued is dropped, and those who wait for a snapshot are told so. -/
def stop (status : LoopStatus) (l : EventLoop ι κ σ) : Turn ι κ σ where
  loop := { l with queue := [], status := status }
  replies := l.queue.filterMap fun t =>
    if t.request = .dump then some (.discarded t.number) else none

def abort (l : EventLoop ι κ σ) : Turn ι κ σ :=
  if l.status = .running then l.stop .aborted else { loop := l }

variable [Named ι]

/-- The call that a request makes on the controller. A snapshot leaves the world as it is. -/
def serve (env : Environment ι κ σ) (c : Controller) (request : Request)
    (w : Controller.World ι κ σ) : Controller.Call ι κ σ Unit :=
  match request with
  | .ready value => c.setReady env value w
  | .country raw => (c.setCountry env raw w).map fun _ => ()
  | .dump => ⟨some (), w, []⟩

/-- One turn of the loop: it takes the oldest request and serves it, or finishes if there is none
and no handle is left from which one could come. -/
def advance (env : Environment ι κ σ) (c : Controller) (l : EventLoop ι κ σ) : Turn ι κ σ :=
  match l.status, l.queue with
  | .running, t :: rest =>
    let call := serve env c t.request l.world
    let l := { l with world := call.world, queue := rest }
    let seen := .logged (.requestReceived t.request) :: call.trace
    match call.result, t.request with
    | none, _ => { l.stop .unwound with trace := seen }
    | some _, .dump =>
      { loop := l, replies := [.snapshot t.number (c.snapshot l.world.state)], trace := seen }
    | some _, _ => { loop := l, trace := seen }
  | .running, [] =>
    if l.handles.contains true then { loop := l }
    else { loop := { l with status := .finished }, trace := [.logged .loopStopped] }
  | _, _ => { loop := l }

/-- One move of a sender, of the loop, or of the one who can stop it. -/
inductive Move where
  | send (handle : Nat) (request : Request)
  | clone (handle : Nat)
  | drop (handle : Nat)
  | advance
  | abort
deriving DecidableEq, Repr

def step (env : Environment ι κ σ) (c : Controller) (l : EventLoop ι κ σ) : Move → Turn ι κ σ
  | .send handle request => l.send handle request
  | .clone handle => l.clone handle
  | .drop handle => l.drop handle
  | .advance => l.advance env c
  | .abort => l.abort

def run (env : Environment ι κ σ) (c : Controller) (l : EventLoop ι κ σ) :
    List Move → Turn ι κ σ
  | [] => { loop := l }
  | m :: rest => (l.step env c m).andThen fun l => run env c l rest

/-- A new loop with one handle, numbered 0. -/
def start (w : Controller.World ι κ σ) : Turn ι κ σ where
  loop := { world := w }
  trace := [.logged .loopStarted]

/-- Lets the loop serve all that is queued now. -/
def drain (env : Environment ι κ σ) (c : Controller) (l : EventLoop ι κ σ) : Turn ι κ σ :=
  l.run env c (List.replicate l.queue.length .advance)

/-- Lets the loop serve all that is queued now, and take one turn more, in which it finishes if
there is nobody left to send requests. -/
def finish (env : Environment ι κ σ) (c : Controller) (l : EventLoop ι κ σ) : Turn ι κ σ :=
  l.run env c (List.replicate (l.queue.length + 1) .advance)

/-- Sends a request, after the loop has made room if the queue is full. -/
def sendWaiting (env : Environment ι κ σ) (c : Controller) (handle : Nat) (request : Request)
    (l : EventLoop ι κ σ) : Turn ι κ σ :=
  if l.queue.length < capacity then l.send handle request
  else (l.drain env c).andThen fun l => l.send handle request

end EventLoop

end Regulatory
