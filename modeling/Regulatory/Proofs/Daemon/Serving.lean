import Regulatory.Daemon
import Regulatory.Proofs.EventLoop.Stretch

/-!
The daemon's event loop. Its interfaces take every code and its only handle is held, so that the
loop serves whatever it is sent, no matter how sending and serving take turns.
-/

namespace Regulatory

namespace EventLoop

variable {ι κ σ : Type}

/-- The calls of the controller that some requests come to. -/
def calls (requests : List Request) : List (Controller.Operation ι κ σ) :=
  requests.filterMap Request.operation

theorem calls_cons (r : Request) (rest : List Request) :
    (calls (r :: rest) : List (Controller.Operation ι κ σ)) = r.operation.toList ++ calls rest := by
  cases hoperation : (r.operation : Option (Controller.Operation ι κ σ)) with
  | none | some _ => simp [calls, hoperation]

/-- The snapshot that a reply brings. -/
def Reply.snapshot? : Reply → Option Snapshot
  | .snapshot _ s => some s
  | _ => none

variable [Named ι]

/-- The snapshots that some requests ask for. Each is of the controller as it is after direct calls
for the requests before. -/
def snapshotsOf (env : Environment ι κ σ) (c : Controller) (w : Controller.World ι κ σ)
    (requests : List Request) : List Snapshot :=
  (List.range requests.length).filterMap fun n =>
    if requests[n]? = some .dump then
      some (c.snapshot (Controller.run env c w (calls (requests.take n))).1.state)
    else none

variable (env : Environment ι κ σ) (c : Controller) (w : Controller.World ι κ σ)

theorem run_calls_cons (r : Request) (rest : List Request) :
    (Controller.run env c w (calls (r :: rest))).1 =
      (Controller.run env c (serve env c r w).world (calls rest)).1 := by
  rw [calls_cons, Controller.run_append, serve_run]

theorem snapshotsOf_cons (r : Request) (rest : List Request) :
    snapshotsOf env c w (r :: rest) =
      (if r = .dump then [c.snapshot w.state] else []) ++
        snapshotsOf env c (serve env c r w).world rest := by
  have hlater : (List.range rest.length).filterMap (fun n =>
      if (r :: rest)[n + 1]? = some .dump then
        some (c.snapshot (Controller.run env c w (calls ((r :: rest).take (n + 1)))).1.state)
      else none) = snapshotsOf env c (serve env c r w).world rest := by
    unfold snapshotsOf
    congr 1
    funext n
    rw [List.getElem?_cons_succ, List.take_succ_cons, run_calls_cons]
  rw [snapshotsOf, List.length_cons, List.range_succ_eq_map, List.filterMap_cons,
    List.filterMap_map, ← hlater]
  by_cases hdump : r = .dump
  · simp [hdump, calls, Controller.run, Function.comp_def]
  · simp [hdump, Function.comp_def]

/-- A loop that has a request to serve, and comes back from it. -/
theorem advance_served {l : EventLoop ι κ σ} {t : Ticket} {rest : List Ticket}
    (hrunning : l.status = .running) (hqueue : l.queue = t :: rest)
    (hresult : (serve env c t.request l.world).result = some ()) :
    l.advance env c =
      { loop := { l with world := (serve env c t.request l.world).world, queue := rest }
        replies := if t.request = .dump then [.snapshot t.number (c.snapshot l.world.state)] else []
        trace := .logged (.requestReceived t.request) ::
          (serve env c t.request l.world).trace } := by
  have hend := advance_ends env c l
  generalize l.advance env c = u at hend ⊢
  cases hend with
  | served t' rest' _ hqueue' _ =>
    obtain ⟨rfl, rfl⟩ := List.cons.inj (hqueue.symm.trans hqueue')
    rfl
  | unwound t' rest' _ hqueue' hpanicked =>
    obtain ⟨rfl, rfl⟩ := List.cons.inj (hqueue.symm.trans hqueue')
    rw [hresult] at hpanicked
    cases hpanicked
  | waiting _ hempty _ | finished _ hempty _ =>
    rw [hqueue] at hempty
    cases hempty
  | stopped _ _ hstopped => exact absurd hrunning hstopped
  | noHandle _ _ hmove _ => simp at hmove

/-- Requests after the last snapshot do not count. -/
theorem snapshotsOf_append {requests later : List Request} (hlater : .dump ∉ later) :
    snapshotsOf env c w (requests ++ later) = snapshotsOf env c w requests := by
  induction requests generalizing w with
  | nil =>
    rw [List.nil_append]
    induction later generalizing w with
    | nil => rfl
    | cons r rest ih =>
      obtain ⟨hr, hrest⟩ := not_or.1 (mt List.mem_cons.2 hlater)
      rw [snapshotsOf_cons, if_neg (Ne.symm hr), ih hrest]
      rfl
  | cons r rest ih => rw [List.cons_append, snapshotsOf_cons, snapshotsOf_cons, ih]

theorem filterMap_snapshot? (tickets : List Ticket) :
    (snapshots env c w tickets).filterMap Reply.snapshot? =
      snapshotsOf env c w (tickets.map Ticket.request) := by
  induction tickets generalizing w with
  | nil => rfl
  | cons t rest ih =>
    rw [snapshots, List.filterMap_append, ih, List.map_cons, snapshotsOf_cons]
    split
    · rfl
    · rfl

theorem filterMap_answered (replies : List Reply) :
    (replies.filter fun r => r.answers?.isSome).filterMap Reply.snapshot? =
      replies.filterMap Reply.snapshot? := by
  rw [List.filterMap_filter]
  congr 1
  funext r
  cases r <;> rfl

end EventLoop

namespace Daemon

open Controller EventLoop

abbrev World := Controller.World LoggedInterface Empty Unit

/-- The interfaces of some names. -/
def fleetOf (names : List String) : Registry LoggedInterface :=
  ⟨names.map LoggedInterface.mk⟩

/-- What holds of the world at all times, whatever is requested. -/
structure Kept (names : List String) (w : World) : Prop where
  registry : w.registry = fleetOf names
  report : ∀ p ∈ w.state.lastPush, p.attempted = names.length ∧ p.failed = []

variable (clock : Nat → Nat) (c : Controller)

theorem offerAll_taken (code : CountryCode) (entries : List LoggedInterface)
    (registry : Registry LoggedInterface) (outside : Unit) :
    (offerAll (environment clock) code entries registry outside).finished = true ∧
      (offerAll (environment clock) code entries registry outside).registry = registry ∧
      (offerAll (environment clock) code entries registry outside).failed = [] := by
  induction entries with
  | nil => exact ⟨rfl, rfl, rfl⟩
  | cons i rest ih => exact ih

theorem telling_taken (w : World) : (telling (environment clock) c w).finished = true := by
  unfold telling
  split
  · rfl
  · -- There is no listener to be told.
    cases w.state.listeners with
    | nil => rfl
    | cons l _ => exact l.elim

theorem push_kept {names : List String} {w : World} (hkept : Kept names w) :
    (push (environment clock) c w).result = some () ∧
      Kept names (push (environment clock) c w).world := by
  obtain ⟨hfinished, hregistry, hfailed⟩ := offerAll_taken clock (c.active w.state)
    w.registry.entries w.registry w.outside
  have hoffering : (offering (environment clock) c w).finished = true := hfinished
  rw [push_eq, if_pos hoffering, if_pos (telling_taken clock c w)]
  refine ⟨rfl, hregistry.trans hkept.registry, ?_⟩
  rintro p ⟨⟩
  refine ⟨?_, hfailed⟩
  simp [report, hkept.registry, fleetOf]

/-- A request is served without a panic. -/
theorem serve_kept {names : List String} {w : World} (hkept : Kept names w) (r : Request) :
    (serve (environment clock) c r w).result = some () ∧
      Kept names (serve (environment clock) c r w).world := by
  cases r with
  | ready value =>
    cases value with
    | false => exact ⟨rfl, hkept.registry, hkept.report⟩
    | true =>
      have hprobed :
          Kept names (probe (environment clock) (marked (environment clock) true w)).1 := by
        obtain ⟨_, _, _, hprobe⟩ := probe_keeps (environment clock)
          (marked (environment clock) true w)
        rw [hprobe]
        exact ⟨hkept.registry, hkept.report⟩
      exact push_kept clock c hprobed
  | country raw =>
    have hupdated : Kept names (updated (environment clock) c raw w) :=
      ⟨hkept.registry, hkept.report⟩
    obtain ⟨hresult, hpushed⟩ := push_kept clock c hupdated
    rw [serve, setCountry_eq]
    split
    · refine ⟨?_, hpushed⟩
      simp [Call.map, Call.after, hresult]
    · exact ⟨rfl, hupdated⟩
  | dump => exact ⟨rfl, hkept⟩

theorem run_kept {names : List String} {w : World} (hkept : Kept names w)
    (requests : List Request) :
    Kept names (Controller.run (environment clock) c w (calls requests)).1 := by
  induction requests generalizing w with
  | nil => exact hkept
  | cons r rest ih =>
    rw [run_calls_cons]
    exact ih (serve_kept clock c hkept r).2

/-- The daemon's loop, in the middle of whatever it was sent. -/
structure Alive (names : List String) (l : Loop) : Prop where
  running : l.status = .running
  handles : l.handles = [true]
  kept : Kept names l.world

theorem Alive.held {names : List String} {l : Loop} (halive : Alive names l) :
    l.holds 0 = true := by
  simp [holds, halive.handles]

theorem Alive.dropped {names : List String} {l : Loop} (halive : Alive names l) :
    l.drop 0 = { loop := { l with handles := [false] } } := by
  simp [EventLoop.drop, halive.held, halive.handles]

/-- The daemon sends by its one handle, and the loop serves. Nobody gets in between. -/
inductive Own : Move → Prop
  | send (request : Request) : Own (.send 0 request)
  | advance : Own .advance

/-- What the daemon is told as long as its loop is alive. -/
inductive Heard : Reply → Prop
  | accepted (number : Nat) : Heard (.accepted number)
  | full : Heard .full
  | snapshot (number : Nat) (s : Snapshot) : Heard (.snapshot number s)

theorem step_alive {names : List String} {l : Loop} (halive : Alive names l) {m : Move}
    (hown : Own m) :
    Alive names (l.step (environment clock) c m).loop ∧
      ∀ r ∈ (l.step (environment clock) c m).replies, Heard r := by
  have hheld := halive.held
  obtain ⟨hrunning, hhandles, hkept⟩ := halive
  have hend := step_ends (environment clock) c l m
  generalize l.step (environment clock) c m = t at hend ⊢
  cases hend with
  | accepted handle request _ _ _ =>
    exact ⟨⟨hrunning, hhandles, hkept⟩, List.forall_mem_singleton.2 (.accepted _)⟩
  | full _ _ _ _ _ => exact ⟨⟨hrunning, hhandles, hkept⟩, List.forall_mem_singleton.2 .full⟩
  | waiting _ _ _ => exact ⟨⟨hrunning, hhandles, hkept⟩, List.forall_mem_nil _⟩
  | served t rest _ _ _ =>
    refine ⟨⟨hrunning, hhandles, (serve_kept clock c hkept t.request).2⟩, ?_⟩
    intro r hr
    simp only at hr
    split at hr
    · rw [List.mem_singleton.1 hr]
      exact .snapshot _ _
    · cases hr
  | closed _ _ _ hstopped | stopped _ _ hstopped => exact absurd hrunning hstopped
  | noHandle m handle hmove hunheld =>
    cases hown with
    | send request =>
      simp only [reduceCtorEq, Move.send.injEq, false_or] at hmove
      obtain ⟨_, rfl, _⟩ := hmove
      rw [hheld] at hunheld
      cases hunheld
    | advance => simp at hmove
  | cloned _ _ | dropped _ _ | aborted _ => cases hown
  | finished _ _ hunheld =>
    rw [contains_of_holds hheld] at hunheld
    cases hunheld
  | unwound t _ _ _ hpanicked =>
    rw [(serve_kept clock c hkept t.request).1] at hpanicked
    cases hpanicked

theorem run_alive {names : List String} {l : Loop} (halive : Alive names l) {moves : List Move}
    (hown : ∀ m ∈ moves, Own m) :
    Alive names (l.run (environment clock) c moves).loop ∧
      ∀ r ∈ (l.run (environment clock) c moves).replies, Heard r := by
  induction moves generalizing l with
  | nil => exact ⟨halive, List.forall_mem_nil _⟩
  | cons m rest ih =>
    obtain ⟨hm, hrest⟩ := List.forall_mem_cons.1 hown
    obtain ⟨hstep, hheard⟩ := step_alive clock c halive hm
    obtain ⟨hrun, hlater⟩ := ih hstep hrest
    exact ⟨hrun, List.forall_mem_append.2 ⟨hheard, hlater⟩⟩

theorem start_alive {names : List String} {w : World} (hkept : Kept names w) :
    Alive names (EventLoop.start w).loop :=
  ⟨rfl, rfl, hkept⟩

/-- The loop has served all that it was sent. -/
structure Idle (names : List String) (l : Loop) : Prop extends Alive names l where
  queue : l.queue = []

/-- An idle loop that is sent a request. -/
def sentLoop (r : Request) (l : Loop) : Loop :=
  { l with queue := [⟨l.accepted, r⟩], accepted := l.accepted + 1 }

/-- An idle loop that was sent a request and has served it. -/
def servedLoop (r : Request) (l : Loop) : Loop :=
  { l with
    world := (serve (environment clock) c r l.world).world
    queue := []
    accepted := l.accepted + 1 }

theorem Idle.send {names : List String} {l : Loop} (hidle : Idle names l) (r : Request) :
    l.send 0 r = { loop := sentLoop r l, replies := [.accepted l.accepted] } := by
  simp [EventLoop.send, sentLoop, capacity, hidle.queue, hidle.held, hidle.running]

theorem Idle.advance {names : List String} {l : Loop} (hidle : Idle names l) (r : Request) :
    (sentLoop r l).advance (environment clock) c =
      { loop := servedLoop clock c r l
        replies := if r = .dump then [.snapshot l.accepted (c.snapshot l.world.state)] else []
        trace := .logged (.requestReceived r) ::
          (serve (environment clock) c r l.world).trace } := by
  obtain ⟨hresult, _⟩ := serve_kept clock c hidle.kept r
  exact advance_served (environment clock) c (l := sentLoop r l) (t := ⟨l.accepted, r⟩)
    hidle.running rfl hresult

theorem Idle.served {names : List String} {l : Loop} (hidle : Idle names l) (r : Request) :
    Idle names (servedLoop clock c r l) :=
  ⟨⟨hidle.running, hidle.handles, (serve_kept clock c hidle.kept r).2⟩, rfl⟩

/-- A loop that is not held any more serves what it was sent before, and is done. -/
theorem finish_of_dropped {names : List String} {l : Loop} (hrunning : l.status = .running)
    (hunheld : l.handles.contains true = false) (hkept : Kept names l.world) :
    (l.finish (environment clock) c).loop.status = .finished ∧
      (l.finish (environment clock) c).loop.queue = [] := by
  unfold finish
  generalize hqueue : l.queue = queue
  induction queue generalizing l with
  | nil =>
    have hmem : true ∉ l.handles := by simpa using hunheld
    simp [EventLoop.run, EventLoop.step, advance, Turn.andThen, hrunning, hqueue, hmem]
  | cons t rest ih =>
    obtain ⟨hresult, hserved⟩ := serve_kept clock c hkept t.request
    rw [List.length_cons, List.replicate_succ, EventLoop.run, EventLoop.step,
      advance_served _ _ hrunning hqueue hresult]
    exact ih hrunning hunheld hserved rfl

/-- A run of the daemon's loop in which it has sent some requests, one after another, and got every
snapshot that it asked for. Sending and serving may take turns in any way. -/
structure Paced (w : World) (requests : List Request) (moves : List Move) : Prop where
  own : ∀ m ∈ moves, Own m
  sent : (admitted (history (environment clock) c (EventLoop.start w).loop moves)).map
    (fun a => a.2.request) = requests
  answered : ∀ t ∈ ((EventLoop.start w).loop.run (environment clock) c moves).loop.queue,
    t.request ≠ .dump

/-- Each request can be served before the next one is sent. -/
theorem exists_paced {names : List String} {w : World} (hkept : Kept names w)
    (requests : List Request) : ∃ moves, Paced clock c w requests moves := by
  suffices hturns : ∀ {l : Loop}, Idle names l → ∃ moves, (∀ m ∈ moves, Own m) ∧
      (admitted (history (environment clock) c l moves)).map (fun a => a.2.request) = requests ∧
      (l.run (environment clock) c moves).loop.queue = [] by
    obtain ⟨moves, hown, hsent, hqueue⟩ := hturns ⟨start_alive hkept, rfl⟩
    exact ⟨moves, hown, hsent, by simp [hqueue]⟩
  induction requests with
  | nil => exact fun {l} hidle => ⟨[], by simp, rfl, hidle.queue⟩
  | cons r rest ih =>
    intro l hidle
    obtain ⟨moves, hown, hsent, hqueue⟩ := ih (hidle.served clock c r)
    refine ⟨.send 0 r :: .advance :: moves, ?_, ?_, ?_⟩
    · simp only [List.forall_mem_cons]
      exact ⟨.send r, .advance, hown⟩
    · simp [EventLoop.history, EventLoop.step, hidle.send, hidle.advance, admitted_cons,
        EventLoop.Record.admits, hsent]
    · simp [EventLoop.run, EventLoop.step, hidle.send, hidle.advance, Turn.andThen, hqueue]

/-- The turns that sending and serving take do not show in the snapshots. -/
theorem snapshots_of_paced {names : List String} {w : World} (hkept : Kept names w)
    {requests : List Request} {moves : List Move} (hpaced : Paced clock c w requests moves) :
    ((EventLoop.start w).loop.run (environment clock) c moves).replies.filterMap Reply.snapshot? =
      snapshotsOf (environment clock) c w requests := by
  obtain ⟨hown, hsent, hanswered⟩ := hpaced
  have hstretch := run_stretch (environment clock) c (EventLoop.start w).loop moves
  have hadmitted := admitted_eq (environment clock) c w moves
  have hnone : dropped (history (environment clock) c (EventLoop.start w).loop moves) = [] := by
    have halive := (run_alive clock c (start_alive hkept) hown).1
    refine Decidable.of_not_not fun hlost => ?_
    have hlossy := hstretch.lossy hlost
    rw [halive.running] at hlossy
    simp at hlossy
  have hanswers := hstretch.answers
  rw [hnone, List.nil_append] at hadmitted
  rw [hnone] at hanswers
  have hunasked : Request.dump ∉
      ((EventLoop.start w).loop.run (environment clock) c moves).loop.queue.map Ticket.request := by
    intro hmem
    obtain ⟨t, ht, hdump⟩ := List.mem_map.1 hmem
    exact hanswered t ht hdump
  calc ((EventLoop.start w).loop.run (environment clock) c moves).replies.filterMap Reply.snapshot?
      = (snapshots (environment clock) c w (applied
          (history (environment clock) c (EventLoop.start w).loop moves))).filterMap
            Reply.snapshot? := by
        rw [← filterMap_answered, hanswers]
        simp [dumps, EventLoop.start]
    _ = snapshotsOf (environment clock) c w (((admitted
          (history (environment clock) c (EventLoop.start w).loop moves)).map Prod.snd).map
            Ticket.request) := by
        rw [filterMap_snapshot?, hadmitted, List.map_append, snapshotsOf_append _ _ _ hunasked]
    _ = snapshotsOf (environment clock) c w requests := by
        rw [List.map_map, ← hsent]
        rfl

end Daemon

end Regulatory
