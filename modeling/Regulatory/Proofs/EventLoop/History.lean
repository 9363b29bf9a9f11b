import Regulatory.EventLoop

/-!
Runs of the event loop with every move kept: which requests were admitted to the queue, which of
them were applied, and which were dropped when the loop stopped.
-/

namespace Regulatory.EventLoop

variable {ι κ σ : Type}

/-- One move of a run: the loop that it was made on, and its turn. -/
structure Record (ι κ σ : Type) where
  before : EventLoop ι κ σ
  move : Move
  turn : Turn ι κ σ

/-- The ticket of a request whose sender was told that it is queued, with the handle it came by. -/
def Record.admits (r : Record ι κ σ) : Option (Nat × Ticket) :=
  match r.move, r.turn.replies with
  | .send handle request, [.accepted n] => some (handle, ⟨n, request⟩)
  | _, _ => none

/-- The ticket that the loop took off the queue and served. -/
def Record.applies (r : Record ι κ σ) : Option Ticket :=
  match r.move, r.before.status with
  | .advance, .running => r.before.queue.head?
  | _, _ => none

/-- The tickets that were queued when the loop stopped, without the one whose call panicked. -/
def Record.drops (r : Record ι κ σ) : List Ticket :=
  if r.turn.loop.status = r.before.status then []
  else
    match r.move with
    | .advance => r.before.queue.tail
    | _ => r.before.queue

/-- All that was admitted to the queue, in the order in which the senders were told so. -/
def admitted (h : List (Record ι κ σ)) : List (Nat × Ticket) :=
  h.filterMap Record.admits

/-- All that was applied, in the order in which the loop did it. -/
def applied (h : List (Record ι κ σ)) : List Ticket :=
  h.filterMap Record.applies

def dropped (h : List (Record ι κ σ)) : List Ticket :=
  h.flatMap Record.drops

theorem admitted_cons (r : Record ι κ σ) (h : List (Record ι κ σ)) :
    admitted (r :: h) = r.admits.toList ++ admitted h := by
  cases hadmits : r.admits with
  | none | some _ => simp [admitted, hadmits]

theorem applied_cons (r : Record ι κ σ) (h : List (Record ι κ σ)) :
    applied (r :: h) = r.applies.toList ++ applied h := by
  cases happlies : r.applies with
  | none | some _ => simp [applied, happlies]

theorem dropped_cons (r : Record ι κ σ) (h : List (Record ι κ σ)) :
    dropped (r :: h) = r.drops ++ dropped h := rfl

theorem applies_of_stopped {l : EventLoop ι κ σ} (hstopped : l.status ≠ .running) (m : Move)
    (t : Turn ι κ σ) : Record.applies ⟨l, m, t⟩ = none := by
  unfold Record.applies
  split
  · rename_i hrunning
    exact absurd hrunning hstopped
  · rfl

theorem applies_of_running {l : EventLoop ι κ σ} (hrunning : l.status = .running)
    (t : Turn ι κ σ) : Record.applies ⟨l, .advance, t⟩ = l.queue.head? := by
  simp only [Record.applies, hrunning]

theorem holds_iff (l : EventLoop ι κ σ) (handle : Nat) :
    l.holds handle = true ↔ l.handles[handle]? = some true := by
  unfold holds
  cases l.handles[handle]? <;> simp

theorem contains_of_holds {l : EventLoop ι κ σ} {handle : Nat} (hheld : l.holds handle = true) :
    l.handles.contains true = true :=
  List.contains_iff_mem.2 (List.mem_of_getElem? ((holds_iff l handle).1 hheld))

variable [Named ι]

def history (env : Environment ι κ σ) (c : Controller) (l : EventLoop ι κ σ) :
    List Move → List (Record ι κ σ)
  | [] => []
  | m :: rest => ⟨l, m, l.step env c m⟩ :: history env c (l.step env c m).loop rest

/-- The ways in which a move can end. -/
inductive TurnEnds (env : Environment ι κ σ) (c : Controller) (l : EventLoop ι κ σ) :
    Move → Turn ι κ σ → Prop
  | accepted (handle : Nat) (request : Request) (hheld : l.holds handle = true)
      (hrunning : l.status = .running) (hroom : l.queue.length < capacity) :
      TurnEnds env c l (.send handle request)
        { loop := { l with
            queue := l.queue ++ [⟨l.accepted, request⟩]
            accepted := l.accepted + 1 }
          replies := [.accepted l.accepted] }
  | closed (handle : Nat) (request : Request) (hheld : l.holds handle = true)
      (hstopped : l.status ≠ .running) :
      TurnEnds env c l (.send handle request) { loop := l, replies := [.closed] }
  | full (handle : Nat) (request : Request) (hheld : l.holds handle = true)
      (hrunning : l.status = .running) (hfull : capacity ≤ l.queue.length) :
      TurnEnds env c l (.send handle request) { loop := l, replies := [.full] }
  /-- A move on a handle that was never given out, or has been dropped. -/
  | noHandle (m : Move) (handle : Nat)
      (hmove : m = .clone handle ∨ m = .drop handle ∨ ∃ request, m = .send handle request)
      (hheld : l.holds handle = false) :
      TurnEnds env c l m { loop := l, replies := [.noHandle] }
  | cloned (handle : Nat) (hheld : l.holds handle = true) :
      TurnEnds env c l (.clone handle)
        { loop := { l with handles := l.handles ++ [true] }
          replies := [.cloned l.handles.length] }
  | dropped (handle : Nat) (hheld : l.holds handle = true) :
      TurnEnds env c l (.drop handle)
        { loop := { l with handles := l.handles.set handle false } }
  /-- The loop has stopped already. -/
  | stopped (m : Move) (hmove : m = .advance ∨ m = .abort) (hstopped : l.status ≠ .running) :
      TurnEnds env c l m { loop := l }
  /-- Nothing is queued, but something may still be sent. -/
  | waiting (hrunning : l.status = .running) (hqueue : l.queue = [])
      (hhandles : l.handles.contains true = true) : TurnEnds env c l .advance { loop := l }
  | finished (hrunning : l.status = .running) (hqueue : l.queue = [])
      (hhandles : l.handles.contains true = false) :
      TurnEnds env c l .advance
        { loop := { l with status := .finished }
          trace := [.logged .loopStopped] }
  | aborted (hrunning : l.status = .running) : TurnEnds env c l .abort (l.stop .aborted)
  /-- The oldest request has been served, and its call returned. -/
  | served (t : Ticket) (rest : List Ticket) (hrunning : l.status = .running)
      (hqueue : l.queue = t :: rest)
      (hreturned : (serve env c t.request l.world).result ≠ none) :
      TurnEnds env c l .advance
        { loop := { l with world := (serve env c t.request l.world).world, queue := rest }
          replies :=
            if t.request = .dump then [.snapshot t.number (c.snapshot l.world.state)] else []
          trace := .logged (.requestReceived t.request) :: (serve env c t.request l.world).trace }
  /-- The call of the oldest request panicked, and the loop with it. -/
  | unwound (t : Ticket) (rest : List Ticket) (hrunning : l.status = .running)
      (hqueue : l.queue = t :: rest)
      (hpanicked : (serve env c t.request l.world).result = none) :
      TurnEnds env c l .advance
        { ({ l with
              world := (serve env c t.request l.world).world
              queue := rest } : EventLoop ι κ σ).stop .unwound with
          trace := .logged (.requestReceived t.request) :: (serve env c t.request l.world).trace }

theorem advance_ends (env : Environment ι κ σ) (c : Controller) (l : EventLoop ι κ σ) :
    TurnEnds env c l .advance (l.advance env c) := by
  unfold advance
  split
  · rename_i t rest hrunning hqueue
    obtain ⟨number, request⟩ := t
    cases hresult : (serve env c request l.world).result with
    | none =>
      simp only [hresult]
      exact .unwound ⟨number, request⟩ rest hrunning hqueue hresult
    | some _ =>
      have hreturned : (serve env c request l.world).result ≠ none := by
        rw [hresult]
        exact Option.some_ne_none _
      have hend := TurnEnds.served ⟨number, request⟩ rest hrunning hqueue hreturned
      simp only [hresult]
      cases request with
      | dump => exact hend
      | ready _ | country _ => exact hend
  · rename_i hrunning hqueue
    split
    · rename_i hhandles
      exact .waiting hrunning hqueue hhandles
    · rename_i hhandles
      exact .finished hrunning hqueue (Bool.eq_false_iff.2 hhandles)
  · rename_i hserves hfinishes
    refine .stopped .advance (.inl rfl) ?_
    intro hrunning
    cases hqueue : l.queue with
    | nil => exact hfinishes hrunning hqueue
    | cons t rest => exact hserves t rest hrunning hqueue

theorem step_ends (env : Environment ι κ σ) (c : Controller) (l : EventLoop ι κ σ) (m : Move) :
    TurnEnds env c l m (l.step env c m) := by
  cases m with
  | send handle request =>
    simp only [step, send]
    cases hheld : l.holds handle with
    | false => exact .noHandle _ handle (.inr (.inr ⟨request, rfl⟩)) hheld
    | true =>
      rw [if_neg (by decide)]
      by_cases hrunning : l.status = .running
      · rw [if_neg (not_not_intro hrunning)]
        by_cases hroom : l.queue.length < capacity
        · rw [if_pos hroom]
          exact .accepted handle request hheld hrunning hroom
        · rw [if_neg hroom]
          exact .full handle request hheld hrunning (Nat.le_of_not_lt hroom)
      · rw [if_pos hrunning]
        exact .closed handle request hheld hrunning
  | clone handle =>
    simp only [step, clone]
    cases hheld : l.holds handle with
    | false => exact .noHandle _ handle (.inl rfl) hheld
    | true => exact .cloned handle hheld
  | drop handle =>
    simp only [step, drop]
    cases hheld : l.holds handle with
    | false => exact .noHandle _ handle (.inr (.inl rfl)) hheld
    | true => exact .dropped handle hheld
  | advance => exact advance_ends env c l
  | abort =>
    simp only [step, abort]
    by_cases hrunning : l.status = .running
    · rw [if_pos hrunning]
      exact .aborted hrunning
    · rw [if_neg hrunning]
      exact .stopped .abort (.inr rfl) hrunning

theorem run_append (env : Environment ι κ σ) (c : Controller) (l : EventLoop ι κ σ)
    (moves later : List Move) :
    l.run env c (moves ++ later) = (l.run env c moves).andThen fun l => l.run env c later := by
  induction moves generalizing l with
  | nil => rfl
  | cons m rest ih =>
    simp only [List.cons_append, run, ih, Turn.andThen, List.append_assoc]

theorem history_append (env : Environment ι κ σ) (c : Controller) (l : EventLoop ι κ σ)
    (moves later : List Move) :
    history env c l (moves ++ later) =
      history env c l moves ++ history env c (l.run env c moves).loop later := by
  induction moves generalizing l with
  | nil => rfl
  | cons m rest ih => exact congrArg (⟨l, m, l.step env c m⟩ :: ·) (ih _)

/-- A loop that has stopped only keeps count of its handles. -/
theorem step_stopped (env : Environment ι κ σ) (c : Controller) {l : EventLoop ι κ σ}
    (hstopped : l.status ≠ .running) (m : Move) :
    ∃ handles replies, l.step env c m = ⟨{ l with handles := handles }, replies, []⟩ ∧
      ∀ n, .accepted n ∉ replies := by
  have hend := step_ends env c l m
  generalize l.step env c m = t at hend ⊢
  cases hend with
  | closed _ _ _ _ | noHandle _ _ _ _ | stopped _ _ _ | cloned _ _ | dropped _ _ =>
    exact ⟨_, _, rfl, by simp⟩
  | accepted _ _ _ hrunning _ | full _ _ _ hrunning _ | waiting hrunning _ _
  | finished hrunning _ _ | aborted hrunning | served _ _ hrunning _ _
  | unwound _ _ hrunning _ _ => exact absurd hrunning hstopped

theorem record_stopped (env : Environment ι κ σ) (c : Controller) {l : EventLoop ι κ σ}
    (hstopped : l.status ≠ .running) (m : Move) :
    Record.admits ⟨l, m, l.step env c m⟩ = none ∧ Record.applies ⟨l, m, l.step env c m⟩ = none ∧
      Record.drops ⟨l, m, l.step env c m⟩ = [] := by
  obtain ⟨handles, replies, hstep, hunaccepted⟩ := step_stopped env c hstopped m
  rw [hstep]
  refine ⟨?_, applies_of_stopped hstopped m _, if_pos rfl⟩
  unfold Record.admits
  split
  · rename_i n _ hreplies
    refine absurd ?_ (hunaccepted n)
    change replies = [.accepted n] at hreplies
    rw [hreplies]
    exact List.mem_singleton_self _
  · rfl

theorem run_stopped (env : Environment ι κ σ) (c : Controller) {l : EventLoop ι κ σ}
    (hstopped : l.status ≠ .running) (moves : List Move) :
    (∃ handles, (l.run env c moves).loop = { l with handles := handles }) ∧
      (l.run env c moves).trace = [] ∧ admitted (history env c l moves) = [] ∧
      applied (history env c l moves) = [] ∧ dropped (history env c l moves) = [] := by
  induction moves generalizing l with
  | nil => exact ⟨⟨l.handles, rfl⟩, rfl, rfl, rfl, rfl⟩
  | cons m rest ih =>
    obtain ⟨hadmits, happlies, hdrops⟩ := record_stopped env c hstopped m
    obtain ⟨handles, replies, hstep, _⟩ := step_stopped env c hstopped m
    rw [hstep] at hadmits happlies hdrops
    have hstopped' : ({ l with handles := handles } : EventLoop ι κ σ).status ≠ .running := hstopped
    obtain ⟨⟨handles', hloop⟩, htrace, hadmitted, happlied, hdropped⟩ := ih hstopped'
    simp only [history, run, Turn.andThen, hstep, admitted_cons, applied_cons, dropped_cons]
    rw [hadmits, happlies, hdrops, hadmitted, happlied, hdropped, hloop, htrace]
    exact ⟨⟨handles', rfl⟩, rfl, rfl, rfl, rfl⟩

end Regulatory.EventLoop
