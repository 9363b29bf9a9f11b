import Regulatory.Proofs.EventLoop.Stretch

/-!
The end of the loop: by itself, by an abort or by a panic, at any point of a run.
-/

namespace Regulatory.EventLoop

variable {ι κ σ : Type} [Named ι]

/-- A run of a new loop over the world `w`, given by its records `h` and its outcome `t`, as far as
its end is concerned. The loop may have stopped anywhere in the run, or run still. -/
structure Closing (env : Environment ι κ σ) (c : Controller) (w : Controller.World ι κ σ)
    (h : List (Record ι κ σ)) (t : Turn ι κ σ) : Prop where
  applied_prefix : applied h <+: (admitted h).map Prod.snd
  /-- The controller is where whole calls have brought it. -/
  world : t.loop.world = (Controller.run env c w (operations (applied h))).1
  /-- No call but the last can have panicked, and then the loop has unwound by it. -/
  whole : Controller.Calm env c w (operations (applied h).dropLast)
  unwound : t.loop.status = .unwound ↔ ¬Controller.Calm env c w (operations (applied h))
  held (r : Record ι κ σ) (hr : r ∈ h) (hheld : r.before.handles.contains true = true)
    (hrunning : r.before.status = .running) (hstops : r.turn.loop.status ≠ .running) :
    r.move = .abort ∨ r.move = .advance ∧
      ∃ t ∈ r.applies, (serve env c t.request r.before.world).result = none
  finished (hfinished : t.loop.status = .finished) :
    t.loop.handles.contains true = false ∧ applied h = (admitted h).map Prod.snd
  /-- Nothing happens any more after a stop. -/
  after (hstopped : t.loop.status ≠ .running) (later : List Move) :
    (t.loop.run env c later).loop.world = t.loop.world ∧
      (t.loop.run env c later).loop.status = t.loop.status ∧
      (t.loop.run env c later).trace = [] ∧ admitted (history env c t.loop later) = [] ∧
      applied (history env c t.loop later) = []
  closed (hstopped : t.loop.status ≠ .running) (later : List Move) (handle : Nat)
    (request : Request) (hheld : (t.loop.run env c later).loop.holds handle = true) :
    ((t.loop.run env c later).loop.step env c (.send handle request)).replies = [.closed]
  /-- A request that is refused leaves the loop alone, and what is applied in the whole run has been
  accepted before. -/
  refused (early late : List (Record ι κ σ)) (r : Record ι κ σ) (hsplit : h = early ++ r :: late)
    (hclosed : r.turn.replies = [.closed]) :
    r.turn.loop = r.before ∧ applied h <+: (admitted early).map Prod.snd
  /-- Who waits for a snapshot when the loop stops is told that there will be none. -/
  discarded (hstopped : t.loop.status ≠ .running) (a : Nat × Ticket) (ha : a ∈ admitted h)
    (hdump : a.2.request = .dump) (hunserved : a.2 ∉ applied h) :
    .discarded a.2.number ∈ t.replies ∧ ∀ s, .snapshot a.2.number s ∉ t.replies
  once : (t.replies.filterMap Reply.answers?).Nodup

theorem history_split {env : Environment ι κ σ} {c : Controller} {l : EventLoop ι κ σ}
    {moves : List Move} {early late : List (Record ι κ σ)} {r : Record ι κ σ}
    (hsplit : history env c l moves = early ++ r :: late) :
    ∃ first m rest, moves = first ++ m :: rest ∧ early = history env c l first ∧
      r = ⟨(l.run env c first).loop, m, (l.run env c first).loop.step env c m⟩ := by
  induction early generalizing l moves with
  | nil =>
    cases moves with
    | nil => cases hsplit
    | cons m rest =>
      obtain ⟨hr, _⟩ := List.cons.inj hsplit
      exact ⟨[], m, rest, rfl, rfl, hr.symm⟩
  | cons head early ih =>
    cases moves with
    | nil => cases hsplit
    | cons m rest =>
      obtain ⟨hhead, htail⟩ := List.cons.inj hsplit
      obtain ⟨first, m', rest', rfl, rfl, hr⟩ := ih htail
      exact ⟨m :: first, m', rest', rfl, by rw [history, hhead], hr⟩

omit [Named ι] in
theorem stop_replies_ne (l : EventLoop ι κ σ) (status : LoopStatus) :
    (l.stop status).replies ≠ [.closed] := by
  intro hclosed
  have hmem : .closed ∈ (l.stop status).replies := by
    rw [hclosed]
    exact List.mem_singleton_self _
  obtain ⟨t, _, hreply⟩ := List.mem_filterMap.1 hmem
  split at hreply <;> cases hreply

/-- No reply of a move but a refusal to queue reads as one. -/
theorem step_closed {env : Environment ι κ σ} {c : Controller} {l : EventLoop ι κ σ} {m : Move}
    (hclosed : (l.step env c m).replies = [.closed]) :
    l.status ≠ .running ∧ (l.step env c m).loop = l := by
  have hend := step_ends env c l m
  generalize l.step env c m = t at hend hclosed ⊢
  cases hend with
  | closed _ _ _ hstopped => exact ⟨hstopped, rfl⟩
  | accepted _ _ _ _ _ | full _ _ _ _ _ | noHandle _ _ _ _ | stopped _ _ _ | waiting _ _ _
  | finished _ _ _ | cloned _ _ | dropped _ _ => cases hclosed
  | served t _ _ _ _ =>
    simp only at hclosed
    split at hclosed <;> cases hclosed
  | aborted _ => exact absurd hclosed (stop_replies_ne l .aborted)
  | unwound t rest _ _ _ => exact absurd hclosed (stop_replies_ne { l with queue := rest } .unwound)

theorem step_stops {env : Environment ι κ σ} {c : Controller} {l : EventLoop ι κ σ} {m : Move}
    (hheld : l.handles.contains true = true) (hrunning : l.status = .running)
    (hstops : (l.step env c m).loop.status ≠ .running) :
    m = .abort ∨ m = .advance ∧ ∃ t ∈ Record.applies ⟨l, m, l.step env c m⟩,
      (serve env c t.request l.world).result = none := by
  have hend := step_ends env c l m
  generalize l.step env c m = t at hend hstops ⊢
  cases hend with
  | aborted _ => exact .inl rfl
  | unwound t rest _ hqueue hpanicked =>
    refine .inr ⟨rfl, t, ?_, hpanicked⟩
    rw [applies_of_running hrunning, hqueue]
    rfl
  | finished _ _ hhandles =>
    rw [hheld] at hhandles
    cases hhandles
  | accepted _ _ _ _ _ | closed _ _ _ _ | full _ _ _ _ _ | noHandle _ _ _ _ | stopped _ _ _
  | waiting _ _ _ | cloned _ _ | dropped _ _ | served _ _ _ _ _ => exact absurd hrunning hstops

theorem filterMap_snapshots (env : Environment ι κ σ) (c : Controller)
    (w : Controller.World ι κ σ) (tickets : List Ticket) :
    (snapshots env c w tickets).filterMap Reply.answers? = dumps tickets := by
  induction tickets generalizing w with
  | nil => rfl
  | cons t rest ih =>
    rw [snapshots, List.filterMap_append, ih]
    by_cases hdump : t.request = .dump
    · simp [dumps, hdump, Reply.answers?]
    · simp [dumps, hdump]

theorem send_stopped (env : Environment ι κ σ) (c : Controller) {l : EventLoop ι κ σ}
    (hstopped : l.status ≠ .running) {handle : Nat} (hheld : l.holds handle = true)
    (request : Request) : l.step env c (.send handle request) = ⟨l, [.closed], []⟩ := by
  rw [step, send, hheld, if_neg (by decide), if_pos hstopped]

theorem applied_of_refused {env : Environment ι κ σ} {c : Controller} {w : Controller.World ι κ σ}
    {first rest : List Move} {m : Move}
    (hclosed : (((start w).loop.run env c first).loop.step env c m).replies = [.closed]) :
    applied (history env c (start w).loop (first ++ m :: rest)) <+:
      (admitted (history env c (start w).loop first)).map Prod.snd := by
  obtain ⟨hstopped, _⟩ := step_closed hclosed
  obtain ⟨_, _, _, hunapplied, _⟩ := run_stopped env c hstopped (m :: rest)
  have happlied : applied (history env c (start w).loop (first ++ m :: rest)) =
      applied (history env c (start w).loop first) := by
    rw [history_append, applied, List.filterMap_append]
    change applied _ ++ applied _ = _
    rw [hunapplied, List.append_nil]
  rw [happlied, admitted_eq]
  exact List.prefix_append _ _

theorem discarded_of_stopped {env : Environment ι κ σ} {c : Controller}
    {w : Controller.World ι κ σ} {moves : List Move}
    (hstopped : ((start w).loop.run env c moves).loop.status ≠ .running) {a : Nat × Ticket}
    (ha : a ∈ admitted (history env c (start w).loop moves)) (hdump : a.2.request = .dump)
    (hunserved : a.2 ∉ applied (history env c (start w).loop moves)) :
    .discarded a.2.number ∈ ((start w).loop.run env c moves).replies ∧
      ∀ s, .snapshot a.2.number s ∉ ((start w).loop.run env c moves).replies := by
  have hadmitted := admitted_eq env c w moves
  rw [(run_sound env c (start_sound w) moves).emptied hstopped, List.append_nil] at hadmitted
  constructor
  · have hlost : a.2 ∈ dropped (history env c (start w).loop moves) := by
      have hmem := List.mem_map_of_mem (f := Prod.snd) ha
      rw [hadmitted, List.mem_append] at hmem
      exact hmem.resolve_left hunserved
    have hnumber : a.2.number ∈ dumps (dropped (history env c (start w).loop moves)) :=
      List.mem_map_of_mem (List.mem_filter.2 ⟨hlost, decide_eq_true hdump⟩)
    have hanswer : .discarded a.2.number ∈ ((start w).loop.run env c moves).replies.filter
        fun r => r.answers?.isSome := by
      rw [(run_stretch env c (start w).loop moves).answers, List.mem_append]
      exact .inr (List.mem_map_of_mem hnumber)
    exact (List.mem_filter.1 hanswer).1
  · intro s hmem
    obtain ⟨hlt, handle, hfound, _⟩ := snapshot_answered hmem
    obtain ⟨i, hi⟩ := List.mem_iff_getElem?.1 ha
    obtain rfl : a.2.number = i := admitted_number hi
    have hticket := congrArg (·[a.2.number]?) hadmitted
    simp only [List.getElem?_map, hi, Option.map_some, List.getElem?_append_left hlt] at hticket
    exact hunserved (List.mem_of_getElem? hticket.symm)

/-- Nobody is answered twice. -/
theorem answers_nodup (env : Environment ι κ σ) (c : Controller) (w : Controller.World ι κ σ)
    (moves : List Move) :
    (((start w).loop.run env c moves).replies.filterMap Reply.answers?).Nodup := by
  have hfilter (replies : List Reply) : replies.filterMap Reply.answers? =
      (replies.filter fun r => r.answers?.isSome).filterMap Reply.answers? := by
    rw [List.filterMap_filter]
    congr 1
    funext r
    cases r <;> rfl
  have hdiscards (numbers : List Nat) :
      (numbers.map Reply.discarded).filterMap Reply.answers? = numbers := by
    rw [List.filterMap_map]
    exact List.filterMap_some
  have hsublist := (dumps_sublist (applied (history env c (start w).loop moves) ++
    dropped (history env c (start w).loop moves))).trans
      ((List.sublist_append_left _ ((start w).loop.run env c moves).loop.queue).map Ticket.number)
  rw [dumps_append, List.append_assoc, ← admitted_eq, List.map_map] at hsublist
  rw [hfilter, (run_stretch env c (start w).loop moves).answers, List.filterMap_append,
    filterMap_snapshots, hdiscards]
  refine hsublist.nodup ?_
  change ((admitted _).map fun a => a.2.number).Nodup
  rw [admitted_numbers]
  exact List.nodup_range

/-- A new loop shuts down in order, whenever and however it is stopped. -/
theorem closing_of_run (env : Environment ι κ σ) (c : Controller) (w : Controller.World ι κ σ)
    (moves : List Move) :
    Closing env c w (history env c (start w).loop moves) ((start w).loop.run env c moves) := by
  have hstretch := run_stretch env c (start w).loop moves
  have hsound := run_sound env c (start_sound w) moves
  have hadmitted := admitted_eq env c w moves
  have hcalm := run_calm env c (l := (start w).loop) nofun moves
  constructor
  · exact ⟨_, hadmitted.symm⟩
  · exact hstretch.world
  · exact hcalm.2
  · exact hcalm.1
  · intro r hr hheld hrunning hstops
    obtain ⟨early, late, hsplit⟩ := List.append_of_mem hr
    obtain ⟨first, m, rest, _, _, rfl⟩ := history_split hsplit
    exact step_stops hheld hrunning hstops
  · intro hfinished
    have hstopped : ((start w).loop.run env c moves).loop.status ≠ .running := by
      rw [hfinished]
      nofun
    refine ⟨hsound.orphaned hfinished, ?_⟩
    have hkept : dropped (history env c (start w).loop moves) = [] := by
      refine Decidable.of_not_not fun hlost => ?_
      have hlossy := hstretch.lossy hlost
      rw [hfinished] at hlossy
      cases hlossy <;> contradiction
    rw [hadmitted, hkept, hsound.emptied hstopped, List.append_nil, List.append_nil]
  · intro hstopped later
    obtain ⟨⟨handles, hloop⟩, htrace, hnone, hunapplied, _⟩ := run_stopped env c hstopped later
    rw [hloop]
    exact ⟨rfl, rfl, htrace, hnone, hunapplied⟩
  · intro hstopped later handle request hheld
    obtain ⟨⟨handles, hloop⟩, _⟩ := run_stopped env c hstopped later
    have hstopped' : (((start w).loop.run env c moves).loop.run env c later).loop.status ≠
        .running := by
      rw [hloop]
      exact hstopped
    rw [send_stopped env c hstopped' hheld request]
  · intro early late r hsplit hclosed
    obtain ⟨first, m, rest, rfl, rfl, rfl⟩ := history_split hsplit
    exact ⟨(step_closed hclosed).2, applied_of_refused hclosed⟩
  · intro hstopped a ha hdump hunserved
    exact discarded_of_stopped hstopped ha hdump hunserved
  · exact answers_nodup env c w moves

/-- An abort with a snapshot asked for and a request behind it. A clone is refused later on. -/
def cutShort : List Move :=
  [.send 0 (.ready true), .advance, .send 0 .dump, .send 0 (.country "de"), .abort, .clone 0,
    .send 1 (.country "fr"), .advance]

theorem discarded_of_cutShort :
    (0, ⟨1, .dump⟩) ∈ admitted (history Fleet.environment Controller.sampleController
        (start Controller.sampleWorld).loop cutShort) ∧
      .discarded 1 ∈ ((start Controller.sampleWorld).loop.run Fleet.environment
        Controller.sampleController cutShort).replies ∧
      ∀ s, .snapshot 1 s ∉ ((start Controller.sampleWorld).loop.run Fleet.environment
        Controller.sampleController cutShort).replies :=
  ⟨by decide, (closing_of_run Fleet.environment Controller.sampleController Controller.sampleWorld
    cutShort).discarded (by decide) (0, ⟨1, .dump⟩) (by decide) rfl (by decide)⟩

end Regulatory.EventLoop
