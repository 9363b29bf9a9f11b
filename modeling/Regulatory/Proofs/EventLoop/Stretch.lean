import Regulatory.Proofs.Controller.History
import Regulatory.Proofs.EventLoop.History

/-!
Stretches of a run of the event loop: what was admitted against what was applied, dropped or is
still queued, and what the applied requests did to the controller.
-/

namespace Regulatory

/-- The operation on the controller that a request asks for. A snapshot is not one. -/
def Request.operation {ι κ σ : Type} : Request → Option (Controller.Operation ι κ σ)
  | .ready value => some (.ready value)
  | .country raw => some (.country raw)
  | .dump => none

namespace EventLoop

variable {ι κ σ : Type}

def operations (tickets : List Ticket) : List (Controller.Operation ι κ σ) :=
  tickets.filterMap fun t => t.request.operation

/-- The number of the request that a reply answers. That it was queued is not an answer yet. -/
def Reply.answers? : Reply → Option Nat
  | .snapshot n _ | .discarded n => some n
  | _ => none

/-- The numbers of the snapshots that some tickets ask for. -/
def dumps (tickets : List Ticket) : List Nat :=
  (tickets.filter fun t => t.request = .dump).map Ticket.number

theorem operations_singleton (t : Ticket) :
    (operations [t] : List (Controller.Operation ι κ σ)) = t.request.operation.toList := by
  cases hoperation : (t.request.operation : Option (Controller.Operation ι κ σ)) with
  | none | some _ => simp [operations, hoperation]

theorem operations_append (s t : List Ticket) :
    (operations (s ++ t) : List (Controller.Operation ι κ σ)) = operations s ++ operations t :=
  List.filterMap_append

theorem dumps_append (s t : List Ticket) : dumps (s ++ t) = dumps s ++ dumps t := by
  simp only [dumps, List.filter_append, List.map_append]

theorem dumps_sublist (tickets : List Ticket) :
    (dumps tickets).Sublist (tickets.map Ticket.number) :=
  List.filter_sublist.map Ticket.number

variable [Named ι]

theorem serve_run (env : Environment ι κ σ) (c : Controller) (request : Request)
    (w : Controller.World ι κ σ) :
    Controller.run env c w request.operation.toList =
      ((serve env c request w).world, (serve env c request w).trace) := by
  cases request with
  | ready _ | country _ => exact Prod.ext rfl (List.append_nil _)
  | dump => rfl

theorem run_operations_cons (env : Environment ι κ σ) (c : Controller)
    (w : Controller.World ι κ σ) (t : Ticket) (rest : List Ticket) :
    (Controller.run env c w (operations (t :: rest))).1 =
      (Controller.run env c (serve env c t.request w).world (operations rest)).1 := by
  rw [← List.singleton_append, operations_append, Controller.run_append, operations_singleton,
    serve_run]

theorem serve_calm (env : Environment ι κ σ) (c : Controller) (request : Request)
    (w : Controller.World ι κ σ) :
    Controller.Calm env c w request.operation.toList ↔
      (serve env c request w).result ≠ none := by
  cases request with
  | ready _ | country _ =>
    simp [Controller.Calm, Controller.history, Request.operation, Controller.step, serve,
      Controller.Call.map]
  | dump => simp [Controller.Calm, Controller.history, Request.operation, serve]

/-- The snapshots that are sent when a controller serves some tickets in order. -/
def snapshots (env : Environment ι κ σ) (c : Controller) (w : Controller.World ι κ σ) :
    List Ticket → List Reply
  | [] => []
  | t :: rest =>
    (if t.request = .dump then [.snapshot t.number (c.snapshot w.state)] else []) ++
      snapshots env c (serve env c t.request w).world rest

theorem snapshots_append (env : Environment ι κ σ) (c : Controller) (w : Controller.World ι κ σ)
    (s t : List Ticket) :
    snapshots env c w (s ++ t) =
      snapshots env c w s ++ snapshots env c (Controller.run env c w (operations s)).1 t := by
  induction s generalizing w with
  | nil => rfl
  | cons head rest ih =>
    rw [List.cons_append, snapshots, snapshots, ih, run_operations_cons, List.append_assoc]

/-- A stretch of a run that begins with the loop `l` and ends with the turn `t`. The tickets that
entered the queue come with the handles by which they were sent. Those that left it were either
`done` or `lost`. -/
structure Stretch (env : Environment ι κ σ) (c : Controller) (l : EventLoop ι κ σ)
    (entered : List (Nat × Ticket)) (done lost : List Ticket) (t : Turn ι κ σ) : Prop where
  queue : l.queue ++ entered.map Prod.snd = done ++ (lost ++ t.loop.queue)
  numbers : entered.map (fun a => a.2.number) = List.range' l.accepted entered.length
  count : t.loop.accepted = l.accepted + entered.length
  world : t.loop.world = (Controller.run env c l.world (operations done)).1
  trace : t.trace.unlogged = (Controller.run env c l.world (operations done)).2.unlogged
  answers : t.replies.filter (fun r => r.answers?.isSome) =
    snapshots env c l.world done ++ (dumps lost).map Reply.discarded
  /-- Nothing is lost but by the loop's end. -/
  lossy : lost ≠ [] → t.loop.status = .aborted ∨ t.loop.status = .unwound

/-- A move that leaves the queue and the controller alone. -/
theorem Stretch.blank {env : Environment ι κ σ} {c : Controller} {l : EventLoop ι κ σ}
    {t : Turn ι κ σ} (hqueue : t.loop.queue = l.queue) (hcount : t.loop.accepted = l.accepted)
    (hworld : t.loop.world = l.world) (htrace : t.trace.unlogged = [])
    (hanswers : t.replies.filter (fun r => r.answers?.isSome) = []) :
    Stretch env c l [] [] [] t where
  queue := by rw [hqueue, List.map_nil, List.append_nil, List.nil_append, List.nil_append]
  numbers := rfl
  count := hcount
  world := hworld
  trace := htrace
  answers := hanswers
  lossy := fun hlost => absurd rfl hlost

/-- Two stretches make one, provided that nothing is done after a loss. -/
theorem Stretch.andThen {env : Environment ι κ σ} {c : Controller} {l : EventLoop ι κ σ}
    {entered later : List (Nat × Ticket)} {done lost done' lost' : List Ticket} {t : Turn ι κ σ}
    {next : EventLoop ι κ σ → Turn ι κ σ} (hfirst : Stretch env c l entered done lost t)
    (hsecond : Stretch env c t.loop later done' lost' (next t.loop))
    (hlost : lost ≠ [] → done' = [] ∧ (next t.loop).loop.status = t.loop.status) :
    Stretch env c l (entered ++ later) (done ++ done') (lost ++ lost') (t.andThen next) := by
  -- Both `queue` and `answers` move what was lost behind what is done later.
  have hover : lost = [] ∨ done' = [] := by
    cases hempty : lost with
    | nil => exact .inl rfl
    | cons head rest => exact .inr (hlost (hempty ▸ List.cons_ne_nil head rest)).1
  have hswap : lost ++ done' = done' ++ lost := by
    obtain rfl | rfl := hover
    · rw [List.append_nil, List.nil_append]
    · rw [List.append_nil, List.nil_append]
  have hrun := Controller.run_append env c l.world (operations done) (operations done')
  rw [← operations_append, ← hfirst.world] at hrun
  constructor
  · calc l.queue ++ (entered ++ later).map Prod.snd
        = done ++ (lost ++ (t.loop.queue ++ later.map Prod.snd)) := by
          rw [List.map_append, ← List.append_assoc, hfirst.queue]
          simp only [List.append_assoc]
      _ = done ++ (lost ++ done' ++ (lost' ++ (next t.loop).loop.queue)) := by
          rw [hsecond.queue, List.append_assoc]
      _ = done ++ done' ++ (lost ++ lost' ++ (next t.loop).loop.queue) := by
          rw [hswap]
          simp only [List.append_assoc]
  · rw [List.map_append, hfirst.numbers, hsecond.numbers, hfirst.count, List.length_append,
      List.range'_append_1]
  · change (next t.loop).loop.accepted = _
    rw [hsecond.count, hfirst.count, List.length_append, Nat.add_assoc]
  · rw [hrun]
    exact hsecond.world
  · rw [hrun]
    change Trace.unlogged (t.trace ++ (next t.loop).trace) = _
    rw [Trace.unlogged_append, Trace.unlogged_append, hfirst.trace, hsecond.trace]
  · change (t.replies ++ (next t.loop).replies).filter _ = _
    rw [List.filter_append, hfirst.answers, hsecond.answers, hfirst.world, snapshots_append,
      dumps_append, List.map_append]
    obtain rfl | rfl := hover
    · simp [dumps]
    · simp [snapshots]
  · intro hlosses
    change (next t.loop).loop.status = _ ∨ (next t.loop).loop.status = _
    by_cases hempty : lost = []
    · rw [hempty, List.nil_append] at hlosses
      exact hsecond.lossy hlosses
    · rw [(hlost hempty).2]
      exact hfirst.lossy hempty

omit [Named ι] in
/-- All who wait for a snapshot are told that it will not come. -/
theorem stop_answers (l : EventLoop ι κ σ) (status : LoopStatus) :
    (l.stop status).replies.filter (fun r => r.answers?.isSome) =
      (dumps l.queue).map Reply.discarded := by
  simp only [stop, dumps]
  induction l.queue with
  | nil => rfl
  | cons t rest ih =>
    by_cases hdump : t.request = .dump
    · simp only [List.filterMap_cons, List.filter_cons, hdump, if_true, decide_true, List.map_cons]
      exact congrArg (.discarded t.number :: ·) ih
    · simp only [List.filterMap_cons, List.filter_cons, hdump, if_false, decide_false,
        Bool.false_eq_true]
      exact ih

theorem step_stretch (env : Environment ι κ σ) (c : Controller) (l : EventLoop ι κ σ) (m : Move) :
    Stretch env c l (Record.admits ⟨l, m, l.step env c m⟩).toList
      (Record.applies ⟨l, m, l.step env c m⟩).toList (Record.drops ⟨l, m, l.step env c m⟩)
      (l.step env c m) := by
  have hend := step_ends env c l m
  generalize l.step env c m = t at hend ⊢
  cases hend with
  | accepted handle request hheld hrunning hroom =>
    rw [Record.drops, if_pos rfl]
    exact ⟨rfl, rfl, rfl, rfl, rfl, rfl, nofun⟩
  | closed _ _ _ _ | full _ _ _ _ _ | cloned _ _ | dropped _ _ =>
    rw [Record.drops, if_pos rfl]
    exact .blank rfl rfl rfl rfl rfl
  | noHandle m handle hmove hheld =>
    rw [Record.drops, if_pos rfl]
    obtain rfl | rfl | ⟨request, rfl⟩ := hmove <;> exact .blank rfl rfl rfl rfl rfl
  | stopped m hmove hstopped =>
    rw [Record.drops, if_pos rfl, applies_of_stopped hstopped]
    obtain rfl | rfl := hmove <;> exact .blank rfl rfl rfl rfl rfl
  | waiting hrunning hqueue hhandles =>
    rw [Record.drops, if_pos rfl, applies_of_running hrunning, hqueue]
    exact .blank rfl rfl rfl rfl rfl
  | finished hrunning hqueue hhandles =>
    rw [applies_of_running hrunning]
    simp only [Record.drops, hrunning, hqueue]
    exact .blank hqueue.symm rfl rfl rfl rfl
  | aborted hrunning =>
    have hdrops : Record.drops ⟨l, .abort, l.stop .aborted⟩ = l.queue := by
      simp only [Record.drops, stop, hrunning, reduceCtorEq, if_false]
    rw [hdrops]
    refine ⟨?_, rfl, rfl, rfl, rfl, stop_answers l .aborted, fun _ => .inl rfl⟩
    change l.queue ++ [] = [] ++ (l.queue ++ [])
    rw [List.nil_append]
  | served ticket rest hrunning hqueue hreturned =>
    rw [applies_of_running hrunning, hqueue, Record.drops, if_pos rfl]
    have hrun := serve_run env c ticket.request l.world
    rw [← operations_singleton] at hrun
    refine ⟨?_, rfl, rfl, ?_, ?_, ?_, nofun⟩
    · rw [hqueue]
      exact List.append_nil _
    · exact (congrArg Prod.fst hrun).symm
    · exact congrArg (fun p => Trace.unlogged p.2) hrun.symm
    · simp only [List.head?_cons, Option.toList_some, snapshots]
      split <;> rfl
  | unwound ticket rest hrunning hqueue hpanicked =>
    rw [applies_of_running hrunning, hqueue]
    simp only [Record.drops, hrunning, hqueue, stop, reduceCtorEq, if_false]
    have hrun := serve_run env c ticket.request l.world
    rw [← operations_singleton] at hrun
    refine ⟨?_, rfl, rfl, ?_, ?_, ?_, fun _ => .inr rfl⟩
    · rw [hqueue]
      change ticket :: rest ++ [] = [ticket] ++ (rest ++ [])
      simp only [List.append_nil, List.singleton_append]
    · exact (congrArg Prod.fst hrun).symm
    · exact congrArg (fun p => Trace.unlogged p.2) hrun.symm
    · -- A snapshot cannot panic, so that this request is not one and needs no answer.
      have hcall : ticket.request ≠ .dump := by
        intro hdump
        rw [hdump] at hpanicked
        cases hpanicked
      simp only [List.head?_cons, Option.toList_some, snapshots, if_neg hcall]
      exact stop_answers { l with queue := rest } .unwound

theorem run_stretch (env : Environment ι κ σ) (c : Controller) (l : EventLoop ι κ σ)
    (moves : List Move) :
    Stretch env c l (admitted (history env c l moves)) (applied (history env c l moves))
      (dropped (history env c l moves)) (l.run env c moves) := by
  induction moves generalizing l with
  | nil => exact .blank rfl rfl rfl rfl rfl
  | cons m rest ih =>
    have hstep := step_stretch env c l m
    rw [history, admitted_cons, applied_cons, dropped_cons]
    refine hstep.andThen (ih (l.step env c m).loop) ?_
    intro hlost
    -- What was lost was lost by a stop, and a loop that has stopped does nothing.
    have hstopped : (l.step env c m).loop.status ≠ .running := by
      obtain haborted | hunwound := hstep.lossy hlost
      · rw [haborted]
        decide
      · rw [hunwound]
        decide
    obtain ⟨⟨handles, hrest⟩, _, _, happlied, _⟩ := run_stopped env c hstopped rest
    exact ⟨happlied, by rw [hrest]⟩

theorem step_unwound_iff (env : Environment ι κ σ) (c : Controller) {l : EventLoop ι κ σ}
    (hwound : l.status ≠ .unwound) (m : Move) :
    (l.step env c m).loop.status = .unwound ↔
      ¬Controller.Calm env c l.world
        (operations (Record.applies ⟨l, m, l.step env c m⟩).toList) := by
  have hend := step_ends env c l m
  generalize l.step env c m = t at hend ⊢
  have hidle (hstatus : t.loop.status ≠ .unwound) (happlies : Record.applies ⟨l, m, t⟩ = none) :
      t.loop.status = .unwound ↔
        ¬Controller.Calm env c l.world (operations (Record.applies ⟨l, m, t⟩).toList) := by
    rw [happlies]
    exact iff_of_false hstatus (not_not_intro (Controller.calm_nil env c l.world))
  cases hend with
  | accepted _ _ _ _ _ | closed _ _ _ _ | full _ _ _ _ _ | cloned _ _ | dropped _ _ =>
    exact hidle hwound rfl
  | noHandle _ _ hmove _ => obtain rfl | rfl | ⟨_, rfl⟩ := hmove <;> exact hidle hwound rfl
  | stopped m _ hstopped => exact hidle hwound (applies_of_stopped hstopped m _)
  | waiting hrunning hqueue _ =>
    refine hidle hwound ?_
    rw [applies_of_running hrunning, hqueue, List.head?_nil]
  | finished hrunning hqueue _ =>
    refine hidle nofun ?_
    rw [applies_of_running hrunning, hqueue, List.head?_nil]
  | aborted _ => exact hidle nofun rfl
  | served t rest hrunning hqueue hreturned =>
    rw [applies_of_running hrunning, hqueue, List.head?_cons, Option.toList_some,
      operations_singleton, serve_calm]
    exact iff_of_false hwound (not_not_intro hreturned)
  | unwound t rest hrunning hqueue hpanicked =>
    rw [applies_of_running hrunning, hqueue, List.head?_cons, Option.toList_some,
      operations_singleton, serve_calm]
    exact iff_of_true rfl (not_not_intro hpanicked)

/-- The loop unwinds by the call that panics, which is the last it makes. -/
theorem run_calm (env : Environment ι κ σ) (c : Controller) {l : EventLoop ι κ σ}
    (hwound : l.status ≠ .unwound) (moves : List Move) :
    ((l.run env c moves).loop.status = .unwound ↔
        ¬Controller.Calm env c l.world (operations (applied (history env c l moves)))) ∧
      Controller.Calm env c l.world (operations (applied (history env c l moves)).dropLast) := by
  induction moves generalizing l with
  | nil =>
    have hcalm := Controller.calm_nil env c l.world
    exact ⟨iff_of_false hwound (not_not_intro hcalm), hcalm⟩
  | cons m rest ih =>
    have hstep := step_unwound_iff env c hwound m
    have hworld := (step_stretch env c l m).world
    rw [history, applied_cons]
    change (((l.step env c m).loop.run env c rest).loop.status = _ ↔ _) ∧ _
    have halone : (Record.applies ⟨l, m, l.step env c m⟩).toList.dropLast = [] := by
      cases Record.applies ⟨l, m, l.step env c m⟩ <;> rfl
    -- Either this is the call that panics, and the rest applies nothing, or it is a whole one.
    by_cases hunwound : (l.step env c m).loop.status = .unwound
    · have hstopped : (l.step env c m).loop.status ≠ .running := by
        rw [hunwound]
        decide
      obtain ⟨⟨handles, hrest⟩, _, _, happlied, _⟩ := run_stopped env c hstopped rest
      rw [happlied, List.append_nil, hrest]
      refine ⟨iff_of_true hunwound (hstep.1 hunwound), ?_⟩
      rw [halone]
      exact Controller.calm_nil env c l.world
    · have hcalm := Decidable.of_not_not (mt hstep.2 hunwound)
      obtain ⟨hrest, hbut⟩ := ih hunwound
      rw [hrest, operations_append, Controller.calm_append, ← hworld]
      refine ⟨by simp only [hcalm, true_and], ?_⟩
      by_cases hlast : applied (history env c (l.step env c m).loop rest) = []
      · rw [hlast, List.append_nil, halone]
        exact Controller.calm_nil env c l.world
      · rw [List.dropLast_append_of_ne_nil hlast, operations_append, Controller.calm_append,
          ← hworld]
        exact ⟨hcalm, hbut⟩

/-- What holds of a loop between any two moves. -/
structure Sound (l : EventLoop ι κ σ) : Prop where
  bounded : l.queue.length ≤ capacity
  emptied : l.status ≠ .running → l.queue = []
  orphaned : l.status = .finished → l.handles.contains true = false

theorem step_sound (env : Environment ι κ σ) (c : Controller) {l : EventLoop ι κ σ}
    (hsound : l.Sound) (m : Move) : (l.step env c m).loop.Sound := by
  obtain ⟨hbounded, hemptied, horphaned⟩ := hsound
  have hend := step_ends env c l m
  generalize l.step env c m = t at hend ⊢
  cases hend with
  | closed _ _ _ _ | full _ _ _ _ _ | noHandle _ _ _ _ | stopped _ _ _ | waiting _ _ _ =>
    exact ⟨hbounded, hemptied, horphaned⟩
  | accepted handle request hheld hrunning hroom =>
    refine ⟨?_, fun hstopped => absurd hrunning hstopped, ?_⟩
    · change (l.queue ++ [_]).length ≤ capacity
      rw [List.length_append]
      exact hroom
    · intro hfinished
      cases hrunning.symm.trans hfinished
  | cloned handle hheld | dropped handle hheld =>
    refine ⟨hbounded, hemptied, fun hfinished => ?_⟩
    -- A loop that ended by itself has no handle left on which this move could be made.
    have hnone := horphaned hfinished
    rw [contains_of_holds hheld] at hnone
    cases hnone
  | finished hrunning hqueue hhandles => exact ⟨hbounded, fun _ => hqueue, fun _ => hhandles⟩
  | aborted _ | unwound _ _ _ _ _ => exact ⟨Nat.zero_le _, fun _ => rfl, nofun⟩
  | served t rest hrunning hqueue hreturned =>
    rw [hqueue, List.length_cons] at hbounded
    refine ⟨Nat.le_of_succ_le hbounded, fun hstopped => absurd hrunning hstopped, ?_⟩
    intro hfinished
    cases hrunning.symm.trans hfinished

theorem run_sound (env : Environment ι κ σ) (c : Controller) {l : EventLoop ι κ σ}
    (hsound : l.Sound) (moves : List Move) : (l.run env c moves).loop.Sound := by
  induction moves generalizing l with
  | nil => exact hsound
  | cons m rest ih => exact ih (step_sound env c hsound m)

omit [Named ι] in
theorem start_sound (w : Controller.World ι κ σ) : (start w).loop.Sound :=
  ⟨Nat.zero_le _, fun _ => rfl, nofun⟩

theorem mem_snapshots {env : Environment ι κ σ} {c : Controller} {w : Controller.World ι κ σ}
    {tickets : List Ticket} {n : Nat} {s : Snapshot}
    (hmem : .snapshot n s ∈ snapshots env c w tickets) :
    ∃ i, tickets[i]? = some ⟨n, .dump⟩ ∧
      s = c.snapshot (Controller.run env c w (operations (tickets.take i))).1.state := by
  induction tickets generalizing w with
  | nil => cases hmem
  | cons t rest ih =>
    rw [snapshots, List.mem_append] at hmem
    obtain hfirst | hlater := hmem
    · obtain ⟨number, request⟩ := t
      by_cases hdump : request = .dump
      · rw [if_pos hdump, List.mem_singleton] at hfirst
        cases hfirst
        exact ⟨0, by rw [hdump, List.getElem?_cons_zero], rfl⟩
      · rw [if_neg hdump] at hfirst
        cases hfirst
    · obtain ⟨i, hticket, hsnapshot⟩ := ih hlater
      refine ⟨i + 1, hticket, ?_⟩
      rw [List.take_succ_cons, run_operations_cons]
      exact hsnapshot

section Start

variable (env : Environment ι κ σ) (c : Controller) (w : Controller.World ι κ σ)
  (moves : List Move)

theorem admitted_eq :
    (admitted (history env c (start w).loop moves)).map Prod.snd =
      applied (history env c (start w).loop moves) ++
        (dropped (history env c (start w).loop moves) ++
          ((start w).loop.run env c moves).loop.queue) :=
  (run_stretch env c (start w).loop moves).queue

theorem admitted_numbers :
    (admitted (history env c (start w).loop moves)).map (fun a => a.2.number) =
      List.range (admitted (history env c (start w).loop moves)).length := by
  rw [List.range_eq_range']
  exact (run_stretch env c (start w).loop moves).numbers

variable {env c w moves}

/-- Each ticket is found under its number. -/
theorem admitted_number {i : Nat} {a : Nat × Ticket}
    (ha : (admitted (history env c (start w).loop moves))[i]? = some a) : a.2.number = i := by
  have hnumber := congrArg (·[i]?) (admitted_numbers env c w moves)
  simp only [List.getElem?_map, ha, Option.map_some] at hnumber
  obtain ⟨_, hrange⟩ := List.getElem?_eq_some_iff.1 hnumber.symm
  rw [← hrange, List.getElem_range]

theorem admitted_inj {a b : Nat × Ticket}
    (ha : a ∈ admitted (history env c (start w).loop moves))
    (hb : b ∈ admitted (history env c (start w).loop moves)) (heq : a.2 = b.2) : a = b := by
  obtain ⟨i, hi⟩ := List.mem_iff_getElem?.1 ha
  obtain ⟨j, hj⟩ := List.mem_iff_getElem?.1 hb
  have hij : i = j := by rw [← admitted_number hi, ← admitted_number hj, heq]
  rw [hij, hj] at hi
  exact (Option.some.inj hi).symm

theorem snapshot_answered {n : Nat} {s : Snapshot}
    (hmem : .snapshot n s ∈ ((start w).loop.run env c moves).replies) :
    n < (applied (history env c (start w).loop moves)).length ∧
    ∃ handle, (admitted (history env c (start w).loop moves))[n]? = some (handle, ⟨n, .dump⟩) ∧
      s = c.snapshot (Controller.run env c w (operations
        (((admitted (history env c (start w).loop moves)).take n).map Prod.snd))).1.state := by
  have hanswer : .snapshot n s ∈ ((start w).loop.run env c moves).replies.filter
      fun r => r.answers?.isSome :=
    List.mem_filter.2 ⟨hmem, rfl⟩
  rw [(run_stretch env c (start w).loop moves).answers, List.mem_append] at hanswer
  obtain hsent | hlost := hanswer
  · obtain ⟨i, hticket, hsnapshot⟩ := mem_snapshots hsent
    obtain ⟨hlt, _⟩ := List.getElem?_eq_some_iff.1 hticket
    have hadmitted := congrArg (·[i]?) (admitted_eq env c w moves)
    simp only [List.getElem?_append_left hlt, hticket, List.getElem?_map,
      Option.map_eq_some_iff] at hadmitted
    obtain ⟨⟨handle, t⟩, hfound, rfl⟩ := hadmitted
    obtain rfl : n = i := admitted_number hfound
    refine ⟨hlt, handle, hfound, ?_⟩
    rw [List.map_take, admitted_eq, List.take_append_of_le_length (Nat.le_of_lt hlt)]
    exact hsnapshot
  · obtain ⟨number, _, heq⟩ := List.mem_map.1 hlost
    cases heq

end Start

end EventLoop

end Regulatory
