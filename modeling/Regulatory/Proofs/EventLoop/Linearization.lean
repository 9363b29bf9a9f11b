import Regulatory.Proofs.Controller.Clock
import Regulatory.Proofs.EventLoop.Stretch

/-!
In whatever way senders and the loop take turns, the loop does what a controller does that is
called directly with the accepted requests, one after the other.
-/

namespace Regulatory.EventLoop

variable {ι κ σ : Type}

/-- Whether a ticket came by one of the handles of a client. -/
def sentBy (h : List (Record ι κ σ)) (client : Nat → Bool) (t : Ticket) : Bool :=
  (admitted h).any fun a => client a.1 && decide (a.2 = t)

variable [Named ι]

/-- A run of the loop, given by its records `h` and its outcome `t`, that does up to its times what
the controller does when it is called directly in the world `v`. -/
structure Linearized (env : Environment ι κ σ) (c : Controller) (v : Controller.World ι κ σ)
    (h : List (Record ι κ σ)) (t : Turn ι κ σ) : Prop where
  /-- Nothing that was accepted is lost, doubled or overtaken. -/
  order : applied h ++ t.loop.queue = (admitted h).map Prod.snd
  numbers : (admitted h).map (fun a => a.2.number) = List.range (admitted h).length
  bounded : t.loop.queue.length ≤ capacity
  /-- A client may hold any handles, such as one and the clones of it. -/
  clients (client : Nat → Bool) : (applied h ++ t.loop.queue).filter (sentBy h client) =
    ((admitted h).filter fun a => client a.1).map Prod.snd
  world : t.loop.world.timeless = (Controller.run env c v (operations (applied h))).1.timeless
  /-- The calls of interfaces and listeners and the queries, in order. -/
  trace : t.trace.unlogged = (Controller.run env c v (operations (applied h))).2.unlogged
  /-- A snapshot shows what was accepted before it was asked for, and nothing else. -/
  snapshots (n : Nat) (s : Snapshot) : .snapshot n s ∈ t.replies →
    ∃ handle, (admitted h)[n]? = some (handle, ⟨n, .dump⟩) ∧
      s.timeless = (c.snapshot (Controller.run env c v
        (operations (((admitted h).take n).map Prod.snd))).1.state).timeless

/-- Tickets differ by their numbers, so that a client's tickets are found again among all. -/
theorem filter_sentBy (env : Environment ι κ σ) (c : Controller) (w : Controller.World ι κ σ)
    (moves : List Move) (client : Nat → Bool) :
    ((admitted (history env c (start w).loop moves)).map Prod.snd).filter
        (sentBy (history env c (start w).loop moves) client) =
      ((admitted (history env c (start w).loop moves)).filter fun a => client a.1).map
        Prod.snd := by
  rw [List.filter_map]
  congr 1
  refine List.filter_congr fun a ha => ?_
  apply Bool.eq_iff_iff.2
  simp only [sentBy, Function.comp_apply, List.any_eq_true, Bool.and_eq_true, decide_eq_true_eq]
  constructor
  · rintro ⟨b, hb, hclient, heq⟩
    rwa [← admitted_inj hb ha heq]
  · intro hclient
    exact ⟨a, ha, hclient, rfl⟩

/-- The loop is a controller that is called directly with what it accepted, in that order, as long
as it is not aborted and no call of the controller panics. The direct controller may have a clock of
its own, and be created at another time. -/
theorem linearized_of_calm (env : Environment ι κ σ) (clock : Nat → Nat) (c : Controller)
    {w v : Controller.World ι κ σ} (heq : w.timeless = v.timeless) (moves : List Move)
    (habort : ((start w).loop.run env c moves).loop.status ≠ .aborted)
    (hcalm : Controller.Calm env c w
      (operations (applied (history env c (start w).loop moves)))) :
    Linearized (env.withClock clock) c v (history env c (start w).loop moves)
      ((start w).loop.run env c moves) := by
  have hstretch := run_stretch env c (start w).loop moves
  have hwound : ((start w).loop.run env c moves).loop.status ≠ .unwound := by
    intro hunwound
    exact (run_calm env c (l := (start w).loop) nofun moves).1.1 hunwound hcalm
  have hkept : dropped (history env c (start w).loop moves) = [] := by
    refine Decidable.of_not_not fun hlost => ?_
    exact (hstretch.lossy hlost).elim habort hwound
  have horder := admitted_eq env c w moves
  rw [hkept, List.nil_append] at horder
  -- The run as one stretch gives all but the times, and these do not matter.
  have hrun := Controller.run_clock env clock c heq
    (operations (applied (history env c (start w).loop moves)))
  refine ⟨horder.symm, admitted_numbers env c w moves,
    (run_sound env c (start_sound w) moves).bounded, ?_, ?_, ?_, ?_⟩
  · intro client
    rw [← horder]
    exact filter_sentBy env c w moves client
  · rw [hstretch.world]
    exact hrun.1
  · rw [hstretch.trace]
    exact congrArg Trace.unlogged hrun.2
  · intro n s hmem
    obtain ⟨_, handle, hasked, hsnapshot⟩ := snapshot_answered hmem
    refine ⟨handle, hasked, ?_⟩
    have hthen := (Controller.run_clock env clock c heq (operations
      (((admitted (history env c (start w).loop moves)).take n).map Prod.snd))).1
    have hstate := congrArg Controller.World.state hthen
    rw [hsnapshot, Controller.snapshot_timeless, Controller.snapshot_timeless]
    exact congrArg c.snapshot hstate

/-- Two clients, one with a clone of the other's handle that it holds on to when the other's is
dropped. A snapshot is asked for between two requests that are still queued. -/
def sampleMoves : List Move :=
  [.clone 0, .send 0 (.country "de"), .send 1 (.ready true), .advance, .send 0 .dump,
    .send 1 (.country " "), .drop 0, .advance, .advance, .send 1 (.ready true)]

theorem linearized_of_two_clients :
    Controller.sampleWorld.timeless = Controller.sampleWorld.timeless ∧
      ((start Controller.sampleWorld).loop.run Fleet.environment Controller.sampleController
        sampleMoves).loop.status ≠ .aborted ∧
      Controller.Calm Fleet.environment Controller.sampleController Controller.sampleWorld
        (operations (applied (history Fleet.environment Controller.sampleController
          (start Controller.sampleWorld).loop sampleMoves))) ∧
      Linearized (Fleet.environment.withClock fun n => 1000 * n) Controller.sampleController
        Controller.sampleWorld
        (history Fleet.environment Controller.sampleController (start Controller.sampleWorld).loop
          sampleMoves)
        ((start Controller.sampleWorld).loop.run Fleet.environment Controller.sampleController
          sampleMoves) :=
  ⟨rfl, by decide, by decide, linearized_of_calm _ _ _ rfl _ (by decide) (by decide)⟩

end Regulatory.EventLoop
