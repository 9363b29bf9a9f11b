import Regulatory.Proofs.Controller.Notification

/-!
What listeners miss when one of them panics. The driver's code is written before the listeners are
told, so those after the one that panicked are not told of it later: pushes of the same code are no
change any more. A listener is up to date as long as the last change has reached it.
-/

namespace Regulatory.Controller

variable {ι κ σ : Type} [Named ι]

/-- The last call among some that changed the driver's code. -/
def lastChange (env : Environment ι κ σ) (c : Controller) (h : List (Record ι κ σ)) :
    Option (Record ι κ σ) :=
  (h.filter fun r => (r.change env c).isSome).getLast?

/-- Listener number `k` was registered before the first push of some calls. -/
def Early (k : Nat) (h : List (Record ι κ σ)) : Prop :=
  ∀ r ∈ h, r.operation.pushes r.before.state.ready = true → k < r.before.state.listeners.length

instance (k : Nat) (h : List (Record ι κ σ)) : Decidable (Early k h) :=
  inferInstanceAs (Decidable (∀ r ∈ h, _ → _))

/-- Whenever a call that pushes returns, each listener registered before the first push was last
told the driver's code. -/
def Unstarved (env : Environment ι κ σ) (c : Controller) (w : World ι κ σ)
    (ops : List (Operation ι κ σ)) : Prop :=
  ∀ n r k, (history env c w ops)[n]? = some r → r.operation.pushes r.before.state.ready = true →
    r.call.result ≠ none → Early k ((history env c w ops).take (n + 1)) →
      (heard k ((history env c w ops).take (n + 1))).getLast? = r.call.world.state.driver

/-- A listener behind one that panics is never told of the code that the driver has by then: the
second push returns, and finds the code unchanged. -/
theorem starved_behind_panicking_listener :
    ¬ Unstarved Fleet.environment sampleController (start ∅ none [])
      [.listen ⟨0, true⟩, .listen ⟨1, false⟩, .ready true, .ready true] := by
  intro hunstarved
  have hlatest := hunstarved 3 _ 1 rfl rfl (by decide) (by decide)
  exact absurd hlatest (by decide)

/-- If the last member of a list with a value is kept, it is the last one that has a value among
those kept. -/
theorem getLast?_filterMap_of_kept {α β : Type} {f g : α → Option β} {l : List α} {a : α}
    (hlast : (l.filter fun x => (f x).isSome).getLast? = some a)
    (hdropped : ∀ x, f x = none → g x = none) (hkept : g a = f a) :
    (l.filterMap g).getLast? = f a := by
  rw [List.getLast?_filter] at hlast
  rw [List.getLast?_filterMap]
  generalize l.reverse = reversed at hlast ⊢
  induction reversed with
  | nil => cases hlast
  | cons x rest ih =>
    cases hx : f x with
    | none =>
      rw [List.find?_cons_of_neg (by simp [hx])] at hlast
      rw [List.findSome?_cons, hdropped x hx]
      exact ih hlast
    | some b =>
      rw [List.find?_cons_of_pos (by simp [hx])] at hlast
      obtain rfl := Option.some.inj hlast
      rw [List.findSome?_cons, hkept, hx]

/-- What a listener that the last change has reached was told last. -/
theorem getLast?_heard (env : Environment ι κ σ) (c : Controller) (k : Nat) (w : World ι κ σ)
    (ops : List (Operation ι κ σ)) {last : Record ι κ σ}
    (hlast : lastChange env c (history env c w ops) = some last)
    (hreaches : last.Reaches env c k) :
    (heard k (history env c w ops)).getLast? = (run env c w ops).1.state.driver := by
  have hheard : (heard k (history env c w ops)).getLast? = last.change env c := by
    rw [heard_history]
    refine getLast?_filterMap_of_kept hlast (fun r hnone => ?_) (if_pos hreaches)
    rw [hnone, ite_self]
  have hdriver : (changes env c (history env c w ops)).getLast? = last.change env c :=
    getLast?_filterMap_of_kept hlast (fun _ => id) rfl
  have hsome : (last.change env c).isSome = true :=
    (List.mem_filter.1 (List.mem_of_getLast? hlast)).2
  rw [run_driver, hheard, hdriver, Option.or_of_isSome hsome]

/-- When the driver has a code, a call has changed it. -/
theorem lastChange_of_driver (env : Environment ι κ σ) (c : Controller) (registry : Registry ι)
    (network : Option (Option String)) (outside : σ) (ops : List (Operation ι κ σ))
    (hdriver : (run env c (start registry network outside) ops).1.state.driver ≠ none) :
    ∃ last, lastChange env c (history env c (start registry network outside) ops) = some last := by
  refine Option.ne_none_iff_exists'.1 fun hnone => hdriver ?_
  have hunchanged := List.filter_eq_nil_iff.1 (List.getLast?_eq_none_iff.1 hnone)
  have hchanges : changes env c (history env c (start registry network outside) ops) = [] := by
    rw [changes, List.filterMap_eq_nil_iff]
    intro r hr
    simpa using hunchanged r hr
  rw [run_driver, hchanges]
  rfl

/-- A listener that was there from the first push on was last told the driver's code whenever a
push returns, provided that no listener before it panicked when the driver's code last changed. All
other panics, its own among them, do not matter. -/
theorem heard_of_last_change_told (env : Environment ι κ σ) (c : Controller)
    (registry : Registry ι) (network : Option (Option String)) (outside : σ)
    (ops : List (Operation ι κ σ)) (n k : Nat) (r : Record ι κ σ)
    (hr : (history env c (start registry network outside) ops)[n]? = some r)
    (hpush : r.operation.pushes r.before.state.ready = true) (hreturned : r.call.result ≠ none)
    (hearly : Early k ((history env c (start registry network outside) ops).take (n + 1)))
    (htold : ∀ last ∈ lastChange env c
        ((history env c (start registry network outside) ops).take (n + 1)),
      ∀ j ∈ last.listenerPanic env c, k ≤ j) :
    (heard k ((history env c (start registry network outside) ops).take (n + 1))).getLast? =
      r.call.world.state.driver := by
  rw [history_take] at hearly htold ⊢
  have hworld := world_of_getElem? hr
  have hdriver : r.call.world.state.driver ≠ none := by
    rw [history_getElem?, Option.map_eq_some_iff] at hr
    obtain ⟨op, _, rfl⟩ := hr
    obtain ⟨_, hstate⟩ := (step_of_returned env c _ op hpush hreturned).state
    dsimp only at hstate ⊢
    rw [hstate]
    exact Option.some_ne_none _
  rw [hworld] at hdriver ⊢
  obtain ⟨last, hlast⟩ := lastChange_of_driver env c registry network outside _ hdriver
  have hmem := List.mem_filter.1 (List.mem_of_getLast? hlast)
  obtain ⟨code, hchange⟩ := Option.isSome_iff_exists.1 hmem.2
  obtain ⟨⟨hpushed, _⟩, _⟩ := Option.ite_none_right_eq_some.1 hchange
  exact getLast?_heard env c k _ _ hlast ⟨hearly last hmem.1 hpushed, htold last hlast⟩

/-- The second listener panics when it is told of the first push. It stays up to date, as it is not
behind itself. -/
theorem heard_of_own_panic :
    ∃ r, (history Fleet.environment sampleController (start ∅ none [])
        [.listen ⟨0, false⟩, .listen ⟨1, true⟩, .ready true, .ready true])[3]? = some r ∧
      r.operation.pushes r.before.state.ready = true ∧ r.call.result ≠ none ∧
      Early 1 ((history Fleet.environment sampleController (start ∅ none [])
        [.listen ⟨0, false⟩, .listen ⟨1, true⟩, .ready true, .ready true]).take 4) ∧
      (∀ last ∈ lastChange Fleet.environment sampleController
          ((history Fleet.environment sampleController (start ∅ none [])
            [.listen ⟨0, false⟩, .listen ⟨1, true⟩, .ready true, .ready true]).take 4),
        ∀ j ∈ last.listenerPanic Fleet.environment sampleController, 1 ≤ j) ∧
      (heard 1 ((history Fleet.environment sampleController (start ∅ none [])
        [.listen ⟨0, false⟩, .listen ⟨1, true⟩, .ready true, .ready true]).take 4)).getLast? =
          r.call.world.state.driver :=
  ⟨_, rfl, rfl, by decide, by decide, by decide,
    heard_of_last_change_told _ _ _ _ _ _ 3 1 _ rfl rfl (by decide) (by decide) (by decide)⟩

end Regulatory.Controller
