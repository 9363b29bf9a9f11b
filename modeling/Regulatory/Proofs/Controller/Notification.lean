import Mathlib.Data.List.Chain
import Regulatory.Proofs.Controller.Panic

/-!
What listeners hear over a run. Listeners are told apart by their place in the order of
registration. As long as none of them panics, each hears all changes of the driver's code since it
was registered, and nothing else; `notificationTrace_of_heeded` says so.
-/

namespace Regulatory.Controller

variable {ι κ σ : Type} [Named ι]

/-- The codes with which the listener number `k` was called. Each call of the controller pushes
at most once, to the listeners in order of registration, so the notice number `k` is for this
listener. -/
def heard (k : Nat) (h : List (Record ι κ σ)) : List CountryCode :=
  h.filterMap fun r => (r.call.trace.notices[k]?).map Prod.snd

/-- The codes that the driver was given anew. -/
def changes (env : Environment ι κ σ) (c : Controller) (h : List (Record ι κ σ)) :
    List CountryCode :=
  h.filterMap fun r => r.change env c

/-- The calls made since listener number `k` was registered. -/
def since (k : Nat) (h : List (Record ι κ σ)) : List (Record ι κ σ) :=
  h.filter fun r => k < r.before.state.listeners.length

/-- Whether the notices of a call get to listener number `k`: it is registered, and no listener
before it panics. -/
def Record.Reaches (env : Environment ι κ σ) (c : Controller) (k : Nat) (r : Record ι κ σ) : Prop :=
  k < r.before.state.listeners.length ∧ ∀ j ∈ r.listenerPanic env c, k ≤ j

instance (env : Environment ι κ σ) (c : Controller) (k : Nat) (r : Record ι κ σ) :
    Decidable (r.Reaches env c k) :=
  inferInstanceAs (Decidable (_ ∧ _))

/-- What a call has to do with the listeners. Either it leaves the driver's code alone and tells
nobody, or it changes the code and tells the listeners registered before it, in order of
registration and up to the first one that panics. -/
theorem step_change (env : Environment ι κ σ) (c : Controller) (w : World ι κ σ)
    (op : Operation ι κ σ) :
    (Record.change env c ⟨w, op, step env c w op⟩ = none ∧
        (step env c w op).world.state.driver = w.state.driver ∧
        (step env c w op).trace.notices = []) ∨
      ∃ code, Record.change env c ⟨w, op, step env c w op⟩ = some code ∧
        w.state.driver ≠ some code ∧ (step env c w op).world.state.driver = some code ∧
        (step env c w op).trace.notices = (upTo w.state.listeners
          (Record.listenerPanic env c ⟨w, op, step env c w op⟩)).map (·, code) := by
  cases hpush : op.pushes w.state.ready with
  | false =>
    left
    obtain ⟨_, hnotices, _⟩ := stage_calls env c w op
    refine ⟨if_neg fun h => Bool.false_ne_true (hpush.symm.trans h.1), ?_⟩
    rw [step_of_not_pushes env c w op hpush]
    exact ⟨(stage_undriven env c w op).1, hnotices⟩
  | true =>
    cases hcut : Record.interfacePanic env c ⟨w, op, step env c w op⟩ with
    | some k =>
      left
      have hends := step_of_interfacePanic env c w op k hcut
      refine ⟨if_neg fun h => Option.some_ne_none k (hcut.symm.trans h.2.1), ?_⟩
      exact ⟨hends.driver, hends.notices⟩
    | none =>
      obtain ⟨hstep, _, hnotices⟩ := step_of_calm env c w op hpush hcut
      have hdriver : (step env c w op).world.state.driver =
          some (c.active (step env c w op).world.state) := by
        rw [active_step, hstep]
        split
        · rfl
        · rfl
      by_cases hsame : w.state.driver = some (c.active (step env c w op).world.state)
      · left
        have hchange : Record.change env c ⟨w, op, step env c w op⟩ = none :=
          if_neg fun h => h.2.2 hsame
        rw [hchange] at hnotices
        exact ⟨hchange, hdriver.trans hsame.symm, hnotices⟩
      · right
        have hchange : Record.change env c ⟨w, op, step env c w op⟩ =
            some (c.active (step env c w op).world.state) := if_pos ⟨hpush, hcut, hsame⟩
        rw [hchange] at hnotices
        exact ⟨_, hchange, hsame, hdriver, hnotices⟩

/-- A call in which no listener panics tells all that are registered of a change, or nobody. -/
theorem step_notices (env : Environment ι κ σ) (c : Controller) (w : World ι κ σ)
    (op : Operation ι κ σ)
    (hnone : Record.listenerPanic env c ⟨w, op, step env c w op⟩ = none) :
    (step env c w op).trace.notices =
      match Record.change env c ⟨w, op, step env c w op⟩ with
      | none => []
      | some code => w.state.listeners.map (·, code) := by
  obtain ⟨hchange, _, hnotices⟩ | ⟨code, hchange, _, _, hnotices⟩ := step_change env c w op
  · rw [hchange, hnotices]
  · rw [hchange, hnotices, hnone, upTo]

theorem step_driver (env : Environment ι κ σ) (c : Controller) (w : World ι κ σ)
    (op : Operation ι κ σ) :
    (step env c w op).world.state.driver =
      (Record.change env c ⟨w, op, step env c w op⟩).or w.state.driver := by
  obtain ⟨hchange, hdriver, _⟩ | ⟨code, hchange, _, hdriver, _⟩ := step_change env c w op
  · rw [hchange, hdriver, Option.none_or]
  · rw [hchange, hdriver, Option.some_or]

/-- A push that all interfaces return from gives the driver the active code. -/
theorem step_driver_eq (env : Environment ι κ σ) (c : Controller) (w : World ι κ σ)
    (op : Operation ι κ σ) :
    (step env c w op).world.state.driver =
      if op.pushes w.state.ready = true ∧
          Record.interfacePanic env c ⟨w, op, step env c w op⟩ = none then
        some (c.active (step env c w op).world.state)
      else w.state.driver := by
  rw [step_driver]
  by_cases hpush : op.pushes w.state.ready = true ∧
      Record.interfacePanic env c ⟨w, op, step env c w op⟩ = none
  · rw [if_pos hpush, Record.change]
    by_cases hsame : w.state.driver = some (c.active (step env c w op).world.state)
    · rw [if_neg fun h => h.2.2 hsame, Option.none_or, hsame]
    · rw [if_pos ⟨hpush.1, hpush.2, hsame⟩, Option.some_or]
  · rw [if_neg hpush, Record.change, if_neg fun h => hpush ⟨h.1, h.2.1⟩, Option.none_or]

/-- What listener number `k` hears of one call. -/
theorem step_heard (env : Environment ι κ σ) (c : Controller) (k : Nat) (w : World ι κ σ)
    (op : Operation ι κ σ) :
    ((step env c w op).trace.notices[k]?).map Prod.snd =
      if Record.Reaches env c k ⟨w, op, step env c w op⟩ then
        Record.change env c ⟨w, op, step env c w op⟩
      else none := by
  obtain ⟨hchange, _, hnotices⟩ | ⟨code, hchange, _, _, hnotices⟩ := step_change env c w op
  · rw [hchange, hnotices, ite_self]
    rfl
  · rw [hchange, hnotices, List.getElem?_map, Option.map_map, getElem?_upTo]
    by_cases hcut : ∀ j ∈ Record.listenerPanic env c ⟨w, op, step env c w op⟩, k ≤ j
    · rw [if_pos hcut]
      by_cases hk : k < w.state.listeners.length
      · rw [if_pos ⟨hk, hcut⟩, List.getElem?_eq_getElem hk]
        rfl
      · rw [if_neg fun hreaches => hk hreaches.1, List.getElem?_eq_none (Nat.le_of_not_lt hk)]
        rfl
    · rw [if_neg hcut, if_neg fun hreaches => hcut hreaches.2]
      rfl

/-- What the last of some calls says counts, and if it says nothing, what the others say. -/
theorem getLast?_filterMap_cons {α β : Type} (f : α → Option β) (a : α) (l : List α) :
    ((a :: l).filterMap f).getLast? = (l.filterMap f).getLast?.or (f a) := by
  rw [List.filterMap_cons]
  cases f a with
  | none => exact Option.or_none.symm
  | some b =>
    rw [List.getLast?_cons]
    cases (l.filterMap f).getLast? <;> rfl

/-- After every call, also one that panicked, the driver has the code of the last change. -/
theorem run_driver (env : Environment ι κ σ) (c : Controller) (w : World ι κ σ)
    (ops : List (Operation ι κ σ)) :
    (run env c w ops).1.state.driver =
      (changes env c (history env c w ops)).getLast?.or w.state.driver := by
  induction ops generalizing w with
  | nil => rfl
  | cons op rest ih =>
    rw [run, ih, step_driver, changes, history, changes, getLast?_filterMap_cons, Option.or_assoc]

/-- A listener hears the changes that reach it. -/
theorem heard_history (env : Environment ι κ σ) (c : Controller) (k : Nat) (w : World ι κ σ)
    (ops : List (Operation ι κ σ)) :
    heard k (history env c w ops) = (history env c w ops).filterMap fun r =>
      if r.Reaches env c k then r.change env c else none :=
  List.filterMap_congr (forall_mem_history fun before op => step_heard env c k before op)

/-- No listener panics in the run. Interfaces may. -/
def Heeded (env : Environment ι κ σ) (c : Controller) (w : World ι κ σ)
    (ops : List (Operation ι κ σ)) : Prop :=
  ∀ r ∈ history env c w ops, r.listenerPanic env c = none

instance (env : Environment ι κ σ) (c : Controller) (w : World ι κ σ)
    (ops : List (Operation ι κ σ)) : Decidable (Heeded env c w ops) :=
  inferInstanceAs (Decidable (∀ r ∈ history env c w ops, r.listenerPanic env c = none))

/-- A listener hears all changes since it was registered, if no listener panics. -/
theorem heard_of_heeded (env : Environment ι κ σ) (c : Controller) (k : Nat) (w : World ι κ σ)
    (ops : List (Operation ι κ σ)) (hheeded : Heeded env c w ops) :
    heard k (history env c w ops) = changes env c (since k (history env c w ops)) := by
  rw [heard_history, changes, since, List.filterMap_filter]
  refine List.filterMap_congr fun r hr => ?_
  have hreaches : r.Reaches env c k ↔ k < r.before.state.listeners.length := by
    simp [Record.Reaches, hheeded r hr]
  simp only [hreaches, decide_eq_true_eq]

/-- No two changes in a row are to the same code, and the first is not to the code that the driver
has already. -/
theorem isChain_changes (env : Environment ι κ σ) (c : Controller) (w : World ι κ σ)
    (ops : List (Operation ι κ σ)) :
    (changes env c (history env c w ops)).IsChain (· ≠ ·) ∧
      ∀ code ∈ (changes env c (history env c w ops)).head?, w.state.driver ≠ some code := by
  induction ops generalizing w with
  | nil => exact ⟨.nil, nofun⟩
  | cons op rest ih =>
    obtain ⟨hchain, hhead⟩ := ih (step env c w op).world
    rw [changes, history, List.filterMap_cons]
    obtain ⟨hchange, hdriver, _⟩ | ⟨code, hchange, hother, hdriver, _⟩ := step_change env c w op
    · rw [hchange, ← hdriver]
      exact ⟨hchain, hhead⟩
    · rw [hchange]
      refine ⟨List.isChain_cons.2 ⟨fun next hnext heq => ?_, hchain⟩, ?_⟩
      · exact hhead next hnext (hdriver.trans (congrArg some heq))
      · rintro _ ⟨⟩
        exact hother

/-- Once registered, a listener is there for all calls. -/
theorem since_of_registered (env : Environment ι κ σ) (c : Controller) (k : Nat)
    (w : World ι κ σ) (ops : List (Operation ι κ σ)) (hk : k < w.state.listeners.length) :
    since k (history env c w ops) = history env c w ops := by
  induction ops generalizing w with
  | nil => rfl
  | cons op rest ih =>
    have hlater : k < (step env c w op).world.state.listeners.length := by
      rw [step_listeners, List.length_append]
      omega
    rw [history, since, List.filter_cons_of_pos (by simpa using hk)]
    exact congrArg _ (ih _ hlater)

/-- The calls since a listener was registered are those after the operation that registered it. -/
theorem since_listen (env : Environment ι κ σ) (c : Controller) (w : World ι κ σ)
    (before : List (Operation ι κ σ)) (l : κ) (after : List (Operation ι κ σ)) :
    since (run env c w before).1.state.listeners.length
        (history env c w (before ++ .listen l :: after)) =
      (history env c w (before ++ .listen l :: after)).drop (before.length + 1) := by
  induction before generalizing w with
  | nil =>
    have hlater : w.state.listeners.length <
        (step env c w (.listen l)).world.state.listeners.length := by
      rw [step_listeners, List.length_append]
      exact Nat.lt_succ_self _
    rw [List.nil_append, history, run, since, List.filter_cons_of_neg (by simp)]
    exact since_of_registered env c _ _ after hlater
  | cons op rest ih =>
    have hnot : ¬(run env c w (op :: rest)).1.state.listeners.length <
        w.state.listeners.length := by
      rw [run_listeners, List.length_append]
      omega
    rw [List.cons_append, history, since, List.filter_cons_of_neg (by simpa using hnot)]
    exact ih (step env c w op).world

theorem since_suffix (env : Environment ι κ σ) (c : Controller) (k : Nat) (w : World ι κ σ)
    (ops : List (Operation ι κ σ)) :
    since k (history env c w ops) <:+ history env c w ops := by
  induction ops generalizing w with
  | nil => exact List.suffix_rfl
  | cons op rest ih =>
    by_cases hk : k < w.state.listeners.length
    · exact ⟨[], since_of_registered env c k w _ hk⟩
    · rw [since, history, List.filter_cons_of_neg (by simpa using hk)]
      exact (ih _).trans (List.suffix_cons _ _)

/-- A listener that was called at all since it was registered was last told the driver's code. -/
theorem getLast?_changes_since (env : Environment ι κ σ) (c : Controller) (k : Nat)
    (w : World ι κ σ) (ops : List (Operation ι κ σ))
    (hcalled : changes env c (since k (history env c w ops)) ≠ []) :
    (changes env c (since k (history env c w ops))).getLast? =
      (run env c w ops).1.state.driver := by
  -- The changes since then are the last ones there were, and the driver has the very last.
  obtain ⟨earlier, hearlier⟩ := (since_suffix env c k w ops).filterMap fun r => r.change env c
  have hlast : (changes env c (history env c w ops)).getLast? =
      (changes env c (since k (history env c w ops))).getLast? := by
    rw [changes, ← hearlier]
    exact List.getLast?_append_of_ne_nil earlier hcalled
  rw [run_driver, hlast, List.getLast?_eq_some_getLast hcalled, Option.some_or]

/-- What listeners hear over a run, each told apart by its place in the order of registration. -/
structure NotificationTrace (env : Environment ι κ σ) (c : Controller) (w : World ι κ σ)
    (ops : List (Operation ι κ σ)) : Prop where
  /-- All that have been registered by then, in order, and nobody else. -/
  registered : ∀ n, (run env c w (ops.take n)).1.state.listeners =
    (ops.take n).filterMap Operation.listener?
  /-- The calls that count for a listener are those after its registration. -/
  since_registered : ∀ before l after, ops = before ++ .listen l :: after →
    since (before.filterMap Operation.listener?).length (history env c w ops) =
      (history env c w ops).drop (before.length + 1)
  driver : ∀ n, (run env c w (ops.take n)).1.state.driver =
    (changes env c ((history env c w ops).take n)).getLast?
  /-- A call that changes the driver's code tells all listeners registered then, once each and in
  order of registration. No other call tells anybody. -/
  each : ∀ r ∈ history env c w ops, r.call.trace.notices =
    match r.change env c with
    | none => []
    | some code => r.before.state.listeners.map (·, code)
  changes_since : ∀ n k, heard k ((history env c w ops).take n) =
    changes env c (since k ((history env c w ops).take n))
  alternating : ∀ k, (heard k (history env c w ops)).IsChain (· ≠ ·)
  latest : ∀ n k, heard k ((history env c w ops).take n) ≠ [] →
    (heard k ((history env c w ops).take n)).getLast? = (run env c w (ops.take n)).1.state.driver

/-- A listener hears each change of the driver's code since it was registered, once, as long as no
listener panics. Interfaces may fail or panic, and listeners may join at any time. -/
theorem notificationTrace_of_heeded (env : Environment ι κ σ) (c : Controller)
    (registry : Registry ι) (network : Option (Option String)) (outside : σ)
    (ops : List (Operation ι κ σ)) (hheeded : Heeded env c (start registry network outside) ops) :
    NotificationTrace env c (start registry network outside) ops := by
  have htake : ∀ n, Heeded env c (start registry network outside) (ops.take n) := by
    intro n r hr
    rw [← history_take] at hr
    exact hheeded r (List.mem_of_mem_take hr)
  constructor
  · intro n
    exact run_listeners env c _ (ops.take n)
  · rintro before l after rfl
    have hlisteners := run_listeners env c (start registry network outside) before
    change _ = before.filterMap Operation.listener? at hlisteners
    rw [← hlisteners]
    exact since_listen env c _ before l after
  · intro n
    rw [history_take, run_driver]
    exact Option.or_none
  · intro r hr
    have hnone := hheeded r hr
    obtain ⟨before, op, rfl⟩ := exists_of_mem_history hr
    exact step_notices env c before op hnone
  · intro n k
    rw [history_take]
    exact heard_of_heeded env c k _ _ (htake n)
  · intro k
    rw [heard_of_heeded env c k _ _ hheeded]
    exact (isChain_changes env c _ ops).1.suffix ((since_suffix env c k _ ops).filterMap _)
  · intro n k hcalled
    rw [history_take, heard_of_heeded env c k _ _ (htake n)] at hcalled ⊢
    exact getLast?_changes_since env c k _ _ hcalled

/-- The second interface panics in the first push, so that this push is no change. A listener joins
before the push that is, another after it, and the last push changes the code again. -/
def joiningRun : List Fleet.Operation :=
  [.listen ⟨0, false⟩, .country "de", .ready true, .adjust (Fleet.setMode "wlan1" .reject),
    .listen ⟨1, false⟩, .ready true, .ready true, .listen ⟨2, false⟩, .country "fr"]

theorem notificationTrace_of_late_listeners :
    Heeded Fleet.environment sampleController faultyWorld joiningRun ∧
      NotificationTrace Fleet.environment sampleController faultyWorld joiningRun ∧
      joiningRun.filterMap Operation.listener? = [⟨0, false⟩, ⟨1, false⟩, ⟨2, false⟩] ∧
      (List.range 3).map (fun k => (heard k (history Fleet.environment sampleController faultyWorld
        joiningRun)).map CountryCode.text) = [["DE", "FR"], ["DE", "FR"], ["FR"]] :=
  ⟨by decide, notificationTrace_of_heeded _ _ _ _ _ _ (by decide), by decide, by decide⟩

end Regulatory.Controller
