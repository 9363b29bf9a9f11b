import Mathlib.Algebra.GroupWithZero.Nat
import Regulatory.Proofs.Trace

/-!
The books of a registry, as they can be kept by one who sees what is added to it and taken off it.
What the registry holds and what a removal returns follow from them at every moment.
-/

namespace Regulatory

variable {ι κ : Type}

namespace Trace

/-- The interfaces added to the registry, in order. -/
def additions (t : Trace ι κ) : List ι :=
  t.filterMap fun | .added i => some i | _ => none

/-- The removals from the registry, in order: the name, and the count that was returned. -/
def removals (t : Trace ι κ) : List (String × Nat) :=
  t.filterMap fun | .removed name count => some (name, count) | _ => none

/-- Whether a name is taken off the registry. -/
def removes (t : Trace ι κ) (name : String) : Bool :=
  t.removals.any (·.1 == name)

/-- The interfaces added, in order of addition, except those whose name is taken off later. -/
def survivors [Named ι] : Trace ι κ → List ι
  | [] => []
  | .added i :: rest => if removes rest (Named.name i) then survivors rest else i :: survivors rest
  | _ :: rest => survivors rest

/-- What the removals of a name returned, in order. -/
def counts (t : Trace ι κ) (name : String) : List Nat :=
  (t.removals.filter (·.1 == name)).map Prod.snd

theorem counts_append (s t : Trace ι κ) (name : String) :
    counts (s ++ t) name = counts s name ++ counts t name := by
  simp only [counts, removals, List.filterMap_append, List.filter_append, List.map_append]

/-- In both traces the removals of each name returned the same. -/
def SameCounts (s t : Trace ι κ) : Prop :=
  ∀ name, s.counts name = t.counts name

theorem SameCounts.refl (t : Trace ι κ) : t.SameCounts t := fun _ => rfl

theorem SameCounts.append {s s' t t' : Trace ι κ} (hs : s.SameCounts s') (ht : t.SameCounts t') :
    SameCounts (s ++ t) (s' ++ t') := by
  intro name
  rw [counts_append, counts_append, hs name, ht name]

theorem survivors_sublist [Named ι] (t : Trace ι κ) : t.survivors.Sublist t.additions := by
  induction t with
  | nil => exact List.Sublist.refl _
  | cons e rest ih =>
    cases e with
    | added i =>
      rw [survivors]
      split
      · exact ih.cons i
      · exact ih.cons_cons i
    | queried | listed _ | offered _ _ | notified _ _ | removed _ _ | logged _ => exact ih

end Trace

variable [Named ι]

/-- What an event makes of the registry. A reading finds its entries, and a removal returns how many
of them it takes away. -/
inductive Event.Acts (r : Registry ι) : Event ι κ → Registry ι → Prop
  | queried : Acts r .queried r
  | listed : Acts r (.listed r.entries) r
  | offered (i : ι) (code : CountryCode) : Acts r (.offered i code) r
  | notified (l : κ) (code : CountryCode) : Acts r (.notified l code) r
  | added (i : ι) : Acts r (.added i) (r.add i)
  | removed (name : String) : Acts r (.removed name (r.count name)) (r.remove name)
  | logged (entry : Log.Entry) : Acts r (.logged entry) r

namespace Trace

/-- The events of a trace lead from one registry to another, each acting on what those before it
have left. -/
inductive Leads : Trace ι κ → Registry ι → Registry ι → Prop
  | nil (r : Registry ι) : Leads [] r r
  | cons {e : Event ι κ} {rest : Trace ι κ} {r next last : Registry ι} (hact : e.Acts r next)
      (hrest : Leads rest next last) : Leads (e :: rest) r last

variable {s t : Trace ι κ} {r next last : Registry ι}

theorem Leads.append (hs : s.Leads r next) (ht : t.Leads next last) : Leads (s ++ t) r last := by
  induction hs with
  | nil _ => exact ht
  | cons hact _ ih => exact .cons hact (ih ht)

theorem Leads.logged (ht : t.Leads r last) (entry : Log.Entry) :
    Leads (.logged entry :: t) r last :=
  .cons (.logged entry) ht

/-- Between any two events the registry is in some state. -/
theorem Leads.split (h : Leads (s ++ t) r last) : ∃ next, s.Leads r next ∧ t.Leads next last := by
  induction s generalizing r with
  | nil => exact ⟨r, .nil r, h⟩
  | cons e rest ih =>
    cases h with
    | cons hact hrest =>
      obtain ⟨next, hbefore, hafter⟩ := ih hrest
      exact ⟨next, .cons hact hbefore, hafter⟩

theorem Leads.event {e : Event ι κ} (h : Leads (s ++ e :: t) r last) :
    ∃ here next, s.Leads r here ∧ e.Acts here next ∧ t.Leads next last := by
  obtain ⟨here, hbefore, hafter⟩ := h.split
  cases hafter with
  | cons hact hrest => exact ⟨here, _, hbefore, hact, hrest⟩

/-- What was there first and has not been taken off comes before what has been added since. -/
theorem Leads.entries (h : t.Leads r last) :
    last.entries = (r.entries.filter fun i => !t.removes (Named.name i)) ++ t.survivors := by
  -- The registry drops an entry when its name is taken off. The survivors look ahead and leave it
  -- out from the first, so that the two meet only with the filter for what comes later.
  induction h with
  | nil r => exact ((List.append_nil _).trans (List.filter_eq_self.2 fun _ _ => rfl)).symm
  | @cons e rest r _ _ hact _ ih =>
    rw [ih]
    cases hact with
    | added i =>
      have hremoves (name : String) : removes (.added i :: rest) name = removes rest name := rfl
      simp only [Registry.add, List.filter_append, survivors, List.append_assoc, hremoves]
      cases hlater : removes rest (Named.name i) with
      | true => simp [hlater]
      | false => simp [hlater]
    | removed name =>
      simp only [Registry.remove, List.filter_filter, survivors]
      refine congrArg (· ++ _) (List.filter_congr fun i _ => ?_)
      change _ = !((name == Named.name i) || removes rest (Named.name i))
      rw [Bool.not_or, Bool.and_comm, bne, Bool.beq_comm]
    | queried | listed | offered _ _ | notified _ _ | logged _ => rfl

/-- Whatever was there first or has been added since is still there, or has been counted by a
removal. -/
theorem Leads.size (h : t.Leads r last) :
    last.size + (t.removals.map Prod.snd).sum = r.size + t.additions.length := by
  induction h with
  | nil r => rfl
  | @cons e rest r _ _ hact _ ih =>
    cases hact with
    | added i =>
      rw [Registry.size_add] at ih
      change _ + (rest.removals.map Prod.snd).sum = _ + (rest.additions.length + 1)
      omega
    | removed name =>
      have hcount := r.size_remove_add_count name
      change _ + (r.count name + (rest.removals.map Prod.snd).sum) = _ + rest.additions.length
      omega
    | queried | listed | offered _ _ | notified _ _ | logged _ => exact ih

/-- A name that is not there is not there later either, if no interface of that name is added. -/
theorem Leads.count_eq_zero (h : t.Leads r last) {name : String} (hnone : r.count name = 0)
    (hadded : ∀ i ∈ t.additions, Named.name i ≠ name) : last.count name = 0 := by
  rw [Registry.count_eq_zero_iff] at hnone ⊢
  intro i hi
  rw [h.entries, List.mem_append] at hi
  rcases hi with hold | hnew
  · exact hnone i (List.mem_filter.1 hold).1
  · exact hadded i (t.survivors_sublist.subset hnew)

end Trace

namespace Registry

/-- A registry that was empty at first is in keeping with what has been seen since. -/
structure Tallies (r : Registry ι) (t : Trace ι κ) : Prop where
  entries : r.entries = t.survivors
  balance : t.additions.length = r.size + (t.removals.map Prod.snd).sum

/-- What an inventory of a registry shows that was empty at first. `t` is all that has been seen
since, and `r` the registry by now. -/
structure Inventory (r : Registry ι) (t : Trace ι κ) : Prop where
  now : r.Tallies t
  /-- It is right between any two events, be it in the midst of a push, where an interface
  that reads the registry finds the survivors of what has been seen so far. -/
  moments : ∀ before after : Trace ι κ, t = before ++ after →
    ∃ earlier : Registry ι, earlier.Tallies before ∧ after.Leads earlier r
  /-- A removal returns how many entries of the name there were, and that many fewer are left. -/
  removed : ∀ (before : Trace ι κ) name count after, t = before ++ .removed name count :: after →
    count = before.survivors.countP (fun i => Named.name i == name) ∧
      (Trace.survivors (before ++ [.removed name count])).length + count = before.survivors.length
  /-- A second removal of a name finds nothing, if no interface of that name is added in between. -/
  again : ∀ (before between : Trace ι κ) name count count' after,
    t = before ++ .removed name count :: (between ++ .removed name count' :: after) →
      (∀ i ∈ between.additions, Named.name i ≠ name) → count' = 0
  /-- Whoever reads the registry finds what has been added and not been taken off by then. -/
  listed : ∀ (before : Trace ι κ) entries after, t = before ++ .listed entries :: after →
    entries = before.survivors

end Registry

namespace Trace

variable {t : Trace ι κ} {r : Registry ι}

theorem Leads.tallies (h : t.Leads ∅ r) : r.Tallies t := by
  constructor
  · exact h.entries
  · have hsize := h.size
    change _ = 0 + _ at hsize
    omega

theorem Leads.inventory (h : t.Leads ∅ r) : r.Inventory t := by
  constructor
  · exact h.tallies
  · rintro before after rfl
    obtain ⟨earlier, hbefore, hafter⟩ := h.split
    exact ⟨earlier, hbefore.tallies, hafter⟩
  · rintro before name count after rfl
    obtain ⟨earlier, later, hbefore, hact, _⟩ := h.event
    have hentries := hbefore.tallies.entries
    have hleft := (hbefore.append (.cons hact (.nil later))).tallies.entries
    cases hact with
    | removed =>
      rw [← hentries, ← hleft]
      exact ⟨rfl, earlier.size_remove_add_count name⟩
  · rintro before between name count count' after rfl hadded
    obtain ⟨_, _, _, hact, hrest⟩ := h.event
    obtain ⟨_, _, hbetween, hact', _⟩ := hrest.event
    cases hact with
    | removed =>
      cases hact' with
      | removed => exact hbetween.count_eq_zero (Registry.count_remove_self _ name) hadded
  · rintro before entries after rfl
    obtain ⟨_, _, hbefore, hact, _⟩ := h.event
    cases hact with
    | listed => exact hbefore.tallies.entries

end Trace

/-- An addition or removal that leaves the interfaces of a name alone. -/
inductive Action.Spares (name : String) : Action ι → Prop
  | add (i : ι) (hname : Named.name i ≠ name) : Spares name (.add i)
  | remove (other : String) (hname : other ≠ name) : Spares name (.remove other)

namespace Registry

theorem additionTrace_leads (r : Registry ι) (i : ι) :
    (additionTrace i : Trace ι κ).Leads r (r.add i) :=
  .cons (.logged _) (.cons (.added i) (.nil _))

theorem removalTrace_leads (r : Registry ι) (name : String) :
    (r.removalTrace name : Trace ι κ).Leads r (r.remove name) := by
  refine .cons (.removed name) ?_
  split
  · exact .nil _
  · exact .cons (.logged _) (.nil _)

theorem perform_leads (r : Registry ι) (actions : List (Action ι)) :
    ((r.perform actions).2 : Trace ι κ).Leads r (r.perform (κ := κ) actions).1 := by
  induction actions generalizing r with
  | nil => exact .nil r
  | cons action rest ih =>
    cases action with
    | add i => exact (additionTrace_leads r i).append (ih _)
    | remove name => exact (removalTrace_leads r name).append (ih _)
    | log entry => exact (ih r).logged entry

theorem counts_additionTrace (i : ι) (name : String) :
    (additionTrace i : Trace ι κ).counts name = [] :=
  rfl

theorem removals_removalTrace (r : Registry ι) (name : String) :
    (r.removalTrace name : Trace ι κ).removals = [(name, r.count name)] := by
  unfold removalTrace
  split <;> rfl

theorem counts_removalTrace (r : Registry ι) (name other : String) :
    (r.removalTrace name : Trace ι κ).counts other =
      if name = other then [r.count name] else [] := by
  by_cases h : name = other
  · simp [Trace.counts, removals_removalTrace, h]
  · simp [Trace.counts, removals_removalTrace, h]

theorem perform_append (r : Registry ι) (actions later : List (Action ι)) :
    (r.perform (actions ++ later) : Registry ι × Trace ι κ) =
      (((r.perform (κ := κ) actions).1.perform (κ := κ) later).1,
        (r.perform actions).2 ++ ((r.perform (κ := κ) actions).1.perform later).2) := by
  induction actions generalizing r with
  | nil => rfl
  | cons action rest ih =>
    cases action with
    | add _ | remove _ | log _ => simp [perform, ih]

/-- Two actions in a row that are about different names can change places. -/
theorem perform_pair (r : Registry ι) {name : String} {x : Action ι} (hx : x.Spares name) :
    (r.perform (κ := κ) [.remove name, x]).1 = (r.perform (κ := κ) [x, .remove name]).1 ∧
      ((r.perform [.remove name, x]).2 : Trace ι κ).SameCounts (r.perform [x, .remove name]).2 := by
  cases hx with
  | add i hname =>
    refine ⟨(r.remove_add_of_ne hname).symm, fun other => ?_⟩
    simp only [perform, Trace.counts_append, counts_removalTrace, counts_additionTrace,
      r.count_add_of_ne hname, List.nil_append, List.append_nil]
  | remove other hname =>
    refine ⟨r.remove_comm name other, fun third => ?_⟩
    simp only [perform, Trace.counts_append, counts_removalTrace, r.count_remove_of_ne hname,
      r.count_remove_of_ne (Ne.symm hname)]
    by_cases hthird : name = third
    · have hother : other ≠ third := fun h => hname (h.trans hthird.symm)
      simp [hother]
    · simp [hthird]

/-- It does not matter what is done before and after. -/
theorem perform_swap (r : Registry ι) (before after : List (Action ι)) {name : String}
    {x : Action ι} (hx : x.Spares name) :
    (r.perform (κ := κ) (before ++ .remove name :: x :: after)).1 =
        (r.perform (κ := κ) (before ++ x :: .remove name :: after)).1 ∧
      ((r.perform (before ++ .remove name :: x :: after)).2 : Trace ι κ).SameCounts
        (r.perform (before ++ x :: .remove name :: after)).2 := by
  obtain ⟨hregistry, hcounts⟩ := (r.perform (κ := κ) before).1.perform_pair (κ := κ) hx
  have hsplit (y z : Action ι) : before ++ y :: z :: after = before ++ ([y, z] ++ after) := rfl
  rw [hsplit, hsplit]
  simp only [perform_append r before, perform_append _ [_, _] after, hregistry]
  exact ⟨trivial, (Trace.SameCounts.refl _).append (hcounts.append (.refl _))⟩

end Registry

end Regulatory
