import Regulatory.Environment

/-!
What can be read off a trace besides offers and notices, and how these readings go along with
`++`.
-/

namespace Regulatory.Trace

variable {ι κ : Type}

/-- What the registry held at each reading of it, in order. Nothing but a push reads the registry,
and a push does so once, when it starts. -/
def listings (t : Trace ι κ) : List (List ι) :=
  t.filterMap fun | .listed entries => some entries | _ => none

/-- The codes that one interface was offered, in order. -/
def received [DecidableEq ι] (t : Trace ι κ) (i : ι) : List CountryCode :=
  t.offers.filterMap fun o => if o.1 = i then some o.2 else none

/-- The trace without its log entries. -/
def unlogged (t : Trace ι κ) : Trace ι κ :=
  t.filter fun | .logged _ => false | _ => true

@[simp] theorem offers_append (s t : Trace ι κ) : offers (s ++ t) = offers s ++ offers t :=
  List.filterMap_append

@[simp] theorem notices_append (s t : Trace ι κ) : notices (s ++ t) = notices s ++ notices t :=
  List.filterMap_append

@[simp] theorem listings_append (s t : Trace ι κ) : listings (s ++ t) = listings s ++ listings t :=
  List.filterMap_append

@[simp] theorem queries_append (s t : Trace ι κ) : queries (s ++ t) = queries s + queries t :=
  List.countP_append

@[simp] theorem unlogged_append (s t : Trace ι κ) : unlogged (s ++ t) = unlogged s ++ unlogged t :=
  List.filter_append s t

/-- The offers and the notices that a trace makes, if it neither reads the registry nor asks the
network source. Additions, removals and log entries are free. -/
structure Calls (t : Trace ι κ) (offers : List (ι × CountryCode))
    (notices : List (κ × CountryCode)) : Prop where
  offers : t.offers = offers
  notices : t.notices = notices
  listings : t.listings = []
  queries : t.queries = 0

/-- A trace in which nobody is called at all. -/
abbrev Quiet (t : Trace ι κ) : Prop := t.Calls [] []

theorem Calls.nil : Quiet ([] : Trace ι κ) := ⟨rfl, rfl, rfl, rfl⟩

theorem Calls.append {s t : Trace ι κ} {o p : List (ι × CountryCode)}
    {m n : List (κ × CountryCode)} (hs : s.Calls o m) (ht : t.Calls p n) :
    Calls (s ++ t) (o ++ p) (m ++ n) := by
  constructor
  · rw [offers_append, hs.offers, ht.offers]
  · rw [notices_append, hs.notices, ht.notices]
  · rw [listings_append, hs.listings, ht.listings, List.append_nil]
  · rw [queries_append, hs.queries, ht.queries]

theorem Calls.logged {t : Trace ι κ} {o : List (ι × CountryCode)} {n : List (κ × CountryCode)}
    (ht : t.Calls o n) (entry : Log.Entry) : Calls (.logged entry :: t) o n :=
  Calls.append (s := [.logged entry]) ⟨rfl, rfl, rfl, rfl⟩ ht

end Regulatory.Trace

namespace Regulatory.Registry

variable {ι κ : Type} [Named ι]

theorem additionTrace_quiet (i : ι) : (additionTrace i : Trace ι κ).Quiet :=
  ⟨rfl, rfl, rfl, rfl⟩

theorem removalTrace_quiet (r : Registry ι) (name : String) :
    (r.removalTrace name : Trace ι κ).Quiet := by
  unfold removalTrace
  split <;> exact ⟨rfl, rfl, rfl, rfl⟩

/-- Whatever an interface does while it applies a code, it calls nobody. -/
theorem perform_quiet (actions : List (Action ι)) (r : Registry ι) :
    ((r.perform actions).2 : Trace ι κ).Quiet := by
  induction actions generalizing r with
  | nil => exact Trace.Calls.nil
  | cons action rest ih =>
    cases action with
    | add i => exact (additionTrace_quiet i).append (ih _)
    | remove name => exact (removalTrace_quiet r name).append (ih _)
    | log entry => exact (ih r).logged entry

end Regulatory.Registry
