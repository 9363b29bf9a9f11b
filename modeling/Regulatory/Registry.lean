/-!
The registry of managed interfaces: a list in order of addition, in which names may repeat.
-/

namespace Regulatory

/-- Interfaces are told apart by name, in logs and when they are taken off the registry. -/
class Named (ι : Type) where
  name : ι → String

structure Registry (ι : Type) where
  entries : List ι
deriving DecidableEq, Repr

namespace Registry

variable {ι : Type}

instance : EmptyCollection (Registry ι) where
  emptyCollection := ⟨[]⟩

def size (r : Registry ι) : Nat :=
  r.entries.length

def isEmpty (r : Registry ι) : Bool :=
  r.size == 0

/-- Starts managing an interface, which comes last. -/
def add (r : Registry ι) (i : ι) : Registry ι :=
  ⟨r.entries ++ [i]⟩

variable [Named ι]

def names (r : Registry ι) : List String :=
  r.entries.map Named.name

/-- Stops managing every interface of the given name. -/
def remove (r : Registry ι) (name : String) : Registry ι :=
  ⟨r.entries.filter fun i => Named.name i != name⟩

/-- How many interfaces have the given name. -/
def count (r : Registry ι) (name : String) : Nat :=
  r.entries.countP fun i => Named.name i == name

/-- What `remove` takes away is counted by `count`. -/
theorem size_remove_add_count (r : Registry ι) (name : String) :
    (r.remove name).size + r.count name = r.size := by
  obtain ⟨l⟩ := r
  simp only [size, remove, count]
  induction l with
  | nil => rfl
  | cons i l ih =>
    by_cases h : Named.name i = name
    · simp [h]; omega
    · simp [h]; omega

omit [Named ι] in
theorem size_add (r : Registry ι) (i : ι) : (r.add i).size = r.size + 1 :=
  List.length_append

theorem count_eq_zero_iff {r : Registry ι} {name : String} :
    r.count name = 0 ↔ ∀ i ∈ r.entries, Named.name i ≠ name := by
  simp [count, List.countP_eq_zero]

theorem count_remove_self (r : Registry ι) (name : String) : (r.remove name).count name = 0 := by
  rw [count_eq_zero_iff]
  intro i hi
  simpa using (List.mem_filter.1 hi).2

theorem count_add_of_ne (r : Registry ι) {i : ι} {name : String} (h : Named.name i ≠ name) :
    (r.add i).count name = r.count name := by
  simp [count, add, List.countP_append, h]

theorem count_remove_of_ne (r : Registry ι) {other name : String} (h : other ≠ name) :
    (r.remove other).count name = r.count name := by
  simp only [count, remove, List.countP_filter]
  refine List.countP_congr fun i _ => ?_
  by_cases hi : Named.name i = name
  · simp [hi, h.symm]
  · simp [hi]

theorem remove_add_of_ne (r : Registry ι) {i : ι} {name : String} (h : Named.name i ≠ name) :
    (r.add i).remove name = (r.remove name).add i := by
  simp [add, remove, List.filter_append, h]

theorem remove_comm (r : Registry ι) (name other : String) :
    (r.remove name).remove other = (r.remove other).remove name := by
  simp only [remove, List.filter_filter, Bool.and_comm]

end Registry

end Regulatory
