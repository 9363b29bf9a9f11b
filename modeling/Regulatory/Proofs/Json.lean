import Regulatory.Snapshot

/-!
Compact JSON fits on one line: nothing that the writers give holds a character below U+0020.
-/

namespace Regulatory

/-- A text without characters below U+0020, line ends among them. -/
def Framed (text : List Char) : Prop :=
  ∀ c ∈ text, 0x20 ≤ c.toNat

theorem Framed.append {s t : List Char} (hs : Framed s) (ht : Framed t) : Framed (s ++ t) :=
  List.forall_mem_append.2 ⟨hs, ht⟩

theorem Framed.cons {c : Char} {t : List Char} (hc : 0x20 ≤ c.toNat) (ht : Framed t) :
    Framed (c :: t) :=
  List.forall_mem_cons.2 ⟨hc, ht⟩

theorem Framed.not_mem {t : List Char} (ht : Framed t) : '\n' ∉ t := by
  intro hmem
  have hle := ht '\n' hmem
  simp at hle

namespace Json

theorem le_digitChar : ∀ n < 16, 0x20 ≤ (Nat.digitChar n).toNat := by
  decide

theorem framed_escape (c : Char) : Framed (escape c) := by
  unfold escape
  split
  case h_8 =>
    split
    · rename_i hlow
      have hhigh := le_digitChar (c.toNat / 16) (by omega)
      have hrest := le_digitChar (c.toNat % 16) (by omega)
      simp [Framed, hhigh, hrest]
    · rename_i hvisible
      simpa [Framed] using hvisible
  all_goals simp [Framed]

theorem framed_string (s : String) : Framed (string s) := by
  refine .append (.cons (by decide) ?_) (by simp [Framed])
  intro c hc
  obtain ⟨d, _, hd⟩ := List.mem_flatMap.1 hc
  exact framed_escape d c hd

theorem framed_nat (n : Nat) : Framed (nat n) := by
  intro c hc
  have hdigit := Nat.isDigit_of_mem_toDigits (by decide) (by decide) hc
  have hzero : '0'.toNat = 0x30 := rfl
  rw [Char.isDigit_iff_toNat] at hdigit
  omega

theorem framed_bool (b : Bool) : Framed (bool b) := by
  cases b <;> simp [bool, Framed]

theorem framed_option {α : Type} {write : α → List Char} (hwrite : ∀ a, Framed (write a))
    (a : Option α) : Framed (option write a) := by
  cases a with
  | none => simp [option, null, Framed]
  | some a => exact hwrite a

theorem framed_commaSeparated {texts : List (List Char)} (htexts : ∀ t ∈ texts, Framed t) :
    Framed (commaSeparated texts) := by
  induction texts with
  | nil => exact List.forall_mem_nil _
  | cons t rest ih =>
    obtain ⟨ht, hrest⟩ := List.forall_mem_cons.1 htexts
    cases rest with
    | nil => exact ht
    | cons _ _ => exact ht.append ((ih hrest).cons (by decide))

theorem framed_array {α : Type} {write : α → List Char} (hwrite : ∀ a, Framed (write a))
    (l : List α) : Framed (array write l) := by
  refine .append (.cons (by decide) (framed_commaSeparated ?_)) (by simp [Framed])
  rintro _ ht
  obtain ⟨a, _, rfl⟩ := List.mem_map.1 ht
  exact hwrite a

theorem framed_object {members : List (String × List Char)}
    (hmembers : ∀ m ∈ members, Framed m.2) : Framed (object members) := by
  refine .append (.cons (by decide) (framed_commaSeparated ?_)) (by simp [Framed])
  rintro _ ht
  obtain ⟨m, hm, rfl⟩ := List.mem_map.1 ht
  exact (framed_string m.1).append ((hmembers m hm).cons (by decide))

end Json

namespace Snapshot

theorem framed_pushJson (p : PushReport) : Framed (pushJson p) := by
  apply Json.framed_object
  simp only [List.forall_mem_cons]
  exact ⟨Json.framed_string _, Json.framed_nat _, Json.framed_array Json.framed_string _,
    Json.framed_nat _, List.forall_mem_nil _⟩

theorem framed_json (s : Snapshot) : Framed s.json := by
  have hcode (code : CountryCode) : Framed (codeJson code) := Json.framed_string code.text
  apply Json.framed_object
  simp only [List.forall_mem_cons]
  exact ⟨Json.framed_option hcode _, Json.framed_option hcode _, hcode _, hcode _,
    Json.framed_bool _, Json.framed_bool _, Json.framed_option Json.framed_nat _,
    Json.framed_option Json.framed_nat _, Json.framed_option Json.framed_nat _,
    Json.framed_option framed_pushJson _, List.forall_mem_nil _⟩

end Snapshot

end Regulatory
