import Regulatory.Proofs.Text.Legible

/-!
Compact JSON can be read back: no two values of a kind have the same text, whatever comes after
them in an array or an object.
-/

namespace Regulatory.Json

/-- The value of a hexadecimal digit. Letters are lower-case. -/
def hexValue (c : Char) : Nat :=
  if c.isDigit then c.toNat - 48 else c.toNat - 87

/-- Reads what follows a backslash inside a string. -/
def unescapeAfterSlash : List Char → Option (Char × List Char)
  | 'u' :: '0' :: '0' :: high :: low :: rest =>
    some (Char.ofNat (16 * hexValue high + hexValue low), rest)
  | 'b' :: rest => some ('\x08', rest)
  | 'f' :: rest => some ('\x0c', rest)
  | 'n' :: rest => some ('\n', rest)
  | 'r' :: rest => some ('\r', rest)
  | 't' :: rest => some ('\t', rest)
  | c :: rest => some (c, rest)
  | [] => none

/-- Reads one character inside a string. The quote that ends the string is none. -/
def unescape : List Char → Option (Char × List Char)
  | [] => none
  | c :: rest =>
    if c = '"' then none else if c = '\\' then unescapeAfterSlash rest else some (c, rest)

theorem hexValue_digitChar : ∀ n < 16, hexValue (Nat.digitChar n) = n := by
  decide

theorem unescape_escape (c : Char) (t : List Char) : unescape (escape c ++ t) = some (c, t) := by
  unfold escape
  split
  case h_8 hquote hslash _ _ _ _ _ =>
    split
    · rename_i hlow
      have hhigh := hexValue_digitChar (c.toNat / 16) (by omega)
      have hrest := hexValue_digitChar (c.toNat % 16) (by omega)
      have hc : 16 * (c.toNat / 16) + c.toNat % 16 = c.toNat := Nat.div_add_mod _ _
      simp [unescape, unescapeAfterSlash, hhigh, hrest, hc]
    · exact (if_neg hquote).trans (if_neg hslash)
  all_goals rfl

/-- The first quote that is not escaped ends a string. -/
theorem flatMap_escape_inj {x y t u : List Char}
    (hsame : x.flatMap escape ++ '"' :: t = y.flatMap escape ++ '"' :: u) : x = y ∧ t = u := by
  have hread := congrArg unescape hsame
  induction x generalizing y with
  | nil =>
    cases y with
    | nil => exact ⟨rfl, (List.cons.inj hsame).2⟩
    | cons d y =>
      rw [List.flatMap_cons, List.append_assoc, unescape_escape] at hread
      cases hread
  | cons c x ih =>
    rw [List.flatMap_cons, List.append_assoc, unescape_escape] at hread
    cases y with
    | nil => cases hread
    | cons d y =>
      rw [List.flatMap_cons, List.append_assoc, unescape_escape] at hread
      obtain ⟨rfl, hrest⟩ := Prod.mk.inj (Option.some.inj hread)
      obtain ⟨rfl, htu⟩ := ih hrest (congrArg unescape hrest)
      exact ⟨rfl, htu⟩

theorem legible_string : Legible (fun _ => True) string := by
  intro a b t u _ _ hsame
  have hbody : a.toList.flatMap escape ++ '"' :: t = b.toList.flatMap escape ++ '"' :: u := by
    simpa [string] using hsame
  obtain ⟨hab, htu⟩ := flatMap_escape_inj hbody
  exact ⟨String.toList_inj.1 hab, htu⟩

/-- What may stand behind a value: nothing, a comma, or the end of an array or an object. -/
def Closes (t : List Char) : Prop :=
  ∀ c ∈ t.head?, c = ',' ∨ c = ']' ∨ c = '\x7d'

theorem closes_cons {c : Char} (hc : c = ',' ∨ c = ']' ∨ c = '\x7d') (t : List Char) :
    Closes (c :: t) := by
  intro d hd
  obtain rfl : c = d := by simpa using hd
  exact hc

theorem legible_nat : Legible Closes nat := by
  intro a b t u ht hu hsame
  have hnone {s : List Char} (hs : Closes s) : ∀ c ∈ s.head?, c.isDigit = false := by
    intro c hc
    obtain rfl | rfl | rfl := hs c hc <;> rfl
  obtain ⟨hdigits, htu⟩ := run_inj (isDigit_toDigits a) (isDigit_toDigits b) (hnone ht) (hnone hu)
    hsame
  exact ⟨toDigits_injective hdigits, htu⟩

theorem legible_bool : Legible (fun _ => True) bool := by
  intro a b t u _ _ hsame
  cases a <;> cases b <;> simp [bool] at hsame ⊢
  · exact hsame
  · exact hsame

/-- The text is not empty, and its first character is another one. -/
def BeginsUnlike (c : Char) (x : List Char) : Prop :=
  ∃ d rest, x = d :: rest ∧ d ≠ c

theorem string_beginsUnlike {c : Char} (hc : '"' ≠ c) (s : String) : BeginsUnlike c (string s) :=
  ⟨_, _, rfl, hc⟩

theorem object_beginsUnlike {c : Char} (hc : '\x7b' ≠ c) (members : List (String × List Char)) :
    BeginsUnlike c (object members) :=
  ⟨_, _, rfl, hc⟩

theorem nat_beginsUnlike {c : Char} (hc : c.isDigit = false) (n : Nat) :
    BeginsUnlike c (nat n) := by
  obtain ⟨d, rest, hn⟩ := List.exists_cons_of_ne_nil (Nat.toDigits_ne_nil (n := n) (b := 10))
  refine ⟨d, rest, hn, ?_⟩
  rintro rfl
  have hdigit := isDigit_toDigits n d (by simp [hn])
  exact Bool.false_ne_true (hc.symm.trans hdigit)

/-- A value that may be absent is legible if none begins as `null` does. -/
theorem legible_option {α : Type} {write : α → List Char} (hwrite : Legible Closes write)
    (hnull : ∀ a, BeginsUnlike 'n' (write a)) : Legible Closes (option write) := by
  have helim : option write = fun o => o.elim null write := by
    funext o
    cases o <;> rfl
  rw [helim]
  refine hwrite.elim null fun a t u _ _ hsame => ?_
  obtain ⟨c, rest, hc, hn⟩ := hnull a
  rw [hc] at hsame
  exact hn (List.cons.inj hsame).1.symm

/-- Two texts in the same place of an array or an object. They are not told apart by what follows
only if they are the same. -/
def Apart (x y : List Char) : Prop :=
  ∀ t u, Closes t → Closes u → x ++ t = y ++ u → x = y

theorem apart_of_legible {α : Type} {write : α → List Char} (hwrite : Legible Closes write)
    (a b : α) : Apart (write a) (write b) := by
  intro t u ht hu hsame
  exact congrArg write (hwrite a b t u ht hu hsame).1

/-- What follows an element of an array or an object that ends with `c`: the elements after it, if
there are any, and the end. -/
def following (c : Char) (t : List Char) : List (List Char) → List Char
  | [] => c :: t
  | x :: xs => ',' :: (commaSeparated (x :: xs) ++ c :: t)

theorem commaSeparated_cons (x : List Char) (xs : List (List Char)) (c : Char) (t : List Char) :
    commaSeparated (x :: xs) ++ c :: t = x ++ following c t xs := by
  cases xs with
  | nil => rfl
  | cons y ys => rw [commaSeparated, following, List.append_assoc, List.cons_append]

section

variable {c : Char} {t u : List Char} (hend : c = ']' ∨ c = '\x7d')

include hend

theorem closes_following (xs : List (List Char)) : Closes (following c t xs) := by
  cases xs with
  | nil => exact closes_cons (.inr hend) t
  | cons x xs => exact closes_cons (.inl rfl) _

theorem following_inj {xs ys : List (List Char)} (hsame : following c t xs = following c u ys) :
    commaSeparated xs ++ c :: t = commaSeparated ys ++ c :: u := by
  have hcomma : c ≠ ',' := by rcases hend with rfl | rfl <;> decide
  cases xs with
  | nil =>
    cases ys with
    | nil => exact hsame
    | cons y ys => exact absurd (List.cons.inj hsame).1 hcomma
  | cons x xs =>
    cases ys with
    | nil => exact absurd (List.cons.inj hsame).1.symm hcomma
    | cons y ys => exact (List.cons.inj hsame).2

/-- Elements can be read back one after another if those of each place can. None may begin with the
end of the whole, which tells whether there is an element at all. -/
theorem commaSeparated_inj {xs ys : List (List Char)} (hapart : ∀ p ∈ xs.zip ys, Apart p.1 p.2)
    (hxs : ∀ x ∈ xs, BeginsUnlike c x) (hys : ∀ y ∈ ys, BeginsUnlike c y)
    (hsame : commaSeparated xs ++ c :: t = commaSeparated ys ++ c :: u) : xs = ys ∧ t = u := by
  induction xs generalizing ys with
  | nil =>
    cases ys with
    | nil => exact ⟨rfl, (List.cons.inj hsame).2⟩
    | cons y ys =>
      obtain ⟨d, _, rfl, hd⟩ := hys y List.mem_cons_self
      rw [commaSeparated_cons] at hsame
      exact absurd (List.cons.inj hsame).1.symm hd
  | cons x xs ih =>
    cases ys with
    | nil =>
      obtain ⟨d, _, rfl, hd⟩ := hxs x List.mem_cons_self
      rw [commaSeparated_cons] at hsame
      exact absurd (List.cons.inj hsame).1 hd
    | cons y ys =>
      rw [List.zip_cons_cons] at hapart
      obtain ⟨hfirst, hlater⟩ := List.forall_mem_cons.1 hapart
      rw [commaSeparated_cons, commaSeparated_cons] at hsame
      obtain rfl : x = y := hfirst _ _ (closes_following hend xs) (closes_following hend ys) hsame
      obtain ⟨rfl, htu⟩ := ih hlater (List.forall_mem_cons.1 hxs).2 (List.forall_mem_cons.1 hys).2
        (following_inj hend (List.append_cancel_left hsame))
      exact ⟨rfl, htu⟩

end

/-- An array is legible if its elements are and cannot be taken for its end. -/
theorem legible_array {α : Type} {write : α → List Char} (hwrite : Legible Closes write)
    (hbegin : ∀ a, BeginsUnlike ']' (write a)) : Legible (fun _ => True) (array write) := by
  intro l m t u _ _ hsame
  have hbody : commaSeparated (l.map write) ++ ']' :: t =
      commaSeparated (m.map write) ++ ']' :: u := by
    simpa [array] using hsame
  have hmember {k : List α} : ∀ x ∈ k.map write, ∃ a, write a = x := by
    intro x hx
    obtain ⟨a, _, ha⟩ := List.mem_map.1 hx
    exact ⟨a, ha⟩
  have hunlike {k : List α} : ∀ x ∈ k.map write, BeginsUnlike ']' x := by
    intro x hx
    obtain ⟨a, rfl⟩ := hmember x hx
    exact hbegin a
  have hapart : ∀ p ∈ (l.map write).zip (m.map write), Apart p.1 p.2 := by
    intro p hp
    obtain ⟨hl, hm⟩ := List.of_mem_zip hp
    obtain ⟨a, ha⟩ := hmember p.1 hl
    obtain ⟨b, hb⟩ := hmember p.2 hm
    rw [← ha, ← hb]
    exact apart_of_legible hwrite a b
  obtain ⟨hmap, htu⟩ := commaSeparated_inj (.inl rfl) hapart hunlike hunlike hbody
  exact ⟨(hwrite.injective (by simp [Closes])).list_map hmap, htu⟩

theorem member_inj {k l : String} {v w t u : List Char}
    (hsame : member k v ++ t = member l w ++ u) : k = l ∧ v ++ t = w ++ u := by
  simp only [member, List.append_assoc, List.cons_append] at hsame
  obtain ⟨hkey, hvalue⟩ := legible_string k l _ _ trivial trivial hsame
  exact ⟨hkey, (List.cons.inj hvalue).2⟩

/-- The members of an object can be read back if the values of each place can. -/
theorem object_inj {ms ns : List (String × List Char)} {t u : List Char}
    (hapart : ∀ p ∈ ms.zip ns, Apart p.1.2 p.2.2) (hsame : object ms ++ t = object ns ++ u) :
    ms = ns ∧ t = u := by
  have hbody : commaSeparated (ms.map fun m => member m.1 m.2) ++ '\x7d' :: t =
      commaSeparated (ns.map fun m => member m.1 m.2) ++ '\x7d' :: u := by
    simpa [object] using hsame
  have hunlike {ls : List (String × List Char)} :
      ∀ x ∈ ls.map fun m => member m.1 m.2, BeginsUnlike '\x7d' x := by
    intro x hx
    obtain ⟨m, _, rfl⟩ := List.mem_map.1 hx
    exact ⟨_, _, rfl, by decide⟩
  have hmembers : ∀ p ∈ (ms.map fun m => member m.1 m.2).zip (ns.map fun m => member m.1 m.2),
      Apart p.1 p.2 := by
    intro p hp
    rw [List.zip_map] at hp
    obtain ⟨q, hq, rfl⟩ := List.mem_map.1 hp
    intro t u ht hu hsame
    obtain ⟨hkey, hvalue⟩ := member_inj hsame
    exact congrArg₂ member hkey (hapart q hq t u ht hu hvalue)
  obtain ⟨hmap, htu⟩ := commaSeparated_inj (.inr rfl) hmembers hunlike hunlike hbody
  refine ⟨List.map_injective_iff.2 ?_ hmap, htu⟩
  intro m n hmn
  obtain ⟨hkey, hvalue⟩ := member_inj (congrArg (· ++ []) hmn)
  exact Prod.ext hkey (by simpa using hvalue)

end Regulatory.Json
