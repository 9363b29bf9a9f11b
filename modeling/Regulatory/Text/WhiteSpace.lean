/-!
White space, as the Unicode property White_Space has it. Trimming, splitting into words and the
test for a blank text all go by `isWhiteSpace`, so they agree on every character.
-/

namespace Regulatory.Text

/-- The characters with the Unicode property White_Space. Zero-width space, the byte order mark
and the information separators are not among them. -/
def isWhiteSpace (c : Char) : Bool :=
  (9 ≤ c.toNat && c.toNat ≤ 13) || c.toNat == 0x20 || c.toNat == 0x85 || c.toNat == 0xA0 ||
    c.toNat == 0x1680 || (0x2000 ≤ c.toNat && c.toNat ≤ 0x200A) || c.toNat == 0x2028 ||
    c.toNat == 0x2029 || c.toNat == 0x202F || c.toNat == 0x205F || c.toNat == 0x3000

def trimLeft (s : List Char) : List Char :=
  s.dropWhile isWhiteSpace

def trimRight (s : List Char) : List Char :=
  (trimLeft s.reverse).reverse

/-- The text without the white space at its two ends. -/
def trim (s : List Char) : List Char :=
  trimRight (trimLeft s)

/-- A text is blank when trimming leaves nothing of it. -/
def isBlank (s : List Char) : Bool :=
  (trim s).isEmpty

/-- The maximal runs of characters that are not white space, in order. -/
def words (s : List Char) : List (List Char) :=
  go [] s
where
  /-- Reads on with the letters of an unfinished word, last letter first. -/
  go (word : List Char) : List Char → List (List Char)
    | [] => finish word
    | c :: s => if isWhiteSpace c then finish word ++ go [] s else go (c :: word) s
  finish (word : List Char) : List (List Char) :=
    if word.isEmpty then [] else [word.reverse]

theorem trimLeft_cons (c : Char) (s : List Char) :
    trimLeft (c :: s) = if isWhiteSpace c then trimLeft s else c :: s := by
  simp only [trimLeft, List.dropWhile_cons]

theorem head_trimLeft (s : List Char) {c : Char} {t : List Char} (h : trimLeft s = c :: t) :
    isWhiteSpace c = false := by
  induction s with
  | nil => simp [trimLeft] at h
  | cons d s ih =>
    rw [trimLeft_cons] at h
    split at h
    · exact ih h
    · next hd =>
      obtain ⟨rfl, -⟩ := List.cons.inj h
      simpa using hd

theorem trimLeft_eq_self_iff (s : List Char) :
    trimLeft s = s ↔ ∀ c ∈ s.head?, isWhiteSpace c = false := by
  cases s with
  | nil => simp [trimLeft]
  | cons c s =>
    constructor
    · intro h
      simpa using head_trimLeft _ h
    · intro h
      have hc : isWhiteSpace c = false := by simpa using h
      simp [trimLeft_cons, hc]

/-- What trimming takes away from the left is white space only. -/
theorem exists_append_trimLeft (s : List Char) :
    ∃ p, s = p ++ trimLeft s ∧ ∀ c ∈ p, isWhiteSpace c = true := by
  induction s with
  | nil => exact ⟨[], rfl, by simp⟩
  | cons c s ih =>
    rw [trimLeft_cons]
    split
    · next hc =>
      obtain ⟨p, hp, hw⟩ := ih
      refine ⟨c :: p, by rw [List.cons_append, ← hp], ?_⟩
      intro d hd
      rcases List.mem_cons.1 hd with rfl | hd
      · exact hc
      · exact hw d hd
    · exact ⟨[], rfl, by simp⟩

theorem trimLeft_eq_nil_iff (s : List Char) :
    trimLeft s = [] ↔ ∀ c ∈ s, isWhiteSpace c = true := by
  induction s with
  | nil => simp [trimLeft]
  | cons c s ih =>
    rw [trimLeft_cons, List.forall_mem_cons]
    split
    · next hc => rw [ih, and_iff_right hc]
    · next hc => simp [hc]

/-- A text is blank if it has nothing but white space. -/
theorem trim_eq_nil_iff (s : List Char) : trim s = [] ↔ ∀ c ∈ s, isWhiteSpace c = true := by
  obtain ⟨p, hp, hw⟩ := exists_append_trimLeft s
  rw [trim, trimRight, List.reverse_eq_nil_iff, trimLeft_eq_nil_iff]
  simp only [List.mem_reverse]
  constructor
  · intro h c hc
    rw [hp] at hc
    exact (List.mem_append.1 hc).elim (hw c) (h c)
  · intro h c hc
    refine h c ?_
    rw [hp]
    exact List.mem_append_right p hc

theorem isBlank_iff (s : List Char) : isBlank s = true ↔ ∀ c ∈ s, isWhiteSpace c = true := by
  rw [isBlank, List.isEmpty_iff, trim_eq_nil_iff]

theorem words_of_isBlank {s : List Char} (h : isBlank s = true) : words s = [] := by
  rw [isBlank_iff] at h
  induction s with
  | nil => rfl
  | cons c s ih =>
    obtain ⟨hc, hs⟩ := List.forall_mem_cons.1 h
    have hrest : words.go [] s = [] := ih hs
    simp [words, words.go, words.finish, hc, hrest]

theorem head?_trim (s : List Char) : ∀ c ∈ (trim s).head?, isWhiteSpace c = false := by
  intro c hc
  -- The right trim keeps a front part of the left trim, whose first character is not white space.
  obtain ⟨p, hp, -⟩ := exists_append_trimLeft (trimLeft s).reverse
  have hs : trimLeft s = trim s ++ p.reverse := by
    have := congrArg List.reverse hp
    simpa [trim, trimRight] using this
  obtain ⟨t, ht⟩ : ∃ t, trim s = c :: t := by
    cases h : trim s with
    | nil => simp [h] at hc
    | cons d t =>
      rw [h] at hc
      obtain rfl : d = c := by simpa using hc
      exact ⟨t, rfl⟩
  rw [ht, List.cons_append] at hs
  exact head_trimLeft s hs

theorem getLast?_trim (s : List Char) : ∀ c ∈ (trim s).getLast?, isWhiteSpace c = false := by
  intro c hc
  rw [trim, trimRight, List.getLast?_reverse] at hc
  have hself : trimLeft (trimLeft (trimLeft s).reverse) = trimLeft (trimLeft s).reverse := by
    cases h : trimLeft (trimLeft s).reverse with
    | nil => rfl
    | cons d t => simp [trimLeft_cons, head_trimLeft _ h]
  exact (trimLeft_eq_self_iff _).1 hself c hc

theorem trim_eq_self {s : List Char} (hhead : ∀ c ∈ s.head?, isWhiteSpace c = false)
    (hlast : ∀ c ∈ s.getLast?, isWhiteSpace c = false) : trim s = s := by
  have hleft : trimLeft s = s := (trimLeft_eq_self_iff s).2 hhead
  have hright : trimLeft s.reverse = s.reverse :=
    (trimLeft_eq_self_iff _).2 (by simpa using hlast)
  simp [trim, trimRight, hleft, hright]

theorem trim_trim (s : List Char) : trim (trim s) = trim s :=
  trim_eq_self (head?_trim s) (getLast?_trim s)

end Regulatory.Text
