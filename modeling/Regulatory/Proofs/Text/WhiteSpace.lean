import Regulatory.Text.WhiteSpace

/-!
Trimming and splitting into words, described without the functions that do it. What is left of a
text when it is trimmed, and the words that it is made of, are given by how white space and other
characters alternate in it.
-/

namespace Regulatory.Text

/-- White space only, or nothing at all. -/
def IsGap (s : List Char) : Prop :=
  ∀ c ∈ s, isWhiteSpace c = true

instance (s : List Char) : Decidable (IsGap s) :=
  inferInstanceAs (Decidable (∀ c ∈ s, isWhiteSpace c = true))

/-- A text neither starts nor ends with white space. -/
structure IsTrimmed (s : List Char) : Prop where
  head : ∀ c ∈ s.head?, isWhiteSpace c = false
  last : ∀ c ∈ s.getLast?, isWhiteSpace c = false

/-- A text is made of what trimming leaves of it, with white space before and behind. -/
def Trims (s core : List Char) : Prop :=
  IsTrimmed core ∧ ∃ before behind, s = before ++ core ++ behind ∧ IsGap before ∧ IsGap behind

theorem trimLeft_append {gap : List Char} (hgap : IsGap gap) (s : List Char) :
    trimLeft (gap ++ s) = trimLeft s :=
  List.dropWhile_append_of_pos hgap

theorem trims_trim (s : List Char) : Trims s (trim s) := by
  obtain ⟨before, hbefore, hwhite⟩ := exists_append_trimLeft s
  obtain ⟨behind, hbehind, hwhite'⟩ := exists_append_trimLeft (trimLeft s).reverse
  refine ⟨⟨head?_trim s, getLast?_trim s⟩, before, behind.reverse, ?_, hwhite, ?_⟩
  · have hleft : trimLeft s = trim s ++ behind.reverse := by
      simpa [trim, trimRight] using congrArg List.reverse hbehind
    rw [List.append_assoc, ← hleft]
    exact hbefore
  · intro c hc
    exact hwhite' c (List.mem_reverse.1 hc)

/-- There is one way only to trim a text. -/
theorem trim_eq_iff {s core : List Char} : trim s = core ↔ Trims s core := by
  constructor
  · rintro rfl
    exact trims_trim s
  · rintro ⟨hcore, before, behind, rfl, hbefore, hbehind⟩
    cases core with
    | nil =>
      rw [trim_eq_nil_iff, List.append_nil]
      intro c hc
      exact (List.mem_append.1 hc).elim (hbefore c) (hbehind c)
    | cons c core =>
      have hleft : trimLeft (before ++ (c :: core) ++ behind) = (c :: core) ++ behind := by
        rw [List.append_assoc, trimLeft_append hbefore, trimLeft_eq_self_iff]
        exact hcore.head
      have hwhite : IsGap behind.reverse := fun d hd => hbehind d (List.mem_reverse.1 hd)
      have hright : trimLeft (c :: core).reverse = (c :: core).reverse := by
        rw [trimLeft_eq_self_iff, List.head?_reverse]
        exact hcore.last
      rw [trim, trimRight, hleft, List.reverse_append, trimLeft_append hwhite, hright,
        List.reverse_reverse]

/-- Not empty, and without white space. -/
structure IsWord (s : List Char) : Prop where
  ne_nil : s ≠ []
  visible : ∀ c ∈ s, isWhiteSpace c = false

theorem IsWord.trim_eq {word : List Char} (hword : IsWord word) : trim word = word :=
  trim_eq_self (fun c hc => hword.visible c (List.mem_of_mem_head? hc))
    fun c hc => hword.visible c (List.mem_of_getLast? hc)

/-- A text is made of some words in order, each as long as can be, and of the gaps around them. -/
inductive Spaced : List (List Char) → List Char → Prop
  | gap {s : List Char} (hgap : IsGap s) : Spaced [] s
  | word {gap word rest : List Char} {words : List (List Char)} (hgap : IsGap gap)
      (hword : IsWord word) (hend : ∀ c ∈ rest.head?, isWhiteSpace c = true)
      (hrest : Spaced words rest) : Spaced (word :: words) (gap ++ word ++ rest)

theorem Spaced.isWord {words : List (List Char)} {s : List Char} (h : Spaced words s) :
    ∀ word ∈ words, IsWord word := by
  induction h with
  | gap _ => exact List.forall_mem_nil _
  | word _ hword _ _ ih => exact List.forall_mem_cons.2 ⟨hword, ih⟩

theorem Spaced.cons_white {words : List (List Char)} {s : List Char} (h : Spaced words s) {c : Char}
    (hc : isWhiteSpace c = true) : Spaced words (c :: s) := by
  cases h with
  | gap hgap => exact .gap (List.forall_mem_cons.2 ⟨hc, hgap⟩)
  | word hgap hword hend hrest =>
    exact .word (List.forall_mem_cons.2 ⟨hc, hgap⟩) hword hend hrest

/-- A visible character in front belongs to the first word if there is no gap before it, and makes
a word of its own otherwise. -/
theorem Spaced.cons_visible {words : List (List Char)} {s : List Char} (h : Spaced words s)
    {c : Char} (hc : isWhiteSpace c = false) : ∃ words', Spaced words' (c :: s) := by
  have hletter : IsWord [c] := ⟨List.cons_ne_nil _ _, List.forall_mem_singleton.2 hc⟩
  have hnone : IsGap [] := List.forall_mem_nil _
  cases h with
  | gap hgap =>
    have hend : ∀ d ∈ s.head?, isWhiteSpace d = true := fun d hd =>
      hgap d (List.mem_of_mem_head? hd)
    exact ⟨_, .word hnone hletter hend (.gap hgap)⟩
  | @word gap word rest words hgap hword hend hrest =>
    cases gap with
    | nil =>
      have hlonger : IsWord (c :: word) :=
        ⟨List.cons_ne_nil _ _, List.forall_mem_cons.2 ⟨hc, hword.visible⟩⟩
      exact ⟨_, .word hnone hlonger hend hrest⟩
    | cons d gap =>
      have hfirst : ∀ e ∈ (d :: gap ++ word ++ rest).head?, isWhiteSpace e = true := by
        simpa using hgap d List.mem_cons_self
      exact ⟨_, .word hnone hletter hfirst (.word hgap hword hend hrest)⟩

theorem exists_spaced (s : List Char) : ∃ words, Spaced words s := by
  induction s with
  | nil => exact ⟨[], .gap (List.forall_mem_nil _)⟩
  | cons c s ih =>
    obtain ⟨words, hwords⟩ := ih
    cases hc : isWhiteSpace c with
    | true => exact ⟨words, hwords.cons_white hc⟩
    | false => exact hwords.cons_visible hc

/-- Behind white space the reading of words begins anew. -/
theorem go_append_white (letters s : List Char) {c : Char} (hc : isWhiteSpace c = true)
    (rest : List Char) :
    words.go letters (s ++ c :: rest) = words.go letters s ++ words rest := by
  induction s generalizing letters with
  | nil => simp [words, words.go, hc]
  | cons d s ih =>
    simp only [List.cons_append, words.go, ih]
    split <;> simp

theorem words_gap_append {gap : List Char} (hgap : IsGap gap) (s : List Char) :
    words (gap ++ s) = words s := by
  induction gap with
  | nil => rfl
  | cons c gap ih =>
    obtain ⟨hc, hrest⟩ := List.forall_mem_cons.1 hgap
    exact (go_append_white [] [] hc (gap ++ s)).trans (ih hrest)

/-- The words on the two sides of a gap are read each for itself. -/
theorem words_append_gap (s : List Char) {gap : List Char} (hgap : IsGap gap) (hsome : gap ≠ [])
    (rest : List Char) : words (s ++ gap ++ rest) = words s ++ words rest := by
  cases gap with
  | nil => exact absurd rfl hsome
  | cons c gap =>
    obtain ⟨hc, hrest⟩ := List.forall_mem_cons.1 hgap
    rw [List.append_assoc, List.cons_append]
    exact (go_append_white [] s hc (gap ++ rest)).trans (congrArg _ (words_gap_append hrest rest))

theorem words_surrounded {before behind : List Char} (hbefore : IsGap before)
    (hbehind : IsGap behind) (s : List Char) : words (before ++ s ++ behind) = words s := by
  rw [List.append_assoc, words_gap_append hbefore]
  cases behind with
  | nil => rw [List.append_nil]
  | cons c behind =>
    have hgap := words_append_gap s hbehind (List.cons_ne_nil c behind) []
    rw [List.append_nil] at hgap
    exact hgap.trans (List.append_nil _)

theorem go_word (letters : List Char) {word : List Char}
    (hword : ∀ c ∈ word, isWhiteSpace c = false) (rest : List Char) :
    words.go letters (word ++ rest) = words.go (word.reverse ++ letters) rest := by
  induction word generalizing letters with
  | nil => rfl
  | cons c word ih =>
    obtain ⟨hc, hrest⟩ := List.forall_mem_cons.1 hword
    simp [words.go, hc, ih _ hrest]

/-- A word in front is read to its end. -/
theorem words_word_append {word : List Char} (hword : IsWord word) {rest : List Char}
    (hend : ∀ c ∈ rest.head?, isWhiteSpace c = true) :
    words (word ++ rest) = word :: words rest := by
  have hfinish : words.go word.reverse [] = [word] := by
    simp [words.go, words.finish, hword.ne_nil]
  have hread : words.go [] (word ++ rest) = words.go word.reverse rest := by
    simpa using go_word [] hword.visible rest
  refine hread.trans ?_
  cases rest with
  | nil => exact hfinish
  | cons c rest =>
    have hc : isWhiteSpace c = true := hend c rfl
    have hgap := words_gap_append (List.forall_mem_singleton.2 hc) rest
    rw [List.singleton_append] at hgap
    rw [hgap]
    exact (go_append_white word.reverse [] hc rest).trans (by rw [hfinish]; rfl)

/-- The words that are read off a text are those that it is made of. -/
theorem words_eq_iff {s : List Char} {ws : List (List Char)} : words s = ws ↔ Spaced ws s := by
  have hread {ws : List (List Char)} {s : List Char} (h : Spaced ws s) : words s = ws := by
    induction h with
    | gap hgap => exact words_of_isBlank ((isBlank_iff _).2 hgap)
    | word hgap hword hend _ ih =>
      rw [List.append_assoc, words_gap_append hgap, words_word_append hword hend, ih]
  constructor
  · rintro rfl
    obtain ⟨ws, hws⟩ := exists_spaced s
    rwa [hread hws]
  · exact hread

/-- A text is blank if there is no word in it. -/
theorem isBlank_iff_spaced (s : List Char) : isBlank s = true ↔ Spaced [] s := by
  rw [isBlank_iff]
  refine ⟨.gap, fun h => ?_⟩
  cases h with
  | gap hgap => exact hgap

end Regulatory.Text
