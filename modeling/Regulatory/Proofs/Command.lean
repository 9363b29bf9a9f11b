import Regulatory.Command
import Regulatory.CountryCode
import Regulatory.Error
import Regulatory.Proofs.Text.WhiteSpace

/-!
The grammar of commands. A line is read by its words, so the daemon's test for a blank line, the
reader of commands and the reader of country codes agree on what white space is.
-/

namespace Regulatory.Command

/-- The words of a command. -/
inductive Spells : List String → Command → Prop
  | on : Spells ["ready", "on"] (.ready true)
  | off : Spells ["ready", "off"] (.ready false)
  | withdrawal : Spells ["country"] (.country "")
  | code (raw : String) : Spells ["country", raw] (.country raw)
  | dump : Spells ["dump"] .dump
  | quit : Spells ["quit"] .quit

/-- A line is made of the words of a command. -/
def Reads (line : String) (cmd : Command) : Prop :=
  ∃ words, Text.Spaced (words.map String.toList) line.toList ∧ Spells words cmd

theorem parse_eq_ok_iff_words (line : String) (cmd : Command) :
    parse line = .ok cmd ↔ Spells ((Text.words line.toList).map String.ofList) cmd := by
  unfold parse
  generalize (Text.words line.toList).map String.ofList = words
  constructor
  · intro hok
    split at hok
    · cases hok
      exact .on
    · cases hok
      exact .off
    · cases hok
      exact .withdrawal
    · cases hok
      exact .code _
    · cases hok
      exact .dump
    · cases hok
      exact .quit
    · cases hok
  · intro hspells
    cases hspells <;> rfl

theorem parse_eq_ok_iff (line : String) (cmd : Command) :
    parse line = .ok cmd ↔ Reads line cmd := by
  have hchars (words : List String) : (words.map String.toList).map String.ofList = words := by
    simp [Function.comp_def]
  have hwords (words : List (List Char)) : (words.map String.ofList).map String.toList = words := by
    simp [Function.comp_def]
  rw [parse_eq_ok_iff_words]
  constructor
  · intro hspells
    refine ⟨_, ?_, hspells⟩
    rw [hwords]
    exact Text.words_eq_iff.1 rfl
  · rintro ⟨words, hspaced, hspells⟩
    rwa [Text.words_eq_iff.2 hspaced, hchars]

theorem eq_unrecognised {line reason : String} (herror : parse line = .error reason) :
    reason = unrecognised line := by
  unfold parse at herror
  split at herror <;> cases herror
  rfl

theorem parse_eq_error_iff (line reason : String) :
    parse line = .error reason ↔ reason = unrecognised line ∧ ∀ cmd, ¬Reads line cmd := by
  constructor
  · intro herror
    refine ⟨eq_unrecognised herror, fun cmd hreads => ?_⟩
    rw [← parse_eq_ok_iff, herror] at hreads
    cases hreads
  · rintro ⟨rfl, hnone⟩
    cases hparse : parse line with
    | ok cmd => exact absurd ((parse_eq_ok_iff line cmd).1 hparse) (hnone cmd)
    | error reason => rw [eq_unrecognised hparse]

/-- Lines of the same words are read alike, but for the line that an error quotes. -/
theorem toOption_parse_congr {line line' : String}
    (hwords : Text.words line'.toList = Text.words line.toList) :
    (parse line').toOption = (parse line).toOption := by
  refine toOption_congr fun cmd => ?_
  rw [parse_eq_ok_iff_words, parse_eq_ok_iff_words, hwords]

/-- A single word is a code, as soon as it is in upper case. -/
theorem parse_word {word : String} (hword : Text.IsWord word.toList) :
    ∃ code, CountryCode.parse word = some code ∧
      code.text.toList = word.toList.map Char.toUpper := by
  cases hcode : CountryCode.parse word with
  | none =>
    have hblank := (CountryCode.parse_eq_none_iff word).1 hcode
    obtain ⟨c, hc⟩ := List.exists_mem_of_ne_nil _ hword.ne_nil
    have hvisible := hword.visible c hc
    rw [hblank c hc] at hvisible
    cases hvisible
  | some code =>
    have htext := CountryCode.parse_eq_some_iff.1 hcode
    rw [CountryCode.canonicalize, hword.trim_eq] at htext
    exact ⟨code, rfl, htext.symm⟩

/-- The bare command is a withdrawal. One with a code never is. -/
theorem parse_country {line raw : String} (hparse : parse line = .ok (.country raw)) :
    (CountryCode.parse raw = none ↔ Text.Spaced ["country".toList] line.toList) ∧
      (¬Text.Spaced ["country".toList] line.toList → ∃ code,
        CountryCode.parse raw = some code ∧ code.text.toList = raw.toList.map Char.toUpper) := by
  obtain ⟨words, hspaced, hspells⟩ := (parse_eq_ok_iff line _).1 hparse
  cases hspells with
  | withdrawal =>
    have hnone : CountryCode.parse "" = none := by decide
    exact ⟨iff_of_true hnone hspaced, fun hbare => absurd hspaced hbare⟩
  | code =>
    have hword : Text.IsWord raw.toList := hspaced.isWord _ (by simp)
    obtain ⟨code, hcode, htext⟩ := parse_word hword
    refine ⟨iff_of_false (by rw [hcode]; exact Option.some_ne_none code) fun hbare => ?_,
      fun _ => ⟨code, hcode, htext⟩⟩
    have hwords := (Text.words_eq_iff.2 hspaced).symm.trans (Text.words_eq_iff.2 hbare)
    simp at hwords

/-- How a line is read. -/
structure Grammar (line : String) : Prop where
  words : ∀ words, Text.words line.toList = words ↔ Text.Spaced words line.toList
  accepted : ∀ cmd, parse line = .ok cmd ↔ Reads line cmd
  rejected : ∀ reason, parse line = .error reason ↔
    reason = unrecognised line ∧ ∀ cmd, ¬Reads line cmd
  /-- Any gap between words is as good as another. -/
  gap : ∀ before gap gap' behind, line.toList = before ++ gap ++ behind →
    Text.IsGap gap → gap ≠ [] → Text.IsGap gap' → gap' ≠ [] →
      (parse (String.ofList (before ++ gap' ++ behind))).toOption = (parse line).toOption
  /-- White space at the ends may come and go. -/
  ends : ∀ before core behind, line.toList = before ++ core ++ behind →
    Text.IsGap before → Text.IsGap behind →
      (parse (String.ofList core)).toOption = (parse line).toOption
  blank : Text.isBlank line.toList = true ↔ Text.Spaced [] line.toList
  country : ∀ raw, parse line = .ok (.country raw) →
    (CountryCode.parse raw = none ↔ Text.Spaced ["country".toList] line.toList) ∧
      (¬Text.Spaced ["country".toList] line.toList → ∃ code,
        CountryCode.parse raw = some code ∧ code.text.toList = raw.toList.map Char.toUpper)

/-- Commands are known by the words of a line, whatever the white space around these. -/
theorem grammar_of_line (line : String) : Grammar line where
  words _ := Text.words_eq_iff
  accepted := parse_eq_ok_iff line
  rejected := parse_eq_error_iff line
  gap before gap gap' behind hline hgap hsome hgap' hsome' := by
    refine toOption_parse_congr ?_
    rw [String.toList_ofList, hline, Text.words_append_gap before hgap' hsome',
      Text.words_append_gap before hgap hsome]
  ends before core behind hline hbefore hbehind := by
    refine toOption_parse_congr ?_
    rw [String.toList_ofList, hline, Text.words_surrounded hbefore hbehind]
  blank := Text.isBlank_iff_spaced line.toList
  country _ := parse_country

end Regulatory.Command
