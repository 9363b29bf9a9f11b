import Mathlib.Data.List.Forall2
import Regulatory.CountryCode
import Regulatory.Proofs.Text.WhiteSpace

/-!
Which texts are codes, and which raw texts stand for the same code.
-/

namespace Regulatory.CountryCode

/-- A text that is a code as it stands. -/
structure Canonical (s : String) : Prop where
  ne_empty : s ≠ ""
  trimmed : Text.IsTrimmed s.toList
  upper : ∀ c ∈ s.toList, ¬('a' ≤ c ∧ c ≤ 'z')

/-- Two characters are the same up to the case of an ASCII letter. -/
inductive SameButCase : Char → Char → Prop
  | same (c : Char) : SameButCase c c
  | raised {c d : Char} (hsmall : 'a' ≤ c ∧ c ≤ 'z') (hcapital : d.toNat + 32 = c.toNat) :
      SameButCase c d
  | lowered {c d : Char} (hsmall : 'a' ≤ d ∧ d ≤ 'z') (hcapital : c.toNat + 32 = d.toNat) :
      SameButCase c d

theorem small_iff (c : Char) : ('a' ≤ c ∧ c ≤ 'z') ↔ 97 ≤ c.toNat ∧ c.toNat ≤ 122 :=
  and_congr UInt32.le_iff_toNat_le UInt32.le_iff_toNat_le

theorem toUpper_eq_self_iff (c : Char) : c.toUpper = c ↔ ¬('a' ≤ c ∧ c ≤ 'z') := by
  rw [small_iff]
  refine ⟨fun hself hsmall => ?_, toUpper_eq_self⟩
  have hc := toNat_toUpper hsmall
  rw [hself] at hc
  omega

theorem toUpper_eq_toUpper_iff (c d : Char) : c.toUpper = d.toUpper ↔ SameButCase c d := by
  constructor
  · intro hupper
    have hcode := congrArg Char.toNat hupper
    by_cases hc : 97 ≤ c.toNat ∧ c.toNat ≤ 122
    · rw [toNat_toUpper hc] at hcode
      by_cases hd : 97 ≤ d.toNat ∧ d.toNat ≤ 122
      · rw [toNat_toUpper hd] at hcode
        obtain rfl : c = d := Char.toNat_inj.1 (by omega)
        exact .same c
      · rw [toUpper_eq_self hd] at hcode
        exact .raised ((small_iff c).2 hc) (by omega)
    · rw [toUpper_eq_self hc] at hcode
      by_cases hd : 97 ≤ d.toNat ∧ d.toNat ≤ 122
      · rw [toNat_toUpper hd] at hcode
        exact .lowered ((small_iff d).2 hd) (by omega)
      · rw [toUpper_eq_self hd] at hcode
        obtain rfl := Char.toNat_inj.1 hcode
        exact .same c
  · have hraise {c d : Char} (hsmall : 'a' ≤ c ∧ c ≤ 'z') (hcapital : d.toNat + 32 = c.toNat) :
        c.toUpper = d.toUpper := by
      rw [small_iff] at hsmall
      rw [toUpper_eq_self (c := d) (by omega)]
      refine Char.toNat_inj.1 ?_
      rw [toNat_toUpper hsmall]
      omega
    intro hsame
    cases hsame with
    | same => rfl
    | raised hsmall hcapital => exact hraise hsmall hcapital
    | lowered hsmall hcapital => exact (hraise hsmall hcapital).symm

/-- The texts that canonicalizing leaves alone. -/
theorem canonical_iff (s : String) : Canonical s ↔ s ≠ "" ∧ canonicalize s.toList = s.toList := by
  constructor
  · rintro ⟨hne, htrimmed, hupper⟩
    refine ⟨hne, ?_⟩
    rw [canonicalize, Text.trim_eq_self htrimmed.head htrimmed.last]
    refine (List.map_inj_left.2 fun c hc => ?_).trans (List.map_id _)
    exact (toUpper_eq_self_iff c).2 (hupper c hc)
  · rintro ⟨hne, hself⟩
    have htrim : Text.trim s.toList = s.toList := by
      rw [← hself]
      exact trim_canonicalize s.toList
    refine ⟨hne, htrim ▸ (Text.trims_trim s.toList).1, fun c hc => ?_⟩
    have hupper : s.toList.map Char.toUpper = s.toList.map id := by
      rw [canonicalize, htrim] at hself
      exact hself.trans (List.map_id _).symm
    exact (toUpper_eq_self_iff c).1 (List.map_inj_left.1 hupper c hc)

theorem canonicalize_text (code : CountryCode) : canonicalize code.text.toList = code.text.toList :=
  (congrArg _ code.trim_text).trans code.upper_text

theorem canonical_text (code : CountryCode) : Canonical code.text := by
  refine (canonical_iff _).2 ⟨fun hempty => code.text_ne_nil ?_, canonicalize_text code⟩
  rw [hempty]
  rfl

/-- A code is made of its own text. -/
theorem parse_text (code : CountryCode) : parse code.text = some code :=
  parse_eq_some_iff.2 (canonicalize_text code)

/-- A canonical text is that of a code. -/
theorem Canonical.exists_text {s : String} (hs : Canonical s) :
    ∃ code : CountryCode, code.text = s := by
  obtain ⟨hne, hself⟩ := (canonical_iff s).1 hs
  refine ⟨⟨s, fun hnil => hne (String.toList_eq_nil_iff.1 hnil), ?_, ?_⟩, rfl⟩
  · rw [← hself]
    exact trim_canonicalize s.toList
  · rw [← hself]
    exact map_toUpper_canonicalize s.toList

theorem canonical_iff_exists_parse (s : String) :
    Canonical s ↔ ∃ code, parse s = some code ∧ code.text = s := by
  constructor
  · intro hs
    obtain ⟨code, rfl⟩ := hs.exists_text
    exact ⟨code, parse_text code, rfl⟩
  · rintro ⟨code, _, rfl⟩
    exact canonical_text code

theorem parse_eq_parse_iff_canonicalize (a b : String) :
    parse a = parse b ↔ canonicalize a.toList = canonicalize b.toList := by
  constructor
  · intro hparse
    cases hcode : parse a with
    | none =>
      have hblank (raw : String) (hnone : parse raw = none) : canonicalize raw.toList = [] := by
        rw [canonicalize, (Text.trim_eq_nil_iff _).2 ((parse_eq_none_iff raw).1 hnone)]
        rfl
      rw [hblank a hcode, hblank b (hparse.symm.trans hcode)]
    | some code =>
      exact (parse_eq_some_iff.1 hcode).trans (parse_eq_some_iff.1 (hparse.symm.trans hcode)).symm
  · intro hsame
    unfold parse
    simp only [hsame]

/-- Two raw texts stand for the same code if nothing but the case of ASCII letters tells them apart
once they are trimmed. -/
theorem parse_eq_parse_iff (a b : String) :
    parse a = parse b ↔
      List.Forall₂ SameButCase (Text.trim a.toList) (Text.trim b.toList) := by
  rw [parse_eq_parse_iff_canonicalize, canonicalize, canonicalize, ← List.forall₂_eq_eq_eq,
    List.forall₂_map_left_iff, List.forall₂_map_right_iff]
  simp only [toUpper_eq_toUpper_iff]

theorem spelledBy_iff (code : CountryCode) (s : String) :
    code.spelledBy s = true ↔ Canonical s ∧ parse s = some code := by
  rw [spelledBy, beq_iff_eq]
  constructor
  · rintro rfl
    exact ⟨canonical_text code, parse_text code⟩
  · rintro ⟨hs, hparse⟩
    obtain ⟨code', rfl⟩ := hs.exists_text
    rw [parse_text, Option.some_inj] at hparse
    rw [hparse]

/-- What parsing makes of a raw text. -/
structure Parsing (raw : String) : Prop where
  blank : parse raw = none ↔ ∀ c ∈ raw.toList, Text.isWhiteSpace c = true
  canonical : ∀ code, parse raw = some code → Canonical code.text ∧ parse code.text = some code
  /-- The texts that parsing leads to are those that it leaves as they are. -/
  outcome : (∃ raw' code, parse raw' = some code ∧ code.text = raw) ↔
    ∃ code, parse raw = some code ∧ code.text = raw
  fixed : (∃ code, parse raw = some code ∧ code.text = raw) ↔ Canonical raw
  trimmed : ∀ core, Text.trim raw.toList = core ↔ Text.Trims raw.toList core
  same : ∀ raw', parse raw = parse raw' ↔
    List.Forall₂ SameButCase (Text.trim raw.toList) (Text.trim raw'.toList)
  spelled : ∀ code : CountryCode, code.spelledBy raw = true ↔ Canonical raw ∧ parse raw = some code

theorem parsing (raw : String) : Parsing raw where
  blank := parse_eq_none_iff raw
  canonical code _ := ⟨canonical_text code, parse_text code⟩
  outcome := by
    constructor
    · rintro ⟨_, code, _, rfl⟩
      exact ⟨code, parse_text code, rfl⟩
    · exact fun h => ⟨raw, h⟩
  fixed := (canonical_iff_exists_parse raw).symm
  trimmed _ := Text.trim_eq_iff
  same := parse_eq_parse_iff raw
  spelled code := spelledBy_iff code raw

end Regulatory.CountryCode
