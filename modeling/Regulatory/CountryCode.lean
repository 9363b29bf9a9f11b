import Regulatory.Text.WhiteSpace

/-!
Regulatory country codes. A code is a non-empty text, trimmed and upper-cased; `CountryCode.parse`
makes one of any raw text, and finds none in a blank one.
-/

namespace Regulatory

/-- A canonical code: not empty, with nothing to trim and nothing to upper-case. Letters outside
ASCII have no upper case here, so a code never depends on a locale. -/
structure CountryCode where
  text : String
  text_ne_nil : text.toList ≠ []
  trim_text : Text.trim text.toList = text.toList
  upper_text : text.toList.map Char.toUpper = text.toList
deriving DecidableEq

namespace CountryCode

instance : ToString CountryCode where
  toString code := code.text

/-- A code is known by its text. -/
theorem text_injective : Function.Injective text := by
  intro code code' hsame
  cases code
  cases code'
  subst hsame
  rfl

theorem toNat_toUpper {c : Char} (h : 97 ≤ c.toNat ∧ c.toNat ≤ 122) :
    c.toUpper.toNat = c.toNat - 32 := by
  have hval : 'a'.val ≤ c.val ∧ c.val ≤ 'z'.val :=
    ⟨UInt32.le_iff_toNat_le.2 h.1, UInt32.le_iff_toNat_le.2 h.2⟩
  have hsum : (c.val + ('A'.val - 'a'.val)).toNat = (c.val.toNat + 4294967264) % 4294967296 :=
    UInt32.toNat_add _ _
  have hc : c.val.toNat = c.toNat := rfl
  refine (congrArg Char.toNat (dif_pos hval)).trans ?_
  show (c.val + ('A'.val - 'a'.val)).toNat = c.toNat - 32
  omega

theorem toUpper_eq_self {c : Char} (h : ¬(97 ≤ c.toNat ∧ c.toNat ≤ 122)) : c.toUpper = c := by
  have hval : ¬('a'.val ≤ c.val ∧ c.val ≤ 'z'.val) := fun hv =>
    h ⟨UInt32.le_iff_toNat_le.1 hv.1, UInt32.le_iff_toNat_le.1 hv.2⟩
  exact dif_neg hval

theorem toUpper_toUpper (c : Char) : c.toUpper.toUpper = c.toUpper := by
  by_cases h : 97 ≤ c.toNat ∧ c.toNat ≤ 122
  · exact toUpper_eq_self (by rw [toNat_toUpper h]; omega)
  · rw [toUpper_eq_self h, toUpper_eq_self h]

/-- Upper-casing neither makes nor removes white space. -/
theorem isWhiteSpace_toUpper (c : Char) :
    Text.isWhiteSpace c.toUpper = Text.isWhiteSpace c := by
  by_cases h : 97 ≤ c.toNat ∧ c.toNat ≤ 122
  · have hc := toNat_toUpper h
    have hsmall : Text.isWhiteSpace c = false := by
      simp [Text.isWhiteSpace]; omega
    have hcapital : Text.isWhiteSpace c.toUpper = false := by
      simp [Text.isWhiteSpace, hc]; omega
    rw [hsmall, hcapital]
  · rw [toUpper_eq_self h]

theorem trimLeft_map_toUpper (s : List Char) :
    Text.trimLeft (s.map Char.toUpper) = (Text.trimLeft s).map Char.toUpper := by
  induction s with
  | nil => rfl
  | cons c s ih =>
    simp only [List.map_cons, Text.trimLeft_cons, isWhiteSpace_toUpper]
    split
    · exact ih
    · rfl

/-- Trimming and upper-casing may be done in either order. -/
theorem trim_map_toUpper (s : List Char) :
    Text.trim (s.map Char.toUpper) = (Text.trim s).map Char.toUpper := by
  simp only [Text.trim, Text.trimRight, trimLeft_map_toUpper, ← List.map_reverse]

/-- The characters of the canonical form of a raw text, empty for a blank one. -/
def canonicalize (raw : List Char) : List Char :=
  (Text.trim raw).map Char.toUpper

theorem trim_canonicalize (raw : List Char) :
    Text.trim (canonicalize raw) = canonicalize raw := by
  rw [canonicalize, trim_map_toUpper, Text.trim_trim]

theorem map_toUpper_canonicalize (raw : List Char) :
    (canonicalize raw).map Char.toUpper = canonicalize raw := by
  rw [canonicalize, List.map_map]
  exact List.map_congr_left fun c _ => toUpper_toUpper c

/-- The code that a raw text stands for. A blank text stands for none, which callers take as the
withdrawal of a code. -/
def parse (raw : String) : Option CountryCode :=
  if h : canonicalize raw.toList = [] then none
  else some {
    text := String.ofList (canonicalize raw.toList)
    text_ne_nil := by simpa using h
    trim_text := by simpa using trim_canonicalize raw.toList
    upper_text := by simpa using map_toUpper_canonicalize raw.toList }

theorem parse_eq_none_iff (raw : String) :
    parse raw = none ↔ ∀ c ∈ raw.toList, Text.isWhiteSpace c = true := by
  rw [parse, dite_eq_left_iff, ← Text.trim_eq_nil_iff]
  simp [canonicalize]

theorem parse_eq_some_iff {raw : String} {code : CountryCode} :
    parse raw = some code ↔ canonicalize raw.toList = code.text.toList := by
  unfold parse
  split
  · rename_i hnil
    refine iff_of_false nofun fun htext => ?_
    exact code.text_ne_nil (htext.symm.trans hnil)
  · rw [Option.some_inj]
    constructor
    · rintro rfl
      simp only [String.toList_ofList]
    · intro htext
      exact text_injective ((congrArg String.ofList htext).trans String.ofList_toList)

/-- The texts that stand for no code are those that any test for a blank text finds. -/
theorem isNone_parse (raw : String) : (parse raw).isNone = Text.isBlank raw.toList := by
  rw [Bool.eq_iff_iff, Option.isNone_iff_eq_none, parse_eq_none_iff, Text.isBlank_iff]

/-- Whether a plain text spells the code exactly. -/
def spelledBy (code : CountryCode) (s : String) : Bool :=
  code.text == s

end CountryCode

end Regulatory
