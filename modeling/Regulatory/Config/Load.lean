import Regulatory.Config.Decode
import Regulatory.Text.Utf8
import Regulatory.Toml.Document

/-!
Loading a configuration from the bytes of a file.
-/

namespace Regulatory.Config

/-- Why a file gives no configuration. -/
inductive LoadError where
  /-- There is no such file, or it cannot be read. -/
  | unreadable
  | notUtf8 (fault : Text.Utf8.Fault)
  /-- The text breaks the rules of TOML. -/
  | malformed
  | undecodable (cause : DecodeError)
  | invalid (cause : ServiceError)
deriving DecidableEq, Repr

/-- The configuration that a document with these entries stands for, if it is a valid one. -/
def ofDocument (entries : Toml.Entries) : Except LoadError Config := do
  let config ← (ofEntries entries).mapError .undecodable
  config.validate.mapError .invalid
  return config

/-- The configuration in a file with the given content, if there is one. -/
def load (content : Option (List UInt8)) : Except LoadError Config := do
  let some bytes := content | throw .unreadable
  let text ← (Text.Utf8.decode bytes).mapError .notUtf8
  let some entries := Toml.parse? text | throw .malformed
  ofDocument entries

theorem ofDocument_eq_ok_iff {entries : Toml.Entries} {config : Config} :
    ofDocument entries = .ok config ↔
      ofEntries entries = .ok config ∧ config.validate = .ok () := by
  have hdocument : ofDocument entries = ((ofEntries entries).mapError .undecodable).bind
      fun parsed => (parsed.validate.mapError .invalid).bind fun _ => .ok parsed := rfl
  rw [hdocument]
  cases hread : ofEntries entries with
  | error cause =>
    constructor
    · intro hok
      cases hok
    · rintro ⟨hok, _⟩
      cases hok
  | ok parsed =>
    change (parsed.validate.mapError LoadError.invalid).bind (fun _ => .ok parsed) =
      .ok config ↔ _
    rw [Except.ok.injEq]
    cases hvalid : parsed.validate with
    | error cause =>
      constructor
      · intro hok
        cases hok
      · rintro ⟨rfl, hvalid'⟩
        rw [hvalid] at hvalid'
        cases hvalid'
    | ok _ =>
      constructor
      · intro hok
        cases hok
        exact ⟨rfl, hvalid⟩
      · rintro ⟨rfl, _⟩
        rfl

theorem load_of_decode {bytes : List UInt8} {text : List Char}
    (hdecode : Text.Utf8.decode bytes = .ok text) :
    load (some bytes) = (Toml.parse? text).elim (.error .malformed) ofDocument := by
  have hpure : (Except.ok text).mapError LoadError.notUtf8 = pure text := rfl
  rw [load, hdecode, hpure, pure_bind]
  cases Toml.parse? text with
  | none | some _ => rfl

/-- A configuration that is loaded comes from a document. -/
theorem exists_document_of_load {content : Option (List UInt8)} {config : Config}
    (hload : load content = .ok config) : ∃ entries, ofDocument entries = .ok config := by
  cases content with
  | none => cases hload
  | some bytes =>
    cases hdecode : Text.Utf8.decode bytes with
    | error fault =>
      rw [load, hdecode] at hload
      cases hload
    | ok text =>
      rw [load_of_decode hdecode] at hload
      cases hparse : Toml.parse? text with
      | none =>
        rw [hparse] at hload
        cases hload
      | some entries =>
        rw [hparse] at hload
        exact ⟨entries, hload⟩

end Regulatory.Config
