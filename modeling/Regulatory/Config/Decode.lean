import Regulatory.Config.Basic
import Regulatory.Text.Quoted
import Regulatory.Toml.Value

/-!
Making a configuration of the values of a TOML document. The entries of a table are decoded in
order, and the first that does not fit ends it; keys that mean nothing are passed over. A section
may also be written as an array of its values.
-/

namespace Regulatory

/-- Why values do not make a configuration. -/
inductive DecodeError where
  | missingField (name : String)
  /-- A value is of the wrong kind: what was found, and what should have been there. -/
  | invalidType (found expected : String)
  /-- An array that stands for a section lacks a value. -/
  | tooFewItems
deriving DecidableEq, Repr

/-- The wording of an error. It is not fixed for an array that is too short. -/
def DecodeError.message? : DecodeError → Option String
  | missingField name => some ("missing field `" ++ name ++ "`")
  | invalidType found expected => some ("invalid type: " ++ found ++ ", expected " ++ expected)
  | tooFewItems => none

namespace Toml

/-- What a value is called in a message. A date reads like a table with one unknown key. -/
def Value.description : Value → String
  | string s => "string " ++ Text.quote s
  | integer n => "integer `" ++ toString n ++ "`"
  | float x => "floating point `" ++ x.text ++ "`"
  | boolean b => "boolean `" ++ toString b ++ "`"
  | array _ => "sequence"
  | table _ | dateTime _ => "map"

abbrev Decoder (α : Type) := Value → Except DecodeError α

def mismatch {α : Type} (v : Value) (expected : String) : Except DecodeError α :=
  .error (.invalidType v.description expected)

def decodeString : Decoder String
  | .string s => .ok s
  | v => mismatch v "a string"

def decodeBool : Decoder Bool
  | .boolean b => .ok b
  | v => mismatch v "a boolean"

def decodeStrings : Decoder (List String)
  | .array items => items.mapM decodeString
  | v => mismatch v "a sequence"

/-- Decodes a section, which is written as a table or as an array. -/
def decodeSection {α : Type} (ofTable : Entries → Except DecodeError α)
    (ofArray : List Value → Except DecodeError α) (expected : String) : Decoder α
  | .table entries => ofTable entries
  | .dateTime _ => ofTable []
  | .array items => ofArray items
  | v => mismatch v expected

/-- A value that has to be there once its table has been read. -/
def required {α : Type} (name : String) : Option α → Except DecodeError α
  | some a => .ok a
  | none => .error (.missingField name)

/-- Decodes the first item of an array if there is one. -/
def decodeFirst {α : Type} (decode : Decoder α) (fallback : α) :
    List Value → Except DecodeError α
  | [] => .ok fallback
  | v :: _ => decode v

end Toml

open Toml

namespace RegulatorySection

/-- The values found so far in a table. -/
structure Found where
  defaultCode : Option String := none
  revertOnLoss : Option Bool := none

def Found.add (f : Found) (entry : String × Value) : Except DecodeError Found :=
  if entry.1 = "default_country_code" then do
    return { f with defaultCode := some (← decodeString entry.2) }
  else if entry.1 = "revert_on_loss" then do
    return { f with revertOnLoss := some (← decodeBool entry.2) }
  else return f

def ofTable (entries : Entries) : Except DecodeError RegulatorySection := do
  let found ← entries.foldlM Found.add {}
  let defaultCode ← required "default_country_code" found.defaultCode
  return { defaultCode, revertOnLoss := found.revertOnLoss.getD true }

def ofArray : List Value → Except DecodeError RegulatorySection
  | [] => .error .tooFewItems
  | v :: rest => do
    let defaultCode ← decodeString v
    return { defaultCode, revertOnLoss := ← decodeFirst decodeBool true rest }

def decode : Decoder RegulatorySection :=
  decodeSection ofTable ofArray "struct RegulatoryConfig"

end RegulatorySection

namespace LoggingSection

def add (s : LoggingSection) (entry : String × Value) : Except DecodeError LoggingSection :=
  if entry.1 = "json" then do return { s with json := ← decodeBool entry.2 } else return s

def ofTable (entries : Entries) : Except DecodeError LoggingSection :=
  entries.foldlM add {}

def ofArray (items : List Value) : Except DecodeError LoggingSection := do
  return { json := ← decodeFirst decodeBool false items }

def decode : Decoder LoggingSection :=
  decodeSection ofTable ofArray "struct LoggingConfig"

end LoggingSection

namespace Config

/-- The values found so far in a document. -/
structure Found where
  regulatory : Option RegulatorySection := none
  logging : Option LoggingSection := none
  interfaces : Option (List String) := none

def Found.add (f : Found) (entry : String × Value) : Except DecodeError Found :=
  if entry.1 = "regulatory" then do
    return { f with regulatory := some (← RegulatorySection.decode entry.2) }
  else if entry.1 = "logging" then do
    return { f with logging := some (← LoggingSection.decode entry.2) }
  else if entry.1 = "interfaces" then do
    return { f with interfaces := some (← decodeStrings entry.2) }
  else return f

/-- The configuration that a document gives. Only the regulatory section has to be there. -/
def ofEntries (entries : Entries) : Except DecodeError Config := do
  let found ← entries.foldlM Found.add {}
  let regulatory ← required "regulatory" found.regulatory
  return {
    regulatory
    logging := found.logging.getD {}
    interfaces := found.interfaces.getD ["wlan0"] }

end Config

end Regulatory
