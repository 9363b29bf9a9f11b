import Regulatory.Number.Binary64

/-!
What a TOML document says: a tree of values, in which a table keeps its keys in order.
-/

namespace Regulatory.Toml

inductive Value where
  | string (s : String)
  | integer (n : Int)
  | float (x : Number.Binary64)
  | boolean (b : Bool)
  /-- A date, a time of day, or both, as it was written. -/
  | dateTime (written : String)
  | array (items : List Value)
  | table (entries : List (String × Value))

/-- The keys and values of a table, in order. -/
abbrev Entries := List (String × Value)

/-- Reads something off the front of a text and returns it with the rest. -/
abbrev Reader (α : Type) := List Char → Option (α × List Char)

end Regulatory.Toml
