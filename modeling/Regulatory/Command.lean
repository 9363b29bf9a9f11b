import Regulatory.Request
import Regulatory.Text.WhiteSpace

/-!
The commands of the daemon's standard input, one a line.
-/

namespace Regulatory

inductive Command where
  | ready (value : Bool)
  /-- Gives a code. Without one it is a withdrawal. -/
  | country (raw : String)
  | dump
  | quit
deriving DecidableEq, Repr

namespace Command

def unrecognised (line : String) : String :=
  "unrecognised command: " ++ Text.quote line

/-- Reads a command. The words have to be spelled exactly, with any white space around them. -/
def parse (line : String) : Except String Command :=
  match (Text.words line.toList).map String.ofList with
  | ["ready", "on"] => .ok (ready true)
  | ["ready", "off"] => .ok (ready false)
  | ["country"] => .ok (country "")
  | ["country", code] => .ok (country code)
  | ["dump"] => .ok dump
  | ["quit"] => .ok quit
  | _ => .error (unrecognised line)

theorem parse_of_isBlank {line : String} (h : Text.isBlank line.toList = true) :
    parse line = .error (unrecognised line) := by
  simp [parse, Text.words_of_isBlank h]

end Command

end Regulatory
