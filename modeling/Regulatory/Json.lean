/-!
Writing compact JSON: no space between tokens, the members of an object in the order given. Each
function gives the text of one kind of value.
-/

namespace Regulatory.Json

/-- One character inside a JSON string. Only the quote, the backslash and the controls below U+0020
are escaped. -/
def escape (c : Char) : List Char :=
  match c with
  | '"' => ['\\', '"']
  | '\\' => ['\\', '\\']
  | '\x08' => ['\\', 'b']
  | '\x0c' => ['\\', 'f']
  | '\n' => ['\\', 'n']
  | '\r' => ['\\', 'r']
  | '\t' => ['\\', 't']
  | c =>
    if c.toNat < 0x20 then
      ['\\', 'u', '0', '0', Nat.digitChar (c.toNat / 16), Nat.digitChar (c.toNat % 16)]
    else [c]

def string (s : String) : List Char :=
  '"' :: s.toList.flatMap escape ++ ['"']

def bool (b : Bool) : List Char :=
  (if b then "true" else "false").toList

def nat (n : Nat) : List Char :=
  Nat.toDigits 10 n

def null : List Char :=
  "null".toList

/-- An absent value is written `null`. -/
def option {α : Type} (write : α → List Char) : Option α → List Char
  | none => null
  | some a => write a

/-- Texts set apart by commas. -/
def commaSeparated : List (List Char) → List Char
  | [] => []
  | [x] => x
  | x :: y :: rest => x ++ ',' :: commaSeparated (y :: rest)

def array {α : Type} (write : α → List Char) (l : List α) : List Char :=
  '[' :: commaSeparated (l.map write) ++ [']']

def member (key : String) (value : List Char) : List Char :=
  string key ++ ':' :: value

def object (members : List (String × List Char)) : List Char :=
  '\x7b' :: commaSeparated (members.map fun m => member m.1 m.2) ++ ['\x7d']

end Regulatory.Json
