import Regulatory.Toml.Scalar
import Regulatory.Toml.Table

/-!
The statements of a TOML document: headers of tables, and keys with values.
-/

namespace Regulatory.Toml

/-- Reads the items of an array from behind the opening bracket. A comma may follow the last. -/
def items? (value? : Reader Value) (fuel : Nat) (s : List Char) :
    Option (List Value × List Char) :=
  match fuel with
  | 0 => none
  | fuel + 1 =>
    match skipLayout false s with
    | ']' :: rest => some ([], rest)
    | start => do
      let (v, rest) ← value? start
      match skipLayout false rest with
      | ']' :: rest => some ([v], rest)
      | ',' :: rest =>
        let (more, rest) ← items? value? fuel rest
        some (v :: more, rest)
      | _ => none

/-- Reads the pairs of an inline table, of which there is at least one, from before the first. -/
def pairs? (value? : Reader Value) (fuel : Nat) (nodes : Nodes) (s : List Char) :
    Option (Nodes × List Char) :=
  match fuel with
  | 0 => none
  | fuel + 1 => do
    let (path, rest) ← key? s
    let (v, rest) ← value? (skipBlanks (← expect '=' rest))
    let nodes ← nodes.assign path v
    match skipBlanks rest with
    | '\x7d' :: rest => some (nodes, rest)
    | ',' :: rest => pairs? value? fuel nodes rest
    | _ => none

/-- Reads an inline table from behind the opening brace. It stands on one line. -/
def inlineTable? (value? : Reader Value) (s : List Char) : Option (Value × List Char) :=
  match skipBlanks s with
  | '\x7d' :: rest => some (.table [], rest)
  | _ => (pairs? value? s.length [] s).map fun x => (.table (entriesOf x.1), x.2)

/-- Reads a value in which arrays and inline tables nest no deeper than `depth`. -/
def value? (depth : Nat) (s : List Char) : Option (Value × List Char) :=
  match depth, s with
  | depth + 1, '[' :: rest =>
    (items? (value? depth) rest.length rest).map fun x => (.array x.1, x.2)
  | depth + 1, '\x7b' :: rest => inlineTable? (value? depth) rest
  | _, s => scalarValue? s

inductive Statement where
  /-- Begins the table of a path. -/
  | table (path : List String)
  /-- Begins another table in the array of a path. -/
  | item (path : List String)
  /-- Gives a key its value. -/
  | assign (path : List String) (v : Value)

/-- Reads one statement and returns what follows it on its line. -/
def statement? (s : List Char) : Option (Statement × List Char) :=
  match s with
  | '[' :: '[' :: rest => do
    let (path, rest) ← key? rest
    some (.item path, ← expect ']' (← expect ']' rest))
  | '[' :: rest => do
    let (path, rest) ← key? rest
    some (.table path, ← expect ']' rest)
  | _ => do
    let (path, rest) ← key? s
    let (v, rest) ← value? depthLimit (skipBlanks (← expect '=' rest))
    some (.assign path v, rest)

/-- Reads all statements of a document, each on a line of its own. -/
def statements? (fuel : Nat) (s : List Char) : Option (List Statement) :=
  match fuel with
  | 0 => none
  | fuel + 1 =>
    match skipBlanks s with
    | [] => some []
    | '\n' :: rest => statements? fuel rest
    | '#' :: rest => do statements? fuel (← endOfLine? ('#' :: rest))
    | start => do
      let (first, rest) ← statement? start
      let more ← statements? fuel (← endOfLine? rest)
      some (first :: more)

end Regulatory.Toml
