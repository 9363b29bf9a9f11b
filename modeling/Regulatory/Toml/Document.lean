import Regulatory.Toml.Statement

/-!
Reading a whole TOML document. Its statements are taken in order; the table of the last header is
kept apart and joins the document when the next header or the end is reached.
-/

namespace Regulatory.Toml

/-- A document of which some statements have been taken. -/
structure Draft where
  /-- All tables but the present one. -/
  root : Nodes := []
  /-- Where the present table belongs. The document's own entries have an empty path. -/
  path : List String := []
  /-- Whether the present table is an item of an array of tables. -/
  isItem : Bool := false
  entries : Nodes := []

namespace Draft

/-- Changes the table that holds the last key of a header's path. -/
def within {α : Type} (root : Nodes) (path : List String)
    (change : String → Nodes → Option (α × Nodes)) : Option (α × Nodes) := do
  let key ← path.getLast?
  root.update .implied (fun _ nodes => change key nodes) path.dropLast .declared

/-- Lets the present table join the document. -/
def finish (d : Draft) : Option Nodes :=
  if d.path.isEmpty then some d.entries
  else do
    let (_, root) ← within d.root d.path fun key nodes =>
      match d.isItem, nodes.get? key with
      | true, some (.tables items) => some ((), nodes.put key (.tables (items ++ [d.entries])))
      | true, none => some ((), nodes.put key (.tables [d.entries]))
      | false, none => some ((), nodes.put key (.table .declared d.entries))
      | _, _ => none
    some root

/-- Begins a table. If tables inside it have come before, it takes them over; otherwise it must be
new. -/
def beginTable (d : Draft) (path : List String) : Option Draft := do
  let (entries, root) ← within (← d.finish) path fun key nodes =>
    match nodes.get? key with
    | none => some ([], nodes)
    | some (.table .implied inner) => some (inner, nodes.erase key)
    | some _ => none
  some { root, path, entries }

/-- Begins another table of an array of tables. -/
def beginItem (d : Draft) (path : List String) : Option Draft := do
  let (_, root) ← within (← d.finish) path fun key nodes =>
    match nodes.get? key with
    | none => some ((), nodes.put key (.tables []))
    | some (.tables _) => some ((), nodes)
    | some _ => none
  some { root, path, isItem := true }

def add (d : Draft) : Statement → Option Draft
  | .table path => d.beginTable path
  | .item path => d.beginItem path
  | .assign path v => do some { d with entries := ← d.entries.assign path v }

end Draft

/-- The entries of a document, or none if it breaks a rule of the format. A byte order mark in front
is skipped. -/
def parse? (text : List Char) : Option Entries := do
  let s := unifyLineEnds (if text.head? = some '\uFEFF' then text.drop 1 else text)
  let statements ← statements? (s.length + 1) s
  let draft ← statements.foldlM Draft.add {}
  some (entriesOf (← draft.finish))

end Regulatory.Toml
