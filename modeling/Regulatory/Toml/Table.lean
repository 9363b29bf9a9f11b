import Regulatory.Toml.Value

/-!
Tables under construction. A table can still grow or not, depending on how it came about; what a
value was assigned to is closed at once.
-/

namespace Regulatory.Toml

/-- How a table came about. -/
inductive Origin where
  /-- By a header of its own, or as the whole document or an inline table. -/
  | declared
  /-- By the header of a table inside it. -/
  | implied
  | dotted
deriving DecidableEq, Repr

/-- What a key stands for in a table under construction. -/
inductive Node where
  | value (v : Value)
  | table (origin : Origin) (entries : List (String × Node))
  /-- An array of tables, each with a header of its own. -/
  | tables (items : List (List (String × Node)))

abbrev Nodes := List (String × Node)

namespace Nodes

def get? (nodes : Nodes) (key : String) : Option Node :=
  nodes.lookup key

/-- Puts a node in the place of the one with the same key, or last. -/
def put (nodes : Nodes) (key : String) (n : Node) : Nodes :=
  if nodes.any (·.1 == key) then nodes.map fun entry => if entry.1 == key then (key, n) else entry
  else nodes ++ [(key, n)]

def erase (nodes : Nodes) (key : String) : Nodes :=
  nodes.filter (·.1 != key)

/-- Changes the table that a path leads to, and makes the tables that are missing on the way, of the
given origin. Through an array of tables the path goes on in the last one. A dotted key may not
enter a table that has a header of its own. -/
def update {α : Type} (origin : Origin) (change : Origin → Nodes → Option (α × Nodes)) :
    List String → Origin → Nodes → Option (α × Nodes)
  | [], here, nodes => change here nodes
  | key :: path, _, nodes =>
    match nodes.get? key with
    | none => do
      let (a, inner) ← update origin change path origin []
      some (a, nodes.put key (.table origin inner))
    | some (.value _) => none
    | some (.table there inner) =>
      if origin = .dotted && there = .declared then none
      else do
        let (a, inner) ← update origin change path there inner
        some (a, nodes.put key (.table there inner))
    | some (.tables items) => do
      let last ← items.getLast?
      let (a, inner) ← update origin change path .declared last
      some (a, nodes.put key (.tables (items.dropLast ++ [inner])))

/-- Assigns a value to a dotted key. The key must be new, and its table must be the one at hand or
have come about by dotted keys. -/
def assign (nodes : Nodes) (path : List String) (v : Value) : Option Nodes := do
  let key ← path.getLast?
  let parents := path.dropLast
  let change (here : Origin) (nodes : Nodes) : Option (Unit × Nodes) :=
    if (here == .dotted) == parents.isEmpty || (nodes.get? key).isSome then none
    else some ((), nodes.put key (.value v))
  let (_, nodes) ← update .dotted change parents .declared nodes
  some nodes

end Nodes

mutual

def Node.toValue : Node → Value
  | .value v => v
  | .table _ nodes => .table (entriesOf nodes)
  | .tables items => .array (tablesOf items)

def entriesOf : List (String × Node) → Entries
  | [] => []
  | (key, n) :: rest => (key, n.toValue) :: entriesOf rest

def tablesOf : List (List (String × Node)) → List Value
  | [] => []
  | nodes :: rest => .table (entriesOf nodes) :: tablesOf rest

end

end Regulatory.Toml
