import Regulatory.Controller.Operation

/-!
A simulated fleet, for trying a controller out. Its interfaces refuse codes, fail, panic or change
the registry as they are set up to do, and the way they behave can be changed while they are in use.
-/

namespace Regulatory.Fleet

/-- How an interface takes the codes that it heeds. -/
inductive Mode where
  | ok
  | reject
  | unavailable
  | panic
deriving DecidableEq, Repr

/-- How a simulated interface is set up. -/
structure Setup where
  name : String
  mode : Mode := .ok
  /-- The canonical codes to which the mode applies. All others succeed. -/
  only : Option (List String) := none
  /-- The name of a plain interface that each call adds to the registry. -/
  adds : Option String := none
  /-- A name that each call takes off the registry, after the addition. -/
  removes : Option String := none
deriving DecidableEq, Repr

/-- A simulated interface. Its mode is kept by the fleet under its number; one without a number was
added by another interface and always succeeds. -/
structure Member where
  number : Option Nat
  setup : Setup
deriving DecidableEq, Repr

instance : Named Member where
  name m := m.setup.name

structure Listener where
  id : Nat
  panics : Bool
deriving DecidableEq, Repr

/-- The name and the present mode of every interface set up so far, by number. -/
abbrev Modes := List (String × Mode)

def Member.mode (m : Member) (modes : Modes) : Mode :=
  match m.number with
  | none => .ok
  | some n => (modes[n]?.map Prod.snd).getD .ok

def Mode.outcome (mode : Mode) (name : String) (code : CountryCode) : Outcome :=
  match mode with
  | ok => .applied
  | reject => .failed (.rejected name code.text)
  | unavailable => .failed (.unavailable name)
  | panic => .panicked

def Setup.heeds (s : Setup) (code : CountryCode) : Bool :=
  match s.only with
  | none => true
  | some codes => codes.contains code.text

def Setup.actions (s : Setup) : List (Action Member) :=
  (s.adds.map fun name => Action.add ⟨none, { name := name }⟩).toList ++
    (s.removes.map Action.remove).toList

/-- The answer of a simulated interface to a code. -/
def Member.apply (m : Member) (code : CountryCode) (modes : Modes) : Reaction Member where
  actions := m.setup.actions
  outcome :=
    if m.setup.heeds code then (m.mode modes).outcome m.setup.name code else .applied

def environment : Environment Member Listener Modes where
  apply m code modes := (m.apply code modes, modes)
  notify l _ modes := (!l.panics, modes)
  clock _ := 0

abbrev Operation := Controller.Operation Member Listener Modes

/-- The operations by which an interface is set up under the next number and put under
management. -/
def enroll (number : Nat) (setup : Setup) : List Operation :=
  [.adjust (· ++ [(setup.name, setup.mode)]), .add ⟨some number, setup⟩]

/-- Changes the mode of every interface of a name that was ever set up. -/
def setMode (name : String) (mode : Mode) (modes : Modes) : Modes :=
  modes.map fun entry => if entry.1 = name then (entry.1, mode) else entry

end Regulatory.Fleet
