import Regulatory.Fleet

/-!
Scenarios for the registry alone: its interfaces are called without a controller, and lists read
from it are kept while it changes.
-/

namespace Regulatory.Scenario.Ledger

open Fleet

inductive Step where
  | add (setup : Setup)
  | remove (name : String)
  /-- Keeps the list of interfaces as it is now. -/
  | hold
  /-- Looks at the list kept last. -/
  | held
  /-- Calls every interface that is in the registry now. -/
  | apply (code : CountryCode)
deriving DecidableEq

inductive Result where
  | done
  | removed (count : Nat)
  /-- The names in the list kept last, if one was kept. -/
  | held (names : Option (List String))
  /-- For each interface called, the failure it reported, if any. -/
  | applied (failures : List (Option InterfaceError))
deriving DecidableEq

structure State where
  registry : Registry Member := ∅
  modes : Modes := []
  kept : Option (List Member) := none

/-- Calls interfaces one after another until one panics. -/
def applyAll (code : CountryCode) (modes : Modes) :
    List Member → Registry Member → Registry Member × List (Option InterfaceError)
  | [], registry => (registry, [])
  | m :: rest, registry =>
    let reaction := m.apply code modes
    let registry := (registry.perform (κ := Listener) reaction.actions).1
    let later := applyAll code modes rest registry
    match reaction.outcome with
    | .panicked => (registry, [])
    | .applied => (later.1, none :: later.2)
    | .failed cause => (later.1, some cause :: later.2)

def step (s : State) : Step → State × Result
  | .add setup =>
    ({ s with
        registry := s.registry.add ⟨some s.modes.length, setup⟩
        modes := s.modes ++ [(setup.name, setup.mode)] }, .done)
  | .remove name =>
    ({ s with registry := s.registry.remove name }, .removed (s.registry.count name))
  | .hold => ({ s with kept := some s.registry.entries }, .done)
  | .held => (s, .held (s.kept.map fun l => l.map Named.name))
  | .apply code =>
    let applied := applyAll code s.modes s.registry.entries s.registry
    ({ s with registry := applied.1 }, .applied applied.2)

/-- The result of each step, with the registry after it. -/
def play (s : State) : List Step → List (Result × Registry Member)
  | [] => []
  | x :: rest =>
    let next := step s x
    (next.2, next.1.registry) :: play next.1 rest

end Regulatory.Scenario.Ledger
