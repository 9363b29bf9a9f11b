import Regulatory.Log
import Regulatory.Registry

/-!
What lies around a controller. Interfaces of a type `ι` and listeners of a type `κ` are known by how
they answer a call; `σ` is whatever state of their own they share. All that a call does to the
outside is written down as a trace of `Event`s.
-/

namespace Regulatory

/-- Something that an interface does to its surroundings while it applies a code. -/
inductive Action (ι : Type) where
  | add (i : ι)
  /-- Takes every interface of a name off the registry. -/
  | remove (name : String)
  | log (entry : Log.Entry)

inductive Outcome where
  | applied
  | failed (cause : InterfaceError)
  /-- The call does not return: it unwinds through its caller. -/
  | panicked
deriving DecidableEq, Repr

/-- What an interface does with a code, in order, and how its call ends. -/
structure Reaction (ι : Type) where
  actions : List (Action ι)
  outcome : Outcome

structure Environment (ι κ σ : Type) where
  apply : ι → CountryCode → σ → Reaction ι × σ
  /-- Tells a listener of a new code. The flag is `false` when the listener panics. -/
  notify : κ → CountryCode → σ → Bool × σ
  /-- The readings of the clock, in milliseconds. -/
  clock : Nat → Nat

/-- One step of what the outside sees of the service. -/
inductive Event (ι κ : Type) where
  | queried
  /-- The registry was read, and held these entries. -/
  | listed (entries : List ι)
  | offered (i : ι) (code : CountryCode)
  | notified (l : κ) (code : CountryCode)
  | added (i : ι)
  /-- All interfaces of a name were taken off the registry, so many of them. -/
  | removed (name : String) (count : Nat)
  | logged (entry : Log.Entry)

abbrev Trace (ι κ : Type) := List (Event ι κ)

namespace Trace

variable {ι κ : Type}

/-- The codes offered to interfaces, in order. -/
def offers (t : Trace ι κ) : List (ι × CountryCode) :=
  t.filterMap fun | .offered i code => some (i, code) | _ => none

/-- The codes that listeners were told of, in order. -/
def notices (t : Trace ι κ) : List (κ × CountryCode) :=
  t.filterMap fun | .notified l code => some (l, code) | _ => none

def log (t : Trace ι κ) : List Log.Entry :=
  t.filterMap fun | .logged entry => some entry | _ => none

/-- How often the network source was asked. -/
def queries (t : Trace ι κ) : Nat :=
  t.countP fun | .queried => true | _ => false

end Trace

namespace Registry

variable {ι κ : Type} [Named ι]

def additionTrace (i : ι) : Trace ι κ :=
  [.logged (.interfaceAdded (Named.name i)), .added i]

/-- The events of a removal, which is logged only if it takes something away. -/
def removalTrace (r : Registry ι) (name : String) : Trace ι κ :=
  .removed name (r.count name) ::
    if r.count name = 0 then [] else [.logged (.interfaceRemoved name)]

/-- Carries out the actions of an interface, in order. -/
def perform (r : Registry ι) : List (Action ι) → Registry ι × Trace ι κ
  | [] => (r, [])
  | .add i :: rest =>
    let later := (r.add i).perform rest
    (later.1, additionTrace i ++ later.2)
  | .remove name :: rest =>
    let later := (r.remove name).perform rest
    (later.1, r.removalTrace name ++ later.2)
  | .log entry :: rest =>
    let later := r.perform rest
    (later.1, .logged entry :: later.2)

end Registry

end Regulatory
