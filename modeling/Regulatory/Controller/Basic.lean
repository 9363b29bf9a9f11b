import Regulatory.Environment

/-!
The state of a controller, and the two rules by which codes win over one another.
-/

namespace Regulatory

/-- The telephony code to keep after an update. A withdrawal clears it if the controller reverts on
loss, and is ignored otherwise. -/
def resolveTelephony (previous incoming : Option CountryCode) (revertOnLoss : Bool) :
    Option CountryCode :=
  match incoming with
  | some code => some code
  | none => if revertOnLoss then none else previous

/-- The code that should be in effect: telephony's if there is one, else the default. -/
def activeCode (defaultCode : CountryCode) (telephony : Option CountryCode) : CountryCode :=
  telephony.getD defaultCode

/-- The outcome of one push of a code to the interfaces. -/
structure PushReport where
  code : CountryCode
  /-- How many interfaces the code was offered to. -/
  attempted : Nat
  /-- The names of those that failed, in order of the calls. -/
  failed : List String
  /-- When the push was done, in milliseconds. -/
  timestamp : Nat
deriving DecidableEq

/-- The fixed inputs of a controller. -/
structure Controller where
  defaultCode : CountryCode
  /-- Whether a withdrawal by telephony brings the default back. -/
  revertOnLoss : Bool
deriving DecidableEq

namespace Controller

/-- The controller with a given raw default, which may not be blank. -/
def ofDefault (raw : String) (revertOnLoss : Bool) : Except ServiceError Controller :=
  match CountryCode.parse raw with
  | some defaultCode => .ok ⟨defaultCode, revertOnLoss⟩
  | none => .error (.invalidConfig "default country code must not be empty")

/-- What a controller remembers. -/
structure State (κ : Type) where
  telephony : Option CountryCode := none
  /-- The code that the interfaces were last given. -/
  driver : Option CountryCode := none
  ready : Bool := false
  telephonyUpdated : Option Nat := none
  driverUpdated : Option Nat := none
  readyChanged : Option Nat := none
  lastPush : Option PushReport := none
  /-- The listeners, in order of registration. -/
  listeners : List κ := []

/-- A controller's state together with all it depends on. -/
structure World (ι κ σ : Type) where
  state : State κ
  registry : Registry ι
  /-- What the network source would answer now, if one is attached. -/
  network : Option (Option String)
  /-- The state that interfaces and listeners share. -/
  outside : σ
  readings : Nat := 0

/-- The result of a call: what it returned, if it did not panic, the world after it, and what the
outside saw of it. A call that panicked leaves the world as it was at that point. -/
structure Call (ι κ σ α : Type) where
  result : Option α
  world : World ι κ σ
  trace : Trace ι κ

variable {ι κ σ α β : Type}

namespace Call

/-- The call seen with what happened before it. -/
def after (t : Trace ι κ) (c : Call ι κ σ α) : Call ι κ σ α :=
  { c with trace := t ++ c.trace }

def map (f : α → β) (c : Call ι κ σ α) : Call ι κ σ β :=
  ⟨c.result.map f, c.world, c.trace⟩

end Call

/-- The code that should be in effect, pushed or not. -/
def active (c : Controller) (s : State κ) : CountryCode :=
  activeCode c.defaultCode s.telephony

end Controller

end Regulatory
