/-!
The failures of the service and of single interfaces, with their wording.
-/

namespace Regulatory

/-- Why the service cannot start, or cannot go on. -/
inductive ServiceError where
  /-- A configuration was turned down. -/
  | invalidConfig (reason : String)
  /-- The event loop no longer takes events. -/
  | channelClosed
deriving DecidableEq, Repr

def ServiceError.message : ServiceError → String
  | invalidConfig reason => "Invalid configuration: " ++ reason
  | channelClosed => "Event channel closed"

/-- Why an interface did not take a code. -/
inductive InterfaceError where
  /-- The driver refused the code. -/
  | rejected (interface code : String)
  /-- The interface could not be reached. -/
  | unavailable (reason : String)
deriving DecidableEq, Repr

def InterfaceError.message : InterfaceError → String
  | rejected interface code => "Interface " ++ interface ++ " rejected country code " ++ code
  | unavailable reason => "Interface unavailable: " ++ reason

/-- Results that give the same values differ in their errors only. -/
theorem toOption_congr {ε α : Type} {x y : Except ε α} (h : ∀ a, x = .ok a ↔ y = .ok a) :
    x.toOption = y.toOption := by
  cases y with
  | ok a => rw [(h a).2 rfl]
  | error _ =>
    cases x with
    | ok a => cases (h a).1 rfl
    | error _ => rfl

end Regulatory
