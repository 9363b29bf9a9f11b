import Regulatory.Text.Quoted

/-!
What the two sources of events, and anyone who wants a diagnosis, may ask of the event loop.
-/

namespace Regulatory

inductive Request where
  /-- The radio subsystem became ready for a change of code, or stopped being so. -/
  | ready (value : Bool)
  /-- Telephony supplied a code. A blank one is a withdrawal. -/
  | country (raw : String)
  /-- A snapshot is wanted. -/
  | dump
deriving DecidableEq, Repr

/-- The form in which a request is logged. -/
def Request.logText : Request → String
  | ready value => "ReadyForChange(" ++ toString value ++ ")"
  | country raw => "TelephonyCountry(" ++ Text.quote raw ++ ")"
  | dump => "Dump"

end Regulatory
