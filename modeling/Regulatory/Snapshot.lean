import Regulatory.Controller.Basic

/-!
Snapshots: a copy of a controller's state for diagnosis, written as lines of text or as one line of
JSON.
-/

namespace Regulatory

structure Snapshot where
  driver : Option CountryCode
  telephony : Option CountryCode
  defaultCode : CountryCode
  active : CountryCode
  ready : Bool
  revertOnLoss : Bool
  telephonyUpdated : Option Nat
  driverUpdated : Option Nat
  readyChanged : Option Nat
  lastPush : Option PushReport
deriving DecidableEq

def Controller.snapshot {κ : Type} (c : Controller) (s : Controller.State κ) : Snapshot where
  driver := s.driver
  telephony := s.telephony
  defaultCode := c.defaultCode
  active := c.active s
  ready := s.ready
  revertOnLoss := c.revertOnLoss
  telephonyUpdated := s.telephonyUpdated
  driverUpdated := s.driverUpdated
  readyChanged := s.readyChanged
  lastPush := s.lastPush

namespace Snapshot

def codeText (code : CountryCode) : List Char :=
  code.text.toList

/-- A value that may be absent, which the word `none` then stands for. -/
def orNone {α : Type} (write : α → List Char) : Option α → List Char
  | none => "none".toList
  | some a => write a

/-- One line of the text form. -/
def line (label : String) (value : List Char) : List Char :=
  label.toList ++ ": ".toList ++ value ++ ['\n']

def pushText (p : PushReport) : List Char :=
  codeText p.code ++ " to ".toList ++ Nat.toDigits 10 p.attempted ++
    " interface(s), failed: [".toList ++ (", ".intercalate p.failed).toList ++ [']']

/-- The text form, a line for each field. Nothing is escaped, and the time of the last push is left
out. -/
def text (s : Snapshot) : List Char :=
  line "driver_country_code" (orNone codeText s.driver) ++
  line "telephony_country_code" (orNone codeText s.telephony) ++
  line "default_country_code" (codeText s.defaultCode) ++
  line "active_country_code" (codeText s.active) ++
  line "telephony_updated_ms" (orNone (Nat.toDigits 10) s.telephonyUpdated) ++
  line "driver_updated_ms" (orNone (Nat.toDigits 10) s.driverUpdated) ++
  line "ready_changed_ms" (orNone (Nat.toDigits 10) s.readyChanged) ++
  line "ready" (toString s.ready).toList ++
  line "revert_on_loss" (toString s.revertOnLoss).toList ++
  line "last_push" (orNone pushText s.lastPush)

def codeJson (code : CountryCode) : List Char :=
  Json.string code.text

def pushJson (p : PushReport) : List Char :=
  Json.object
    [("code", codeJson p.code), ("attempted", Json.nat p.attempted),
      ("failed", Json.array Json.string p.failed), ("timestamp_ms", Json.nat p.timestamp)]

def json (s : Snapshot) : List Char :=
  Json.object
    [("driver_country_code", Json.option codeJson s.driver),
      ("telephony_country_code", Json.option codeJson s.telephony),
      ("default_country_code", codeJson s.defaultCode),
      ("active_country_code", codeJson s.active),
      ("ready", Json.bool s.ready),
      ("revert_on_loss", Json.bool s.revertOnLoss),
      ("telephony_updated_ms", Json.option Json.nat s.telephonyUpdated),
      ("driver_updated_ms", Json.option Json.nat s.driverUpdated),
      ("ready_changed_ms", Json.option Json.nat s.readyChanged),
      ("last_push", Json.option pushJson s.lastPush)]

/-- The snapshot with every time that is set put to zero. -/
def timeless (s : Snapshot) : Snapshot :=
  { s with
    telephonyUpdated := s.telephonyUpdated.map fun _ => 0
    driverUpdated := s.driverUpdated.map fun _ => 0
    readyChanged := s.readyChanged.map fun _ => 0
    lastPush := s.lastPush.map fun p => { p with timestamp := 0 } }

end Snapshot

end Regulatory
