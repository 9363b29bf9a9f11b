import Regulatory.Controller.Basic

/-!
The configuration of the service.
-/

namespace Regulatory

/-- What a controller is made from. -/
structure RegulatorySection where
  /-- The default code as it was written. -/
  defaultCode : String
  revertOnLoss : Bool := true
deriving DecidableEq, Repr

structure LoggingSection where
  /-- Whether log lines are written as JSON. -/
  json : Bool := false
deriving DecidableEq, Repr

structure Config where
  regulatory : RegulatorySection
  logging : LoggingSection := {}
  interfaces : List String := ["wlan0"]
deriving DecidableEq, Repr

namespace Config

/-- The configuration used when none is given. -/
def standard : Config where
  regulatory := { defaultCode := "US" }

/-- Turns down a configuration whose default code is blank. -/
def validate (c : Config) : Except ServiceError Unit :=
  if Text.isBlank c.regulatory.defaultCode.toList then
    .error (.invalidConfig "regulatory.default_country_code must not be empty")
  else .ok ()

def controller (c : Config) : Except ServiceError Controller :=
  Controller.ofDefault c.regulatory.defaultCode c.regulatory.revertOnLoss

theorem validate_eq_ok_iff (config : Config) :
    config.validate = .ok () ↔ Text.isBlank config.regulatory.defaultCode.toList = false := by
  cases hblank : Text.isBlank config.regulatory.defaultCode.toList with
  | true => simp [validate, hblank]
  | false => simp [validate, hblank]

theorem controller_eq_ok_iff (config : Config) (c : Controller) :
    config.controller = .ok c ↔
      CountryCode.parse config.regulatory.defaultCode = some c.defaultCode ∧
        c.revertOnLoss = config.regulatory.revertOnLoss := by
  obtain ⟨defaultCode, revertOnLoss⟩ := c
  cases hparse : CountryCode.parse config.regulatory.defaultCode with
  | none => simp [controller, Controller.ofDefault, hparse]
  | some code => simp [controller, Controller.ofDefault, hparse, eq_comm]

/-- The two tests for a blank default agree. -/
theorem exists_controller_iff (config : Config) :
    (∃ c, config.controller = .ok c) ↔ config.validate = .ok () := by
  rw [validate_eq_ok_iff, ← CountryCode.isNone_parse, Option.isNone_eq_false_iff,
    Option.isSome_iff_exists]
  simp only [controller_eq_ok_iff]
  constructor
  · rintro ⟨c, hcode, _⟩
    exact ⟨c.defaultCode, hcode⟩
  · rintro ⟨code, hcode⟩
    exact ⟨⟨code, config.regulatory.revertOnLoss⟩, hcode, rfl⟩

end Config

end Regulatory
