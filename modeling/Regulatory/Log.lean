import Regulatory.CountryCode
import Regulatory.Error
import Regulatory.Json
import Regulatory.Request

/-!
The log. Every line that the service can write is an `Entry`; its level, target, message and fields
follow from it, and so do its two written forms.
-/

namespace Regulatory.Log

inductive Level where
  | trace
  | debug
  | info
  | warn
  | error
deriving DecidableEq, Repr

namespace Level

/-- Severity, rising from `trace` to `error`. -/
def severity : Level → Nat
  | trace => 0
  | debug => 1
  | info => 2
  | warn => 3
  | error => 4

def name : Level → String
  | trace => "TRACE"
  | debug => "DEBUG"
  | info => "INFO"
  | warn => "WARN"
  | error => "ERROR"

/-- Reads a level in letters of either case. -/
def ofName? (s : String) : Option Level :=
  [trace, debug, info, warn, error].find? fun l => l.name.toList == s.toList.map Char.toUpper

end Level

/-- The value of a field. A quoted text and a plain one differ in the line form only. -/
inductive Value where
  | bool (b : Bool)
  | nat (n : Nat)
  | quoted (s : String)
  | plain (s : String)
deriving DecidableEq, Repr

/-- The form of a value in a line of text. -/
def Value.text : Value → String
  | bool b => toString b
  | nat n => toString n
  | quoted s => Text.quote s
  | plain s => s

def Value.json : Value → List Char
  | bool b => Json.bool b
  | nat n => Json.nat n
  | quoted s => Json.string s
  | plain s => Json.string s

inductive Entry where
  | controllerCreated (defaultCode : CountryCode) (revertOnLoss : Bool)
  | readinessUpdated (ready : Bool)
  | networkAdopted (code : CountryCode)
  /-- Telephony's raw text, the code active after it, and whether it was accepted. -/
  | telephonyUpdated (raw : String) (active : CountryCode) (accepted : Bool)
  | pushDeferred (code : CountryCode)
  | codeApplied (interface : String) (code : CountryCode)
  | applyFailed (interface : String) (code : CountryCode) (cause : InterfaceError)
  /-- A push went through: to how many interfaces, and how many of them failed. -/
  | codePushed (code : CountryCode) (interfaces failed : Nat)
  | interfaceAdded (name : String)
  | interfaceRemoved (name : String)
  | loopStarted
  | loopStopped
  | requestReceived (request : Request)
  | nodeStarted (interfaces : List String)
  | inputIgnored (reason : String)
  /-- A logging interface was given a code. -/
  | applyingCode (interface : String) (code : CountryCode)
deriving DecidableEq

namespace Entry

def level : Entry → Level
  | pushDeferred _ | codeApplied _ _ | interfaceAdded _ | interfaceRemoved _
  | requestReceived _ => .debug
  | applyFailed _ _ _ | inputIgnored _ => .warn
  | _ => .info

/-- The part of the service that an entry comes from. -/
def target : Entry → String
  | interfaceAdded _ | interfaceRemoved _ => "regdomain_radio::interface"
  | loopStarted | loopStopped | requestReceived _ => "regdomain_radio::event_loop"
  | nodeStarted _ | inputIgnored _ | applyingCode _ _ => "regdomain_node"
  | _ => "regdomain_radio::controller"

def message : Entry → String
  | controllerCreated _ _ => "Country code controller created"
  | readinessUpdated _ => "Readiness for country code change updated"
  | networkAdopted _ => "Adopted network country reported by telephony"
  | telephonyUpdated _ _ _ => "Telephony country code updated"
  | pushDeferred _ => "Not ready, deferring push"
  | codeApplied _ _ => "Country code applied"
  | applyFailed _ _ _ => "Failed to apply country code"
  | codePushed _ _ _ => "Country code pushed to driver"
  | interfaceAdded _ => "Interface added to registry"
  | interfaceRemoved _ => "Interface removed from registry"
  | loopStarted => "Country code event loop started"
  | loopStopped => "Country code event loop stopped"
  | requestReceived _ => "Country code event received"
  | nodeStarted _ => "regdomain-node started"
  | inputIgnored _ => "Ignoring input"
  | applyingCode _ _ => "Applying country code"

/-- The fields, in the order of the line form. -/
def fields : Entry → List (String × Value)
  | controllerCreated defaultCode revertOnLoss =>
    [("default_country_code", .plain defaultCode.text), ("revert_on_loss", .bool revertOnLoss)]
  | readinessUpdated ready => [("ready", .bool ready)]
  | networkAdopted code => [("country_code", .plain code.text)]
  | telephonyUpdated raw active accepted =>
    [("raw", .quoted raw), ("country_code", .plain active.text), ("accepted", .bool accepted)]
  | pushDeferred code => [("country_code", .plain code.text)]
  | codeApplied interface code =>
    [("interface", .quoted interface), ("country_code", .plain code.text)]
  | applyFailed interface code cause =>
    [("interface", .quoted interface), ("country_code", .plain code.text),
      ("error", .plain cause.message)]
  | codePushed code interfaces failed =>
    [("country_code", .plain code.text), ("interfaces", .nat interfaces), ("failed", .nat failed)]
  | interfaceAdded name => [("interface", .quoted name)]
  | interfaceRemoved name => [("interface", .quoted name)]
  | loopStarted => []
  | loopStopped => []
  | requestReceived request => [("event", .plain request.logText)]
  | nodeStarted interfaces => [("interfaces", .plain (Text.quoteList interfaces))]
  | inputIgnored reason => [("error", .plain reason)]
  | applyingCode interface code =>
    [("interface", .plain interface), ("country_code", .plain code.text)]

/-- The line form: level, target, message, then the fields. -/
def text (e : Entry) : String :=
  e.level.name ++ " " ++ e.target ++ ": " ++ e.message ++
    String.join (e.fields.map fun f => " " ++ f.1 ++ "=" ++ f.2.text)

/-- The JSON form, with the members of both objects in alphabetical order. -/
def json (e : Entry) : String :=
  let members := e.fields.map (fun f => (f.1, f.2.json)) ++ [("message", Json.string e.message)]
  String.ofList <| Json.object
    [("fields", Json.object (members.mergeSort fun a b => a.1 ≤ b.1)),
      ("level", Json.string e.level.name), ("target", Json.string e.target)]

end Entry

/-- What is let through: entries of the given level and above, or nothing. -/
structure Filter where
  least : Option Level
deriving DecidableEq, Repr

namespace Filter

def off : Filter := ⟨none⟩

/-- Lets through what is at least informative. -/
def standard : Filter := ⟨some .info⟩

/-- The filter set by the name of a level. A name that is no level's, such as `off`, lets nothing
through. -/
def ofName (s : String) : Filter := ⟨Level.ofName? s⟩

def admits (f : Filter) (e : Entry) : Bool :=
  match f.least with
  | none => false
  | some l => l.severity ≤ e.level.severity

end Filter

end Regulatory.Log
