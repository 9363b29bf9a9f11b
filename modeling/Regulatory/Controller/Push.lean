import Regulatory.Controller.Basic

/-!
Pushing a code: it is offered to every interface that the registry holds at the start, and the
listeners are told if the driver's code changed by it.
-/

namespace Regulatory.Controller

variable {ι κ σ : Type} [Named ι]

/-- What offering a code to a list of interfaces leads to. -/
structure Offering (ι κ σ : Type) where
  registry : Registry ι
  outside : σ
  /-- The names of the interfaces that failed. -/
  failed : List String
  /-- Whether every call returned. -/
  finished : Bool
  trace : Trace ι κ

/-- Offers a code to one interface after another. The list is fixed, while what the interfaces do
to the registry takes effect there. The first panic ends it. -/
def offerAll (env : Environment ι κ σ) (code : CountryCode) :
    List ι → Registry ι → σ → Offering ι κ σ
  | [], registry, outside => ⟨registry, outside, [], true, []⟩
  | i :: rest, registry, outside =>
    let reply := env.apply i code outside
    let performed := registry.perform reply.1.actions
    let seen := .offered i code :: performed.2
    match reply.1.outcome with
    | .panicked => ⟨performed.1, reply.2, [], false, seen⟩
    | .applied =>
      let later := offerAll env code rest performed.1 reply.2
      { later with trace := seen ++ .logged (.codeApplied (Named.name i) code) :: later.trace }
    | .failed cause =>
      let later := offerAll env code rest performed.1 reply.2
      { later with
        failed := Named.name i :: later.failed
        trace := seen ++ .logged (.applyFailed (Named.name i) code cause) :: later.trace }

/-- What telling the listeners leads to. -/
structure Notification (ι κ σ : Type) where
  outside : σ
  /-- Whether every listener returned. -/
  finished : Bool
  trace : Trace ι κ

/-- Tells one listener after another of a code. The first panic ends it. -/
def notifyAll (env : Environment ι κ σ) (code : CountryCode) :
    List κ → σ → Notification ι κ σ
  | [], outside => ⟨outside, true, []⟩
  | l :: rest, outside =>
    let reply := env.notify l code outside
    if reply.1 then
      let later := notifyAll env code rest reply.2
      { later with trace := .notified l code :: later.trace }
    else ⟨reply.2, false, [.notified l code]⟩

/-- Gives the driver a new code once all interfaces have been called, and tells the listeners if it
differs from the one before. The report is kept only if no listener panics. -/
def commit (env : Environment ι κ σ) (code : CountryCode) (attempted : Nat)
    (failed : List String) (w : World ι κ σ) : Call ι κ σ Unit :=
  let now := env.clock w.readings
  let told :=
    if w.state.driver = some code then ⟨w.outside, true, []⟩
    else notifyAll env code w.state.listeners w.outside
  let state := { w.state with driver := some code, driverUpdated := some now }
  let w := { w with outside := told.outside, readings := w.readings + 1 }
  let trace := .logged (.codePushed code attempted failed.length) :: told.trace
  if told.finished then
    ⟨some (), { w with state := { state with lastPush := some ⟨code, attempted, failed, now⟩ } },
      trace⟩
  else ⟨none, { w with state := state }, trace⟩

/-- Pushes the active code to the interfaces that the registry holds now. -/
def push (env : Environment ι κ σ) (c : Controller) (w : World ι κ σ) : Call ι κ σ Unit :=
  let code := c.active w.state
  let entries := w.registry.entries
  let offering := offerAll env code entries w.registry w.outside
  let seen := .listed entries :: offering.trace
  let w := { w with registry := offering.registry, outside := offering.outside }
  if offering.finished then (commit env code entries.length offering.failed w).after seen
  else ⟨none, w, seen⟩

end Regulatory.Controller
