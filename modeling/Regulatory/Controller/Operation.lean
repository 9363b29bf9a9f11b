import Regulatory.Controller.Push

/-!
The operations on a controller and its surroundings, and runs of them.
-/

namespace Regulatory.Controller

variable {ι κ σ : Type} [Named ι]

/-- Asks the network source for a country, if one is attached and no telephony code is stored, and
adopts a country that is not blank. -/
def probe (env : Environment ι κ σ) (w : World ι κ σ) : World ι κ σ × Trace ι κ :=
  match w.state.telephony, w.network with
  | none, some answer =>
    match answer.bind CountryCode.parse with
    | some code =>
      let state :=
        { w.state with telephony := some code, telephonyUpdated := some (env.clock w.readings) }
      ({ w with state := state, readings := w.readings + 1 },
        [.queried, .logged (.networkAdopted code)])
    | none => (w, [.queried])
  | _, _ => (w, [])

/-- Records readiness. Each time the subsystem is said to be ready there is a push, even if nothing
changed. -/
def setReady (env : Environment ι κ σ) (c : Controller) (value : Bool) (w : World ι κ σ) :
    Call ι κ σ Unit :=
  let state := { w.state with ready := value, readyChanged := some (env.clock w.readings) }
  let w := { w with state := state, readings := w.readings + 1 }
  let seen := [.logged (.readinessUpdated value)]
  if value then
    let probed := probe env w
    (push env c probed.1).after (seen ++ probed.2)
  else ⟨some (), w, seen⟩

/-- Records a code supplied by telephony, where a blank text is a withdrawal, and pushes if the
subsystem is ready. Returns `false` for a withdrawal that is ignored. -/
def setCountry (env : Environment ι κ σ) (c : Controller) (raw : String) (w : World ι κ σ) :
    Call ι κ σ Bool :=
  let incoming := CountryCode.parse raw
  let accepted := incoming.isSome || c.revertOnLoss
  let state := { w.state with
    telephony := resolveTelephony w.state.telephony incoming c.revertOnLoss
    telephonyUpdated := some (env.clock w.readings) }
  let w := { w with state := state, readings := w.readings + 1 }
  let active := c.active state
  let seen := .logged (.telephonyUpdated raw active accepted)
  if state.ready then ((push env c w).after [seen]).map fun _ => accepted
  else ⟨some accepted, w, [seen, .logged (.pushDeferred active)]⟩

/-- What can be done to a controller and to what it depends on. -/
inductive Operation (ι κ σ : Type) where
  | ready (value : Bool)
  | country (raw : String)
  | add (i : ι)
  /-- Takes all interfaces of a name off the registry. -/
  | remove (name : String)
  /-- Changes how interfaces or listeners behave. -/
  | adjust (change : σ → σ)
  /-- Changes what the network source answers. -/
  | network (answer : Option String)
  | listen (l : κ)

/-- What an operation that does not panic returns. -/
inductive Answer where
  | done
  | accepted (flag : Bool)
  | removed (count : Nat)
deriving DecidableEq, Repr

def step (env : Environment ι κ σ) (c : Controller) (w : World ι κ σ) :
    Operation ι κ σ → Call ι κ σ Answer
  | .ready value => (setReady env c value w).map fun _ => .done
  | .country raw => (setCountry env c raw w).map .accepted
  | .add i => ⟨some .done, { w with registry := w.registry.add i }, Registry.additionTrace i⟩
  | .remove name =>
    ⟨some (.removed (w.registry.count name)), { w with registry := w.registry.remove name },
      w.registry.removalTrace name⟩
  | .adjust change => ⟨some .done, { w with outside := change w.outside }, []⟩
  | .network answer => ⟨some .done, { w with network := w.network.map fun _ => answer }, []⟩
  | .listen l =>
    ⟨some .done, { w with state := { w.state with listeners := w.state.listeners ++ [l] } }, []⟩

/-- The world after a run of operations, with all that the outside saw. A call that panics does not
end the run: the next operation goes on from the state it left. -/
def run (env : Environment ι κ σ) (c : Controller) (w : World ι κ σ) :
    List (Operation ι κ σ) → World ι κ σ × Trace ι κ
  | [] => (w, [])
  | op :: rest =>
    let call := step env c w op
    let later := run env c call.world rest
    (later.1, call.trace ++ later.2)

def start (registry : Registry ι) (network : Option (Option String)) (outside : σ) :
    World ι κ σ where
  state := {}
  registry := registry
  network := network
  outside := outside

def creationTrace (c : Controller) : Trace ι κ :=
  [.logged (.controllerCreated c.defaultCode c.revertOnLoss)]

end Regulatory.Controller
