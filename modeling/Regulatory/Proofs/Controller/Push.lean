import Regulatory.Proofs.Controller.Offering

/-!
What a push can do. `PushEnds` lists its three endings with the state and the trace of each; all
later facts about pushes are read off it.
-/

namespace Regulatory.Controller

variable {ι κ σ : Type} [Named ι]

theorem offerAll_failed_sublist (env : Environment ι κ σ) (code : CountryCode) (entries : List ι)
    (registry : Registry ι) (outside : σ) :
    (offerAll env code entries registry outside).failed.Sublist (entries.map Named.name) := by
  induction entries generalizing registry outside with
  | nil => exact List.Sublist.refl _
  | cons i rest ih =>
    rw [offerAll]
    cases houtcome : (env.apply i code outside).1.outcome with
    | panicked => exact List.nil_sublist _
    | applied =>
      rw [List.map_cons]
      exact (ih _ _).cons _
    | failed cause =>
      rw [List.map_cons]
      exact (ih _ _).cons_cons _

def offering (env : Environment ι κ σ) (c : Controller) (w : World ι κ σ) : Offering ι κ σ :=
  offerAll env (c.active w.state) w.registry.entries w.registry w.outside

/-- How the listeners take a push that all interfaces returned from. They are called only if the
driver's code changes. -/
def telling (env : Environment ι κ σ) (c : Controller) (w : World ι κ σ) : Notification ι κ σ :=
  if w.state.driver = some (c.active w.state) then ⟨(offering env c w).outside, true, []⟩
  else notifyAll env (c.active w.state) w.state.listeners (offering env c w).outside

/-- The world that a push leaves if an interface panics. -/
def cutWorld (env : Environment ι κ σ) (c : Controller) (w : World ι κ σ) : World ι κ σ :=
  { w with registry := (offering env c w).registry, outside := (offering env c w).outside }

/-- The world that a push leaves if a listener panics. The driver has the code, but there is no
report. -/
def drivenWorld (env : Environment ι κ σ) (c : Controller) (w : World ι κ σ) : World ι κ σ :=
  { w with
    state := { w.state with
      driver := some (c.active w.state)
      driverUpdated := some (env.clock w.readings) }
    registry := (offering env c w).registry
    outside := (telling env c w).outside
    readings := w.readings + 1 }

def report (env : Environment ι κ σ) (c : Controller) (w : World ι κ σ) : PushReport where
  code := c.active w.state
  attempted := w.registry.entries.length
  failed := (offering env c w).failed
  timestamp := env.clock w.readings

/-- The world that a push leaves if it returns. -/
def reportedWorld (env : Environment ι κ σ) (c : Controller) (w : World ι κ σ) : World ι κ σ :=
  { drivenWorld env c w with
    state := { (drivenWorld env c w).state with lastPush := some (report env c w) } }

def cutTrace (env : Environment ι κ σ) (c : Controller) (w : World ι κ σ) : Trace ι κ :=
  .listed w.registry.entries :: (offering env c w).trace

def fullTrace (env : Environment ι κ σ) (c : Controller) (w : World ι κ σ) : Trace ι κ :=
  cutTrace env c w ++
    .logged (.codePushed (c.active w.state) w.registry.entries.length
      (offering env c w).failed.length) :: (telling env c w).trace

theorem push_eq (env : Environment ι κ σ) (c : Controller) (w : World ι κ σ) :
    push env c w =
      if (offering env c w).finished then
        if (telling env c w).finished then ⟨some (), reportedWorld env c w, fullTrace env c w⟩
        else ⟨none, drivenWorld env c w, fullTrace env c w⟩
      else ⟨none, cutWorld env c w, cutTrace env c w⟩ := by
  change (if (offering env c w).finished = true then
    Call.after _ (if (telling env c w).finished = true then _ else _) else _) = _
  by_cases hoffered : (offering env c w).finished = true
  · rw [if_pos hoffered, if_pos hoffered]
    by_cases htold : (telling env c w).finished = true
    · rw [if_pos htold, if_pos htold]
      rfl
    · rw [if_neg htold, if_neg htold]
      rfl
  · rw [if_neg hoffered, if_neg hoffered]
    rfl

/-- The ways in which a push ends. A panic keeps what was written before it, and nothing else. -/
inductive PushEnds (env : Environment ι κ σ) (c : Controller) (w : World ι κ σ) :
    Call ι κ σ Unit → Prop
  /-- An interface panicked. -/
  | cut (hcut : (offering env c w).finished = false) :
      PushEnds env c w ⟨none, cutWorld env c w, cutTrace env c w⟩
  /-- A listener panicked. -/
  | unheard (hoffered : (offering env c w).finished = true)
      (hcut : (telling env c w).finished = false) :
      PushEnds env c w ⟨none, drivenWorld env c w, fullTrace env c w⟩
  | done (hoffered : (offering env c w).finished = true)
      (htold : (telling env c w).finished = true) :
      PushEnds env c w ⟨some (), reportedWorld env c w, fullTrace env c w⟩

theorem push_ends (env : Environment ι κ σ) (c : Controller) (w : World ι κ σ) :
    PushEnds env c w (push env c w) := by
  rw [push_eq]
  split
  · rename_i hoffered
    split
    · rename_i htold
      exact .done hoffered htold
    · rename_i htold
      exact .unheard hoffered (Bool.eq_false_iff.2 htold)
  · rename_i hoffered
    exact .cut (Bool.eq_false_iff.2 hoffered)

/-- A push changes nothing of a controller's state but the driver's side. -/
theorem push_keeps (env : Environment ι κ σ) (c : Controller) (w : World ι κ σ) :
    (push env c w).world.state.telephony = w.state.telephony ∧
      (push env c w).world.state.ready = w.state.ready ∧
      (push env c w).world.state.telephonyUpdated = w.state.telephonyUpdated ∧
      (push env c w).world.state.readyChanged = w.state.readyChanged ∧
      (push env c w).world.state.listeners = w.state.listeners := by
  have hend := push_ends env c w
  generalize push env c w = p at hend ⊢
  cases hend <;> exact ⟨rfl, rfl, rfl, rfl, rfl⟩

/-- Neither interfaces nor listeners get at the network source. -/
theorem push_network (env : Environment ι κ σ) (c : Controller) (w : World ι κ σ) :
    (push env c w).world.network = w.network := by
  have hend := push_ends env c w
  generalize push env c w = p at hend ⊢
  cases hend <;> rfl

/-- Telling the listeners calls nobody else. -/
theorem telling_calls (env : Environment ι κ σ) (c : Controller) (w : World ι κ σ) :
    ∃ told, (telling env c w).trace.Calls [] told := by
  unfold telling
  split
  · exact ⟨[], .nil⟩
  · exact ⟨_, notifyAll_calls env (c.active w.state) w.state.listeners (offering env c w).outside⟩

/-- However it ends, a push reads the registry once, when it starts, and never asks the network
source. -/
theorem push_calls (env : Environment ι κ σ) (c : Controller) (w : World ι κ σ) :
    ∃ (seen : Trace ι κ) (offers : _) (notices : _),
      (push env c w).trace = .listed w.registry.entries :: seen ∧ seen.Calls offers notices := by
  have hoffering := (offerAll_after env (c.active w.state) w.registry.entries w.registry
    w.outside).calls
  obtain ⟨told, htold⟩ := telling_calls env c w
  have hend := push_ends env c w
  generalize push env c w = p at hend ⊢
  cases hend with
  | cut _ => exact ⟨_, _, _, rfl, hoffering⟩
  | unheard _ _ | done _ _ => exact ⟨_, _, _, rfl, hoffering.append (htold.logged _)⟩

/-- The world with another answer of the network source, or without a source. -/
def World.withNetwork (w : World ι κ σ) (network : Option (Option String)) : World ι κ σ :=
  { w with network := network }

def Call.withNetwork {α : Type} (call : Call ι κ σ α) (network : Option (Option String)) :
    Call ι κ σ α :=
  { call with world := call.world.withNetwork network }

/-- What the network source would answer has no part in a push. -/
theorem push_withNetwork (env : Environment ι κ σ) (c : Controller) (w : World ι κ σ)
    (network : Option (Option String)) :
    push env c (w.withNetwork network) = (push env c w).withNetwork network := by
  rw [push_eq, push_eq]
  -- Neither what the interfaces do nor what the listeners do has changed.
  change (if (offering env c w).finished = true then
    if (telling env c w).finished = true then _ else _ else _) = _
  split
  · split
    · rfl
    · rfl
  · rfl

/-- A push that returns has read the registry once and offered the active code to each entry, and
leaves a full report. The driver has the code, whatever the interfaces made of it. -/
theorem push_returned (env : Environment ι κ σ) (c : Controller) (w : World ι κ σ)
    (hreturned : (push env c w).result ≠ none) :
    (push env c w).trace.listings = [w.registry.entries] ∧
      (push env c w).trace.offers = w.registry.entries.map (·, c.active w.state) ∧
      (push env c w).world = reportedWorld env c w := by
  have hend := push_ends env c w
  generalize push env c w = p at hend hreturned ⊢
  cases hend with
  | cut _ => exact absurd rfl hreturned
  | unheard _ _ => exact absurd rfl hreturned
  | done hoffered _ =>
    have hcalls := (offerAll_after env (c.active w.state) w.registry.entries w.registry
      w.outside).calls
    have hnone := (offerAll_finished env (c.active w.state) w.registry.entries w.registry
      w.outside).symm.trans hoffered
    rw [Option.isNone_iff_eq_none.1 hnone] at hcalls
    obtain ⟨told, htold⟩ := telling_calls env c w
    have hafter := hcalls.append (htold.logged (.codePushed (c.active w.state)
      w.registry.entries.length (offering env c w).failed.length))
    exact ⟨congrArg (w.registry.entries :: ·) hafter.listings,
      hafter.offers.trans (List.append_nil _), rfl⟩

end Regulatory.Controller
