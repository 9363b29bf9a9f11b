import Regulatory.Controller.Push
import Regulatory.Proofs.Trace

/-!
The two loops of a push in closed form. What interfaces and listeners answer is listed apart from
the loops, as if a panic did not end them; each loop goes up to and with the first panic of its
list.
-/

namespace Regulatory

variable {ι κ σ : Type}

/-- The members of a list up to and with the one of a number, or all of them without a number. -/
def upTo {α : Type} (l : List α) : Option Nat → List α
  | none => l
  | some k => l.take (k + 1)

theorem upTo_cons_succ {α : Type} (a : α) (l : List α) (cut : Option Nat) :
    upTo (a :: l) (cut.map (· + 1)) = a :: upTo l cut := by
  cases cut <;> rfl

theorem getElem?_upTo {α : Type} (l : List α) (cut : Option Nat) (k : Nat) :
    (upTo l cut)[k]? = if ∀ j ∈ cut, k ≤ j then l[k]? else none := by
  cases cut with
  | none => simp [upTo]
  | some j =>
    simp only [upTo, List.getElem?_take, Nat.lt_add_one_iff, Option.mem_def, Option.some.injEq,
      forall_eq']

/-- Whether a call ends with an error that the interface reports. -/
def Outcome.fails : Outcome → Bool
  | .failed _ => true
  | .applied | .panicked => false

namespace Environment

/-- How the calls of some interfaces end if they are offered a code one after another. A panic does
not end the list. -/
def outcomes (env : Environment ι κ σ) (code : CountryCode) : List ι → σ → List Outcome
  | [], _ => []
  | i :: rest, outside =>
    (env.apply i code outside).1.outcome :: outcomes env code rest (env.apply i code outside).2

/-- What some interfaces leave behind outside if they are offered a code one after another. -/
def afterOffers (env : Environment ι κ σ) (code : CountryCode) (called : List ι)
    (outside : σ) : σ :=
  called.foldl (fun s i => (env.apply i code s).2) outside

/-- The number of the first interface that panics. -/
def interfacePanic (env : Environment ι κ σ) (code : CountryCode) (entries : List ι)
    (outside : σ) : Option Nat :=
  (env.outcomes code entries outside).findIdx? (· == .panicked)

/-- The names of the interfaces that report a failure, in order of the calls. -/
def failures [Named ι] (env : Environment ι κ σ) (code : CountryCode) (called : List ι)
    (outside : σ) : List String :=
  (called.zip (env.outcomes code called outside)).filterMap fun e =>
    if e.2.fails then some (Named.name e.1) else none

/-- Whether some listeners return if they are told of a code one after another. A panic does not end
the list. -/
def replies (env : Environment ι κ σ) (code : CountryCode) : List κ → σ → List Bool
  | [], _ => []
  | l :: rest, outside =>
    (env.notify l code outside).1 :: replies env code rest (env.notify l code outside).2

/-- The number of the first listener that panics. -/
def listenerPanic (env : Environment ι κ σ) (code : CountryCode) (listeners : List κ)
    (outside : σ) : Option Nat :=
  (env.replies code listeners outside).findIdx? (!·)

variable (env : Environment ι κ σ) (code : CountryCode) (outside : σ)

theorem interfacePanic_cons (i : ι) (rest : List ι) :
    env.interfacePanic code (i :: rest) outside =
      if (env.apply i code outside).1.outcome = .panicked then some 0
      else (env.interfacePanic code rest (env.apply i code outside).2).map (· + 1) := by
  simp only [interfacePanic, outcomes, List.findIdx?_cons, beq_iff_eq]

theorem failures_cons [Named ι] (i : ι) (rest : List ι) :
    env.failures code (i :: rest) outside =
      (if (env.apply i code outside).1.outcome.fails then [Named.name i] else []) ++
        env.failures code rest (env.apply i code outside).2 := by
  simp only [failures, outcomes, List.zip_cons_cons, List.filterMap_cons]
  cases (env.apply i code outside).1.outcome.fails <;> rfl

theorem listenerPanic_cons (l : κ) (rest : List κ) :
    env.listenerPanic code (l :: rest) outside =
      if (env.notify l code outside).1 then
        (env.listenerPanic code rest (env.notify l code outside).2).map (· + 1)
      else some 0 := by
  simp only [listenerPanic, replies, List.findIdx?_cons]
  cases (env.notify l code outside).1 <;> rfl

end Environment

namespace Controller

/-- What an offering comes to that has called some interfaces and nobody else. -/
structure Offering.After [Named ι] (env : Environment ι κ σ) (code : CountryCode)
    (called : List ι) (outside : σ) (o : Offering ι κ σ) : Prop where
  calls : o.trace.Calls (called.map (·, code)) []
  failed : o.failed = env.failures code called outside
  outside : o.outside = env.afterOffers code called outside

theorem offerAll_finished [Named ι] (env : Environment ι κ σ) (code : CountryCode)
    (entries : List ι) (registry : Registry ι) (outside : σ) :
    (offerAll env code entries registry outside).finished =
      (env.interfacePanic code entries outside).isNone := by
  induction entries generalizing registry outside with
  | nil => rfl
  | cons i rest ih =>
    rw [offerAll, Environment.interfacePanic_cons]
    cases (env.apply i code outside).1.outcome with
    | panicked => rfl
    | applied | failed _ => exact (ih _ _).trans (Option.isNone_map ..).symm

/-- The code goes to the entries in their order, up to the first one that panics, and to nobody
else. Nothing is assumed of what the interfaces do meanwhile. -/
theorem offerAll_after [Named ι] (env : Environment ι κ σ) (code : CountryCode)
    (entries : List ι) (registry : Registry ι) (outside : σ) :
    (offerAll env code entries registry outside).After env code
      (upTo entries (env.interfacePanic code entries outside)) outside := by
  induction entries generalizing registry outside with
  | nil => exact ⟨.nil, rfl, rfl⟩
  | cons i rest ih =>
    have hseen : Trace.Calls
        (.offered i code :: (registry.perform (env.apply i code outside).1.actions).2 : Trace ι κ)
        [(i, code)] [] :=
      Trace.Calls.append (s := [.offered i code]) ⟨rfl, rfl, rfl, rfl⟩
        (Registry.perform_quiet _ registry)
    obtain ⟨hcalls, hfailed, houtside⟩ :=
      ih (registry.perform (κ := κ) (env.apply i code outside).1.actions).1
        (env.apply i code outside).2
    rw [offerAll, Environment.interfacePanic_cons]
    cases houtcome : (env.apply i code outside).1.outcome with
    | panicked =>
      refine ⟨hseen, ?_, rfl⟩
      rw [if_pos rfl, upTo, List.take_succ_cons, Environment.failures_cons, houtcome]
      rfl
    | applied =>
      rw [if_neg (by simp), upTo_cons_succ]
      refine ⟨hseen.append (hcalls.logged _), ?_, houtside⟩
      rw [Environment.failures_cons, houtcome]
      exact hfailed
    | failed cause =>
      rw [if_neg (by simp), upTo_cons_succ]
      refine ⟨hseen.append (hcalls.logged _), ?_, houtside⟩
      rw [Environment.failures_cons, houtcome]
      exact congrArg (Named.name i :: ·) hfailed

theorem notifyAll_finished (env : Environment ι κ σ) (code : CountryCode) (listeners : List κ)
    (outside : σ) :
    (notifyAll env code listeners outside : Notification ι κ σ).finished =
      (env.listenerPanic code listeners outside).isNone := by
  induction listeners generalizing outside with
  | nil => rfl
  | cons l rest ih =>
    rw [notifyAll, Environment.listenerPanic_cons]
    cases (env.notify l code outside).1 with
    | true => exact (ih _).trans (Option.isNone_map ..).symm
    | false => rfl

/-- The notice goes to the listeners in their order, up to the first one that panics. -/
theorem notifyAll_calls (env : Environment ι κ σ) (code : CountryCode) (listeners : List κ)
    (outside : σ) :
    (notifyAll env code listeners outside : Notification ι κ σ).trace.Calls []
      ((upTo listeners (env.listenerPanic code listeners outside)).map (·, code)) := by
  induction listeners generalizing outside with
  | nil => exact .nil
  | cons l rest ih =>
    have hseen : Trace.Calls ([.notified l code] : Trace ι κ) [] [(l, code)] := ⟨rfl, rfl, rfl, rfl⟩
    rw [notifyAll, Environment.listenerPanic_cons]
    cases (env.notify l code outside).1 with
    | true =>
      rw [if_pos rfl, if_pos rfl, upTo_cons_succ]
      exact hseen.append (ih _)
    | false => exact hseen

end Controller

end Regulatory
