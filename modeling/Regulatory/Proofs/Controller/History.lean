import Regulatory.Fleet
import Regulatory.Proofs.Controller.Stage

/-!
Runs of operations with every call kept, so that statements can speak of single calls of a run.
-/

namespace Regulatory.Controller

variable {ι κ σ : Type} [Named ι]

/-- One operation of a run: the world that it was called in, and its call. -/
structure Record (ι κ σ : Type) where
  before : World ι κ σ
  operation : Operation ι κ σ
  call : Call ι κ σ Answer

def history (env : Environment ι κ σ) (c : Controller) (w : World ι κ σ) :
    List (Operation ι κ σ) → List (Record ι κ σ)
  | [] => []
  | op :: rest => ⟨w, op, step env c w op⟩ :: history env c (step env c w op).world rest

/-- No call of the run panics, neither in an interface nor in a listener. -/
def Calm (env : Environment ι κ σ) (c : Controller) (w : World ι κ σ)
    (ops : List (Operation ι κ σ)) : Prop :=
  ∀ r ∈ history env c w ops, r.call.result ≠ none

instance (env : Environment ι κ σ) (c : Controller) (w : World ι κ σ)
    (ops : List (Operation ι κ σ)) : Decidable (Calm env c w ops) :=
  inferInstanceAs (Decidable (∀ r ∈ history env c w ops, r.call.result ≠ none))

/-- What the last of the readiness calls among some operations said. Without one the subsystem is
not ready. -/
def told (ops : List (Operation ι κ σ)) : Bool :=
  (ops.filterMap Operation.readiness?).getLast?.getD false

theorem run_append (env : Environment ι κ σ) (c : Controller) (w : World ι κ σ)
    (ops later : List (Operation ι κ σ)) :
    run env c w (ops ++ later) =
      ((run env c (run env c w ops).1 later).1,
        (run env c w ops).2 ++ (run env c (run env c w ops).1 later).2) := by
  induction ops generalizing w with
  | nil => rfl
  | cons op rest ih => simp only [List.cons_append, run, ih, List.append_assoc]

/-- The call with number `n` is made in the world that the operations before it lead to. -/
theorem history_getElem? (env : Environment ι κ σ) (c : Controller) (w : World ι κ σ)
    (ops : List (Operation ι κ σ)) (n : Nat) :
    (history env c w ops)[n]? = ops[n]?.map fun op =>
      ⟨(run env c w (ops.take n)).1, op, step env c (run env c w (ops.take n)).1 op⟩ := by
  induction ops generalizing w n with
  | nil => rfl
  | cons op rest ih =>
    cases n with
    | zero => rfl
    | succ n => exact ih _ n

/-- The call with a number leads to the world that the next operation starts in. -/
theorem world_of_getElem? {env : Environment ι κ σ} {c : Controller} {w : World ι κ σ}
    {ops : List (Operation ι κ σ)} {n : Nat} {r : Record ι κ σ}
    (hr : (history env c w ops)[n]? = some r) :
    r.call.world = (run env c w (ops.take (n + 1))).1 := by
  rw [history_getElem?, Option.map_eq_some_iff] at hr
  obtain ⟨op, hop, rfl⟩ := hr
  rw [List.take_add_one, hop, run_append]
  rfl

theorem exists_of_mem_history {env : Environment ι κ σ} {c : Controller} {w : World ι κ σ}
    {ops : List (Operation ι κ σ)} {r : Record ι κ σ} (hr : r ∈ history env c w ops) :
    ∃ before op, r = ⟨before, op, step env c before op⟩ := by
  obtain ⟨n, hn⟩ := List.mem_iff_getElem?.1 hr
  rw [history_getElem?, Option.map_eq_some_iff] at hn
  obtain ⟨op, _, rfl⟩ := hn
  exact ⟨_, op, rfl⟩

/-- What is known of single calls holds of every call of a history. -/
theorem forall_mem_history {env : Environment ι κ σ} {c : Controller} {w : World ι κ σ}
    {ops : List (Operation ι κ σ)} {P : Record ι κ σ → Prop}
    (hstep : ∀ before op, P ⟨before, op, step env c before op⟩) :
    ∀ r ∈ history env c w ops, P r := by
  intro r hr
  obtain ⟨before, op, rfl⟩ := exists_of_mem_history hr
  exact hstep before op

theorem history_take (env : Environment ι κ σ) (c : Controller) (w : World ι κ σ)
    (ops : List (Operation ι κ σ)) (n : Nat) :
    (history env c w ops).take n = history env c w (ops.take n) := by
  induction ops generalizing w n with
  | nil => simp only [history, List.take_nil]
  | cons op rest ih =>
    cases n with
    | zero => rfl
    | succ n => simp only [history, List.take_succ_cons, ih]

theorem Calm.tail {env : Environment ι κ σ} {c : Controller} {w : World ι κ σ}
    {op : Operation ι κ σ} {ops : List (Operation ι κ σ)} (hcalm : Calm env c w (op :: ops)) :
    (step env c w op).result ≠ none ∧ Calm env c (step env c w op).world ops :=
  List.forall_mem_cons.1 hcalm

theorem history_append (env : Environment ι κ σ) (c : Controller) (w : World ι κ σ)
    (ops later : List (Operation ι κ σ)) :
    history env c w (ops ++ later) =
      history env c w ops ++ history env c (run env c w ops).1 later := by
  induction ops generalizing w with
  | nil => rfl
  | cons op rest ih => exact congrArg (⟨w, op, step env c w op⟩ :: ·) (ih _)

theorem calm_nil (env : Environment ι κ σ) (c : Controller) (w : World ι κ σ) :
    Calm env c w [] :=
  List.forall_mem_nil _

theorem calm_append (env : Environment ι κ σ) (c : Controller) (w : World ι κ σ)
    (ops later : List (Operation ι κ σ)) :
    Calm env c w (ops ++ later) ↔ Calm env c w ops ∧ Calm env c (run env c w ops).1 later := by
  unfold Calm
  rw [history_append, List.forall_mem_append]

/-- Readiness is what the last readiness call said, whether or not that call panicked. -/
theorem run_ready (env : Environment ι κ σ) (c : Controller) (w : World ι κ σ)
    (ops : List (Operation ι κ σ)) :
    (run env c w ops).1.state.ready =
      (ops.filterMap Operation.readiness?).getLast?.getD w.state.ready := by
  induction ops generalizing w with
  | nil => rfl
  | cons op rest ih =>
    rw [run, ih, step_ready]
    cases hready : op.readiness? with
    | none => simp only [List.filterMap_cons_none hready, Option.getD_none]
    | some value =>
      simp only [List.filterMap_cons_some hready, List.getLast?_cons, Option.getD_some]

theorem run_start_ready (env : Environment ι κ σ) (c : Controller) (registry : Registry ι)
    (network : Option (Option String)) (outside : σ) (ops : List (Operation ι κ σ)) :
    (run env c (start registry network outside) ops).1.state.ready = told ops :=
  run_ready env c (start registry network outside) ops

/-- The listeners are those registered, in order of registration. -/
theorem run_listeners (env : Environment ι κ σ) (c : Controller) (w : World ι κ σ)
    (ops : List (Operation ι κ σ)) :
    (run env c w ops).1.state.listeners =
      w.state.listeners ++ ops.filterMap Operation.listener? := by
  induction ops generalizing w with
  | nil => exact (List.append_nil _).symm
  | cons op rest ih =>
    rw [run, ih, step_listeners, List.append_assoc]
    cases hlistener : op.listener? with
    | none => rw [List.filterMap_cons_none hlistener, Option.toList_none, List.nil_append]
    | some l => rw [List.filterMap_cons_some hlistener, Option.toList_some, List.singleton_append]

/-- A controller that keeps the last code known. -/
def sampleController : Controller := ⟨⟨"US", by decide, by decide, by decide⟩, false⟩

/-- A registry of one interface. It refuses codes, and each call adds a sibling and takes all
interfaces of its own name away. -/
def sampleWorld : World Fleet.Member Fleet.Listener Fleet.Modes :=
  start ⟨[⟨some 0, { name := "wlan0", adds := some "ap0", removes := some "wlan0" }⟩]⟩
    (some (some " jp ")) [("wlan0", .reject)]

end Regulatory.Controller
