import Regulatory.Proofs.Controller.Clock
import Regulatory.Proofs.Controller.Coherence
import Regulatory.Proofs.Controller.Starvation
import Regulatory.Proofs.Controller.Telephony

/-!
What is done while the subsystem is not ready, and what is made of it once it is. The operations
fall into kinds that change parts of the world of their own, so that only the order within a kind
counts; of the codes that telephony supplied, only the last one does.
-/

namespace Regulatory

/-- That one telephony call does as much as some others do together. If the controller reverts on
loss this is the last one, and else the last one with a code, or any one if there is no code. -/
inductive Coalesces : (revertOnLoss : Bool) → (raws : List String) → (raw : String) → Prop
  | latest {raws : List String} {raw : String} (hlast : raws.getLast? = some raw) :
      Coalesces true raws raw
  | latestCode {raws : List String} {raw : String}
      (hlast : (raws.filter fun r => !Text.isBlank r.toList).getLast? = some raw) :
      Coalesces false raws raw
  | withdrawal {raws : List String} {raw : String}
      (hblank : ∀ r ∈ raws, Text.isBlank r.toList = true) (hmem : raw ∈ raws) :
      Coalesces false raws raw

theorem Coalesces.mem {revertOnLoss : Bool} {raws : List String} {raw : String}
    (h : Coalesces revertOnLoss raws raw) : raw ∈ raws := by
  cases h with
  | latest hlast => exact List.mem_of_getLast? hlast
  | latestCode hlast => exact (List.mem_filter.1 (List.mem_of_getLast? hlast)).1
  | withdrawal _ hmem => exact hmem

namespace Controller

variable {ι κ σ : Type} [Named ι]

/-- The parts of a world that operations of different kinds change. -/
inductive Part where
  | telephony
  /-- The registry, and how interfaces and listeners behave. -/
  | fleet
  | listeners
  | network
deriving DecidableEq

/-- The part that an operation changes as long as the subsystem is not ready. Saying so once more
changes none. -/
def Operation.part? : Operation ι κ σ → Option Part
  | .ready _ => none
  | .country _ => some .telephony
  | .add _ | .remove _ | .adjust _ => some .fleet
  | .listen _ => some .listeners
  | .network _ => some .network

/-- The operations among some that change a part, in order. -/
def onPart (p : Part) (ops : List (Operation ι κ σ)) : List (Operation ι κ σ) :=
  ops.filter fun op => op.part? = some p

/-- Two worlds have the same in a part, up to times. -/
def World.Agrees (w v : World ι κ σ) : Part → Prop
  | .telephony => w.state.telephony = v.state.telephony ∧
      w.state.telephonyUpdated.isSome = v.state.telephonyUpdated.isSome
  | .fleet => w.registry = v.registry ∧ w.outside = v.outside
  | .listeners => w.state.listeners = v.state.listeners
  | .network => w.network = v.network

/-- No operation says that the subsystem is ready. -/
def Deferring (ops : List (Operation ι κ σ)) : Prop :=
  ∀ op ∈ ops, op.readiness? ≠ some true

instance (ops : List (Operation ι κ σ)) : Decidable (Deferring ops) :=
  inferInstanceAs (Decidable (∀ op ∈ ops, op.readiness? ≠ some true))

/-- The world without the time of the last readiness call. -/
def World.undated (w : World ι κ σ) : World ι κ σ :=
  { w with state := { w.state with readyChanged := none } }

omit [Named ι] in
theorem World.Agrees.refl (w : World ι κ σ) (p : Part) : w.Agrees w p := by
  cases p with
  | telephony | fleet => exact ⟨rfl, rfl⟩
  | listeners | network => exact Eq.refl _

omit [Named ι] in
theorem World.Agrees.symm {w v : World ι κ σ} {p : Part} (h : w.Agrees v p) : v.Agrees w p := by
  cases p with
  | telephony | fleet => exact ⟨h.1.symm, h.2.symm⟩
  | listeners | network => exact Eq.symm h

omit [Named ι] in
theorem World.Agrees.trans {w v u : World ι κ σ} {p : Part} (h : w.Agrees v p)
    (h' : v.Agrees u p) : w.Agrees u p := by
  cases p with
  | telephony | fleet => exact ⟨h.1.trans h'.1, h.2.trans h'.2⟩
  | listeners | network => exact Eq.trans h h'

/-- A deferred operation pushes nothing and leaves the subsystem not ready. -/
theorem step_deferred (env : Environment ι κ σ) (c : Controller) {w : World ι κ σ}
    (hready : w.state.ready = false) {op : Operation ι κ σ} (hop : op.readiness? ≠ some true) :
    step env c w op = ⟨some (op.answer c w), (stage env c w op).1, (stage env c w op).2⟩ ∧
      (step env c w op).world.state.ready = false := by
  have hpush : op.pushes w.state.ready = false := by
    cases op with
    | ready value => exact Bool.eq_false_iff.2 fun hvalue => hop (congrArg some hvalue)
    | country raw => exact hready
    | add _ | remove _ | adjust _ | network _ | listen _ => rfl
  refine ⟨step_of_not_pushes env c w op hpush, ?_⟩
  rw [step_ready, hready]
  cases hvalue : op.readiness? with
  | none => rfl
  | some value => exact Bool.eq_false_iff.2 fun htrue => hop (hvalue.trans (congrArg some htrue))

/-- A deferred operation calls nobody, and leaves what the driver was given last. -/
structure Frozen (w : World ι κ σ) (after : World ι κ σ × Trace ι κ) : Prop where
  calls : after.2.Quiet
  ready : after.1.state.ready = false
  driver : after.1.state.driver = w.state.driver
  driverUpdated : after.1.state.driverUpdated = w.state.driverUpdated
  report : after.1.state.lastPush = w.state.lastPush

theorem run_deferred (env : Environment ι κ σ) (c : Controller) {w : World ι κ σ}
    (hready : w.state.ready = false) {ops : List (Operation ι κ σ)} (hops : Deferring ops) :
    Frozen w (run env c w ops) := by
  induction ops generalizing w with
  | nil => exact ⟨.nil, hready, rfl, rfl, rfl⟩
  | cons op rest ih =>
    obtain ⟨hop, hrest⟩ := List.forall_mem_cons.1 hops
    obtain ⟨hstep, hready'⟩ := step_deferred env c hready hop
    obtain ⟨hdriver, hdriverUpdated, hreport⟩ := stage_undriven env c w op
    have hlater := ih hready' hrest
    rw [run]
    rw [hstep] at hlater ⊢
    exact ⟨(stage_quiet env c w hop).append hlater.calls, hlater.ready,
      hlater.driver.trans hdriver, hlater.driverUpdated.trans hdriverUpdated,
      hlater.report.trans hreport⟩

/-- A deferred operation leaves the parts alone that it has nothing to do with. -/
theorem step_agrees_other (env : Environment ι κ σ) (c : Controller) {w : World ι κ σ}
    (hready : w.state.ready = false) {op : Operation ι κ σ} (hop : op.readiness? ≠ some true)
    {p : Part} (hpart : op.part? ≠ some p) : (step env c w op).world.Agrees w p := by
  rw [(step_deferred env c hready hop).1]
  cases op with
  | ready value =>
    cases value with
    | false =>
      cases p with
      | telephony | fleet => exact ⟨rfl, rfl⟩
      | listeners | network => rfl
    | true => exact absurd rfl hop
  | country _ =>
    cases p with
    | telephony => exact absurd rfl hpart
    | fleet => exact ⟨rfl, rfl⟩
    | listeners | network => rfl
  | add _ | remove _ | adjust _ =>
    cases p with
    | fleet => exact absurd rfl hpart
    | telephony => exact ⟨rfl, rfl⟩
    | listeners | network => rfl
  | listen _ =>
    cases p with
    | listeners => exact absurd rfl hpart
    | telephony | fleet => exact ⟨rfl, rfl⟩
    | network => rfl
  | network _ =>
    cases p with
    | network => exact absurd rfl hpart
    | telephony | fleet => exact ⟨rfl, rfl⟩
    | listeners => rfl

/-- What a deferred operation makes of its own part depends on that part alone. -/
theorem step_agrees_own (env env' : Environment ι κ σ) (c : Controller) {w v : World ι κ σ}
    (hready : w.state.ready = false) (hready' : v.state.ready = false) {op : Operation ι κ σ}
    {p : Part} (hpart : op.part? = some p) (hagrees : w.Agrees v p) :
    (step env c w op).world.Agrees (step env' c v op).world p := by
  have hop : op.readiness? ≠ some true := by
    cases op with
    | ready _ => cases hpart
    | country _ | add _ | remove _ | adjust _ | network _ | listen _ => nofun
  rw [(step_deferred env c hready hop).1, (step_deferred env' c hready' hop).1]
  cases op with
  | ready _ => cases hpart
  | country raw =>
    cases hpart
    exact ⟨congrArg (resolveTelephony · _ _) hagrees.1, rfl⟩
  | add i =>
    cases hpart
    exact ⟨congrArg (Registry.add · i) hagrees.1, hagrees.2⟩
  | remove name =>
    cases hpart
    exact ⟨congrArg (Registry.remove · name) hagrees.1, hagrees.2⟩
  | adjust change =>
    cases hpart
    exact ⟨hagrees.1, congrArg change hagrees.2⟩
  | network answer =>
    cases hpart
    exact congrArg (Option.map fun _ => answer) hagrees
  | listen l =>
    cases hpart
    exact congrArg (· ++ [l]) hagrees

/-- The operations on a part bring it, without the others, to where all of them bring it. -/
theorem run_agrees (env env' : Environment ι κ σ) (c : Controller) {w v : World ι κ σ}
    (hready : w.state.ready = false) (hready' : v.state.ready = false)
    {ops : List (Operation ι κ σ)} (hops : Deferring ops) {p : Part} (hagrees : w.Agrees v p) :
    (run env c w ops).1.Agrees (run env' c v (onPart p ops)).1 p := by
  induction ops generalizing w v with
  | nil => exact hagrees
  | cons op rest ih =>
    obtain ⟨hop, hrest⟩ := List.forall_mem_cons.1 hops
    have hnext := (step_deferred env c hready hop).2
    by_cases hpart : op.part? = some p
    · rw [onPart, List.filter_cons_of_pos (by simpa using hpart)]
      exact ih hnext (step_deferred env' c hready' hop).2 hrest
        (step_agrees_own env env' c hready hready' hpart hagrees)
    · rw [onPart, List.filter_cons_of_neg (by simpa using hpart)]
      exact ih hnext hready' hrest ((step_agrees_other env c hready hop hpart).trans hagrees)

theorem supplies_countries (env : Environment ι κ σ) (c : Controller) (w : World ι κ σ)
    (raws : List String) :
    supplies (history env c w (raws.map .country)) = raws.map CountryCode.parse := by
  induction raws generalizing w with
  | nil => rfl
  | cons raw rest ih => exact congrArg (CountryCode.parse raw :: ·) (ih _)

theorem dated_of_countries (env : Environment ι κ σ) (c : Controller) (w : World ι κ σ)
    {raws : List String} (hraws : raws ≠ []) :
    (run env c w (raws.map .country)).1.state.telephonyUpdated.isSome = true := by
  refine (run_telephonyUpdated env c w _).2 (.inr ?_)
  obtain ⟨raw, rest, rfl⟩ := List.exists_cons_of_ne_nil hraws
  exact ⟨_, List.mem_cons_self, .inl ⟨raw, rfl⟩⟩

end Controller

/-- A code that is last among the codes supplied counts, whatever was there before, and withdrawals
among which no code is count like one of them. -/
theorem Coalesces.latest_eq {revertOnLoss : Bool} {raws : List String} {raw : String}
    (h : Coalesces revertOnLoss raws raw) (previous : Option CountryCode) :
    Controller.latest revertOnLoss (previous :: raws.map CountryCode.parse) =
      Controller.latest revertOnLoss [previous, CountryCode.parse raw] := by
  have hparse (r : String) : (CountryCode.parse r).isSome = !Text.isBlank r.toList := by
    rw [← CountryCode.isNone_parse, Option.not_isNone]
  cases h with
  | latest hlast =>
    have hsupplied : (raws.map CountryCode.parse).getLast? = some (CountryCode.parse raw) := by
      rw [List.getLast?_map, hlast, Option.map_some]
    simp only [Controller.latest, if_true, List.getLast?_cons, hsupplied, List.getLast?_nil]
    rfl
  | latestCode hlast =>
    simp only [← hparse] at hlast
    have hcodes : (raws.filterMap CountryCode.parse).getLast? = CountryCode.parse raw :=
      Controller.getLast?_filterMap_of_kept hlast (fun _ => id) rfl
    obtain ⟨code, hcode⟩ := Option.isSome_iff_exists.1
      (List.mem_filter.1 (List.mem_of_getLast? hlast)).2
    rw [hcode] at hcodes
    cases previous <;> simp [Controller.latest, List.getLast?_cons, hcodes, hcode]
  | withdrawal hblank hmem =>
    have hnone (r : String) (hr : r ∈ raws) : CountryCode.parse r = none := by
      rw [← Option.isNone_iff_eq_none, CountryCode.isNone_parse, hblank r hr]
    have hcodes : raws.filterMap CountryCode.parse = [] := List.filterMap_eq_nil_iff.2 hnone
    cases previous <;> simp [Controller.latest, hcodes, hnone raw hmem]

namespace Controller

variable {ι κ σ : Type} [Named ι]

omit [Named ι] in
/-- Two worlds that were frozen with the same driver's side differ at most in their parts. -/
theorem timeless_undated_eq {u w v : World ι κ σ} {t t' : Trace ι κ} (hw : Frozen u (w, t))
    (hv : Frozen u (v, t')) (hparts : ∀ p, w.Agrees v p) :
    w.undated.timeless = v.undated.timeless := by
  have hmap (a b : Option Nat) (h : a.isSome = b.isSome) :
      (a.map fun _ => 0) = b.map fun _ => 0 := by
    cases a <;> cases b <;> simp at h ⊢
  obtain ⟨htelephony, hdated⟩ := hparts .telephony
  obtain ⟨hregistry, houtside⟩ := hparts .fleet
  have hlisteners : w.state.listeners = v.state.listeners := hparts .listeners
  have hnetwork : w.network = v.network := hparts .network
  have hdriver := hw.driver.trans hv.driver.symm
  have hdriverUpdated := hw.driverUpdated.trans hv.driverUpdated.symm
  have hreport := hw.report.trans hv.report.symm
  have hready := hw.ready.trans hv.ready.symm
  dsimp only at hdriver hdriverUpdated hreport hready
  simp only [World.undated, World.timeless, State.timeless, htelephony, hmap _ _ hdated, hregistry,
    houtside, hlisteners, hnetwork, hdriver, hdriverUpdated, hreport, hready]

/-- A readiness call writes its own time over that of the one before. -/
theorem step_undated (env : Environment ι κ σ) (c : Controller) (w : World ι κ σ) (value : Bool) :
    step env c w.undated (.ready value) = step env c w (.ready value) := rfl

theorem telephony_agrees (env env' : Environment ι κ σ) (c : Controller) (w : World ι κ σ)
    {raws : List String} {raw : String} (hraws : Coalesces c.revertOnLoss raws raw) :
    (run env' c w [.country raw]).1.Agrees (run env c w (raws.map .country)).1 .telephony := by
  have hone := run_telephony env' c w ([raw].map .country)
  have hall := run_telephony env c w (raws.map .country)
  rw [supplies_countries, foldl_resolveTelephony] at hone hall
  have hdated := dated_of_countries env c w (List.ne_nil_of_mem hraws.mem)
  have hdated' := dated_of_countries env' c w (List.cons_ne_nil raw [])
  exact ⟨hone.trans ((hraws.latest_eq w.state.telephony).symm.trans hall.symm),
    hdated'.trans hdated.symm⟩

/-- As long as the subsystem is not ready, nobody is called and the driver's side stays as it is.
What the next call does that says it is ready does not depend on how operations on different parts
were mixed, in particular not on any reordering that keeps the order within each part, nor on how
often it was said that the subsystem is not ready. All telephony calls count like a single one. -/
theorem deferred_of_unready (env : Environment ι κ σ) (clock : Nat → Nat) (c : Controller)
    (w : World ι κ σ) (hready : w.state.ready = false) (ops : List (Operation ι κ σ))
    (hops : Deferring ops) :
    Frozen w (run env c w ops) ∧
      ∀ ops', Deferring ops' → (∀ p, p ≠ .telephony → onPart p ops' = onPart p ops) →
        (onPart .telephony ops' = onPart .telephony ops ∨
          ∃ raws raw, onPart .telephony ops = raws.map .country ∧
            Coalesces c.revertOnLoss raws raw ∧ onPart .telephony ops' = [.country raw]) →
        (step (env.withClock clock) c (run (env.withClock clock) c w ops').1
            (.ready true)).timeless =
          (step env c (run env c w ops).1 (.ready true)).timeless := by
  have hfrozen := run_deferred env c hready hops
  refine ⟨hfrozen, fun ops' hops' hothers htelephony => ?_⟩
  have hfrozen' := run_deferred (env.withClock clock) c hready hops'
  have hagrees (p : Part) :
      (run (env.withClock clock) c w ops').1.Agrees (run env c w ops).1 p := by
    -- Each run comes, in this part, to where the operations on it alone lead.
    have hrun := run_agrees env env c hready hready hops (World.Agrees.refl w p)
    have hrun' := run_agrees (env.withClock clock) env c hready hready hops'
      (World.Agrees.refl w p)
    have hsame (heq : onPart p ops' = onPart p ops) :
        (run (env.withClock clock) c w ops').1.Agrees (run env c w ops).1 p := by
      rw [heq] at hrun'
      exact hrun'.trans hrun.symm
    by_cases hp : p = .telephony
    · subst hp
      obtain heq | ⟨raws, raw, hraws, hcoalesces, hraw⟩ := htelephony
      · exact hsame heq
      · rw [hraws] at hrun
        rw [hraw] at hrun'
        exact (hrun'.trans (telephony_agrees env env c w hcoalesces)).trans hrun.symm
    · exact hsame (hothers p hp)
  have hworlds := timeless_undated_eq hfrozen hfrozen' fun p => (hagrees p).symm
  have hstep := step_clock env clock c hworlds (.ready true)
  rw [step_undated, step_undated] at hstep
  exact hstep.symm

/-- A controller that was ready and adopted a code from the network. While it is not ready, a code
is supplied and withdrawn in vain, an interface is added and its like taken away, and the network's
answer changes. -/
theorem deferred_of_mixed_operations :
    (run Fleet.environment sampleController sampleWorld
        [.ready true, .ready false]).1.state.ready = false ∧
      Deferring ([.country "de", .add ⟨none, { name := "wlan1" }⟩, .listen ⟨0, true⟩, .country " ",
        .network (some "fr"), .remove "wlan0"] : List Fleet.Operation) ∧
      Deferring ([.ready false, .listen ⟨0, true⟩, .add ⟨none, { name := "wlan1" }⟩,
        .network (some "fr"), .remove "wlan0", .country "de"] : List Fleet.Operation) ∧
      Coalesces false ["de", " "] "de" ∧
      (step (Fleet.environment.withClock fun n => n) sampleController
          (run (Fleet.environment.withClock fun n => n) sampleController
            (run Fleet.environment sampleController sampleWorld [.ready true, .ready false]).1
            [.ready false, .listen ⟨0, true⟩, .add ⟨none, { name := "wlan1" }⟩,
              .network (some "fr"), .remove "wlan0", .country "de"]).1 (.ready true)).timeless =
        (step Fleet.environment sampleController
          (run Fleet.environment sampleController
            (run Fleet.environment sampleController sampleWorld [.ready true, .ready false]).1
            [.country "de", .add ⟨none, { name := "wlan1" }⟩, .listen ⟨0, true⟩, .country " ",
              .network (some "fr"), .remove "wlan0"]).1 (.ready true)).timeless := by
  have hcoalesces : Coalesces false ["de", " "] "de" := .latestCode (by decide)
  refine ⟨by decide, by decide, by decide, hcoalesces,
    (deferred_of_unready _ _ _ _ (by decide) _ (by decide)).2 _ (by decide) ?_
      (.inr ⟨_, _, rfl, hcoalesces, rfl⟩)⟩
  intro p hp
  cases p with
  | telephony => exact absurd rfl hp
  | fleet | listeners | network => rfl

end Controller

end Regulatory
