import Regulatory.Proofs.Controller.LiveRegistry
import Regulatory.Proofs.Registry

/-!
A registry that is shared: the controller pushes to its entries, interfaces change it as they are
called, and others change it between the calls or read it and keep the list.
-/

namespace Regulatory.Controller

variable {ι κ σ : Type} [Named ι]

theorem offerAll_leads (env : Environment ι κ σ) (code : CountryCode) (entries : List ι)
    (registry : Registry ι) (outside : σ) :
    (offerAll env code entries registry outside).trace.Leads registry
      (offerAll env code entries registry outside).registry := by
  induction entries generalizing registry outside with
  | nil => exact .nil registry
  | cons i rest ih =>
    have hseen : Trace.Leads
        (.offered i code :: (registry.perform (env.apply i code outside).1.actions).2 : Trace ι κ)
        registry (registry.perform (κ := κ) (env.apply i code outside).1.actions).1 :=
      .cons (.offered i code) (registry.perform_leads _)
    rw [offerAll]
    cases (env.apply i code outside).1.outcome with
    | panicked => exact hseen
    | applied | failed _ => exact hseen.append ((ih _ _).logged _)

/-- Listeners have nothing to do with the registry. -/
theorem notifyAll_leads (env : Environment ι κ σ) (code : CountryCode) (listeners : List κ)
    (outside : σ) (r : Registry ι) :
    (notifyAll env code listeners outside : Notification ι κ σ).trace.Leads r r := by
  induction listeners generalizing outside with
  | nil => exact .nil r
  | cons l rest ih =>
    rw [notifyAll]
    split
    · exact .cons (.notified l code) (ih _)
    · exact .cons (.notified l code) (.nil r)

theorem push_leads (env : Environment ι κ σ) (c : Controller) (w : World ι κ σ) :
    (push env c w).trace.Leads w.registry (push env c w).world.registry := by
  have hcut : (cutTrace env c w).Leads w.registry (offering env c w).registry :=
    .cons .listed (offerAll_leads env _ _ _ _)
  have htold : (telling env c w).trace.Leads (offering env c w).registry
      (offering env c w).registry := by
    unfold telling
    split
    · exact .nil _
    · exact notifyAll_leads env _ _ _ _
  have hend := push_ends env c w
  generalize push env c w = p at hend ⊢
  cases hend with
  | cut _ => exact hcut
  | unheard _ _ | done _ _ => exact hcut.append (htold.logged _)

theorem stage_leads (env : Environment ι κ σ) (c : Controller) (w : World ι κ σ)
    (op : Operation ι κ σ) :
    (stage env c w op).2.Leads w.registry (stage env c w op).1.registry := by
  cases op with
  | ready value =>
    cases value with
    | false => exact (Trace.Leads.nil w.registry).logged _
    | true =>
      have hend := probe_ends env (marked env true w)
      simp only [stage, if_true]
      refine Trace.Leads.logged ?_ _
      generalize probe env (marked env true w) = probed at hend ⊢
      cases hend with
      | unasked _ => exact .nil w.registry
      | blank _ _ _ _ => exact .cons .queried (.nil w.registry)
      | adopted _ _ _ _ _ => exact .cons .queried ((Trace.Leads.nil w.registry).logged _)
  | country raw =>
    simp only [stage]
    refine Trace.Leads.logged ?_ _
    split
    · exact .nil w.registry
    · exact (Trace.Leads.nil w.registry).logged _
  | add i => exact w.registry.additionTrace_leads i
  | remove name => exact w.registry.removalTrace_leads name
  | adjust _ | network _ | listen _ => exact .nil _

/-- What is seen of a call accounts for all that it makes of the registry, even if it panics. -/
theorem step_leads (env : Environment ι κ σ) (c : Controller) (w : World ι κ σ)
    (op : Operation ι κ σ) :
    (step env c w op).trace.Leads w.registry (step env c w op).world.registry := by
  have hstage := stage_leads env c w op
  cases hpush : op.pushes w.state.ready with
  | false =>
    rw [step_of_not_pushes env c w op hpush]
    exact hstage
  | true =>
    rw [step_of_pushes env c w op hpush]
    exact hstage.append (push_leads env c _)

/-- An operation on the registry itself is an action that nobody else has a part in. -/
theorem step_of_action (env : Environment ι κ σ) (c : Controller) (w : World ι κ σ)
    {op : Operation ι κ σ} {x : Action ι} (hx : op.action? = some x) :
    (step env c w op).world =
        { w with registry := (w.registry.perform (κ := κ) [x]).1 } ∧
      (step env c w op).trace = (w.registry.perform [x]).2 := by
  cases op with
  | add i =>
    obtain rfl : Action.add i = x := Option.some.inj hx
    exact ⟨rfl, (List.append_nil _).symm⟩
  | remove name =>
    obtain rfl : Action.remove name = x := Option.some.inj hx
    exact ⟨rfl, (List.append_nil _).symm⟩
  | ready _ | country _ | adjust _ | network _ | listen _ => cases hx

/-- What goes on around a registry: operations, and others who read it and keep the list. -/
inductive Activity (ι κ σ : Type) where
  | operate (op : Operation ι κ σ)
  | hold

def Activity.operation? : Activity ι κ σ → Option (Operation ι κ σ)
  | .operate op => some op
  | .hold => none

/-- A world with the lists that have been kept, oldest first. -/
structure Keeping (ι κ σ : Type) where
  world : World ι κ σ
  lists : List (List ι) := []

namespace Keeping

def step (env : Environment ι κ σ) (c : Controller) (k : Keeping ι κ σ) :
    Activity ι κ σ → Keeping ι κ σ × Trace ι κ
  | .operate op =>
    let call := Controller.step env c k.world op
    ({ k with world := call.world }, call.trace)
  | .hold =>
    let entries := k.world.registry.entries
    ({ k with lists := k.lists ++ [entries] }, [.listed entries])

def run (env : Environment ι κ σ) (c : Controller) (k : Keeping ι κ σ) :
    List (Activity ι κ σ) → Keeping ι κ σ × Trace ι κ
  | [] => (k, [])
  | a :: rest =>
    let next := k.step env c a
    let later := next.1.run env c rest
    (later.1, next.2 ++ later.2)

theorem run_append (env : Environment ι κ σ) (c : Controller) (k : Keeping ι κ σ)
    (activities later : List (Activity ι κ σ)) :
    k.run env c (activities ++ later) =
      (((k.run env c activities).1.run env c later).1,
        (k.run env c activities).2 ++ ((k.run env c activities).1.run env c later).2) := by
  induction activities generalizing k with
  | nil => rfl
  | cons a rest ih => simp only [List.cons_append, run, ih, List.append_assoc]

theorem run_leads (env : Environment ι κ σ) (c : Controller) (k : Keeping ι κ σ)
    (activities : List (Activity ι κ σ)) :
    (k.run env c activities).2.Leads k.world.registry
      (k.run env c activities).1.world.registry := by
  induction activities generalizing k with
  | nil => exact .nil _
  | cons a rest ih =>
    have hstep : (k.step env c a).2.Leads k.world.registry (k.step env c a).1.world.registry := by
      cases a with
      | operate op => exact step_leads env c k.world op
      | hold => exact .cons .listed (.nil _)
    exact hstep.append (ih _)

/-- What has been kept stays as it is. -/
theorem lists_prefix (env : Environment ι κ σ) (c : Controller) (k : Keeping ι κ σ)
    (activities : List (Activity ι κ σ)) : k.lists <+: (k.run env c activities).1.lists := by
  induction activities generalizing k with
  | nil => exact List.prefix_refl _
  | cons a rest ih =>
    have hstep : k.lists <+: (k.step env c a).1.lists := by
      cases a with
      | operate _ => exact List.prefix_refl _
      | hold => exact List.prefix_append _ _
    exact hstep.trans (ih _)

/-- Nobody else notices that the registry is read and its list kept. -/
theorem run_world (env : Environment ι κ σ) (c : Controller) (k : Keeping ι κ σ)
    (activities : List (Activity ι κ σ)) :
    (k.run env c activities).1.world =
      (Controller.run env c k.world (activities.filterMap Activity.operation?)).1 := by
  induction activities generalizing k with
  | nil => rfl
  | cons a rest ih =>
    cases a with
    | operate op => exact ih _
    | hold => exact ih _

/-- Two operations on the registry, one after the other. -/
theorem run_pair (env : Environment ι κ σ) (c : Controller) (k : Keeping ι κ σ)
    {op op' : Operation ι κ σ} {x y : Action ι} (hx : op.action? = some x)
    (hy : op'.action? = some y) :
    k.run env c [.operate op, .operate op'] =
      ({ k with world := { k.world with
          registry := (k.world.registry.perform (κ := κ) [x, y]).1 } },
        (k.world.registry.perform [x, y]).2) := by
  obtain ⟨hworld, htrace⟩ := step_of_action env c k.world hx
  obtain ⟨hworld', htrace'⟩ := step_of_action env c (Controller.step env c k.world op).world hy
  have hperform := k.world.registry.perform_append (κ := κ) [x] [y]
  rw [hworld] at hworld' htrace'
  simp only [run, step, hworld, htrace, hworld', htrace', List.append_nil]
  rw [List.singleton_append] at hperform
  rw [hperform]

/-- Two operations in a row that are about different names can change places. The rest of the run
goes on as before. -/
theorem run_swap (env : Environment ι κ σ) (c : Controller) (k : Keeping ι κ σ)
    (before after : List (Activity ι κ σ)) {name : String} {op : Operation ι κ σ} {x : Action ι}
    (hop : op.action? = some x) (hx : x.Spares name) :
    (k.run env c (before ++ .operate (.remove name) :: .operate op :: after)).1 =
        (k.run env c (before ++ .operate op :: .operate (.remove name) :: after)).1 ∧
      (k.run env c (before ++ .operate (.remove name) :: .operate op :: after)).2.SameCounts
        (k.run env c (before ++ .operate op :: .operate (.remove name) :: after)).2 := by
  have hremove : (Operation.remove name : Operation ι κ σ).action? = some (.remove name) := rfl
  obtain ⟨hregistry, hcounts⟩ :=
    (k.run env c before).1.world.registry.perform_pair (κ := κ) hx
  have hsplit (a b : Activity ι κ σ) : before ++ a :: b :: after = before ++ ([a, b] ++ after) :=
    rfl
  rw [hsplit, hsplit]
  simp only [run_append env c k before, run_append env c _ [_, _] after,
    run_pair env c _ hremove hop, run_pair env c _ hop hremove, hregistry]
  exact ⟨trivial, (Trace.SameCounts.refl _).append (hcounts.append (.refl _))⟩

/-- A registry that nobody has added to yet. -/
def start (network : Option (Option String)) (outside : σ) : Keeping ι κ σ where
  world := Controller.start ∅ network outside

theorem start_tallies (env : Environment ι κ σ) (c : Controller) (network : Option (Option String))
    (outside : σ) (activities : List (Activity ι κ σ)) :
    ((start network outside).run env c activities).1.world.registry.Tallies
      ((start network outside).run env c activities).2 :=
  (run_leads env c (start network outside) activities).tallies

/-- What is to be said of a registry that is shared in a run. Interfaces may do to it what they like
when they are called, and any of them or of the listeners may panic. -/
structure Accounted (env : Environment ι κ σ) (c : Controller) (k : Keeping ι κ σ)
    (activities : List (Activity ι κ σ)) : Prop where
  inventory : (k.run env c activities).1.world.registry.Inventory (k.run env c activities).2
  /-- A removal tells whoever asked for it how many entries of the name there were. -/
  answered : ∀ before name after, activities = before ++ .operate (.remove name) :: after →
    (Controller.step env c (k.run env c before).1.world (.remove name)).result =
      some (.removed ((k.run env c before).2.survivors.countP fun i => Named.name i == name))
  /-- A push goes through the list that it has read, be it changed meanwhile or not, up to the first
  interface that panics. -/
  pushed : ∀ before op after, activities = before ++ .operate op :: after →
    op.pushes (k.run env c before).1.world.state.ready = true →
      (Controller.step env c (k.run env c before).1.world op).trace.offers.map Prod.fst =
        upTo (k.run env c before).2.survivors (Record.interfacePanic env c
          ⟨(k.run env c before).1.world, op,
            Controller.step env c (k.run env c before).1.world op⟩)
  /-- A list that is kept shows the registry at that moment, and is still the same at the end of the
  run, as are those kept before. -/
  kept : ∀ before after, activities = before ++ .hold :: after →
    (k.run env c before).1.lists ++ [(k.run env c before).2.survivors] <+:
      (k.run env c activities).1.lists
  /-- Keeping lists is nothing that the controller or an interface could notice. -/
  unnoticed : (k.run env c activities).1.world =
    (Controller.run env c k.world (activities.filterMap Activity.operation?)).1
  /-- Two operations in a row that are about different names can change places. -/
  swapped : ∀ before after name op x, op.action? = some x → x.Spares name →
    activities = before ++ .operate (.remove name) :: .operate op :: after →
      (k.run env c activities).1 =
          (k.run env c (before ++ .operate op :: .operate (.remove name) :: after)).1 ∧
        (k.run env c activities).2.SameCounts
          (k.run env c (before ++ .operate op :: .operate (.remove name) :: after)).2

/-- The registry always holds what has been added to it and not been taken off since, and a list
that was read from it once stays what the registry held then. It makes no difference in which order
two names are dealt with, neither for those who operate the registry nor for an interface that acts
on it in the midst of a push. -/
theorem accounted_of_start (env : Environment ι κ σ) (c : Controller)
    (network : Option (Option String)) (outside : σ) (activities : List (Activity ι κ σ)) :
    Accounted env c (start network outside) activities ∧
      ∀ (r : Registry ι) (before after : List (Action ι)) name x, x.Spares name →
        (r.perform (κ := κ) (before ++ .remove name :: x :: after)).1 =
            (r.perform (κ := κ) (before ++ x :: .remove name :: after)).1 ∧
          ((r.perform (before ++ .remove name :: x :: after)).2 : Trace ι κ).SameCounts
            (r.perform (before ++ x :: .remove name :: after)).2 := by
  constructor
  · have hentries (before : List (Activity ι κ σ)) :=
      (start_tallies env c network outside before).entries
    constructor
    · exact (run_leads env c (start network outside) activities).inventory
    · rintro before name after rfl
      rw [← hentries before]
      rfl
    · rintro before op after rfl hpush
      obtain ⟨_, hoffers⟩ := step_offers env c _ op hpush
      rw [hoffers, List.map_map, ← hentries before]
      exact List.map_id _
    · rintro before after rfl
      rw [← hentries before, run_append]
      exact lists_prefix env c (step env c _ .hold).1 after
    · exact run_world env c _ activities
    · rintro before after name op x hop hx rfl
      exact run_swap env c _ before after hop hx
  · intro r before after name x hx
    exact r.perform_swap before after hx

/-- An interface that adds a sibling with each call and then takes itself off. -/
def fleeting : Fleet.Member :=
  ⟨some 0, { name := "wlan0", adds := some "ap0", removes := some "wlan0" }⟩

def plain (name : String) : Fleet.Member := ⟨none, { name := name }⟩

/-- The interface is under management twice, so that both entries are gone when a push has called
the first. Its siblings are taken off at the end, if they are still there. -/
def crowdedRun (middle : List (Activity Fleet.Member Fleet.Listener Fleet.Modes)) :
    List (Activity Fleet.Member Fleet.Listener Fleet.Modes) :=
  [.operate (.add fleeting), .operate (.add fleeting), .hold, .operate (.ready true)] ++
    (middle ++ [.operate (.remove "ap0"), .hold])

/-- Five additions stand against one entry and the counts of four removals. The list kept before the
push still has both entries. The siblings might as well be taken off after the addition that comes
next, and the interface might take itself off before it adds a sibling. -/
theorem accounted_of_crowdedRun :
    let k : Keeping Fleet.Member Fleet.Listener Fleet.Modes := start none [("wlan0", .ok)]
    let activities := crowdedRun [.operate (.remove "ap0"), .operate (.add (plain "wlan1"))]
    let seen := k.run Fleet.environment sampleController activities
    seen.1.world.registry.names = ["wlan1"] ∧
      seen.2.additions.map Named.name = ["wlan0", "wlan0", "ap0", "ap0", "wlan1"] ∧
      seen.2.removals = [("wlan0", 2), ("wlan0", 0), ("ap0", 2), ("ap0", 0)] ∧
      seen.1.lists.map (·.map Named.name) = [["wlan0", "wlan0"], ["wlan1"]] ∧
      Accounted Fleet.environment sampleController k activities ∧
      seen.1 = (k.run Fleet.environment sampleController
        (crowdedRun [.operate (.add (plain "wlan1")), .operate (.remove "ap0")])).1 ∧
      ((⟨[fleeting]⟩ : Registry Fleet.Member).perform (κ := Fleet.Listener)
          [.remove "wlan0", .add (plain "ap0")]).1 =
        ((⟨[fleeting]⟩ : Registry Fleet.Member).perform (κ := Fleet.Listener)
          fleeting.setup.actions).1 := by
  intro k activities seen
  obtain ⟨haccounted, hperform⟩ := accounted_of_start (ι := Fleet.Member) Fleet.environment
    sampleController none [("wlan0", .ok)] activities
  refine ⟨by decide, by decide, by decide, by decide, haccounted, ?_, ?_⟩
  · exact (haccounted.swapped _ _ "ap0" _ _ rfl (.add _ (by decide)) rfl).1
  · exact (hperform ⟨[fleeting]⟩ [] [] "wlan0" _ (.add _ (by decide))).1

end Keeping

end Regulatory.Controller
