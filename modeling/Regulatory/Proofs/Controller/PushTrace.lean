import Regulatory.Proofs.Controller.History

/-!
Which pushes a run makes. `pushTrace_of_calm` lists them from the operations alone, and gives what
each interface received and what the driver's code is in terms of that list.
-/

namespace Regulatory.Controller

variable {ι κ σ : Type} [Named ι]

/-- A push: what the registry held when it started, and the code that was offered. -/
structure Push (ι : Type) where
  entries : List ι
  code : CountryCode

/-- The pushes that the calls of a history owe, when `ready` is the readiness recorded before them.
A push offers the code that is active when the call is over. -/
def duePushes (c : Controller) (ready : Bool) : List (Record ι κ σ) → List (Push ι)
  | [] => []
  | r :: rest =>
    (if r.operation.pushes ready then
      [⟨r.before.registry.entries, c.active r.call.world.state⟩] else []) ++
      duePushes c (r.operation.readiness?.getD ready) rest

/-- A call pushes once and in full if that is due, and otherwise not at all. -/
structure Record.PushesIf (c : Controller) (due : Bool) (r : Record ι κ σ) : Prop where
  listings : r.call.trace.listings = if due then [r.before.registry.entries] else []
  offers : r.call.trace.offers =
    if due then r.before.registry.entries.map (·, c.active r.call.world.state) else []
  driver : r.call.world.state.driver =
    if due then some (c.active r.call.world.state) else r.before.state.driver
  report : (r.call.world.state.lastPush.map fun p => (p.code, p.attempted)) =
    if due then some (c.active r.call.world.state, r.before.registry.entries.length)
    else r.before.state.lastPush.map fun p => (p.code, p.attempted)

theorem pushesIf_of_returned (env : Environment ι κ σ) (c : Controller) (w : World ι κ σ)
    (op : Operation ι κ σ) (hreturned : (step env c w op).result ≠ none) :
    Record.PushesIf c (op.pushes w.state.ready) ⟨w, op, step env c w op⟩ := by
  obtain ⟨hoffers, _, hlistings⟩ := stage_calls env c w op
  obtain ⟨hdriver, _, hreport⟩ := stage_undriven env c w op
  cases hpush : op.pushes w.state.ready with
  | false =>
    rw [step_of_not_pushes env c w op hpush]
    exact ⟨hlistings, hoffers, hdriver, congrArg _ hreport⟩
  | true =>
    rw [step_of_pushes env c w op hpush] at hreturned ⊢
    have hpushed : (push env c (stage env c w op).1).result ≠ none := by
      intro hnone
      exact hreturned (congrArg (Option.map _) hnone)
    obtain ⟨hlisted, hoffered, hworld⟩ := push_returned env c (stage env c w op).1 hpushed
    obtain ⟨hregistry, _, _⟩ := stage_surroundings env c w op hpush
    rw [hregistry] at hlisted hoffered
    have hactive : c.active (push env c (stage env c w op).1).world.state =
        c.active (stage env c w op).1.state := by rw [hworld]; rfl
    constructor
    · change Trace.listings (_ ++ _) = _
      rw [Trace.listings_append, hlistings, hlisted]
      rfl
    · change Trace.offers (_ ++ _) = List.map (·, c.active (push env c _).world.state) _
      rw [Trace.offers_append, hoffers, hoffered, hactive]
      rfl
    · change (push env c _).world.state.driver = some (c.active (push env c _).world.state)
      rw [hactive, hworld]
      rfl
    · change (push env c _).world.state.lastPush.map _ =
        some (c.active (push env c _).world.state, _)
      rw [hactive, hworld, ← hregistry]
      rfl

/-- In a calm run offers and readings of the registry come from the pushes that are due, in order,
and from nothing else. -/
theorem trace_of_calm (env : Environment ι κ σ) (c : Controller) (w : World ι κ σ)
    (ops : List (Operation ι κ σ)) (hcalm : Calm env c w ops) :
    (run env c w ops).2.offers =
        (duePushes c w.state.ready (history env c w ops)).flatMap
          (fun p => p.entries.map (·, p.code)) ∧
      (run env c w ops).1.state.driver =
        ((duePushes c w.state.ready (history env c w ops)).getLast?.map Push.code).or
          w.state.driver := by
  induction ops generalizing w with
  | nil => exact ⟨rfl, rfl⟩
  | cons op rest ih =>
    obtain ⟨hreturned, hrest⟩ := hcalm.tail
    have hcall := pushesIf_of_returned env c w op hreturned
    obtain ⟨hoffers, hdriver⟩ := ih (step env c w op).world hrest
    -- `duePushes` carries the recorded readiness along, just as the state does.
    rw [step_ready] at hoffers hdriver
    have hoffered : (step env c w op).trace.offers = _ := hcall.offers
    have hdriven : (step env c w op).world.state.driver = _ := hcall.driver
    simp only [run, history, duePushes, Trace.offers_append, List.flatMap_append, hoffers, hdriver,
      hoffered, hdriven]
    cases op.pushes w.state.ready with
    | false => exact ⟨rfl, rfl⟩
    | true =>
      refine ⟨by simp only [if_true, List.flatMap_cons, List.flatMap_nil, List.append_nil], ?_⟩
      simp only [if_true, List.singleton_append, List.getLast?_cons]
      cases (duePushes c _ (history env c _ rest)).getLast? <;> rfl

omit [Named ι] in
/-- What one interface receives from a push: the code, once for each of its entries. -/
theorem filterMap_offers [DecidableEq ι] (entries : List ι) (code : CountryCode) (i : ι) :
    ((entries.map (·, code)).filterMap fun o => if o.1 = i then some o.2 else none) =
      List.replicate (entries.count i) code := by
  induction entries with
  | nil => rfl
  | cons j rest ih =>
    by_cases hij : j = i
    · simp [hij, ih, List.replicate_succ]
    · simp [hij, ih]

/-- Pushes happen as they are due, call by call and over a whole run. -/
structure PushTrace [DecidableEq ι] (env : Environment ι κ σ) (c : Controller)
    (w : World ι κ σ) (ops : List (Operation ι κ σ)) : Prop where
  /-- Each call pushes if it says that the subsystem is ready, or if it brings a telephony code
  while the last readiness call before it said so. -/
  each : ∀ n (r : Record ι κ σ), (history env c w ops)[n]? = some r →
    r.PushesIf c (r.operation.pushes (told (ops.take n)))
  received : ∀ i, (run env c w ops).2.received i =
    (duePushes c false (history env c w ops)).flatMap fun p =>
      List.replicate (p.entries.count i) p.code
  /-- After every call the driver's code is that of the last push. -/
  driver : ∀ n, (run env c w (ops.take n)).1.state.driver =
    (duePushes c false ((history env c w ops).take n)).getLast?.map Push.code

/-- A new controller pushes exactly as it should as long as nobody panics. Interfaces may fail and
may change the registry while they are called; no law is asked of them. -/
theorem pushTrace_of_calm [DecidableEq ι] (env : Environment ι κ σ) (c : Controller)
    (registry : Registry ι) (network : Option (Option String)) (outside : σ)
    (ops : List (Operation ι κ σ)) (hcalm : Calm env c (start registry network outside) ops) :
    PushTrace env c (start registry network outside) ops := by
  constructor
  · intro n r hr
    have hreturned := hcalm r (List.mem_of_getElem? hr)
    rw [history_getElem?, Option.map_eq_some_iff] at hr
    obtain ⟨op, _, rfl⟩ := hr
    have hcall := pushesIf_of_returned env c _ op hreturned
    rw [run_start_ready] at hcall
    exact hcall
  · intro i
    obtain ⟨hoffers, _⟩ := trace_of_calm env c (start registry network outside) ops hcalm
    rw [Trace.received, hoffers, List.filterMap_flatMap]
    simp only [filterMap_offers]
    rfl
  · intro n
    have hcalmTake : Calm env c (start registry network outside) (ops.take n) := by
      intro r hr
      rw [← history_take] at hr
      exact hcalm r (List.mem_of_mem_take hr)
    obtain ⟨_, hdriver⟩ := trace_of_calm env c (start registry network outside) _ hcalmTake
    rw [hdriver, history_take]
    exact Option.or_none

/-- An interface that refuses every code, adds a sibling and takes itself off the registry; a
withdrawal that is ignored; and readiness said twice. -/
theorem pushTrace_of_restless_registry :
    Calm Fleet.environment sampleController sampleWorld
        [.country "de", .listen ⟨0, false⟩, .ready true, .add ⟨none, { name := "wlan1" }⟩,
          .country " ", .ready true] ∧
      PushTrace Fleet.environment sampleController sampleWorld
        [.country "de", .listen ⟨0, false⟩, .ready true, .add ⟨none, { name := "wlan1" }⟩,
          .country " ", .ready true] :=
  ⟨by decide, pushTrace_of_calm _ _ _ _ _ _ (by decide)⟩

end Regulatory.Controller
