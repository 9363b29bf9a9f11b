import Regulatory.Proofs.Controller.LiveRegistry
import Regulatory.Proofs.Controller.Notification
import Regulatory.Proofs.Controller.Telephony

/-!
How the network source is used: when it is asked, what becomes of its answers, and that an answer
which nobody asks for has no part in a run.
-/

namespace Regulatory.Controller

variable {ι κ σ α : Type} [Named ι]

/-- Whether a call asks the network source: it says that the subsystem is ready, there is no
telephony code, and a source is attached. -/
def Record.asks (r : Record ι κ σ) : Bool :=
  match r.operation with
  | .ready true => r.before.state.telephony.isNone && r.before.network.isSome
  | _ => false

omit [Named ι] in
theorem Record.asks_iff (r : Record ι κ σ) :
    r.asks = true ↔ r.operation = .ready true ∧ r.before.state.telephony = none ∧
      r.before.network ≠ none := by
  unfold Record.asks
  split
  · rename_i hop
    simp [hop, Option.isSome_iff_ne_none]
  · rename_i hop
    refine iff_of_false Bool.false_ne_true ?_
    rintro ⟨hready, _⟩
    exact hop hready

omit [Named ι] in
/-- What is consulted in a readiness call depends on nothing but whether the call asks. -/
theorem probe_queries (env : Environment ι κ σ) (w : World ι κ σ) (call : Call ι κ σ Answer) :
    if Record.asks ⟨w, .ready true, call⟩ then
      ∃ seen : Trace ι κ, (probe env (marked env true w)).2 = .queried :: seen ∧ seen.Quiet
    else probe env (marked env true w) = (marked env true w, []) := by
  have hend := probe_ends env (marked env true w)
  generalize probe env (marked env true w) = probed at hend ⊢
  cases hend with
  | unasked hneedless =>
    rw [if_neg]
    rw [Record.asks_iff]
    rintro ⟨_, hnone, hsource⟩
    exact hneedless.elim (absurd hnone) hsource
  | blank answer hnone hnetwork _ =>
    rw [if_pos]
    · exact ⟨[], rfl, .nil⟩
    · rw [Record.asks_iff]
      exact ⟨rfl, hnone, fun h => Option.some_ne_none answer (hnetwork.symm.trans h)⟩
  | adopted answer code hnone hnetwork _ =>
    rw [if_pos]
    · exact ⟨_, rfl, Trace.Calls.nil.logged _⟩
    · rw [Record.asks_iff]
      exact ⟨rfl, hnone, fun h => Option.some_ne_none answer (hnetwork.symm.trans h)⟩

/-- A call that asks does so at once, and calls nobody else before its push. -/
theorem stage_of_asks (env : Environment ι κ σ) (c : Controller) {w : World ι κ σ}
    {op : Operation ι κ σ} {call : Call ι κ σ Answer} (hasks : Record.asks ⟨w, op, call⟩ = true) :
    ∃ seen : Trace ι κ,
      (stage env c w op).2 = .logged (.readinessUpdated true) :: .queried :: seen ∧
        seen.Quiet := by
  obtain ⟨rfl, _⟩ := (Record.asks_iff _).1 hasks
  have hprobe := probe_queries env w call
  rw [if_pos hasks] at hprobe
  obtain ⟨seen, hseen, hquiet⟩ := hprobe
  exact ⟨seen, congrArg (_ :: ·) hseen, hquiet⟩

theorem stage_of_not_asks (env : Environment ι κ σ) (c : Controller) {w : World ι κ σ}
    {op : Operation ι κ σ} {call : Call ι κ σ Answer} (hasks : Record.asks ⟨w, op, call⟩ = false) :
    (stage env c w op).2.Quiet := by
  by_cases hop : op.readiness? = some true
  · obtain rfl : op = .ready true := by
      cases op with
      | ready value => exact congrArg _ (Option.some.inj hop)
      | country _ | add _ | remove _ | adjust _ | network _ | listen _ => cases hop
    have hprobe := probe_queries env w call
    rw [if_neg (by simp [hasks])] at hprobe
    change Trace.Quiet (_ :: (probe env (marked env true w)).2)
    rw [hprobe]
    exact Trace.Calls.nil.logged _
  · exact stage_quiet env c w hop

/-- Behind the part of a call that comes before the push, nobody asks the network source. -/
theorem step_trace (env : Environment ι κ σ) (c : Controller) (w : World ι κ σ)
    (op : Operation ι κ σ) :
    ∃ pushed : Trace ι κ,
      (step env c w op).trace = (stage env c w op).2 ++ pushed ∧ pushed.queries = 0 := by
  cases hpush : op.pushes w.state.ready with
  | true =>
    obtain ⟨seen, _, _, htrace, hcalls⟩ := push_calls env c (stage env c w op).1
    rw [step_of_pushes env c w op hpush]
    refine ⟨_, rfl, ?_⟩
    rw [htrace]
    exact hcalls.queries
  | false =>
    rw [step_of_not_pushes env c w op hpush]
    exact ⟨[], (List.append_nil _).symm, rfl⟩

theorem step_queries (env : Environment ι κ σ) (c : Controller) (w : World ι κ σ)
    (op : Operation ι κ σ) :
    (step env c w op).trace.queries =
      if Record.asks ⟨w, op, step env c w op⟩ then 1 else 0 := by
  obtain ⟨pushed, htrace, hpushed⟩ := step_trace env c w op
  rw [htrace, Trace.queries_append, hpushed, Nat.add_zero]
  cases hasks : Record.asks ⟨w, op, step env c w op⟩ with
  | true =>
    obtain ⟨seen, hseen, hquiet⟩ := stage_of_asks env c hasks
    rw [hseen]
    change Trace.queries ([_, .queried] ++ seen) = 1
    rw [Trace.queries_append, hquiet.queries]
    rfl
  | false => exact (stage_of_not_asks env c hasks).queries

/-- Only telephony itself takes a telephony code away, or replaces it. -/
theorem step_stored (env : Environment ι κ σ) (c : Controller) {w : World ι κ σ}
    {op : Operation ι κ σ} {code : CountryCode} (hstored : w.state.telephony = some code)
    (hop : ∀ raw, op ≠ .country raw) :
    (step env c w op).world.state.telephony = some code := by
  have hsupply : Record.supply? ⟨w, op, step env c w op⟩ = none := by
    cases op with
    | ready value => cases value <;> simp [Record.supply?, hstored]
    | country raw => exact absurd rfl (hop raw)
    | add _ | remove _ | adjust _ | network _ | listen _ => rfl
  rw [step_telephony, hsupply]
  exact hstored

theorem run_stored (env : Environment ι κ σ) (c : Controller) {w : World ι κ σ}
    {ops : List (Operation ι κ σ)} {code : CountryCode} (hstored : w.state.telephony = some code)
    (hops : ∀ op ∈ ops, ∀ raw, op ≠ .country raw) :
    (run env c w ops).1.state.telephony = some code := by
  induction ops generalizing w with
  | nil => exact hstored
  | cons op rest ih =>
    obtain ⟨hop, hrest⟩ := List.forall_mem_cons.1 hops
    exact ih (step_stored env c hstored hop) hrest

/-- Without reverting on loss, a controller that has a telephony code keeps having one. -/
theorem step_telephony_ne_none (env : Environment ι κ σ) {c : Controller}
    (hkeeps : c.revertOnLoss = false) {w : World ι κ σ} (hsome : w.state.telephony ≠ none)
    (op : Operation ι κ σ) : (step env c w op).world.state.telephony ≠ none := by
  rw [step_telephony, hkeeps]
  cases Record.supply? ⟨w, op, step env c w op⟩ with
  | none => exact hsome
  | some incoming =>
    cases incoming with
    | none => exact hsome
    | some code => exact Option.some_ne_none code

theorem run_telephony_ne_none (env : Environment ι κ σ) {c : Controller}
    (hkeeps : c.revertOnLoss = false) {w : World ι κ σ} (hsome : w.state.telephony ≠ none)
    (ops : List (Operation ι κ σ)) : (run env c w ops).1.state.telephony ≠ none := by
  induction ops generalizing w with
  | nil => exact hsome
  | cons op rest ih => exact ih (step_telephony_ne_none env hkeeps hsome op)

/-- What shows of a call that pushes a code which it leaves as the telephony code. Whoever panics,
no other code is offered, and nobody is told of another one. -/
structure Record.Pushes (env : Environment ι κ σ) (c : Controller) (code : CountryCode)
    (r : Record ι κ σ) : Prop where
  stored : r.call.world.state.telephony = some code
  listings : r.call.trace.listings = [r.before.registry.entries]
  offers : r.call.trace.offers =
    (upTo r.before.registry.entries (r.interfacePanic env c)).map (·, code)
  notices : ∀ notice ∈ r.call.trace.notices, notice.2 = code
  driver : r.interfacePanic env c = none → r.call.world.state.driver = some code
  report : r.call.result ≠ none →
    (r.call.world.state.lastPush.map PushReport.code) = some code

/-- A country that the network reports is pushed in the call that asked for it. -/
theorem step_adopted (env : Environment ι κ σ) (c : Controller) {w : World ι κ σ}
    {op : Operation ι κ σ} {code : CountryCode}
    (hasks : Record.asks ⟨w, op, step env c w op⟩ = true)
    (hanswer : w.network.join.bind CountryCode.parse = some code) :
    Record.Pushes env c code ⟨w, op, step env c w op⟩ := by
  obtain ⟨hready, hnone, _⟩ := (Record.asks_iff _).1 hasks
  dsimp only at hready hnone
  have hpush : op.pushes w.state.ready = true := by rw [hready]; rfl
  have hstored : (step env c w op).world.state.telephony = some code := by
    rw [step_telephony, hready]
    simp [Record.supply?, hnone, hanswer, resolveTelephony]
  have hactive : c.active (step env c w op).world.state = code := by
    rw [active, hstored]
    rfl
  obtain ⟨hlistings, hoffers⟩ := step_offers env c w op hpush
  rw [hactive] at hoffers
  refine ⟨hstored, hlistings, hoffers, ?_, ?_, ?_⟩
  · obtain ⟨_, _, hnotices⟩ | ⟨told, hchange, _, _, hnotices⟩ := step_change env c w op
    · simp [hnotices]
    · obtain ⟨_, htold⟩ := Option.ite_none_right_eq_some.1 hchange
      obtain rfl : code = told := hactive.symm.trans (Option.some.inj htold)
      simp [hnotices]
  · intro hcalm
    rw [step_driver_eq, if_pos ⟨hpush, hcalm⟩, hactive]
  · intro hreturned
    obtain ⟨_, hstate⟩ := (step_of_returned env c w op hpush hreturned).state
    have hreport := congrArg State.lastPush hstate
    dsimp only at hreport ⊢
    rw [hreport, hactive]
    rfl

/-- Whether an operation does no more than change what the network source answers. -/
def Operation.isNetwork : Operation ι κ σ → Bool
  | .network _ => true
  | _ => false

/-- The calls of a history other than changes of the network's answer. -/
def calls (h : List (Record ι κ σ)) : List (Record ι κ σ) :=
  h.filter fun r => !r.operation.isNetwork

/-- A call as it shows to those who do not know what the network source would have answered. -/
def Record.withoutSource (r : Record ι κ σ) : Record ι κ σ :=
  { r with before := r.before.withNetwork none, call := r.call.withNetwork none }

/-- Without being asked the source has no part in what comes before a push. -/
theorem stage_withNetwork (env : Environment ι κ σ) (c : Controller) {w : World ι κ σ}
    {network : Option (Option String)} (hsource : network.isSome = w.network.isSome)
    {op : Operation ι κ σ} (hop : op.isNetwork = false) {call : Call ι κ σ Answer}
    (hasks : Record.asks ⟨w, op, call⟩ = false) :
    stage env c (w.withNetwork network) op =
      ((stage env c w op).1.withNetwork network, (stage env c w op).2) := by
  cases op with
  | ready value =>
    cases value with
    | false => rfl
    | true =>
      have hasks' : Record.asks ⟨w.withNetwork network, .ready true, call⟩ = false := by
        simpa only [Record.asks, World.withNetwork, hsource] using hasks
      have hprobe := probe_queries env w call
      have hprobe' := probe_queries env (w.withNetwork network) call
      rw [if_neg (by simp [hasks])] at hprobe
      rw [if_neg (by simp [hasks'])] at hprobe'
      simp only [stage, if_true, hprobe, hprobe']
      rfl
  | network _ => cases hop
  | country _ | add _ | remove _ | adjust _ | listen _ => rfl

/-- Only a change of the network's answer changes it. -/
theorem step_network_eq (env : Environment ι κ σ) (c : Controller) (w : World ι κ σ)
    {op : Operation ι κ σ} (hop : op.isNetwork = false) :
    (step env c w op).world.network = w.network := by
  rw [step_network]
  cases op with
  | ready value =>
    cases value with
    | false => rfl
    | true =>
      obtain ⟨_, _, _, hprobe⟩ := probe_keeps env (marked env true w)
      simp only [stage, if_true, hprobe]
      rfl
  | network _ => cases hop
  | country _ | add _ | remove _ | adjust _ | listen _ => rfl

/-- A call does the same if the source, where it is asked, answers the same. -/
theorem step_withNetwork (env : Environment ι κ σ) (c : Controller) {w : World ι κ σ}
    {network : Option (Option String)} (hsource : network.isSome = w.network.isSome)
    {op : Operation ι κ σ} (hop : op.isNetwork = false)
    (hheard : Record.asks ⟨w, op, step env c w op⟩ = true → network = w.network) :
    step env c (w.withNetwork network) op = (step env c w op).withNetwork network := by
  cases hasks : Record.asks ⟨w, op, step env c w op⟩ with
  | true =>
    rw [hheard hasks]
    have hnetwork := step_network_eq env c w hop
    change step env c w op = _
    rw [Call.withNetwork, World.withNetwork, ← hnetwork]
  | false =>
    have hstage := stage_withNetwork env c hsource hop hasks
    cases hpush : op.pushes w.state.ready with
    | true =>
      rw [step_of_pushes env c w op hpush,
        step_of_pushes env c (w.withNetwork network) op hpush, hstage, push_withNetwork]
      cases op <;> rfl
    | false =>
      rw [step_of_not_pushes env c w op hpush,
        step_of_not_pushes env c (w.withNetwork network) op hpush, hstage]
      cases op <;> rfl

/-- After changes of the network's answer a run goes on as from a world with another answer. The
changes themselves show to nobody. -/
theorem run_networks_append (env : Environment ι κ σ) (c : Controller) (w : World ι κ σ)
    (changes : List (Operation ι κ σ)) (hchanges : ∀ op ∈ changes, op.isNetwork = true) :
    ∃ network : Option (Option String), network.isSome = w.network.isSome ∧ ∀ later,
      run env c w (changes ++ later) = run env c (w.withNetwork network) later ∧
        calls (history env c w (changes ++ later)) =
          calls (history env c (w.withNetwork network) later) := by
  induction changes generalizing w with
  | nil => exact ⟨w.network, rfl, fun _ => ⟨rfl, rfl⟩⟩
  | cons op rest ih =>
    obtain ⟨hop, hrest⟩ := List.forall_mem_cons.1 hchanges
    cases op with
    | network answer =>
      obtain ⟨network, hsource, hlater⟩ :=
        ih (w.withNetwork (w.network.map fun _ => answer)) hrest
      exact ⟨network, hsource.trans (Option.isSome_map ..), hlater⟩
    | ready _ | country _ | add _ | remove _ | adjust _ | listen _ => cases hop

theorem calls_history_cons (env : Environment ι κ σ) (c : Controller) (w : World ι κ σ)
    {op : Operation ι κ σ} (hop : op.isNetwork = false) (rest : List (Operation ι κ σ)) :
    calls (history env c w (op :: rest)) =
      ⟨w, op, step env c w op⟩ :: calls (history env c (step env c w op).world rest) :=
  List.filter_cons_of_pos (by simp [hop])

/-- Runs of the same operations are the same if the network source answers the same where the first
of them asks it. -/
theorem run_unasked (env : Environment ι κ σ) (c : Controller) {w : World ι κ σ}
    {network : Option (Option String)} (hsource : network.isSome = w.network.isSome)
    {ops ops' : List (Operation ι κ σ)}
    (hops : (ops'.filter fun op => !op.isNetwork) = ops.filter fun op => !op.isNetwork)
    (hheard : List.Forall₂
      (fun r r' => r.call.trace.queries ≠ 0 → r'.before.network = r.before.network)
      (calls (history env c w ops)) (calls (history env c (w.withNetwork network) ops'))) :
    (calls (history env c (w.withNetwork network) ops')).map Record.withoutSource =
        (calls (history env c w ops)).map Record.withoutSource ∧
      (run env c (w.withNetwork network) ops').2 = (run env c w ops).2 ∧
      (run env c (w.withNetwork network) ops').1.withNetwork none =
        (run env c w ops).1.withNetwork none := by
  induction ops generalizing w network ops' with
  | nil =>
    obtain ⟨network', _, hskip⟩ := run_networks_append env c (w.withNetwork network) ops'
      (by simpa using hops)
    obtain ⟨hrun, hcalls⟩ := hskip []
    rw [List.append_nil] at hrun hcalls
    rw [hrun, hcalls]
    exact ⟨rfl, rfl, rfl⟩
  | cons op rest ih =>
    cases hop : op.isNetwork with
    | true =>
      cases op with
      | network answer =>
        exact ih (w := w.withNetwork (w.network.map fun _ => answer))
          (hsource.trans (Option.isSome_map ..).symm) hops hheard
      | ready _ | country _ | add _ | remove _ | adjust _ | listen _ => cases hop
    | false =>
      -- The second run comes to the same operation after some changes of the answer.
      rw [List.filter_cons_of_pos (by simp [hop])] at hops
      obtain ⟨changes, rest', rfl, hchanges, _, hrest⟩ := List.filter_eq_cons_iff.1 hops
      obtain ⟨network', hsource', hskip⟩ := run_networks_append env c (w.withNetwork network)
        changes (by simpa using hchanges)
      obtain ⟨hrun, hcalls⟩ := hskip (op :: rest')
      have hsame : network'.isSome = w.network.isSome := hsource'.trans hsource
      change _ = run env c (w.withNetwork network') (op :: rest') at hrun
      change _ = calls (history env c (w.withNetwork network') (op :: rest')) at hcalls
      rw [hcalls, calls_history_cons env c _ hop, calls_history_cons env c _ hop,
        List.forall₂_cons] at hheard
      obtain ⟨hfirst, hlater⟩ := hheard
      have hstep := step_withNetwork env c hsame hop fun hasks =>
        hfirst (by rw [step_queries, if_pos hasks]; exact Nat.one_ne_zero)
      rw [hstep] at hlater
      obtain ⟨hrecords, htrace, hworld⟩ := ih (w := (step env c w op).world)
        (hsame.trans (congrArg Option.isSome (step_network_eq env c w hop).symm)) hrest hlater
      rw [hrun, hcalls, calls_history_cons env c _ hop, calls_history_cons env c _ hop, run, run,
        hstep]
      exact ⟨congrArg (_ :: ·) hrecords, congrArg (_ ++ ·) htrace, hworld⟩

/-- How a run uses the network source. -/
structure Probing (env : Environment ι κ σ) (c : Controller) (w : World ι κ σ)
    (ops : List (Operation ι κ σ)) : Prop where
  /-- A call that wants a code asks once, before it reads the registry or calls anybody. -/
  asked : ∀ r ∈ history env c w ops, r.asks = true → ∃ earlier later : Trace ι κ,
    r.call.trace = earlier ++ .queried :: later ∧ earlier.Quiet ∧ later.queries = 0
  unasked : ∀ r ∈ history env c w ops, r.asks = false → r.call.trace.queries = 0
  /-- A code that there is gives way to nothing but telephony itself. -/
  kept : ∀ r ∈ history env c w ops, ∀ code, r.before.state.telephony = some code →
    (∀ raw, r.operation ≠ .country raw) → r.call.world.state.telephony = some code
  adopted : ∀ (n : Nat) (r : Record ι κ σ) (code : CountryCode),
    (history env c w ops)[n]? = some r → r.asks = true →
      r.before.network.join.bind CountryCode.parse = some code →
        r.Pushes env c code ∧ ∀ k,
          (∀ op ∈ (ops.drop (n + 1)).take k, ∀ raw, op ≠ .country raw) →
            (run env c w (ops.take (n + 1 + k))).1.state.telephony = some code
  /-- A controller that does not revert on loss never asks again once it has a code. -/
  settled : c.revertOnLoss = false → ∀ n, (run env c w (ops.take n)).1.state.telephony ≠ none →
    ∀ (m : Nat) (r : Record ι κ σ), n ≤ m → (history env c w ops)[m]? = some r →
      r.call.trace.queries = 0

theorem run_take_add (env : Environment ι κ σ) (c : Controller) (w : World ι κ σ)
    (ops : List (Operation ι κ σ)) (n k : Nat) :
    (run env c w (ops.take (n + k))).1 =
      (run env c (run env c w (ops.take n)).1 ((ops.drop n).take k)).1 := by
  rw [List.take_add, run_append]

theorem run_probing (env : Environment ι κ σ) (c : Controller) (w : World ι κ σ)
    (ops : List (Operation ι κ σ)) : Probing env c w ops := by
  constructor
  · refine forall_mem_history fun before op hasks => ?_
    obtain ⟨seen, hseen, hquiet⟩ := stage_of_asks env c hasks
    obtain ⟨pushed, htrace, hpushed⟩ := step_trace env c before op
    refine ⟨[.logged (.readinessUpdated true)], seen ++ pushed, ?_, Trace.Calls.nil.logged _, ?_⟩
    · dsimp only
      rw [htrace, hseen]
      rfl
    · rw [Trace.queries_append, hquiet.queries, hpushed]
  · refine forall_mem_history fun before op hasks => ?_
    dsimp only
    rw [step_queries, hasks]
    rfl
  · exact forall_mem_history fun before op code hstored hop => step_stored env c hstored hop
  · intro n r code hr hasks hanswer
    have hworld := world_of_getElem? hr
    obtain ⟨before, op, rfl⟩ := exists_of_mem_history (List.mem_of_getElem? hr)
    have hpushes := step_adopted env c hasks hanswer
    refine ⟨hpushes, fun k hops => ?_⟩
    rw [run_take_add, ← hworld]
    exact run_stored env c hpushes.stored hops
  · intro hkeeps n hsome m r hle hr
    rw [history_getElem?, Option.map_eq_some_iff] at hr
    obtain ⟨op, _, rfl⟩ := hr
    obtain ⟨k, rfl⟩ := Nat.exists_eq_add_of_le hle
    have hstored := run_telephony_ne_none env hkeeps hsome ((ops.drop n).take k)
    rw [← run_take_add] at hstored
    dsimp only
    rw [step_queries, if_neg]
    rw [Record.asks_iff]
    exact fun h => hstored h.2.1

/-- The network source is asked when it has to be, and only then, whoever panics. Two runs of the
same operations that differ in nothing but answers which the first does not ask for are the same
call by call; the answers may change at any time, and any number of times. -/
theorem probing_of_run (env : Environment ι κ σ) (c : Controller) (registry : Registry ι)
    (network : Option (Option String)) (outside : σ) (ops : List (Operation ι κ σ)) :
    Probing env c (start registry network outside) ops ∧
      ∀ (network' : Option (Option String)) (ops' : List (Operation ι κ σ)),
        network'.isSome = network.isSome →
        (ops'.filter fun op => !op.isNetwork) = (ops.filter fun op => !op.isNetwork) →
        List.Forall₂ (fun r r' => r.call.trace.queries ≠ 0 → r'.before.network = r.before.network)
          (calls (history env c (start registry network outside) ops))
          (calls (history env c (start registry network' outside) ops')) →
        (calls (history env c (start registry network' outside) ops')).map Record.withoutSource =
            (calls (history env c (start registry network outside) ops)).map
              Record.withoutSource ∧
          (run env c (start registry network' outside) ops').2 =
            (run env c (start registry network outside) ops).2 ∧
          (run env c (start registry network' outside) ops').1.withNetwork none =
            (run env c (start registry network outside) ops).1.withNetwork none := by
  exact ⟨run_probing env c _ ops, fun _ _ hsource hops hheard =>
    run_unasked env c (w := start registry network outside) hsource hops hheard⟩

/-- One interface, which panics. -/
def brittleRegistry : Registry Fleet.Member :=
  ⟨[⟨some 0, { name := "wlan0" }⟩]⟩

/-- Readiness said three times, before and after the network source knows a country. -/
def askingRun : List Fleet.Operation :=
  [.ready true, .network (some "jp"), .ready true, .country " ", .ready true]

/-- The same run with a source that changes its mind more often. -/
def fickleRun : List Fleet.Operation :=
  [.network (some " "), .ready true, .network (some "de"), .network (some "jp"), .ready true,
    .network (some "fr"), .country " ", .network none, .ready true]

/-- The first query finds a blank answer, and the second one a country. Each time the interface
panics. After that nobody asks, although telephony has no code. -/
theorem probing_of_fickleRun :
    List.Forall₂ (fun r r' => r.call.trace.queries ≠ 0 → r'.before.network = r.before.network)
        (calls (history Fleet.environment sampleController
          (start brittleRegistry (some (some " ")) [("wlan0", .panic)]) askingRun))
        (calls (history Fleet.environment sampleController
          (start brittleRegistry (some none) [("wlan0", .panic)]) fickleRun)) ∧
      (run Fleet.environment sampleController
          (start brittleRegistry (some none) [("wlan0", .panic)]) fickleRun).2 =
        (run Fleet.environment sampleController
          (start brittleRegistry (some (some " ")) [("wlan0", .panic)]) askingRun).2 := by
  have hheard : List.Forall₂
      (fun r r' => r.call.trace.queries ≠ 0 → r'.before.network = r.before.network)
      (calls (history Fleet.environment sampleController
        (start brittleRegistry (some (some " ")) [("wlan0", .panic)]) askingRun))
      (calls (history Fleet.environment sampleController
        (start brittleRegistry (some none) [("wlan0", .panic)]) fickleRun)) :=
    .cons (fun _ => rfl) (.cons (fun _ => rfl) (.cons (by decide) (.cons (by decide) .nil)))
  obtain ⟨_, hsame⟩ := probing_of_run Fleet.environment sampleController brittleRegistry
    (some (some " ")) [("wlan0", .panic)] askingRun
  exact ⟨hheard, (hsame (some none) fickleRun rfl rfl hheard).2.1⟩

end Regulatory.Controller
