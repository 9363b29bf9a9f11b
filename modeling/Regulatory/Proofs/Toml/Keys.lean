import Mathlib.Data.List.Basic
import Regulatory.Toml.Document

/-!
The tables that are read off a document. However its statements build a table up, no key comes
twice in it.
-/

namespace Regulatory.Toml

/-- The keys of a table are all different. -/
def Distinct {α : Type} (entries : List (String × α)) : Prop :=
  (entries.map Prod.fst).Nodup

/-- If the value is a table, its keys are all different. -/
def Value.Tidy : Value → Prop
  | .table entries => Distinct entries
  | _ => True

/-- In a document with these entries, and in the tables that are values in it, no key comes
twice. -/
structure TidyDocument (entries : Entries) : Prop where
  keys : Distinct entries
  values : ∀ key v, (key, v) ∈ entries → v.Tidy

/-- All the keys of a table under construction are different, and so are those of any table in
it. -/
inductive Node.Tidy : Node → Prop
  | value {v : Value} (hvalue : v.Tidy) : Tidy (.value v)
  | table {origin : Origin} {nodes : Nodes} (hkeys : Distinct nodes)
      (hnodes : ∀ key n, (key, n) ∈ nodes → Tidy n) : Tidy (.table origin nodes)
  | tables {items : List Nodes} (hkeys : ∀ nodes ∈ items, Distinct nodes)
      (hnodes : ∀ nodes ∈ items, ∀ key n, (key, n) ∈ nodes → Tidy n) : Tidy (.tables items)

structure Nodes.Tidy (nodes : Nodes) : Prop where
  keys : Distinct nodes
  nodes : ∀ key n, (key, n) ∈ nodes → n.Tidy

theorem Distinct.of_cons {α : Type} {entry : String × α} {rest : List (String × α)}
    (hkeys : Distinct (entry :: rest)) : Distinct rest :=
  (List.nodup_cons.1 hkeys).2

theorem Distinct.absent {α : Type} {key : String} {a : α} {rest : List (String × α)}
    (hkeys : Distinct ((key, a) :: rest)) (b : α) : (key, b) ∉ rest := by
  have hnew := (List.nodup_cons.1 hkeys).1
  exact fun hb => hnew (List.mem_map.2 ⟨_, hb, rfl⟩)

namespace Nodes

theorem tidy_nil : Tidy [] :=
  ⟨List.nodup_nil, fun _ _ hn => absurd hn List.not_mem_nil⟩

theorem Tidy.get? {nodes : Nodes} (hnodes : nodes.Tidy) {key : String} {n : Node}
    (hn : nodes.get? key = some n) : n.Tidy := by
  obtain ⟨before, after, hsplit, _⟩ := List.lookup_eq_some_iff.1 hn
  exact hnodes.nodes key n (by rw [hsplit]; simp)

theorem distinct_put {nodes : Nodes} (hkeys : Distinct nodes) (key : String) (n : Node) :
    Distinct (nodes.put key n) := by
  unfold Nodes.put
  split
  · have hsame : (nodes.map fun entry =>
        if entry.1 == key then (key, n) else entry).map Prod.fst = nodes.map Prod.fst := by
      rw [List.map_map]
      refine List.map_congr_left fun entry _ => ?_
      by_cases hkey : entry.1 = key <;> simp [hkey]
    rw [Distinct, hsame]
    exact hkeys
  · rename_i hnew
    rw [Distinct, List.map_append, List.nodup_append]
    refine ⟨hkeys, List.pairwise_singleton _ _, ?_⟩
    rintro _ hold _ hlast rfl
    obtain ⟨entry, hentry, rfl⟩ := List.mem_map.1 hold
    refine hnew (List.any_eq_true.2 ⟨entry, hentry, ?_⟩)
    simpa using hlast

theorem mem_put {nodes : Nodes} {key : String} {n : Node} {entry : String × Node}
    (hentry : entry ∈ nodes.put key n) : entry = (key, n) ∨ entry ∈ nodes := by
  unfold Nodes.put at hentry
  split at hentry
  · obtain ⟨old, hold, rfl⟩ := List.mem_map.1 hentry
    split
    · exact .inl rfl
    · exact .inr hold
  · obtain hold | hlast := List.mem_append.1 hentry
    · exact .inr hold
    · exact .inl (List.mem_singleton.1 hlast)

theorem Tidy.put {nodes : Nodes} (hnodes : nodes.Tidy) (key : String) {n : Node} (hn : n.Tidy) :
    (nodes.put key n).Tidy := by
  refine ⟨distinct_put hnodes.keys key n, fun key' n' hmem => ?_⟩
  obtain hnew | hold := mem_put hmem
  · cases hnew
    exact hn
  · exact hnodes.nodes key' n' hold

theorem Tidy.erase {nodes : Nodes} (hnodes : nodes.Tidy) (key : String) :
    (nodes.erase key).Tidy :=
  ⟨hnodes.keys.sublist (List.filter_sublist.map _), fun _ _ hmem =>
    hnodes.nodes _ _ (List.mem_of_mem_filter hmem)⟩

theorem Tidy.toNode {nodes : Nodes} (hnodes : nodes.Tidy) (origin : Origin) :
    (Node.table origin nodes).Tidy :=
  .table hnodes.keys hnodes.nodes

theorem tidy_of_table {origin : Origin} {nodes : Nodes} (hnode : (Node.table origin nodes).Tidy) :
    nodes.Tidy := by
  cases hnode with
  | table hkeys hnodes => exact ⟨hkeys, hnodes⟩

theorem tidy_of_tables {items : List Nodes} (hnode : (Node.tables items).Tidy) :
    ∀ nodes ∈ items, nodes.Tidy := by
  cases hnode with
  | tables hkeys hnodes => exact fun nodes hmem => ⟨hkeys nodes hmem, hnodes nodes hmem⟩

theorem tidy_tables {items : List Nodes} (hitems : ∀ nodes ∈ items, nodes.Tidy) :
    (Node.tables items).Tidy :=
  .tables (fun nodes hmem => (hitems nodes hmem).keys) fun nodes hmem => (hitems nodes hmem).nodes

/-- A change of one table, wherever a path leads, keeps the whole in order. What the change returns
is passed on. -/
theorem Tidy.update {α : Type} {P : α → Prop} {origin : Origin}
    {change : Origin → Nodes → Option (α × Nodes)}
    (hchange : ∀ here (nodes : Nodes) a nodes', nodes.Tidy →
      change here nodes = some (a, nodes') → Nodes.Tidy nodes' ∧ P a)
    (path : List String) {here : Origin} {nodes : Nodes} (hnodes : nodes.Tidy) {a : α}
    {nodes' : Nodes} (hupdate : nodes.update origin change path here = some (a, nodes')) :
    nodes'.Tidy ∧ P a := by
  induction path generalizing here nodes nodes' with
  | nil => exact hchange here nodes a nodes' hnodes hupdate
  | cons key path ih =>
    cases hget : nodes.get? key with
    | none =>
      simp only [Nodes.update, hget, Option.bind_eq_bind, Option.bind_eq_some_iff] at hupdate
      obtain ⟨⟨b, inner⟩, hinner, hput⟩ := hupdate
      cases hput
      obtain ⟨hinner', ha⟩ := ih tidy_nil hinner
      exact ⟨hnodes.put key (hinner'.toNode origin), ha⟩
    | some n =>
      have hn := hnodes.get? hget
      cases n with
      | value v => simp [Nodes.update, hget] at hupdate
      | table there inner =>
        simp only [Nodes.update, hget] at hupdate
        split at hupdate
        · cases hupdate
        · simp only [Option.bind_eq_bind, Option.bind_eq_some_iff] at hupdate
          obtain ⟨⟨b, inner'⟩, hinner, hput⟩ := hupdate
          cases hput
          obtain ⟨hinner', ha⟩ := ih (tidy_of_table hn) hinner
          exact ⟨hnodes.put key (hinner'.toNode there), ha⟩
      | tables items =>
        simp only [Nodes.update, hget, Option.bind_eq_bind, Option.bind_eq_some_iff] at hupdate
        obtain ⟨last, hlast, ⟨b, inner⟩, hinner, hput⟩ := hupdate
        cases hput
        -- The path goes on in the last table of the array, which comes back changed.
        have hitems := tidy_of_tables hn
        obtain ⟨hinner', ha⟩ := ih (hitems last (List.mem_of_getLast? hlast)) hinner
        have hothers := fun nodes hmem => hitems nodes (List.dropLast_subset items hmem)
        exact ⟨hnodes.put key (tidy_tables
          (List.forall_mem_append.2 ⟨hothers, List.forall_mem_singleton.2 hinner'⟩)), ha⟩

theorem Tidy.assign {nodes nodes' : Nodes} (hnodes : nodes.Tidy) {path : List String} {v : Value}
    (hvalue : v.Tidy) (hassign : nodes.assign path v = some nodes') : nodes'.Tidy := by
  simp only [Nodes.assign, Option.bind_eq_bind, Option.bind_eq_some_iff] at hassign
  obtain ⟨key, _, ⟨_, updated⟩, hupdate, hresult⟩ := hassign
  cases hresult
  refine (hnodes.update (P := fun _ => True) ?_ _ hupdate).1
  intro here nodes _ nodes' hnodes hput
  split at hput
  · cases hput
  · cases hput
    exact ⟨hnodes.put key (.value hvalue), trivial⟩

end Nodes

theorem map_fst_entriesOf (nodes : Nodes) :
    (entriesOf nodes).map Prod.fst = nodes.map Prod.fst := by
  induction nodes with
  | nil => rfl
  | cons entry rest ih => exact congrArg (entry.1 :: ·) ih

theorem mem_entriesOf {nodes : Nodes} {key : String} {v : Value}
    (hv : (key, v) ∈ entriesOf nodes) : ∃ n, (key, n) ∈ nodes ∧ v = n.toValue := by
  induction nodes with
  | nil => cases hv
  | cons entry rest ih =>
    obtain heq | hrest := List.mem_cons.1 hv
    · cases heq
      exact ⟨entry.2, List.mem_cons_self, rfl⟩
    · obtain ⟨n, hn, rfl⟩ := ih hrest
      exact ⟨n, List.mem_cons_of_mem _ hn, rfl⟩

theorem Nodes.Tidy.distinct_entriesOf {nodes : Nodes} (hnodes : nodes.Tidy) :
    Distinct (entriesOf nodes) := by
  rw [Distinct, map_fst_entriesOf]
  exact hnodes.keys

theorem Node.Tidy.toValue {n : Node} (hn : n.Tidy) : n.toValue.Tidy := by
  cases hn with
  | value hvalue => exact hvalue
  | table hkeys hnodes => exact Nodes.Tidy.distinct_entriesOf ⟨hkeys, hnodes⟩
  | tables _ _ => trivial

/-- A reader of values never reads a table in which a key comes twice. -/
def Reader.Tidy (read : Reader Value) : Prop :=
  ∀ s v rest, read s = some (v, rest) → v.Tidy

theorem scalarValue?_tidy : Reader.Tidy scalarValue? := by
  intro s v rest hread
  unfold scalarValue? at hread
  split at hread
  · cases hread
  · cases hread
    trivial
  · cases hread
    trivial
  · split at hread
    · obtain ⟨_, _, heq⟩ := Option.map_eq_some_iff.1 hread
      cases heq
      trivial
    · simp only [Option.orElse_eq_orElse, Option.orElse_eq_or, Option.or_eq_some_iff,
        Option.map_eq_some_iff] at hread
      obtain ⟨_, _, heq⟩ | ⟨_, ⟨_, _, heq⟩ | ⟨_, ⟨_, _, heq⟩ | ⟨_, _, _, heq⟩⟩⟩ := hread <;>
      · cases heq
        trivial

theorem pairs?_tidy {read : Reader Value} (hread : read.Tidy) (fuel : Nat) {nodes nodes' : Nodes}
    (hnodes : nodes.Tidy) {s rest : List Char}
    (hpairs : pairs? read fuel nodes s = some (nodes', rest)) : nodes'.Tidy := by
  induction fuel generalizing nodes s with
  | zero => cases hpairs
  | succ fuel ih =>
    simp only [pairs?, Option.bind_eq_bind, Option.bind_eq_some_iff] at hpairs
    obtain ⟨⟨path, _⟩, _, _, _, ⟨v, _⟩, hv, assigned, hassign, hmore⟩ := hpairs
    have hassigned := hnodes.assign (hread _ _ _ hv) hassign
    split at hmore
    · cases hmore
      exact hassigned
    · exact ih hassigned hmore
    · cases hmore

theorem inlineTable?_tidy {read : Reader Value} (hread : read.Tidy) :
    Reader.Tidy (inlineTable? read) := by
  intro s v rest htable
  unfold inlineTable? at htable
  split at htable
  · cases htable
    exact List.nodup_nil
  · obtain ⟨_, hpairs, heq⟩ := Option.map_eq_some_iff.1 htable
    cases heq
    exact (pairs?_tidy hread _ Nodes.tidy_nil hpairs).distinct_entriesOf

theorem value?_tidy (depth : Nat) : Reader.Tidy (value? depth) := by
  induction depth with
  | zero => exact scalarValue?_tidy
  | succ depth ih =>
    intro s v rest hread
    unfold value? at hread
    split at hread
    · obtain ⟨_, _, heq⟩ := Option.map_eq_some_iff.1 hread
      cases heq
      trivial
    · rename_i hdepth
      cases hdepth
      exact inlineTable?_tidy ih _ _ _ hread
    · exact scalarValue?_tidy _ _ _ hread

/-- If a statement assigns a table, the keys of the table are all different. -/
def Statement.Tidy : Statement → Prop
  | .assign _ v => v.Tidy
  | _ => True

theorem statement?_tidy {s rest : List Char} {statement : Statement}
    (hread : statement? s = some (statement, rest)) : statement.Tidy := by
  unfold statement? at hread
  split at hread
  · simp only [Option.bind_eq_bind, Option.bind_eq_some_iff] at hread
    obtain ⟨_, _, _, _, _, _, heq⟩ := hread
    cases heq
    trivial
  · simp only [Option.bind_eq_bind, Option.bind_eq_some_iff] at hread
    obtain ⟨_, _, _, _, heq⟩ := hread
    cases heq
    trivial
  · simp only [Option.bind_eq_bind, Option.bind_eq_some_iff] at hread
    obtain ⟨_, _, _, _, ⟨v, _⟩, hv, heq⟩ := hread
    cases heq
    exact value?_tidy depthLimit _ _ _ hv

theorem statements?_tidy (fuel : Nat) {s : List Char} {statements : List Statement}
    (hread : statements? fuel s = some statements) : ∀ t ∈ statements, t.Tidy := by
  induction fuel generalizing s statements with
  | zero => cases hread
  | succ fuel ih =>
    unfold statements? at hread
    split at hread
    · cases hread
      exact List.forall_mem_nil _
    · exact ih hread
    · obtain ⟨_, _, hmore⟩ := Option.bind_eq_some_iff.1 hread
      exact ih hmore
    · simp only [Option.bind_eq_bind, Option.bind_eq_some_iff] at hread
      obtain ⟨⟨first, _⟩, hfirst, _, _, more, hmore, heq⟩ := hread
      cases heq
      exact List.forall_mem_cons.2 ⟨statement?_tidy hfirst, ih hmore⟩

namespace Draft

structure Tidy (d : Draft) : Prop where
  root : d.root.Tidy
  entries : d.entries.Tidy

theorem within_tidy {α : Type} {P : α → Prop} {change : String → Nodes → Option (α × Nodes)}
    (hchange : ∀ key (nodes : Nodes) a nodes', nodes.Tidy →
      change key nodes = some (a, nodes') → Nodes.Tidy nodes' ∧ P a)
    {root root' : Nodes} (hroot : root.Tidy) {path : List String} {a : α}
    (hwithin : within root path change = some (a, root')) : root'.Tidy ∧ P a := by
  obtain ⟨key, _, hupdate⟩ := Option.bind_eq_some_iff.1 hwithin
  exact hroot.update (fun _ => hchange key) _ hupdate

theorem Tidy.finish {d : Draft} (hd : d.Tidy) {nodes : Nodes} (hfinish : d.finish = some nodes) :
    nodes.Tidy := by
  unfold Draft.finish at hfinish
  split at hfinish
  · cases hfinish
    exact hd.entries
  · simp only [Option.bind_eq_bind, Option.bind_eq_some_iff] at hfinish
    obtain ⟨⟨_, root⟩, hwithin, heq⟩ := hfinish
    cases heq
    refine (within_tidy (P := fun _ => True) ?_ hd.root hwithin).1
    intro key nodes _ nodes' hnodes hput
    refine ⟨?_, trivial⟩
    split at hput
    · rename_i items hitems
      cases hput
      have hold := Nodes.tidy_of_tables (hnodes.get? hitems)
      exact hnodes.put key (Nodes.tidy_tables
        (List.forall_mem_append.2 ⟨hold, List.forall_mem_singleton.2 hd.entries⟩))
    · cases hput
      exact hnodes.put key (Nodes.tidy_tables (List.forall_mem_singleton.2 hd.entries))
    · cases hput
      exact hnodes.put key (hd.entries.toNode .declared)
    · cases hput

theorem Tidy.beginTable {d d' : Draft} (hd : d.Tidy) {path : List String}
    (hbegin : d.beginTable path = some d') : d'.Tidy := by
  simp only [Draft.beginTable, Option.bind_eq_bind, Option.bind_eq_some_iff] at hbegin
  obtain ⟨nodes, hfinish, ⟨entries, root⟩, hwithin, heq⟩ := hbegin
  cases heq
  have htidy : root.Tidy ∧ Nodes.Tidy entries := by
    refine within_tidy (P := Nodes.Tidy) ?_ (hd.finish hfinish) hwithin
    intro key nodes _ nodes' hnodes hchange
    split at hchange
    · cases hchange
      exact ⟨hnodes, Nodes.tidy_nil⟩
    · rename_i inner hinner
      cases hchange
      exact ⟨hnodes.erase key, Nodes.tidy_of_table (hnodes.get? hinner)⟩
    · cases hchange
  exact ⟨htidy.1, htidy.2⟩

theorem Tidy.beginItem {d d' : Draft} (hd : d.Tidy) {path : List String}
    (hbegin : d.beginItem path = some d') : d'.Tidy := by
  simp only [Draft.beginItem, Option.bind_eq_bind, Option.bind_eq_some_iff] at hbegin
  obtain ⟨nodes, hfinish, ⟨_, root⟩, hwithin, heq⟩ := hbegin
  cases heq
  refine ⟨(within_tidy (P := fun _ => True) ?_ (hd.finish hfinish) hwithin).1, Nodes.tidy_nil⟩
  intro key nodes _ nodes' hnodes hchange
  refine ⟨?_, trivial⟩
  split at hchange
  · cases hchange
    exact hnodes.put key (Nodes.tidy_tables (List.forall_mem_nil _))
  · cases hchange
    exact hnodes
  · cases hchange

theorem Tidy.add {d d' : Draft} (hd : d.Tidy) {statement : Statement} (hstatement : statement.Tidy)
    (hadd : d.add statement = some d') : d'.Tidy := by
  cases statement with
  | table path => exact hd.beginTable hadd
  | item path => exact hd.beginItem hadd
  | assign path v =>
    simp only [Draft.add, Option.bind_eq_bind, Option.bind_eq_some_iff] at hadd
    obtain ⟨entries, hassign, heq⟩ := hadd
    cases heq
    exact ⟨hd.root, hd.entries.assign hstatement hassign⟩

theorem foldlM_add_tidy {statements : List Statement} (hstatements : ∀ t ∈ statements, t.Tidy)
    {d d' : Draft} (hd : d.Tidy) (hadd : statements.foldlM Draft.add d = some d') : d'.Tidy := by
  induction statements generalizing d with
  | nil =>
    cases hadd
    exact hd
  | cons first rest ih =>
    obtain ⟨hfirst, hrest⟩ := List.forall_mem_cons.1 hstatements
    rw [List.foldlM_cons, Option.bind_eq_bind, Option.bind_eq_some_iff] at hadd
    obtain ⟨next, hnext, hmore⟩ := hadd
    exact ih hrest (hd.add hfirst hnext) hmore

end Draft

/-- However a document that is read is written, it is tidy. -/
theorem parse?_tidy {text : List Char} {entries : Entries} (hparse : parse? text = some entries) :
    TidyDocument entries := by
  simp only [parse?, Option.bind_eq_bind, Option.bind_eq_some_iff] at hparse
  obtain ⟨statements, hstatements, draft, hdraft, nodes, hfinish, heq⟩ := hparse
  cases heq
  have hstart : Draft.Tidy {} := ⟨Nodes.tidy_nil, Nodes.tidy_nil⟩
  have hnodes := (Draft.foldlM_add_tidy (statements?_tidy _ hstatements) hstart hdraft).finish
    hfinish
  refine ⟨hnodes.distinct_entriesOf, fun key v hv => ?_⟩
  obtain ⟨n, hn, rfl⟩ := mem_entriesOf hv
  exact (hnodes.nodes key n hn).toValue

end Regulatory.Toml
