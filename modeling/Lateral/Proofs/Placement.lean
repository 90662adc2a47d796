import Lateral.Mutation.Step
import Lateral.Proofs.Expansion
import Mathlib.Data.List.Nodup
import Mathlib.Data.List.Perm.Basic

/-!
Where the writes of a mutation stand. The tree lists them with rows before what hangs below them;
the order of the steps is another order of the same list. What hangs below rows was found under a
key of their data, as a table that may be written to and that is related to theirs, and no table
stands twice in the tree.
-/

namespace Lateral
open Mutation

namespace Write

def table : Write → Table
  | .rows r _ => r.table
  | .links g => g.table

def edge? : Write → Option Edge
  | .rows r _ => r.edge
  | .links g => some g.edge

mutual

/-- The steps of a write, rows before what hangs below them. -/
def listed (parent : Rows) : Write → List Step
  | .rows r children => .rows r (some parent) children :: listedOf r children
  | .links g => .union g :: g.links.map (Step.link g parent)

def listedOf (parent : Rows) : List Write → List Step
  | [] => []
  | w :: rest => w.listed parent ++ listedOf parent rest

end

mutual

def tables : Write → List Table
  | .rows r children => r.table :: tablesOf children
  | .links g => [g.table]

def tablesOf : List Write → List Table
  | [] => []
  | w :: rest => w.tables ++ tablesOf rest

end

inductive HasBelow : Write → Rows → Write → Prop where
  | here {r : Rows} {ws : List Write} {w : Write} (member : w ∈ ws) : HasBelow (.rows r ws) r w
  | deeper {r p : Rows} {ws : List Write} {v w : Write} (member : v ∈ ws)
      (below : HasBelow v p w) : HasBelow (.rows r ws) p w

end Write

def Step.ownTable? : Step → Option Table
  | .rows r _ _ => some r.table
  | .link .. => none
  | .union g => some g.table

namespace Chain

def tree (c : Chain) : Write := .rows c.root c.children

def listed (c : Chain) : List Step :=
  .rows c.root none c.children :: Write.listedOf c.root c.children

end Chain

section Order

mutual

theorem steps_perm (parent : Rows) : ∀ w : Write, (w.steps parent).Perm (w.listed parent)
  | .rows r children => by
    rw [Write.steps, Write.listed]
    exact List.perm_middle.trans ((stepsOf_perm r children).cons _)
  | .links g => by
    rw [Write.steps, Write.listed]
    exact List.perm_append_comm

theorem stepsOf_perm (parent : Rows) : ∀ ws : List Write,
    (Write.stepsOf true parent ws ++ Write.stepsOf false parent ws).Perm
      (Write.listedOf parent ws)
  | [] => by simp [Write.stepsOf, Write.listedOf]
  | w :: rest => by
    have own := steps_perm parent w
    have others := stepsOf_perm parent rest
    cases first : w.runsFirst with
    | true =>
      simp only [Write.stepsOf, first, ↓reduceIte, Bool.true_eq_false, List.nil_append,
        Write.listedOf, List.append_assoc]
      exact own.append others
    | false =>
      simp only [Write.stepsOf, first, ↓reduceIte, Bool.false_eq_true, List.nil_append,
        Write.listedOf]
      exact (List.perm_append_comm_assoc _ _ _).trans (own.append others)

end

theorem chain_steps_perm (chain : Chain) : chain.steps.Perm chain.listed :=
  List.perm_middle.trans ((stepsOf_perm chain.root chain.children).cons _)

mutual

theorem listed_tables (parent : Rows) : ∀ w : Write,
    (w.listed parent).filterMap Step.ownTable? = w.tables
  | .rows r children => by
    simp only [Write.listed, Write.tables, List.filterMap_cons, Step.ownTable?,
      listedOf_tables r children]
  | .links g => by
    have shared : (g.links.map (Step.link g parent)).filterMap Step.ownTable? = [] := by
      rw [List.filterMap_map]
      exact List.filterMap_eq_nil_iff.mpr fun _ _ => rfl
    simp only [Write.listed, Write.tables, List.filterMap_cons, Step.ownTable?, shared]

theorem listedOf_tables (parent : Rows) : ∀ ws : List Write,
    (Write.listedOf parent ws).filterMap Step.ownTable? = Write.tablesOf ws
  | [] => by rw [Write.listedOf, Write.tablesOf, List.filterMap_nil]
  | w :: rest => by
    rw [Write.listedOf, Write.tablesOf, List.filterMap_append, listed_tables parent w,
      listedOf_tables parent rest]

end

theorem chain_tables_perm (chain : Chain) :
    (chain.steps.filterMap Step.ownTable?).Perm chain.tree.tables := by
  have listed : chain.listed.filterMap Step.ownTable? = chain.tree.tables := by
    simp only [Chain.listed, Chain.tree, Write.tables, List.filterMap_cons, Step.ownTable?,
      listedOf_tables]
  rw [← listed]
  exact (chain_steps_perm chain).filterMap _

end Order

section Places

/-- A step belongs to a write that hangs below the rows the step goes by. -/
inductive Step.Stands (below : Rows → Write → Prop) : Step → Prop where
  | rows {r p : Rows} {children : List Write} (hangs : below p (.rows r children)) :
      Stands below (.rows r (some p) children)
  | link {g : LinkGroup} {owner : Rows} {l : Link} (hangs : below owner (.links g))
      (member : l ∈ g.links) : Stands below (.link g owner l)
  | union {g : LinkGroup} {owner : Rows} (hangs : below owner (.links g)) :
      Stands below (.union g)

theorem Step.Stands.mono {below more : Rows → Write → Prop} {step : Step}
    (sub : ∀ p w, below p w → more p w) (stands : step.Stands below) : step.Stands more := by
  cases stands with
  | rows hangs => exact .rows (sub _ _ hangs)
  | link hangs member => exact .link (sub _ _ hangs) member
  | union hangs => exact .union (sub _ _ hangs)

mutual

theorem listed_stands (parent : Rows) : ∀ w : Write, ∀ step ∈ w.listed parent,
    step.Stands fun p v => p = parent ∧ v = w ∨ w.HasBelow p v
  | .rows r children, step, member => by
    rw [Write.listed, List.mem_cons] at member
    rcases member with rfl | deeper
    · exact .rows (Or.inl ⟨rfl, rfl⟩)
    · refine (listedOf_stands r children step deeper).mono ?_
      rintro p v (⟨rfl, child⟩ | ⟨w, child, below⟩)
      · exact Or.inr (.here child)
      · exact Or.inr (.deeper child below)
  | .links g, step, member => by
    rw [Write.listed, List.mem_cons] at member
    rcases member with rfl | link
    · exact .union (Or.inl ⟨rfl, rfl⟩)
    · obtain ⟨l, among, rfl⟩ := List.mem_map.mp link
      exact .link (Or.inl ⟨rfl, rfl⟩) among

theorem listedOf_stands (parent : Rows) : ∀ ws : List Write, ∀ step ∈ Write.listedOf parent ws,
    step.Stands fun p v => p = parent ∧ v ∈ ws ∨ ∃ w ∈ ws, w.HasBelow p v
  | [], step, member => by simp [Write.listedOf] at member
  | w :: rest, step, member => by
    rw [Write.listedOf, List.mem_append] at member
    rcases member with own | later
    · refine (listed_stands parent w step own).mono ?_
      rintro p v (⟨rfl, rfl⟩ | below)
      · exact Or.inl ⟨rfl, List.mem_cons_self ..⟩
      · exact Or.inr ⟨w, List.mem_cons_self .., below⟩
    · refine (listedOf_stands parent rest step later).mono ?_
      rintro p v (⟨rfl, child⟩ | ⟨u, child, below⟩)
      · exact Or.inl ⟨rfl, List.mem_cons_of_mem w child⟩
      · exact Or.inr ⟨u, List.mem_cons_of_mem w child, below⟩

end

/-- Every step but the root's own belongs to a write below rows of the tree. -/
theorem chain_step_stands {chain : Chain} {step : Step} (member : step ∈ chain.steps) :
    step = .rows chain.root none chain.children ∨ step.Stands chain.tree.HasBelow := by
  rcases List.mem_cons.mp ((chain_steps_perm chain).mem_iff.mp member) with own | deeper
  · exact Or.inl own
  · refine Or.inr ((listedOf_stands _ _ step deeper).mono ?_)
    rintro p v (⟨rfl, child⟩ | ⟨w, child, below⟩)
    · exact .here child
    · exact .deeper child below

theorem link_step_below {chain : Chain} {g : LinkGroup} {owner : Rows} {l : Link}
    (step : Step.link g owner l ∈ chain.steps) :
    chain.tree.HasBelow owner (.links g) ∧ l ∈ g.links := by
  rcases chain_step_stands step with root | stands
  · cases root
  · cases stands with
    | link hangs member => exact ⟨hangs, member⟩

theorem union_step_below {chain : Chain} {g : LinkGroup} (step : Step.union g ∈ chain.steps) :
    ∃ owner, chain.tree.HasBelow owner (.links g) := by
  rcases chain_step_stands step with root | stands
  · cases root
  · cases stands with
    | union hangs => exact ⟨_, hangs⟩

end Places

section Found

variable {s : Schema} {d : Draft} {st st' : State}

/-- What a write below rows was found by: a key of their data names its table, and with it the
relationship between the two tables. -/
structure Write.FoundBelow (s : Schema) (p : Rows) (w : Write) : Prop where
  related : ∃ f ∈ p.payload.fields, ∃ e, s.table f.1 = .ok w.table ∧
    s.edge f.1 p.table.name = .ok e ∧ w.edge? = some e
  kind : ∀ r children, w = .rows r children → r.kind = childKind p.kind

theorem children_key {filter filter' : Option Filter} {fields : List (String × Json)}
    {cs : List Draft} (made : ChildrenMade s d st filter fields cs filter' st') {c : Draft}
    (member : c ∈ cs) : ∃ f ∈ fields, ¬ (f.1 = whereKey ∧ d.kind = .update) ∧
      ∃ before after, ChildMade s d before f c after := by
  induction made with
  | nil => cases member
  | rootFilter _ _ _ _ ih | ownFilter _ _ _ _ _ ih =>
    obtain ⟨f, among, found⟩ := ih member
    exact ⟨f, List.mem_cons_of_mem _ among, found⟩
  | child other first _ ih =>
    rcases List.mem_cons.mp member with rfl | later
    · exact ⟨_, List.mem_cons_self .., other, _, _, first⟩
    · obtain ⟨f, among, found⟩ := ih later
      exact ⟨f, List.mem_cons_of_mem _ among, found⟩

theorem children_found {filter filter' : Option Filter} {fields : List (String × Json)}
    {cs : List Draft} (made : ChildrenMade s d st filter fields cs filter' st') {c : Draft}
    (member : c ∈ cs) : ∃ f ∈ fields, ∃ before after, ChildMade s d before f c after := by
  obtain ⟨f, among, -, found⟩ := children_key made member
  exact ⟨f, among, found⟩

structure Grown (s : Schema) (d : Draft) (w : Write) : Prop where
  table : w.table = d.table
  edge : w.edge? = d.edge
  kind : ∀ r children, w = .rows r children → r.kind = d.kind
  found : ∀ p v, w.HasBelow p v → v.FoundBelow s p

theorem expand_grown {w : Write} (run : expand s d st = .ok (w, st')) : Grown s d w := by
  refine expand_induction (P := fun d _ w _ => Grown s d w) ?_ ?_ run
  · intro d e st ls st' edge _ _ _
    refine ⟨rfl, edge.symm, ?_, ?_⟩
    · intro r children same
      cases same
    · intro p v hangs
      cases hangs
  · intro d st drafts filter st₁ writes st₂ _ made below
    refine ⟨rfl, rfl, ?_, ?_⟩
    · rintro r children ⟨⟩
      rfl
    · intro p v hangs
      cases hangs with
      | deeper member inside =>
        obtain ⟨c, -, _, _, grown⟩ := lastFirst_mem below member
        exact grown.found p v inside
      | here member =>
        obtain ⟨c, listed, _, _, grown⟩ := lastFirst_mem below member
        obtain ⟨f, nested, _, _, first⟩ := children_found made listed
        obtain ⟨e, own, edge, -⟩ := first.edge
        refine ⟨⟨f, (List.mem_filter.mp nested).1, e, ?_, edge, grown.edge.trans own⟩, ?_⟩
        · rw [grown.table]
          exact first.table
        · intro r children same
          exact (grown.kind r children same).trans first.kind

theorem build_found {kind : RowKind} {t : Table} {value : Json} {chain : Chain}
    (built : build s kind t value = .ok chain) {p : Rows} {w : Write}
    (hangs : chain.tree.HasBelow p w) : w.FoundBelow s p := by
  obtain ⟨root, last, -, -, -, -, -, -, run⟩ := build_expanded built
  exact (expand_grown run).found p w hangs

end Found

section Tables

variable {s : Schema} {d : Draft} {st st' : State}

theorem mem_tablesOf {t : Table} {ws : List Write} (member : t ∈ Write.tablesOf ws) :
    ∃ w ∈ ws, t ∈ w.tables := by
  induction ws with
  | nil => simp [Write.tablesOf] at member
  | cons w rest ih =>
    rw [Write.tablesOf, List.mem_append] at member
    rcases member with own | later
    · exact ⟨w, List.mem_cons_self .., own⟩
    · obtain ⟨v, among, inside⟩ := ih later
      exact ⟨v, List.mem_cons_of_mem _ among, inside⟩

def Schema.Offers (s : Schema) (t : Table) : Prop :=
  t.isWritable = true ∧ ∃ name, s.table name = .ok t

theorem expand_tables {w : Write} (run : expand s d st = .ok (w, st')) :
    ∀ t ∈ w.tables, t = d.table ∨ s.Offers t := by
  refine expand_induction (P := fun d _ w _ => ∀ t ∈ w.tables, t = d.table ∨ s.Offers t)
    ?_ ?_ run
  · intro d e st ls st' _ _ _ _ t member
    rw [Write.tables, List.mem_singleton] at member
    exact Or.inl member
  · intro d st drafts filter st₁ writes st₂ _ made below t member
    rw [Write.tables, List.mem_cons] at member
    rcases member with own | deeper
    · exact Or.inl own
    · obtain ⟨w, among, inside⟩ := mem_tablesOf deeper
      obtain ⟨c, listed, _, _, each⟩ := lastFirst_mem below among
      rcases each t inside with rfl | offered
      · obtain ⟨f, -, _, _, first⟩ := children_found made listed
        exact Or.inr ⟨first.writable, f.1, first.table⟩
      · exact Or.inr offered

theorem build_tables {kind : RowKind} {t : Table} {value : Json} {chain : Chain}
    (built : build s kind t value = .ok chain) :
    ∀ u ∈ chain.tree.tables, u = t ∨ s.Offers u := by
  obtain ⟨root, last, -, -, table, -, -, -, run⟩ := build_expanded built
  rw [← table]
  exact expand_tables run

end Tables

section Keys

variable {s : Schema} {d : Draft} {st st' : State}

theorem links_written {e : Edge} {fields : List (String × Json)} {ls : List Link}
    (made : LinksMade s d e st fields ls st') : st'.written = st.written := by
  induction made with
  | nil => rfl
  | cons first others ih => rw [ih, first.state]

theorem children_written {filter filter' : Option Filter} {fields : List (String × Json)}
    {cs : List Draft} (made : ChildrenMade s d st filter fields cs filter' st') :
    (st.written.Nodup → st'.written.Nodup) ∧
      (cs.map (·.table.key) ++ st.written).Perm st'.written := by
  induction made with
  | nil => exact ⟨id, .refl _⟩
  | rootFilter key updates root others ih | ownFilter key updates nested taken others ih => exact ih
  | child other first others ih =>
    obtain ⟨kept, added⟩ := ih
    rw [first.state] at kept added
    refine ⟨fun distinct => kept (List.nodup_cons.mpr ⟨first.fresh, distinct⟩), ?_⟩
    rw [List.map_cons, List.cons_append]
    exact List.perm_middle.symm.trans added

/-- The tables of a write are that of its draft and those whose keys were added meanwhile. -/
def Keyed (d : Draft) (st : State) (w : Write) (st' : State) : Prop :=
  (st.written.Nodup → st'.written.Nodup) ∧
    (w.tables.map Table.key ++ st.written).Perm (d.table.key :: st'.written)

theorem lastFirst_written {ds : List Draft} {ws : List Write}
    (all : LastFirst Keyed ds st ws st') :
    (st.written.Nodup → st'.written.Nodup) ∧
      ((Write.tablesOf ws).map Table.key ++ st.written).Perm
        (ds.map (·.table.key) ++ st'.written) := by
  induction all with
  | nil =>
    rw [Write.tablesOf]
    exact ⟨id, .refl _⟩
  | @cons st st₁ st₂ d ds w ws others first ih =>
    obtain ⟨kept, below⟩ := ih
    obtain ⟨kept', own⟩ := first
    refine ⟨kept' ∘ kept, ?_⟩
    rw [Write.tablesOf, List.map_append, List.append_assoc, List.map_cons, List.cons_append]
    calc
      List.Perm _ (w.tables.map Table.key ++ (ds.map (·.table.key) ++ st₁.written)) :=
        below.append_left _
      List.Perm _ (ds.map (·.table.key) ++ (w.tables.map Table.key ++ st₁.written)) :=
        List.perm_append_comm_assoc _ _ _
      List.Perm _ (ds.map (·.table.key) ++ (d.table.key :: st₂.written)) := own.append_left _
      List.Perm _ (d.table.key :: (ds.map (·.table.key) ++ st₂.written)) := List.perm_middle

theorem expand_keyed {w : Write} (run : expand s d st = .ok (w, st')) : Keyed d st w st' := by
  refine expand_induction ?_ ?_ run
  · intro d e st ls st' _ _ _ made
    have same := links_written made
    refine ⟨fun distinct => same ▸ distinct, ?_⟩
    rw [same, Write.tables]
    exact .refl _
  · intro d st drafts filter st₁ writes st₂ _ made below
    obtain ⟨kept, added⟩ := children_written made
    obtain ⟨kept', deeper⟩ := lastFirst_written below
    refine ⟨kept' ∘ kept, ?_⟩
    rw [Write.tables, List.map_cons, List.cons_append]
    refine .cons _ ((List.perm_append_left_iff (drafts.map (·.table.key))).mp ?_)
    calc
      List.Perm _
        ((Write.tablesOf writes).map Table.key ++ (drafts.map (·.table.key) ++ st.written)) :=
        List.perm_append_comm_assoc _ _ _
      List.Perm _ ((Write.tablesOf writes).map Table.key ++ st₁.written) := added.append_left _
      List.Perm _ (drafts.map (·.table.key) ++ st₂.written) := deeper

theorem build_keys {kind : RowKind} {t : Table} {value : Json} {chain : Chain}
    (built : build s kind t value = .ok chain) : (chain.tree.tables.map Table.key).Nodup := by
  obtain ⟨root, last, -, -, table, -, -, -, run⟩ := build_expanded built
  obtain ⟨kept, keys⟩ := expand_keyed run
  have distinct := kept (List.nodup_singleton t.key)
  rw [table] at keys
  have all : (chain.tree.tables.map Table.key).Perm last.written :=
    (List.perm_append_right_iff [t.key]).mp (keys.trans (List.perm_append_singleton _ _).symm)
  exact all.nodup_iff.mpr distinct

theorem table_sublist_tablesOf {ws : List Write} {w : Write} (member : w ∈ ws) :
    w.tables.Sublist (Write.tablesOf ws) := by
  induction ws with
  | nil => cases member
  | cons v rest ih =>
    rw [Write.tablesOf]
    rcases List.mem_cons.mp member with rfl | later
    · exact List.sublist_append_left ..
    · exact (ih later).trans (List.sublist_append_right ..)

theorem hasBelow_tables {v w : Write} {p : Rows} (hangs : v.HasBelow p w) :
    (p.table :: w.tables).Sublist v.tables := by
  induction hangs with
  | here member =>
    rw [Write.tables]
    exact (table_sublist_tablesOf member).cons_cons _
  | deeper member _ ih =>
    rw [Write.tables]
    exact (ih.trans (table_sublist_tablesOf member)).cons _

theorem table_mem_tables (w : Write) : w.table ∈ w.tables := by
  cases w with
  | rows r children =>
    rw [Write.tables]
    exact List.mem_cons_self ..
  | links g =>
    rw [Write.tables]
    exact List.mem_singleton_self _

theorem hasBelow_table_mem {v w : Write} {p : Rows} (hangs : v.HasBelow p w) :
    p.table ∈ v.tables ∧ w.table ∈ v.tables := by
  have inside := (hasBelow_tables hangs).subset
  exact ⟨inside (List.mem_cons_self ..), inside (List.mem_cons_of_mem _ (table_mem_tables w))⟩

theorem step_child_below {chain : Chain} {r : Rows} {parent : Option Rows} {children : List Write}
    (step : Step.rows r parent children ∈ chain.steps) {w : Write} (member : w ∈ children) :
    chain.tree.HasBelow r w := by
  have below {v : Write} {p : Rows} (hangs : v.HasBelow p (.rows r children)) : v.HasBelow r w := by
    generalize same : Write.rows r children = u at hangs
    induction hangs with
    | here among =>
      subst same
      exact .deeper among (.here member)
    | deeper among _ ih => exact .deeper among (ih same)
  rcases chain_step_stands step with same | stands
  · cases same
    exact .here member
  · cases stands with
    | rows hangs => exact below hangs

theorem tables_sublist_tablesOf (ws : List Write) :
    (ws.map Write.table).Sublist (Write.tablesOf ws) := by
  induction ws with
  | nil => exact List.nil_sublist _
  | cons w rest ih =>
    have own : [w.table].Sublist w.tables := List.singleton_sublist.mpr (table_mem_tables w)
    rw [Write.tablesOf, List.map_cons, ← List.singleton_append]
    exact own.append ih

theorem step_tables_sublist {chain : Chain} {r : Rows} {parent : Option Rows}
    {children : List Write} (step : Step.rows r parent children ∈ chain.steps) :
    (parent.toList.map Rows.table ++ r.table :: children.map Write.table).Sublist
      chain.tree.tables := by
  have own : (r.table :: children.map Write.table).Sublist (Write.rows r children).tables := by
    rw [Write.tables]
    exact (tables_sublist_tablesOf children).cons_cons _
  rcases chain_step_stands step with same | stands
  · cases same
    exact own
  · cases stands with
    | rows hangs => exact (own.cons_cons _).trans (hasBelow_tables hangs)

theorem step_table_mem {chain : Chain} {step : Step} (member : step ∈ chain.steps) :
    step.table ∈ chain.tree.tables := by
  rcases chain_step_stands member with rfl | stands
  · exact table_mem_tables chain.tree
  · cases stands with
    | rows hangs | link hangs _ | union hangs => exact (hasBelow_table_mem hangs).2

end Keys

end Lateral
