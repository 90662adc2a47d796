import Lateral.Proofs.EdgeColumns
import Lateral.Proofs.FilledTemplates
import Lateral.Proofs.FilterTexts
import Lateral.Proofs.Phrases
import Lateral.Proofs.SchemaRuns

/-!
The names in nested filters. Every step of a path tests for rows of a related table inside the test
of the step before, under the names of the tables themselves. A name of the outer test can be read
in the inner one because no inner table, and no junction, is called the same.
-/

namespace Lateral
open Outcome

def Sql.Equation.refs (e : Sql.Equation) : List Sql.ColumnRef := e.phrase.columns

theorem Sql.Equation.refs_eq (e : Sql.Equation) : e.refs = [e.left, e.right] := rfl

theorem Sql.Equation.mem_between_refs {left right : Endpoint} {leftName rightName : String}
    {ref : Sql.ColumnRef} : ref ∈ (between left leftName right rightName).refs ↔
      ref = ⟨leftName, left.column⟩ ∨ ref = ⟨rightName, right.column⟩ := by
  unfold between
  dsimp only
  split_ifs
  · simp [refs_eq]
  · simp [refs_eq, or_comm]
  · simp [refs_eq]

namespace Hop

def sources (h : Hop) : List String := h.phrase.rows

def refs (h : Hop) : List Sql.ColumnRef := h.phrase.columns

theorem sources_eq (h : Hop) :
    h.sources = h.table :: (h.join.map Sql.JunctionJoin.junction).toList := by
  cases join : h.join <;> simp only [sources, phrase, join] <;> rfl

theorem refs_eq (h : Hop) :
    h.refs = (h.join.map fun j => j.condition.refs).getD [] ++ h.condition.refs := by
  cases join : h.join <;> simp only [refs, phrase, join] <;> rfl

/-- The step reads its own names and that of the step before, which none of its own hides. -/
structure Scoped (outer : String) (h : Hop) : Prop where
  qualified : ∀ ref ∈ h.refs, ref.source = outer ∨ ref.source ∈ h.sources
  free : outer ∉ h.sources
  apart : h.sources.Nodup

end Hop

def Predicate.refs (p : Predicate) : List Sql.ColumnRef := p.phrase.columns

def Predicate.column? : Predicate → Option Sql.ColumnRef
  | .constant _ => none
  | .compare column _ _ | .nullness column _ | .search column _ _ => some column

theorem Predicate.refs_eq (p : Predicate) : p.refs = p.column?.toList := by
  cases p <;> rfl

/-- The steps along a path from a table to the last one. Each ranges over the table that its name
finds, and over the junction that relates it to the table before, if there is one. -/
inductive ScopedPath (s : Schema) : Table → List String → List Hop → Table → Prop where
  | done (t : Table) : ScopedPath s t [] [] t
  | step {outer inner last : Table} {name : String} {path : List String} {hop : Hop}
      {hops : List Hop} {e : Edge} (found : s.table name = .ok inner)
      (edge : s.edge name outer.name = .ok e)
      (ranges : hop.sources = inner.name :: (e.junction?.map Junction.table).toList)
      (visible : hop.Scoped outer.name) (inside : ScopedPath s inner path hops last) :
      ScopedPath s outer (name :: path) (hop :: hops) last

namespace Schema

/-- The schema of a catalog to which any number of remote relationships were added. -/
inductive Assembled (catalog : Catalog) (aliases : Dict String (List String))
    (inflector : Inflector) : Schema → Prop where
  | built {s : Schema} (built : ofCatalog catalog aliases inflector = .ok s) :
      Assembled catalog aliases inflector s
  | remote {s extended : Schema} {child parent localColumn remoteField : String}
      (before : Assembled catalog aliases inflector s)
      (added : s.addRemote child parent localColumn remoteField = .ok extended) :
      Assembled catalog aliases inflector extended

variable {s : Schema} {catalog : Catalog} {aliases : Dict String (List String)}
  {inflector : Inflector}

theorem addRemote_made {extended : Schema} {child parent localColumn remoteField : String}
    (added : s.addRemote child parent localColumn remoteField = .ok extended) :
    SameTables extended s ∧ ∀ keys e, extended.edges.get? keys = some e →
      e.isRemote = true ∨ s.edges.get? keys = some e := by
  refine ⟨addRemote_tables added, ?_⟩
  obtain ⟨t, -, c, -, rfl⟩ := addRemote_eq_ok.mp added
  intro keys e stored
  rw [withRemote, Dict.get?_insert] at stored
  split at stored
  · rw [← Option.some.inj stored]
    exact Or.inl rfl
  · exact Or.inr stored

theorem Assembled.base (assembled : Assembled catalog aliases inflector s) :
    ∃ base, ofCatalog catalog aliases inflector = .ok base ∧ SameTables s base ∧
      ∀ keys e, s.edges.get? keys = some e → e.isRemote = true ∨ base.edges.get? keys = some e := by
  induction assembled with
  | built built => exact ⟨_, built, .refl _, fun _ _ => Or.inr⟩
  | remote _ added ih =>
    obtain ⟨base, built, same, known⟩ := ih
    obtain ⟨same', added⟩ := addRemote_made added
    refine ⟨base, built, same'.trans same, ?_⟩
    intro keys e stored
    rcases added keys e stored with remote | before
    · exact Or.inl remote
    · exact known keys e before

section Built

variable (built : ofCatalog catalog aliases inflector = .ok s)
include built

theorem keyAt?_table {n i : ℕ} {k : ForeignKey} (key : s.keyAt? catalog n i = some k) {t : Table}
    (stored : s.tables.get? t.key = some t) (holder : k.tableKey = t.key) :
    k.column.table = t.name := by
  obtain ⟨row, -, column, -, key⟩ := keyAt?_row key
  obtain ⟨own, _, _, found, -, -, rfl⟩ := keyOf?_found key
  have same := table?_stored built found
  change own.key = t.key at holder
  rw [holder, stored] at same
  change own.name = t.name
  rw [Option.some.inj same]

theorem keyAt?_targetTable {n i : ℕ} {k : ForeignKey} (key : s.keyAt? catalog n i = some k)
    {t : Table} (stored : s.tables.get? t.key = some t) (target : k.targetKey = t.key) :
    k.target.table = t.name := by
  obtain ⟨own, found, named, -⟩ := keyAt?_target built key
  rw [target, stored] at found
  rw [← named, Option.some.inj found]

/-- The left side of a relationship goes by the name of the child. A junction is called neither like
the child nor like the parent, since no key to its own table makes one. -/
theorem edge_tables {child parent : Table} {e : Edge}
    (below : s.tables.get? child.key = some child) (above : s.tables.get? parent.key = some parent)
    (stored : s.edges.get? (child.key, parent.key) = some e) :
    e.left.table = child.name ∧
      ∀ j, e.junction? = some j → j.table ≠ child.name ∧ j.table ≠ parent.name := by
  cases defines_of_stored built stored with
  | held first key holder => exact ⟨keyAt?_table built key below holder, nofun⟩
  | pointed apart first key holder =>
    have target := (links_of_mem first.1 key).target_of_pointed apart holder
    exact ⟨keyAt?_targetTable built key below target, nofun⟩
  | @crossed n i k l r unlinked first left right =>
    obtain ⟨child_target, parent_target, outward, outward', -⟩ := crosses_of_mem first.1 left right
    refine ⟨keyAt?_targetTable built left below child_target, ?_⟩
    rintro j ⟨⟩
    have junction := keyAt?_holder built left
    constructor
    · intro same
      change l.column.table = child.name at same
      rw [same, (stored_key built below).2, ← child_target] at junction
      simp [ForeignKey.isSelf, junction] at outward
    · intro same
      change l.column.table = parent.name at same
      rw [keyAt?_same_table left right] at same
      have junction' := keyAt?_holder built right
      rw [same, (stored_key built above).2, ← parent_target] at junction'
      simp [ForeignKey.isSelf, junction'] at outward'

end Built

theorem Assembled.edge_tables (assembled : Assembled catalog aliases inflector s)
    {name outer : String} {child parent : Table} {e : Edge} (below : s.table name = .ok child)
    (above : s.table outer = .ok parent) (edge : s.edge name parent.name = .ok e)
    (known : e.isRemote = false) :
    e.left.table = child.name ∧
      ∀ j, e.junction? = some j → j.table ≠ child.name ∧ j.table ≠ parent.name := by
  obtain ⟨base, built, same, inherited⟩ := assembled.base
  have lower := table_eq_ok.mp below
  have upper := table_eq_ok.mp above
  rw [same.table?] at lower upper
  have below := table?_stored built lower
  have above := table?_stored built upper
  have keyed : s.edge? name parent.name = s.edges.get? (child.key, parent.key) := by
    rw [edge?, same.edgeKey, same.edgeKey, edgeKey_of_found built lower,
      edgeKey_of_found built (table?_of_stored built above)]
  have stored : s.edges.get? (child.key, parent.key) = some e := by
    rw [← keyed]
    exact edge_eq_ok.mp edge
  rcases inherited _ _ stored with remote | stored
  · rw [known] at remote
    contradiction
  · exact Schema.edge_tables built below above stored

theorem Assembled.name_ne (assembled : Assembled catalog aliases inflector s) {name outer : String}
    {child parent : Table} (below : s.table name = .ok child) (above : s.table outer = .ok parent)
    (apart : child.key ≠ parent.key) : child.name ≠ parent.name := by
  obtain ⟨base, built, same, -⟩ := assembled.base
  have lower := table_eq_ok.mp below
  have upper := table_eq_ok.mp above
  rw [same.table?] at lower upper
  intro names
  apply apart
  rw [← (stored_key built (table?_stored built lower)).2, names,
    (stored_key built (table?_stored built upper)).2]

end Schema

namespace Hop

variable {s : Schema} {catalog : Catalog} {aliases : Dict String (List String)}
  {inflector : Inflector}

theorem between_sources {left right : Endpoint} {leftName rightName : String} {ref : Sql.ColumnRef}
    (mem : ref ∈ (Sql.Equation.between left leftName right rightName).refs) :
    ref.source = leftName ∨ ref.source = rightName := by
  rcases Sql.Equation.mem_between_refs.mp mem with rfl | rfl
  · exact Or.inl rfl
  · exact Or.inr rfl

theorem sources_along (e : Edge) (child parent : String) :
    Hop.sources ⟨child, Sql.junctionJoin? e parent, Sql.edgeCondition e parent⟩ =
      child :: (e.junction?.map Junction.table).toList := by
  simp only [sources_eq, Sql.junctionJoin?, Option.map_map]
  rfl

theorem scoped_along {e : Edge} {child parent : String} (left : e.left.table = child)
    (apart : child ≠ parent)
    (junction : ∀ j, e.junction? = some j → j.table ≠ child ∧ j.table ≠ parent) :
    Scoped parent ⟨child, Sql.junctionJoin? e parent, Sql.edgeCondition e parent⟩ := by
  subst left
  cases through : e.junction? with
  | none =>
    have sources := sources_along e e.left.table parent
    rw [through] at sources
    refine ⟨?_, ?_, ?_⟩
    · intro ref mem
      simp only [refs_eq, Sql.junctionJoin?, Sql.edgeCondition, through, Option.map_none,
        Option.getD_none, List.nil_append] at mem
      rcases between_sources mem with own | outer
      · exact Or.inr (by rw [sources, own]; simp)
      · exact Or.inl outer
    · rw [sources]
      simpa using apart.symm
    · rw [sources]
      simp
  | some j =>
    have sources := sources_along e e.left.table parent
    rw [through] at sources
    obtain ⟨unlike, unlike'⟩ := junction j through
    refine ⟨?_, ?_, ?_⟩
    · intro ref mem
      rw [sources]
      simp only [refs_eq, Sql.junctionJoin?, Sql.edgeCondition, through, Option.map_some,
        Option.getD_some, List.mem_append] at mem
      rcases mem with joined | related
      · rcases between_sources joined with own | outer
        · exact Or.inr (by rw [own]; simp)
        · exact Or.inl outer
      · rcases between_sources related with own | own
        · exact Or.inr (by rw [own]; simp)
        · exact Or.inr (by rw [own]; simp)
    · rw [sources]
      simp [apart.symm, unlike'.symm]
    · rw [sources]
      simpa using unlike.symm

theorem between_made {parent child : Table} {name : String} {hop : Hop}
    (made : Hop.between s parent name = .ok (hop, child)) :
    ∃ e, s.edge name parent.name = .ok e ∧ e.isRemote = false ∧ s.table name = .ok child ∧
      child.key ≠ parent.key ∧
      hop = ⟨child.name, Sql.junctionJoin? e parent.name, Sql.edgeCondition e parent.name⟩ := by
  simp only [Hop.between, bind_eq_ok] at made
  obtain ⟨e, edge, made⟩ := made
  obtain ⟨known, made⟩ := check_eq_ok.mp made
  obtain ⟨found, below, made⟩ := bind_eq_ok.mp made
  obtain ⟨apart, made⟩ := check_eq_ok.mp made
  cases pure_eq_ok.mp made
  exact ⟨e, edge, Bool.eq_false_iff.mpr known, below, apart, rfl⟩

theorem along_scoped (assembled : s.Assembled catalog aliases inflector) {name : String}
    {t last : Table} {path : List String} {hops : List Hop}
    (found : s.table name = .ok t) (run : Hop.along s t path = .ok (hops, last)) :
    ScopedPath s t path hops last := by
  induction path generalizing name t hops with
  | nil =>
    cases run
    exact .done _
  | cons next path ih =>
    simp only [Hop.along, bind_eq_ok, pure_eq_ok] at run
    obtain ⟨⟨hop, child⟩, made, ⟨inner, last'⟩, rest, whole⟩ := run
    cases whole
    obtain ⟨e, edge, known, below, apart, rfl⟩ := between_made made
    obtain ⟨left, junction⟩ := assembled.edge_tables below found edge known
    exact .step below edge (sources_along e child.name t.name)
      (scoped_along left (assembled.name_ne below found apart) junction) (ih below rest)

end Hop

section Leaf

variable {s : Schema} {c : Condition}

theorem Condition.predicate_refs {t : Table} {p : Predicate} (run : c.predicate s t = .ok p) :
    ∀ ref ∈ p.refs, ref.source = t.name := by
  unfold Condition.predicate at run
  split at run
  · simp only [bind_eq_ok, pure_eq_ok] at run
    obtain ⟨key, -, operand, -, rfl⟩ := run
    simp [Predicate.refs_eq, Predicate.column?]
  · simp only [bind_eq_ok, pure_eq_ok] at run
    obtain ⟨column, -, words, -, rfl⟩ := run
    simp [Predicate.refs_eq, Predicate.column?]
  · simp only [bind_eq_ok, pure_eq_ok] at run
    obtain ⟨column, -, rfl⟩ := run
    simp [Predicate.refs_eq, Predicate.column?]
  · obtain ⟨column, -, run⟩ := bind_eq_ok.mp run
    split at run
    · unfold Condition.emptyListPredicate at run
      split at run <;> cases run <;> simp [Predicate.refs_eq, Predicate.column?]
    · simp only [bind_eq_ok, pure_eq_ok] at run
      obtain ⟨operand, -, rfl⟩ := run
      simp [Predicate.refs_eq, Predicate.column?]

end Leaf

/-- At each step of a nested condition the test ranges over the table that its name finds and the
junction on the way to it, and what it reads outside of them is the table of the step before, whose
name none of them hides. The condition itself is about the last table. All of this is said of the
text: its rows and columns are those of the phrases that it is put together from. -/
theorem nested_filters_scoped {catalog : Catalog} {aliases : Dict String (List String)}
    {inflector : Inflector} {s : Schema} (assembled : s.Assembled catalog aliases inflector)
    {name : String} {t : Table} (found : s.table name = .ok t) (c : Condition) {leaf : Leaf}
    (run : c.leaf s t = .ok leaf) :
    ∃ last, ScopedPath s t c.path leaf.hops last ∧
      (∀ ref ∈ leaf.predicate.refs, ref.source = last.name) ∧
      ∀ b, (Filter.leaf c).write b s t = .ok (leaf.phrase.text b) := by
  have text (b : Bindings) : (Filter.leaf c).write b s t = .ok (leaf.phrase.text b) := by
    rw [Filter.write_eq_fill, leaf.text_phrase]
    exact (Filter.text_leaf c).trans (by rw [run]; rfl)
  simp only [Condition.leaf, bind_eq_ok, pure_eq_ok] at run
  obtain ⟨⟨hops, last⟩, along, predicate, made, rfl⟩ := run
  exact ⟨last, Hop.along_scoped assembled found along, Condition.predicate_refs made, text⟩

/-- From volcanoes to their humans, on to the quizzes of those, and back to humans as authors. -/
def quizPath : Condition :=
  { path := ["Humans", "quiz", "human"], column := "id", operator := .equals, operand := .int 7 }

theorem quizPath_scoped : ∃ s extended t leaf last, Schema.ofCatalog quizCatalog {} = .ok s ∧
    s.addRemote "canvases" "humans" "id" "owner" = .ok extended ∧
    extended.table "volcanoes" = .ok t ∧ quizPath.leaf extended t = .ok leaf ∧
    leaf.hops.map Hop.sources = [["humans", "proofs"], ["quizzes"], ["humans"]] ∧
    ScopedPath extended t quizPath.path leaf.hops last ∧
    (∀ ref ∈ leaf.predicate.refs, ref.source = last.name) ∧
    ∀ b, (Filter.leaf quizPath).write b extended t = .ok (leaf.phrase.text b) := by
  have listed : (Schema.ofCatalog quizCatalog {} >>= fun s =>
      s.addRemote "canvases" "humans" "id" "owner" >>= fun extended =>
      extended.table "volcanoes" >>= fun t =>
      (quizPath.leaf extended t).map fun leaf => leaf.hops.map Hop.sources) =
        .ok [["humans", "proofs"], ["quizzes"], ["humans"]] := by
    decide +kernel
  obtain ⟨s, built, listed⟩ := bind_eq_ok.mp listed
  obtain ⟨extended, added, listed⟩ := bind_eq_ok.mp listed
  obtain ⟨t, found, listed⟩ := bind_eq_ok.mp listed
  obtain ⟨leaf, run, sources⟩ := map_eq_ok.mp listed
  obtain ⟨last, nested, read, text⟩ :=
    nested_filters_scoped (.remote (.built built) added) found quizPath run
  exact ⟨s, extended, t, leaf, last, built, added, found, run, sources, nested, read, text⟩

end Lateral
