import Lateral.Proofs.RelationshipGraph
import Lateral.Proofs.SchemaRuns

/-!
Relationships added to a schema that has some already. The keys of a catalog are all followed before
the first edge is added, so a key that leads nowhere leaves the schema as it was. An edge is never
replaced, and after one pass an edge stands in every place that the catalog asks for: a second pass
finds nothing to add.
-/

namespace Lateral

namespace Schema
open Outcome

section Again

variable {s u : Schema}

theorem SameTables.table (same : SameTables u s) (name : String) : u.table name = s.table name := by
  unfold Schema.table
  rw [same.table?]

theorem SameTables.foreignKey (same : SameTables u s) (t : Table) (c : Column) :
    u.foreignKey t c = s.foreignKey t c := by
  unfold Schema.foreignKey
  simp only [same.table]

theorem SameTables.foreignKeys (same : SameTables u s) (catalog : Catalog) :
    u.foreignKeys catalog = s.foreignKeys catalog := by
  unfold Schema.foreignKeys tableForeignKeys
  have keys : u.foreignKey = s.foreignKey := by
    funext t c
    exact same.foreignKey t c
  simp only [same.table, keys]

theorem addEdge_known {child parent : String} (known : (s.edges.get? (child, parent)).isSome)
    (e : Edge) : s.addEdge child parent e = s := by
  unfold addEdge Dict.insertIfNew Dict.contains
  rw [if_pos known]

theorem addDirect_known {k : ForeignKey}
    (known : ∀ c p, (k.direct? c p).isSome → (s.edges.get? (c, p)).isSome) : s.addDirect k = s := by
  have outward := known k.tableKey k.targetKey (ForeignKey.direct?_isSome.mpr (.inl ⟨rfl, rfl⟩))
  have inward := known k.targetKey k.tableKey (ForeignKey.direct?_isSome.mpr (.inr ⟨rfl, rfl⟩))
  simp only [addDirect, addEdge_known outward, addEdge_known inward, ite_self]

def added? (pair : ForeignKey × ForeignKey) (c p : String) : Option Edge :=
  if pair.1.targetKey = c ∧ pair.2.targetKey = p then some (pair.1.across pair.2) else none

theorem addThrough_known {pair : ForeignKey × ForeignKey}
    (known : ∀ c p, (added? pair c p).isSome → (s.edges.get? (c, p)).isSome) :
    s.addThrough pair = s := by
  refine addEdge_known (known _ _ ?_) _
  rw [added?, if_pos ⟨rfl, rfl⟩]
  rfl

theorem foldl_known {α : Type} {step : Schema → α → Schema} {items : List α}
    (known : ∀ a ∈ items, step s a = s) : items.foldl step s = s := by
  induction items with
  | nil => rfl
  | cons a rest ih =>
    rw [List.foldl_cons, known a List.mem_cons_self]
    exact ih fun b later => known b (List.mem_cons_of_mem a later)

variable (s) (links : List (String × List ForeignKey))

theorem addForeignKeys_get? (c p : String) : (s.addForeignKeys links).edges.get? (c, p) =
    (s.edges.get? (c, p)).or (((links.flatMap Prod.snd).findSome? fun k => k.direct? c p).or
      ((links.flatMap fun link => junctionPairs link.1 link.2).findSome? fun pair =>
        added? pair c p)) := by
  unfold addForeignKeys
  rw [foldl_edge fun u pair => addThrough_edge pair, foldl_edge fun u k => addDirect_edge k,
    Option.or_assoc]
  rfl

/-- After one pass an edge stands wherever the keys lead. -/
theorem addForeignKeys_again :
    (s.addForeignKeys links).addForeignKeys links = s.addForeignKeys links := by
  have direct : (links.flatMap Prod.snd).foldl addDirect (s.addForeignKeys links) =
      s.addForeignKeys links := by
    refine foldl_known fun k member => addDirect_known fun c p leads => ?_
    have first : ((links.flatMap Prod.snd).findSome? fun k => k.direct? c p).isSome :=
      List.findSome?_isSome_iff.mpr ⟨k, member, leads⟩
    rw [addForeignKeys_get?, Option.isSome_or, Option.isSome_or, first]
    simp
  have through : (links.flatMap fun link => junctionPairs link.1 link.2).foldl addThrough
      (s.addForeignKeys links) = s.addForeignKeys links := by
    refine foldl_known fun pair member => addThrough_known fun c p leads => ?_
    have first : ((links.flatMap fun link => junctionPairs link.1 link.2).findSome? fun pair =>
        added? pair c p).isSome := List.findSome?_isSome_iff.mpr ⟨pair, member, leads⟩
    rw [addForeignKeys_get?, Option.isSome_or, Option.isSome_or, first]
    simp
  nth_rewrite 1 [addForeignKeys]
  dsimp only
  rw [direct]
  exact through

theorem foldl_version {α : Type} {step : Schema → α → Schema}
    (each : ∀ s a, (step s a).version = s.version) (items : List α) :
    (items.foldl step s).version = s.version := by
  induction items generalizing s with
  | nil => rfl
  | cons a rest ih => exact (ih (step s a)).trans (each s a)

theorem addDirect_version (k : ForeignKey) : (s.addDirect k).version = s.version := by
  unfold addDirect
  dsimp only
  split <;> rfl

theorem addForeignKeys_version : (s.addForeignKeys links).version = s.version := by
  have direct := foldl_version s addDirect_version (links.flatMap Prod.snd)
  have through (u : Schema) (pair : ForeignKey × ForeignKey) :
      (u.addThrough pair).version = u.version := rfl
  exact (foldl_version _ through _).trans direct

theorem addForeignKeys_rest :
    s.addForeignKeys links = { s with edges := (s.addForeignKeys links).edges } := by
  have same := addForeignKeys_tables s links
  have version := addForeignKeys_version s links
  rw [← same.inflector, ← same.tables, ← same.aliases, ← version]

end Again

end Schema

/-- Adding the relationships of a catalog fails and changes nothing, or succeeds and only adds:
every edge from before stays, new are exactly those that the catalog defines, and to add them again
changes nothing. -/
theorem relating_adds_once (s : Schema) (catalog : Catalog) :
    (∃ e, s.buildRelationships catalog = .error e ∧ s.related catalog = (.error e, s)) ∨
      ∃ u, s.buildRelationships catalog = .ok u ∧ s.related catalog = (.ok (), u) ∧
        u = { s with edges := u.edges } ∧
        (∀ c p e, s.edges.get? (c, p) = some e → u.edges.get? (c, p) = some e) ∧
        (∀ c p, s.edges.get? (c, p) = none → s.DefinesEdge catalog c p (u.edges.get? (c, p))) ∧
        u.buildRelationships catalog = .ok u ∧ u.related catalog = (.ok (), u) := by
  rw [Schema.related_eq]
  cases followed : s.foreignKeys catalog with
  | error e =>
    have failed : s.buildRelationships catalog = .error e := by
      rw [Schema.buildRelationships, followed]
      rfl
    rw [failed]
    exact .inl ⟨e, rfl, rfl⟩
  | ok links =>
    have built : s.buildRelationships catalog = .ok (s.addForeignKeys links) := by
      rw [Schema.buildRelationships, followed]
      rfl
    -- The keys are read off the tables alone, which have not changed.
    have again : (s.addForeignKeys links).buildRelationships catalog =
        .ok (s.addForeignKeys links) := by
      rw [Schema.buildRelationships, (Schema.addForeignKeys_tables s links).foreignKeys, followed]
      exact congrArg _ (Schema.addForeignKeys_again s links)
    have edges (c p : String) := Schema.addForeignKeys_edge (c := c) (p := p) followed
    rw [built]
    refine .inr ⟨s.addForeignKeys links, rfl, rfl, Schema.addForeignKeys_rest s links, ?_, ?_,
      again, ?_⟩
    · intro c p e stored
      rw [edges, stored, Option.some_or]
    · intro c p free
      rw [edges, free, Option.none_or]
      exact Schema.search_defines
    · rw [Schema.related_eq, again]

end Lateral
