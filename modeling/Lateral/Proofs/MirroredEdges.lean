import Lateral.Proofs.RelationshipGraph
import Mathlib.Data.List.Nodup

/-!
Relationships between two tables, read in both directions. The two are found by searches of their
own, and no search looks at what the other found. They agree since the names of a table's columns
are distinct: then both take, in the first table with keys to the two, the first key to each.
-/

namespace Lateral

def Junction.reverse (j : Junction) : Junction := ⟨j.table, j.rightColumn, j.leftColumn⟩

def EdgeKind.reverse : EdgeKind → EdgeKind
  | .oneToOne => .oneToMany
  | .oneToMany => .oneToOne
  | .through junction => .through junction.reverse
  | .remote => .remote

def Edge.reverse (e : Edge) : Edge := ⟨e.kind.reverse, e.right, e.left⟩

namespace ForeignKey

variable {c p : String}

theorem outward_reverse (k : ForeignKey) : k.outward.reverse = k.inward := rfl

theorem inward_reverse (k : ForeignKey) : k.inward.reverse = k.outward := rfl

theorem across_reverse {l r : ForeignKey} (same : l.column.table = r.column.table) :
    (l.across r).reverse = r.across l := by
  simp only [across, Edge.reverse, EdgeKind.reverse, Junction.reverse, same]

theorem direct?_reverse (k : ForeignKey) (apart : c ≠ p) :
    k.direct? p c = (k.direct? c p).map Edge.reverse := by
  unfold direct?
  by_cases held : k.tableKey = c ∧ k.targetKey = p
  · have other : ¬ (k.tableKey = p ∧ k.targetKey = c) :=
      fun both => apart (held.1.symm.trans both.1)
    rw [if_neg other, if_pos held, if_pos held, Option.map_some, outward_reverse]
  · rw [if_neg held, if_neg held]
    split
    · rw [Option.map_some, inward_reverse]
    · rfl

def leadsTo (key : String) (k : ForeignKey) : Bool := k.targetKey = key && !k.isSelf

end ForeignKey

def firstPair? (keys : List ForeignKey) (c p : String) : Option Edge :=
  (keys.find? (·.leadsTo c)).bind fun l => (keys.find? (·.leadsTo p)).map l.across

section Keys

variable {keys : List ForeignKey} {c p : String}

/-- Keys to two tables are two keys, so that their names differ. -/
theorem crosses_iff (distinct : (keys.map (·.column.column)).Nodup) (apart : c ≠ p)
    {l r : ForeignKey} (left : l ∈ keys) (right : r ∈ keys) :
    l.Crosses r c p ↔ l.leadsTo c ∧ r.leadsTo p := by
  simp only [ForeignKey.Crosses, ForeignKey.leadsTo, Bool.and_eq_true, decide_eq_true_eq,
    Bool.not_eq_true']
  constructor
  · rintro ⟨child, parent, outbound, outbound', -⟩
    exact ⟨⟨child, outbound⟩, parent, outbound'⟩
  · rintro ⟨⟨child, outbound⟩, parent, outbound'⟩
    refine ⟨child, parent, outbound, outbound', ?_⟩
    intro named
    have same := List.inj_on_of_nodup_map distinct left right named
    rw [same, parent] at child
    exact apart child.symm

theorem pair_search (distinct : (keys.map (·.column.column)).Nodup) (apart : c ≠ p) :
    (keys.findSome? fun l => keys.findSome? fun r => l.crossing? r c p) = firstPair? keys c p := by
  have inner {l : ForeignKey} (left : l ∈ keys) :
      (keys.findSome? fun r => l.crossing? r c p) =
        if l.leadsTo c then (keys.find? (·.leadsTo p)).map l.across else none := by
    have tests {r : ForeignKey} (right : r ∈ keys) : l.crossing? r c p =
        if l.leadsTo c then if r.leadsTo p then some (l.across r) else none else none := by
      simp only [ForeignKey.crossing?, crosses_iff distinct apart left right, ite_and]
    rw [findSome?_congr fun r right => tests right]
    split
    · exact findSome?_ite ..
    · exact List.findSome?_eq_none_iff.mpr fun _ _ => rfl
  rw [findSome?_congr fun l left => inner left, firstPair?]
  -- The inner search does not depend on the outer one any more.
  cases keys.find? (·.leadsTo p) with
  | none => simp
  | some r =>
    have first := findSome?_ite (fun l : ForeignKey => l.across r) (·.leadsTo c) keys
    rw [Option.map_eq_bind] at first
    exact first

theorem firstPair?_reverse (own : ∀ l ∈ keys, ∀ r ∈ keys, l.column.table = r.column.table) :
    firstPair? keys p c = (firstPair? keys c p).map Edge.reverse := by
  unfold firstPair?
  cases left : keys.find? (·.leadsTo c) with
  | none => cases keys.find? (·.leadsTo p) <;> rfl
  | some l =>
    cases right : keys.find? (·.leadsTo p) with
    | none => rfl
    | some r =>
      have tables := own l (List.mem_of_find?_eq_some left) r (List.mem_of_find?_eq_some right)
      exact congrArg some (ForeignKey.across_reverse tables).symm

end Keys

namespace Schema

variable {s : Schema} {catalog : Catalog} {c p : String}

theorem rowKeys_names (s : Schema) {row : CatalogTable × List Column}
    (distinct : (row.2.map Column.name).Nodup) :
    ((s.rowKeys row).map (·.column.column)).Nodup := by
  have kept (columns : List Column) : List.Sublist
      ((columns.filterMap (s.keyOf? row.1)).map (·.column.column)) (columns.map Column.name) := by
    induction columns with
    | nil => exact .slnil
    | cons column rest ih =>
      cases key : s.keyOf? row.1 column with
      | none =>
        rw [List.filterMap_cons_none key]
        exact ih.cons _
      | some k =>
        rw [List.filterMap_cons_some key, List.map_cons, List.map_cons, keyOf?_name key]
        exact ih.cons_cons _
  exact distinct.sublist (kept row.2)

theorem firstDirect?_reverse (apart : c ≠ p) :
    s.firstDirect? catalog p c = (s.firstDirect? catalog c p).map Edge.reverse := by
  simp only [firstDirect?, List.map_findSome?]
  refine findSome?_congr fun row _ => ?_
  simp only [Function.comp_apply, List.map_findSome?]
  exact findSome?_congr fun k _ => k.direct?_reverse apart

theorem firstCrossing?_reverse (distinct : ∀ row ∈ catalog.described, (row.2.map Column.name).Nodup)
    (apart : c ≠ p) :
    s.firstCrossing? catalog p c = (s.firstCrossing? catalog c p).map Edge.reverse := by
  simp only [firstCrossing?, List.map_findSome?]
  refine findSome?_congr fun row member => ?_
  have names := rowKeys_names s (distinct row (catalog.zip_subset_described member))
  have tables : ∀ l ∈ s.rowKeys row, ∀ r ∈ s.rowKeys row, l.column.table = r.column.table := by
    intro l left r right
    obtain ⟨_, -, left⟩ := List.mem_filterMap.mp left
    obtain ⟨_, -, right⟩ := List.mem_filterMap.mp right
    exact keyOf?_same_table left right
  rw [Function.comp_apply, pair_search names apart, pair_search names apart.symm,
    firstPair?_reverse tables]

end Schema

/-- Relationships are mirrored: between two tables whose columns have distinct names, what relates
the one to the other, reversed, relates the other to the one. -/
theorem edge_mirrored {s : Schema} {catalog : Catalog} {aliases : Dict String (List String)}
    {inflector : Inflector} (built : Schema.ofCatalog catalog aliases inflector = .ok s)
    (distinct : ∀ row ∈ catalog.described, (row.2.map Column.name).Nodup)
    {c p : String} (apart : c ≠ p) :
    s.edges.get? (p, c) = (s.edges.get? (c, p)).map Edge.reverse := by
  rw [Schema.ofCatalog_edge built, Schema.ofCatalog_edge built, Option.map_or,
    Schema.firstDirect?_reverse apart, Schema.firstCrossing?_reverse distinct apart]

theorem quizCatalog_mirrored : ∃ s, Schema.ofCatalog quizCatalog {} = .ok s ∧
    (∀ row ∈ quizCatalog.described, (row.2.map Column.name).Nodup) ∧ "human" ≠ "volcano" ∧
    s.edges.get? ("human", "volcano") = some
      ⟨.through ⟨"proofs", "human_id", "volcano_id"⟩, ⟨"humans", "id", false⟩,
        ⟨"volcanoes", "id", false⟩⟩ ∧
    s.edges.get? ("volcano", "human") = some
      ⟨.through ⟨"proofs", "volcano_id", "human_id"⟩, ⟨"volcanoes", "id", false⟩,
        ⟨"humans", "id", false⟩⟩ := by
  have found : ((Schema.ofCatalog quizCatalog {}).map fun s =>
      s.edges.get? ("human", "volcano")) = .ok (some
        ⟨.through ⟨"proofs", "human_id", "volcano_id"⟩, ⟨"humans", "id", false⟩,
          ⟨"volcanoes", "id", false⟩⟩) := by
    decide +kernel
  obtain ⟨s, built, found⟩ := Outcome.map_eq_ok.mp found
  have distinct : ∀ row ∈ quizCatalog.described, (row.2.map Column.name).Nodup := by decide
  have apart : "human" ≠ "volcano" := by decide
  refine ⟨s, built, distinct, apart, found, ?_⟩
  rw [edge_mirrored built distinct apart, found]
  rfl

end Lateral
