import Lateral.Proofs.FirstPlace
import Lateral.Proofs.Registration

/-!
The relationships that the foreign keys of a catalog define. A key has a place, that of its table
and of its column in the table. Between two tables stands the edge of the first key from one to the
other; if there is none, the edge across the first table with keys to both.
-/

namespace Lateral

namespace ForeignKey

def Links (k : ForeignKey) (c p : String) : Prop :=
  k.tableKey = c ∧ k.targetKey = p ∨ k.tableKey = p ∧ k.targetKey = c

/-- Two differently named keys to other tables, the first to the child and the second to the
parent. -/
def Crosses (l r : ForeignKey) (c p : String) : Prop :=
  l.targetKey = c ∧ r.targetKey = p ∧ l.isSelf = false ∧ r.isSelf = false ∧
    l.column.column ≠ r.column.column

instance (l r : ForeignKey) (c p : String) : Decidable (l.Crosses r c p) :=
  inferInstanceAs (Decidable (_ ∧ _))

def direct? (k : ForeignKey) (c p : String) : Option Edge :=
  if k.tableKey = c ∧ k.targetKey = p then some k.outward
  else if k.tableKey = p ∧ k.targetKey = c then some k.inward
  else none

def crossing? (l r : ForeignKey) (c p : String) : Option Edge :=
  if l.Crosses r c p then some (l.across r) else none

variable {k l r : ForeignKey} {c p : String} {e : Edge}

theorem direct?_isSome : (k.direct? c p).isSome ↔ k.Links c p := by
  unfold direct? Links
  split
  · simp_all
  · split <;> simp_all

theorem Links.target_of_held (links : k.Links c p) (holder : k.tableKey = c) : k.targetKey = p := by
  rcases links with ⟨-, target⟩ | ⟨other, target⟩
  · exact target
  · rw [target, ← holder, other]

theorem Links.target_of_pointed (links : k.Links c p) (apart : c ≠ p) (holder : k.tableKey = p) :
    k.targetKey = c := by
  rcases links with ⟨same, -⟩ | ⟨-, target⟩
  · exact absurd (same.symm.trans holder) apart
  · exact target

theorem direct?_of_held (links : k.Links c p) (holder : k.tableKey = c) :
    k.direct? c p = some k.outward := by
  rw [direct?, if_pos ⟨holder, links.target_of_held holder⟩]

theorem direct?_of_pointed (apart : c ≠ p) (links : k.Links c p) (holder : k.tableKey = p) :
    k.direct? c p = some k.inward := by
  have other : ¬ (k.tableKey = c ∧ k.targetKey = p) :=
    fun both => apart (both.1.symm.trans holder)
  rw [direct?, if_neg other, if_pos ⟨holder, links.target_of_pointed apart holder⟩]

theorem direct?_cases (found : k.direct? c p = some e) :
    k.tableKey = c ∧ k.outward = e ∨ c ≠ p ∧ k.tableKey = p ∧ k.inward = e := by
  unfold direct? at found
  split at found
  next held => exact .inl ⟨held.1, Option.some.inj found⟩
  next other =>
    split at found
    next pointed =>
      refine .inr ⟨?_, pointed.1, Option.some.inj found⟩
      rintro rfl
      exact other pointed
    next => cases found

theorem crossing?_isSome : (l.crossing? r c p).isSome ↔ l.Crosses r c p := by
  unfold crossing?
  split <;> simp_all

end ForeignKey

namespace Schema
open Outcome

def keyOf? (s : Schema) (table : CatalogTable) (column : Column) : Option ForeignKey := do
  let t ← s.table? table.name
  let target ← column.target.bind s.table?
  let targetColumn ← target.columnById? (column.targetIds.headD 0)
  return ⟨t.key, .ofColumn t.name column, target.key, .ofColumn target.name targetColumn⟩

def keyAt? (s : Schema) (catalog : Catalog) (table column : ℕ) : Option ForeignKey := do
  let t ← catalog.tables[table]?
  let columns ← catalog.columns[table]?
  let c ← columns[column]?
  s.keyOf? t c

/-- The places of the keys between two tables, a table before its columns. -/
def linkPlaces (s : Schema) (catalog : Catalog) (c p : String) : Set (ℕ ×ₗ ℕ) :=
  {x | ∃ k, s.keyAt? catalog (ofLex x).1 (ofLex x).2 = some k ∧ k.Links c p}

def crossPlaces (s : Schema) (catalog : Catalog) (c p : String) : Set (ℕ ×ₗ ℕ ×ₗ ℕ) :=
  {x | ∃ l r, s.keyAt? catalog (ofLex x).1 (ofLex (ofLex x).2).1 = some l ∧
    s.keyAt? catalog (ofLex x).1 (ofLex (ofLex x).2).2 = some r ∧ l.Crosses r c p}

/-- The edge that the foreign keys of a catalog define between a child and a parent. -/
inductive DefinesEdge (s : Schema) (catalog : Catalog) (c p : String) : Option Edge → Prop where
  | held {t i : ℕ} {k : ForeignKey} (first : IsLeast (s.linkPlaces catalog c p) (toLex (t, i)))
      (key : s.keyAt? catalog t i = some k) (holder : k.tableKey = c) :
      DefinesEdge s catalog c p (some ⟨.oneToMany, k.column, k.target⟩)
  | pointed {t i : ℕ} {k : ForeignKey} (apart : c ≠ p)
      (first : IsLeast (s.linkPlaces catalog c p) (toLex (t, i)))
      (key : s.keyAt? catalog t i = some k) (holder : k.tableKey = p) :
      DefinesEdge s catalog c p (some ⟨.oneToOne, k.target, k.column⟩)
  | crossed {t i j : ℕ} {l r : ForeignKey} (unlinked : s.linkPlaces catalog c p = ∅)
      (first : IsLeast (s.crossPlaces catalog c p) (toLex (t, toLex (i, j))))
      (left : s.keyAt? catalog t i = some l) (right : s.keyAt? catalog t j = some r) :
      DefinesEdge s catalog c p
        (some ⟨.through ⟨l.column.table, l.column.column, r.column.column⟩, l.target, r.target⟩)
  | none (unlinked : s.linkPlaces catalog c p = ∅) (uncrossed : s.crossPlaces catalog c p = ∅) :
      DefinesEdge s catalog c p none

section Edges

variable {s : Schema} {c p : String}

theorem addEdge_edge (child parent : String) (e : Edge) (key : String × String) :
    (s.addEdge child parent e).edges.get? key =
      (s.edges.get? key).or (if (child, parent) = key then some e else none) := by
  change (s.edges.insertIfNew (child, parent) e).get? key = _
  rw [Dict.get?_insertIfNew]
  by_cases same : (child, parent) = key
  · subst same
    cases s.edges.get? (child, parent) <;> simp
  · have apart : key ≠ (child, parent) := fun h => same h.symm
    simp [same, apart]

theorem addDirect_edge (k : ForeignKey) : (s.addDirect k).edges.get? (c, p) =
    (s.edges.get? (c, p)).or (k.direct? c p) := by
  simp only [addDirect, ForeignKey.isSelf, decide_eq_true_eq, ForeignKey.direct?]
  split
  next self =>
    rw [addEdge_edge, self]
    simp only [Prod.mk.injEq]
    congr 1
    split
    · rfl
    next other => rw [if_neg fun both => other both.symm]
  next =>
    rw [addEdge_edge, addEdge_edge, Option.or_assoc]
    simp only [Prod.mk.injEq, and_comm]
    congr 1
    split
    · rfl
    · rfl

theorem addThrough_edge (pair : ForeignKey × ForeignKey) : (s.addThrough pair).edges.get? (c, p) =
    (s.edges.get? (c, p)).or
      (if pair.1.targetKey = c ∧ pair.2.targetKey = p then some (pair.1.across pair.2)
        else none) := by
  rw [addThrough, addEdge_edge]
  simp only [Prod.mk.injEq]

/-- Nothing is ever replaced, so of all that is added the first stays. -/
theorem foldl_edge {α : Type} {step : Schema → α → Schema} {value : α → Option Edge}
    (each : ∀ s a, (step s a).edges.get? (c, p) = (s.edges.get? (c, p)).or (value a))
    (items : List α) (s : Schema) : (items.foldl step s).edges.get? (c, p) =
      (s.edges.get? (c, p)).or (items.findSome? value) := by
  induction items generalizing s with
  | nil => simp
  | cons a rest ih =>
    rw [List.foldl_cons, ih, each, Option.or_assoc, List.findSome?_cons]
    cases value a <;> simp

end Edges

section Rows

variable {s : Schema}

def rowKeys (s : Schema) (row : CatalogTable × List Column) : List ForeignKey :=
  row.2.filterMap (s.keyOf? row.1)

theorem keyOf?_found {table : CatalogTable} {column : Column} {k : ForeignKey}
    (key : s.keyOf? table column = some k) : ∃ t target targetColumn,
      s.table? table.name = some t ∧ column.target.bind s.table? = some target ∧
      target.columnById? (column.targetIds.headD 0) = some targetColumn ∧
      k = ⟨t.key, .ofColumn t.name column, target.key, .ofColumn target.name targetColumn⟩ := by
  obtain ⟨t, holder, key⟩ := Option.bind_eq_some_iff.mp key
  obtain ⟨target, pointed, key⟩ := Option.bind_eq_some_iff.mp key
  obtain ⟨targetColumn, numbered, key⟩ := Option.bind_eq_some_iff.mp key
  exact ⟨t, target, targetColumn, holder, pointed, numbered, (Option.some.inj key).symm⟩

theorem keyOf?_name {table : CatalogTable} {column : Column} {k : ForeignKey}
    (key : s.keyOf? table column = some k) : k.column.column = column.name := by
  obtain ⟨_, _, _, -, -, -, rfl⟩ := keyOf?_found key
  rfl

theorem keyOf?_same_table {table : CatalogTable} {x y : Column} {l r : ForeignKey}
    (left : s.keyOf? table x = some l) (right : s.keyOf? table y = some r) :
    l.column.table = r.column.table := by
  obtain ⟨t, _, _, holder, -, -, rfl⟩ := keyOf?_found left
  obtain ⟨t', _, _, holder', -, -, rfl⟩ := keyOf?_found right
  have same : t = t' := Option.some.inj (holder.symm.trans holder')
  rw [same]
  rfl

theorem foreignKey_eq_keyOf? {table : CatalogTable} {t : Table} {column : Column}
    {k : Option ForeignKey} (found : s.table? table.name = some t)
    (run : s.foreignKey t column = .ok k) : k = s.keyOf? table column := by
  unfold foreignKey at run
  unfold keyOf?
  rw [found]
  cases target : column.target with
  | none =>
    rw [target] at run
    cases run
    rfl
  | some name =>
    rw [target] at run
    obtain ⟨u, looked, run⟩ := bind_eq_ok.mp run
    have known := table_eq_ok.mp looked
    dsimp only at run
    cases numbered : u.columnById? (column.targetIds.headD 0) with
    | none =>
      rw [numbered] at run
      cases run
    | some targetColumn =>
      rw [numbered] at run
      cases run
      simp only [Option.bind_eq_bind, Option.bind_some, known, numbered]
      rfl

theorem tableForeignKeys_made {table : CatalogTable} {columns : List Column}
    {link : String × List ForeignKey} (run : s.tableForeignKeys table columns = .ok link) :
    link.2 = s.rowKeys (table, columns) ∧ ∀ k ∈ link.2, k.tableKey = link.1 := by
  unfold tableForeignKeys at run
  simp only [bind_eq_ok, pure_eq_ok] at run
  obtain ⟨t, looked, found, each, rfl⟩ := run
  have holder := table_eq_ok.mp looked
  have read : found = columns.map (s.keyOf? table) := by
    replace each := mapM_eq_ok.mp each
    induction each with
    | nil => rfl
    | cons first _ ih => rw [List.map_cons, ih, foreignKey_eq_keyOf? holder first]
  have keys : found.filterMap id = s.rowKeys (table, columns) := by
    rw [read, List.filterMap_map]
    rfl
  refine ⟨keys, ?_⟩
  intro k member
  rw [keys] at member
  obtain ⟨column, -, key⟩ := List.mem_filterMap.mp member
  obtain ⟨u, target, targetColumn, known, -, -, rfl⟩ := keyOf?_found key
  rw [holder] at known
  cases known
  rfl

theorem junctionPairs_search {key c p : String} {keys : List ForeignKey}
    (own : ∀ k ∈ keys, k.tableKey = key) :
    ((junctionPairs key keys).findSome? fun pair =>
      if pair.1.targetKey = c ∧ pair.2.targetKey = p then some (pair.1.across pair.2) else none) =
      keys.findSome? fun l => keys.findSome? fun r => l.crossing? r c p := by
  have self {k : ForeignKey} (member : k ∈ keys) : k.isSelf = decide (k.targetKey = key) := by
    rw [ForeignKey.isSelf, own k member, decide_eq_decide]
    exact eq_comm
  simp only [junctionPairs, findSome?_flatMap, List.findSome?_map, findSome?_filter]
  refine findSome?_congr fun l left => ?_
  -- A key to its own table is dropped before the pairs are made; here it crosses with nothing.
  by_cases inbound : l.targetKey = key
  · have none_crosses : ∀ r ∈ keys, l.crossing? r c p = none := by
      intro r _
      refine if_neg fun crosses => ?_
      have outbound : l.isSelf = false := crosses.2.2.1
      simp [self left, inbound] at outbound
    simp [inbound, List.findSome?_eq_none_iff.mpr none_crosses]
  · rw [if_pos (by simpa using inbound)]
    refine findSome?_congr fun r right => ?_
    have crosses : l.Crosses r c p ↔ r.targetKey ≠ key ∧ l.column.column ≠ r.column.column ∧
        l.targetKey = c ∧ r.targetKey = p := by
      simp only [ForeignKey.Crosses, self left, self right, decide_eq_false_iff_not, inbound,
        not_false_eq_true, true_and, ne_eq]
      tauto
    simp only [ForeignKey.crossing?, crosses, ite_and, decide_eq_true_eq, Function.comp_apply]

end Rows

section Places

variable {s : Schema} {catalog : Catalog} {c p : String}

def firstDirect? (s : Schema) (catalog : Catalog) (c p : String) : Option Edge :=
  (catalog.tables.zip catalog.columns).findSome? fun row =>
    (s.rowKeys row).findSome? fun k => k.direct? c p

def firstCrossing? (s : Schema) (catalog : Catalog) (c p : String) : Option Edge :=
  (catalog.tables.zip catalog.columns).findSome? fun row =>
    (s.rowKeys row).findSome? fun l => (s.rowKeys row).findSome? fun r => l.crossing? r c p

theorem keyAt?_eq (t i : ℕ) : s.keyAt? catalog t i =
    (catalog.tables.zip catalog.columns)[t]?.bind fun row => row.2[i]?.bind (s.keyOf? row.1) := by
  unfold keyAt?
  rw [List.zip, List.getElem?_zipWith]
  cases catalog.tables[t]? with
  | none => rfl
  | some table =>
    cases catalog.columns[t]? with
    | none => rfl
    | some columns => rfl

theorem firstDirect_isFirst : IsFirst (fun x : ℕ ×ₗ ℕ =>
    (s.keyAt? catalog (ofLex x).1 (ofLex x).2).bind fun k => k.direct? c p)
    (s.firstDirect? catalog c p) := by
  refine IsFirst.lex (fun t i => (s.keyAt? catalog t i).bind fun k => k.direct? c p)
    (isFirst_findSome? _ _) ?_
  intro t
  simp only [keyAt?_eq]
  cases (catalog.tables.zip catalog.columns)[t]? with
  | none => exact isFirst_none
  | some row =>
    simp only [Option.bind_some, rowKeys, findSome?_filterMap, Option.bind_assoc]
    exact isFirst_findSome? _ _

theorem firstCrossing_isFirst : IsFirst (fun x : ℕ ×ₗ ℕ ×ₗ ℕ =>
    (s.keyAt? catalog (ofLex x).1 (ofLex (ofLex x).2).1).bind fun l =>
      (s.keyAt? catalog (ofLex x).1 (ofLex (ofLex x).2).2).bind fun r => l.crossing? r c p)
    (s.firstCrossing? catalog c p) := by
  refine IsFirst.lex (fun t (x : ℕ ×ₗ ℕ) => (s.keyAt? catalog t (ofLex x).1).bind fun l =>
    (s.keyAt? catalog t (ofLex x).2).bind fun r => l.crossing? r c p) (isFirst_findSome? _ _) ?_
  intro t
  simp only [keyAt?_eq]
  cases (catalog.tables.zip catalog.columns)[t]? with
  | none => exact isFirst_none
  | some row =>
    simp only [Option.bind_some, rowKeys, findSome?_filterMap]
    refine IsFirst.lex (fun i j => (row.2[i]?.bind (s.keyOf? row.1)).bind fun l =>
      (row.2[j]?.bind (s.keyOf? row.1)).bind fun r => l.crossing? r c p) (isFirst_findSome? _ _) ?_
    intro i
    rw [← Option.bind_assoc]
    cases row.2[i]?.bind (s.keyOf? row.1) with
    | none => exact isFirst_none
    | some l =>
      simp only [Option.bind_some, Option.bind_assoc]
      exact isFirst_findSome? _ _

theorem linkPlaces_eq : {x : ℕ ×ₗ ℕ | ((s.keyAt? catalog (ofLex x).1 (ofLex x).2).bind
    fun k => k.direct? c p).isSome} = s.linkPlaces catalog c p := by
  ext x
  simp only [Set.mem_ofPred_eq, linkPlaces, Option.isSome_bind, Option.any_eq_true,
    ForeignKey.direct?_isSome]

theorem crossPlaces_eq : {x : ℕ ×ₗ ℕ ×ₗ ℕ |
    ((s.keyAt? catalog (ofLex x).1 (ofLex (ofLex x).2).1).bind fun l =>
      (s.keyAt? catalog (ofLex x).1 (ofLex (ofLex x).2).2).bind fun r =>
        l.crossing? r c p).isSome} = s.crossPlaces catalog c p := by
  ext x
  simp only [Set.mem_ofPred_eq, crossPlaces, Option.isSome_bind, Option.any_eq_true,
    ForeignKey.crossing?_isSome]
  constructor
  · rintro ⟨l, left, r, right, crosses⟩
    exact ⟨l, r, left, right, crosses⟩
  · rintro ⟨l, r, left, right, crosses⟩
    exact ⟨l, left, r, right, crosses⟩

theorem firstDirect_none_iff :
    s.firstDirect? catalog c p = none ↔ s.linkPlaces catalog c p = ∅ := by
  rw [← linkPlaces_eq, firstDirect_isFirst.eq_none_iff]

theorem firstCrossing_none_iff :
    s.firstCrossing? catalog c p = none ↔ s.crossPlaces catalog c p = ∅ := by
  rw [← crossPlaces_eq, firstCrossing_isFirst.eq_none_iff]

theorem search_defines : s.DefinesEdge catalog c p
    ((s.firstDirect? catalog c p).or (s.firstCrossing? catalog c p)) := by
  cases direct : s.firstDirect? catalog c p with
  | some e =>
    obtain ⟨x, first, here⟩ := firstDirect_isFirst.found e direct
    rw [linkPlaces_eq] at first
    obtain ⟨k, key, between⟩ := Option.bind_eq_some_iff.mp here
    rcases ForeignKey.direct?_cases between with ⟨holder, rfl⟩ | ⟨apart, holder, rfl⟩
    · exact .held first key holder
    · exact .pointed apart first key holder
  | none =>
    have unlinked := firstDirect_none_iff.mp direct
    cases crossing : s.firstCrossing? catalog c p with
    | some e =>
      obtain ⟨x, first, here⟩ := firstCrossing_isFirst.found e crossing
      rw [crossPlaces_eq] at first
      obtain ⟨l, left, here⟩ := Option.bind_eq_some_iff.mp here
      obtain ⟨r, right, crosses⟩ := Option.bind_eq_some_iff.mp here
      unfold ForeignKey.crossing? at crosses
      split at crosses
      · cases crosses
        exact .crossed unlinked first left right
      · cases crosses
    | none => exact .none unlinked (firstCrossing_none_iff.mp crossing)

theorem firstDirect_eq {t i : ℕ} {k : ForeignKey} {e : Edge}
    (first : IsLeast (s.linkPlaces catalog c p) (toLex (t, i)))
    (key : s.keyAt? catalog t i = some k) (between : k.direct? c p = some e) :
    s.firstDirect? catalog c p = some e := by
  rw [← linkPlaces_eq] at first
  refine firstDirect_isFirst.eq_some first ?_
  change (s.keyAt? catalog t i).bind (fun k => k.direct? c p) = some e
  rw [key, Option.bind_some, between]

theorem firstCrossing_eq {t i j : ℕ} {l r : ForeignKey} {e : Edge}
    (first : IsLeast (s.crossPlaces catalog c p) (toLex (t, toLex (i, j))))
    (left : s.keyAt? catalog t i = some l) (right : s.keyAt? catalog t j = some r)
    (crosses : l.crossing? r c p = some e) : s.firstCrossing? catalog c p = some e := by
  rw [← crossPlaces_eq] at first
  refine firstCrossing_isFirst.eq_some first ?_
  change (s.keyAt? catalog t i).bind (fun l =>
    (s.keyAt? catalog t j).bind fun r => l.crossing? r c p) = some e
  rw [left, right, Option.bind_some, Option.bind_some, crosses]

theorem links_of_mem {t i : ℕ} {k : ForeignKey} (place : toLex (t, i) ∈ s.linkPlaces catalog c p)
    (key : s.keyAt? catalog t i = some k) : k.Links c p := by
  obtain ⟨k', key', links⟩ := place
  change s.keyAt? catalog t i = some k' at key'
  rw [key] at key'
  cases key'
  exact links

theorem crosses_of_mem {t i j : ℕ} {l r : ForeignKey}
    (place : toLex (t, toLex (i, j)) ∈ s.crossPlaces catalog c p)
    (left : s.keyAt? catalog t i = some l) (right : s.keyAt? catalog t j = some r) :
    l.Crosses r c p := by
  obtain ⟨l', r', left', right', crosses⟩ := place
  change s.keyAt? catalog t i = some l' at left'
  change s.keyAt? catalog t j = some r' at right'
  rw [left] at left'
  rw [right] at right'
  cases left'
  cases right'
  exact crosses

theorem search_of_defines {e : Option Edge} (defines : s.DefinesEdge catalog c p e) :
    (s.firstDirect? catalog c p).or (s.firstCrossing? catalog c p) = e := by
  cases defines with
  | held first key holder =>
    have links := links_of_mem first.1 key
    rw [firstDirect_eq first key (ForeignKey.direct?_of_held links holder), Option.some_or]
    rfl
  | pointed apart first key holder =>
    have links := links_of_mem first.1 key
    rw [firstDirect_eq first key (ForeignKey.direct?_of_pointed apart links holder),
      Option.some_or]
    rfl
  | crossed unlinked first left right =>
    have crosses := crosses_of_mem first.1 left right
    rw [firstDirect_none_iff.mpr unlinked, Option.none_or]
    exact firstCrossing_eq first left right (if_pos crosses)
  | none unlinked uncrossed =>
    rw [firstDirect_none_iff.mpr unlinked, firstCrossing_none_iff.mpr uncrossed, Option.none_or]

end Places

section Built

variable {s : Schema} {catalog : Catalog} {aliases : Dict String (List String)}
  {inflector : Inflector}

theorem SameTables.keyOf? {u : Schema} (same : SameTables s u) (table : CatalogTable)
    (column : Column) : s.keyOf? table column = u.keyOf? table column := by
  have tables : s.table? = u.table? := funext same.table?
  unfold Schema.keyOf?
  rw [tables]

theorem foreignKeys_rows {links : List (String × List ForeignKey)}
    (followed : s.foreignKeys catalog = .ok links) :
    List.Forall₂ (fun row link => link.2 = s.rowKeys row ∧ ∀ k ∈ link.2, k.tableKey = link.1)
      (catalog.tables.zip catalog.columns) links :=
  mapM_forall (fun _ _ _ run => tableForeignKeys_made run) followed

theorem addForeignKeys_edge {links : List (String × List ForeignKey)} {c p : String}
    (followed : s.foreignKeys catalog = .ok links) : (s.addForeignKeys links).edges.get? (c, p) =
      (s.edges.get? (c, p)).or
        ((s.firstDirect? catalog c p).or (s.firstCrossing? catalog c p)) := by
  have rows := foreignKeys_rows followed
  have directs : (links.flatMap Prod.snd).findSome? (fun k => k.direct? c p) =
      s.firstDirect? catalog c p := by
    rw [findSome?_flatMap, firstDirect?]
    refine (findSome?_forall₂ (rows.imp ?_)).symm
    rintro row link ⟨keys, -⟩
    rw [keys]
  have crossings : ((links.flatMap fun link => junctionPairs link.1 link.2).findSome? fun pair =>
      if pair.1.targetKey = c ∧ pair.2.targetKey = p then some (pair.1.across pair.2) else none) =
      s.firstCrossing? catalog c p := by
    rw [findSome?_flatMap, firstCrossing?]
    refine (findSome?_forall₂ (rows.imp ?_)).symm
    rintro row link ⟨keys, own⟩
    rw [junctionPairs_search own, ← keys]
  have passes : s.addForeignKeys links = (links.flatMap fun link =>
      junctionPairs link.1 link.2).foldl addThrough ((links.flatMap Prod.snd).foldl addDirect s) :=
    rfl
  rw [passes, foldl_edge fun _ pair => addThrough_edge pair, foldl_edge fun _ k => addDirect_edge k,
    directs, crossings, Option.or_assoc]

theorem ofCatalog_edge (built : ofCatalog catalog aliases inflector = .ok s) (c p : String) :
    s.edges.get? (c, p) = (s.firstDirect? catalog c p).or (s.firstCrossing? catalog c p) := by
  obtain ⟨links, followed, rfl⟩ := ofCatalog_made built
  have same := addForeignKeys_tables (registered catalog aliases inflector) links
  have keys : (((registered catalog aliases inflector).addForeignKeys links).rowKeys) =
      (registered catalog aliases inflector).rowKeys := by
    funext row
    exact List.filterMap_congr fun column _ => same.keyOf? row.1 column
  rw [addForeignKeys_edge followed, registered_edge, Option.none_or]
  simp only [firstDirect?, firstCrossing?, keys]

theorem defines_of_stored (built : ofCatalog catalog aliases inflector = .ok s) {c p : String}
    {e : Edge} (stored : s.edges.get? (c, p) = some e) : s.DefinesEdge catalog c p (some e) := by
  have defines : s.DefinesEdge catalog c p _ := search_defines
  rwa [← ofCatalog_edge built, stored] at defines

end Built

end Schema

/-- The relationships of a schema are exactly those that the foreign keys of its catalog define. -/
theorem edge_iff_defined {s : Schema} {catalog : Catalog} {aliases : Dict String (List String)}
    {inflector : Inflector} (built : Schema.ofCatalog catalog aliases inflector = .ok s)
    (c p : String) (e : Option Edge) :
    s.edges.get? (c, p) = e ↔ s.DefinesEdge catalog c p e := by
  rw [Schema.ofCatalog_edge built]
  constructor
  · rintro rfl
    exact Schema.search_defines
  · exact Schema.search_of_defines

def quizCatalog : Catalog where
  tables := [{ name := "humans" }, { name := "volcanoes" }, { name := "quizzes" },
    { name := "proofs" }]
  columns := [
    [{ id := 1, name := "id", sqlType := "bigint", primaryKey := true }],
    [{ id := 2, name := "id", sqlType := "bigint", primaryKey := true }],
    [{ id := 3, name := "id", sqlType := "bigint", primaryKey := true },
      { id := 4, name := "author_id", sqlType := "bigint", target := "humans", targetIds := [1] },
      { id := 5, name := "checker_id", sqlType := "bigint", target := "humans", targetIds := [1] }],
    [{ id := 6, name := "human_id", sqlType := "bigint", target := "humans", targetIds := [1] },
      { id := 7, name := "volcano_id", sqlType := "bigint", target := "volcanoes",
        targetIds := [2] },
      { id := 8, name := "quiz_id", sqlType := "bigint", target := "quizzes", targetIds := [3] }]]

theorem quizCatalog_edges : ∃ s, Schema.ofCatalog quizCatalog {} = .ok s ∧
    s.DefinesEdge quizCatalog "quiz" "human"
      (some ⟨.oneToMany, ⟨"quizzes", "author_id", false⟩, ⟨"humans", "id", false⟩⟩) ∧
    s.DefinesEdge quizCatalog "human" "quiz"
      (some ⟨.oneToOne, ⟨"humans", "id", false⟩, ⟨"quizzes", "author_id", false⟩⟩) ∧
    s.DefinesEdge quizCatalog "volcano" "human"
      (some ⟨.through ⟨"proofs", "volcano_id", "human_id"⟩, ⟨"volcanoes", "id", false⟩,
        ⟨"humans", "id", false⟩⟩) ∧
    s.DefinesEdge quizCatalog "human" "human"
      (some ⟨.through ⟨"quizzes", "author_id", "checker_id"⟩, ⟨"humans", "id", false⟩,
        ⟨"humans", "id", false⟩⟩) ∧
    s.DefinesEdge quizCatalog "quiz" "quiz" none := by
  have found : ((Schema.ofCatalog quizCatalog {}).map fun s =>
      (s.edges.get? ("quiz", "human"), s.edges.get? ("human", "quiz"),
        s.edges.get? ("volcano", "human"), s.edges.get? ("human", "human"),
        s.edges.get? ("quiz", "quiz"))) = .ok
      (some ⟨.oneToMany, ⟨"quizzes", "author_id", false⟩, ⟨"humans", "id", false⟩⟩,
        some ⟨.oneToOne, ⟨"humans", "id", false⟩, ⟨"quizzes", "author_id", false⟩⟩,
        some ⟨.through ⟨"proofs", "volcano_id", "human_id"⟩, ⟨"volcanoes", "id", false⟩,
          ⟨"humans", "id", false⟩⟩,
        some ⟨.through ⟨"quizzes", "author_id", "checker_id"⟩, ⟨"humans", "id", false⟩,
          ⟨"humans", "id", false⟩⟩, none) := by
    decide +kernel
  obtain ⟨s, built, found⟩ := Outcome.map_eq_ok.mp found
  simp only [Prod.mk.injEq] at found
  obtain ⟨held, pointed, crossed, round, nothing⟩ := found
  have defined := edge_iff_defined built
  exact ⟨s, built, (defined ..).mp held, (defined ..).mp pointed, (defined ..).mp crossed,
    (defined ..).mp round, (defined ..).mp nothing⟩

end Lateral
