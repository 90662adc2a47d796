import Lateral.Mutation.Source

/-!
The columns of written rows, one by one: which of them are written, and what comes before what when
a source is picked.
-/

namespace Lateral

def Rows.source? (r : Rows) (root : Selection) (parent : Option Rows) (children : List Write)
    (col : Column) : Option Source :=
  match (r.related parent children).lookup col.name with
  | some source => some source
  | none => if parent.isNone then root.sourceOf r col else r.fromPayload col

variable {r : Rows} {root : Selection} {parent : Option Rows} {children : List Write}

theorem mem_assignments {a : Assignment} :
    a ∈ r.assignments root parent children ↔
      a.column ∈ r.table.columns ∧ r.source? root parent children a.column = some a.source := by
  obtain ⟨col, source⟩ := a
  have unfolded : r.assignments root parent children = r.table.columns.filterMap fun c =>
      (r.source? root parent children c).map (Assignment.mk c) := rfl
  rw [unfolded, List.mem_filterMap]
  constructor
  · rintro ⟨c, member, made⟩
    obtain ⟨own, found, same⟩ := Option.map_eq_some_iff.mp made
    cases same
    exact ⟨member, found⟩
  · rintro ⟨member, found⟩
    exact ⟨col, member, Option.map_eq_some_iff.mpr ⟨source, found, rfl⟩⟩

theorem source?_congr {col other : Column} (same : col.name = other.name) :
    r.source? root parent children col = r.source? root parent children other := by
  unfold Rows.source? Selection.sourceOf Rows.fromPayload
  rw [same]

theorem mem_fromParent {column : String} {source : Source} :
    (column, source) ∈ r.fromParent parent ↔
      ∃ e p, r.edge = some e ∧ parent = some p ∧ r.kind.writesRow = true ∧ e.isOneToMany = true ∧
        column = e.left.column ∧ source = .related ⟨p.table.name, e.right.column⟩ := by
  unfold Rows.fromParent
  cases r.edge with
  | none => simp
  | some e =>
    cases parent with
    | none => simp
    | some p =>
      by_cases holds : r.kind.writesRow = true ∧ e.isOneToMany = true
      · simp [holds]
      · simp only [Bool.and_eq_true, holds, if_false, List.not_mem_nil, false_iff]
        rintro ⟨e', p', ⟨⟩, ⟨⟩, writes, many, -⟩
        exact holds ⟨writes, many⟩

inductive Rows.GivenBy (r : Rows) : Write → String → Source → Prop where
  | row {c : Rows} {below : List Write} {e : Edge} (edge : c.edge = some e)
      (single : e.isOneToOne = true) (inserts : c.kind = .insert)
      (writes : r.kind.writesRow = true) :
      GivenBy r (.rows c below) e.right.column (.related ⟨c.table.name, e.left.column⟩)
  | connected {g : LinkGroup} {l : Link} (single : g.edge.isOneToOne = true)
      (first : g.links.find? (fun l => l.kind = .connect) = some l) :
      GivenBy r (.links g) g.edge.right.column (.related ⟨g.cteName l, g.edge.left.column⟩)
  | disconnected {g : LinkGroup} (single : g.edge.isOneToOne = true)
      (none : g.links.find? (fun l => l.kind = .connect) = none) :
      GivenBy r (.links g) g.edge.right.column .null

theorem fromChild_eq_some {w : Write} {column : String} {source : Source} :
    r.fromChild w = some (column, source) ↔ r.GivenBy w column source := by
  constructor
  · intro taken
    cases w with
    | rows c below =>
      cases edge : c.edge with
      | none => simp [Rows.fromChild, edge] at taken
      | some e =>
        simp only [Rows.fromChild, edge, Option.ite_none_right_eq_some, Bool.and_eq_true,
          decide_eq_true_eq, Option.some.injEq, Prod.mk.injEq] at taken
        obtain ⟨⟨⟨single, inserts⟩, writes⟩, rfl, rfl⟩ := taken
        exact .row edge single inserts writes
    | links g =>
      simp only [Rows.fromChild, Option.ite_none_right_eq_some] at taken
      obtain ⟨single, taken⟩ := taken
      split at taken
      · rename_i l first
        cases taken
        exact .connected single first
      · rename_i none
        cases taken
        exact .disconnected single none
  · intro given
    cases given with
    | row edge single inserts writes => simp [Rows.fromChild, edge, single, inserts, writes]
    | connected single first => simp [Rows.fromChild, single, first]
    | disconnected single none => simp [Rows.fromChild, single, none]

theorem mem_related {column : String} {source : Source} :
    (column, source) ∈ r.related parent children ↔
      (column, source) ∈ r.fromParent parent ∨ ∃ w ∈ children, r.GivenBy w column source := by
  simp only [Rows.related, List.mem_append, List.mem_filterMap, fromChild_eq_some]

theorem related_of_lookup {name : String} {source : Source}
    (found : (r.related parent children).lookup name = some source) :
    (name, source) ∈ r.fromParent parent ∨ ∃ w ∈ children, r.GivenBy w name source := by
  obtain ⟨before, after, split, -⟩ := List.lookup_eq_some_iff.mp found
  exact mem_related.mp (by simp [split])

theorem payload_of_given {col : Column} {source : Source}
    (given : r.fromPayload col = some source) : source = .payload := by
  unfold Rows.fromPayload at given
  split at given
  · exact (Option.some.inj given).symm
  · cases given

theorem source?_of_unrelated {col : Column} {source : Source}
    (unrelated : (r.related parent children).lookup col.name = none)
    (given : r.source? root parent children col = some source) :
    source = .payload ∨ ∃ p ∈ root.presets, source = .preset (.ofText p.value) := by
  simp only [Rows.source?, unrelated] at given
  split at given
  · unfold Selection.sourceOf at given
    split at given
    · rename_i p preset
      exact Or.inr ⟨p, List.mem_of_find?_eq_some preset, (Option.some.inj given).symm⟩
    · split at given
      · exact Or.inl (payload_of_given given)
      · cases given
  · exact Or.inl (payload_of_given given)

end Lateral
