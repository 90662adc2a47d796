import Lateral.Proofs.FilterCauses
import Lateral.Proofs.Nodes

/-!
The walk alone finds a query endless. Working out one selection is refused for causes that lie in
the schema and in the selection, and never for this one.
-/

namespace Lateral

def Error.NotEndless (e : Error) : Prop := ∀ id, e ≠ .endlessSelection id

theorem Error.OfFilter.notEndless (e : Error) (holds : e.OfFilter) : e.NotEndless := by
  rintro id rfl
  exact holds

theorem refusedOnly_notEndless {α : Type} {x : Except Error α} :
    RefusedOnly Error.NotEndless x ↔ ∀ id, x ≠ .error (.endlessSelection id) := by
  constructor
  · intro ends id run
    exact ends.refusal _ run id rfl
  · intro never
    refine ⟨fun e run id same => never id ?_⟩
    rw [run, same]

section Schema

variable (s : Schema) (t : Table)

theorem table_ends (name : String) : RefusedOnly Error.NotEndless (s.table name) :=
  (table_refused s name).weaken Error.OfFilter.notEndless

theorem edge_ends (child parent : String) : RefusedOnly Error.NotEndless (s.edge child parent) :=
  (edge_refused s child parent).weaken Error.OfFilter.notEndless

theorem column_ends (name : String) : RefusedOnly Error.NotEndless (t.column name) :=
  (column_refused t name).weaken Error.OfFilter.notEndless

theorem primary_ends (field : String) : RefusedOnly Error.NotEndless (t.primary field) :=
  (primary_refused t field).weaken Error.OfFilter.notEndless

theorem tokens_ends (f : Filter) : RefusedOnly Error.NotEndless (f.tokens s t) :=
  (tokens_refused s t f).weaken Error.OfFilter.notEndless

end Schema

namespace Query.Context

variable (ctx : Context)

theorem selection_ends (id : Nat) : RefusedOnly Error.NotEndless (ctx.selection id) := by
  unfold selection
  split
  · exact .ok _
  · exact .error nofun

theorem parent_ends (s : Selection) : RefusedOnly Error.NotEndless (ctx.parent? s) := by
  unfold parent?
  split
  · refine (ctx.selection_ends _).bind fun parent _ => ?_
    refine (table_ends ..).bind fun t _ => ?_
    exact (edge_ends ..).bind fun e _ => .ok _
  · exact .ok _

theorem link_ends (s : Selection) (id : Nat) : RefusedOnly Error.NotEndless (ctx.link s id) := by
  unfold link
  refine (ctx.selection_ends id).bind fun child _ => ?_
  refine (edge_ends ..).bind fun e _ => ?_
  split
  · refine RefusedOnly.bind ?_ fun _ _ => .ok _
    unfold SkipMask.require
    split
    · exact .ok _
    · exact .error nofun
  · exact .ok _

theorem restrictions_ends (s : Selection) (t : Table) (parent : Option Parent)
    (cursor : Option Column) : RefusedOnly Error.NotEndless
    (ctx.restrictions s t parent cursor) := by
  unfold restrictions
  split
  · exact .ok _
  · refine RefusedOnly.bind (.mapM fun f _ => ?_) fun _ _ => .ok _
    exact (tokens_ends ..).bind fun _ _ => .ok _

theorem cursorColumn_ends (s : Selection) (t : Table) : RefusedOnly Error.NotEndless
    (ctx.cursorColumn s t) := by
  unfold cursorColumn
  split
  · exact (primary_ends ..).bind fun _ _ => .ok _
  · exact .ok _

theorem findings_ends (id : Nat) : RefusedOnly Error.NotEndless (ctx.findings id) := by
  rw [findings_eq]
  refine (ctx.selection_ends id).bind fun s _ => ?_
  refine (table_ends ..).bind fun t _ => ?_
  refine (ctx.parent_ends s).bind fun parent _ => ?_
  refine (RefusedOnly.mapM fun child _ => ctx.link_ends s child).bind fun links _ => ?_
  refine (RefusedOnly.mapM fun _ _ => (column_ends ..).bind fun _ _ => .ok _).bind ?_
  intro distinctOn _
  refine (RefusedOnly.mapM fun _ _ => (column_ends ..).bind fun _ _ => .ok _).bind ?_
  intro requested _
  refine (ctx.cursorColumn_ends s t).bind fun cursor _ => ?_
  exact (ctx.restrictions_ends ..).bind fun kept _ => .ok _

theorem node_ends (id : Nat) : RefusedOnly Error.NotEndless (ctx.node id) := by
  rw [node_eq_findings]
  exact (ctx.findings_ends id).map

end Query.Context

end Lateral
