import Lateral.Mutation.Chain
import Lateral.Proofs.Outcome

/-!
The commands that a step of a mutation comes down to, by kind of step and of relationship.
-/

namespace Lateral.Mutation
open Outcome

def Context.insertion (ctx : Context) (r : Rows) (parent : Option Rows) (children : List Write)
    (conflict : Option Conflict) : Cte :=
  ⟨r.table.name, .insert r.table.name (r.assignments ctx.root parent children) (input r)
    (parent.isNone && ctx.root.filter.any Filter.isNever) conflict⟩

def linkCrossing (g : LinkGroup) (owner : Rows) (l : Link) (j : Junction) : Crossing :=
  ⟨j, ⟨owner.table.name, g.edge.right.column⟩, ⟨g.cteName l, g.edge.left.column⟩⟩

inductive StepMade (ctx : Context) : Step → List Cte → Prop where
  | insert {r : Rows} {parent : Option Rows} {children : List Write} {conflict : Option Conflict}
      (writes : r.kind.writesRow = true)
      (filled : r.assignments ctx.root parent children ≠ [])
      (settled : (if parent.isNone && r.kind = .upsert then
        some <$> ctx.conflict (r.assignments ctx.root parent children) else pure none) =
          .ok conflict)
      (direct : ∀ e p, r.edge = some e → parent = some p → e.junction? = none) :
      StepMade ctx (.rows r parent children) [ctx.insertion r parent children conflict]
  | insertAcross {r p : Rows} {children : List Write} {e : Edge} {j : Junction}
      (writes : r.kind.writesRow = true)
      (filled : r.assignments ctx.root (some p) children ≠ [])
      (edge : r.edge = some e) (through : e.junction? = some j) :
      StepMade ctx (.rows r (some p) children) [ctx.insertion r (some p) children none,
        ⟨crossingName j r.id,
          .cross ⟨j, ⟨p.table.name, e.right.column⟩, ⟨r.table.name, e.left.column⟩⟩⟩]
  | update {r : Rows} {parent : Option Rows} {children : List Write} {reach : Reach}
      (updates : r.kind = .update) (filled : r.assignments ctx.root parent children ≠ [])
      (reached : ctx.reach r parent = .ok reach) :
      StepMade ctx (.rows r parent children) [⟨r.table.name,
        .update r.table.name (r.assignments ctx.root parent children) (input r) reach⟩]
  | read {r : Rows} {parent : Option Rows} {children : List Write} {reach : Reach}
      (updates : r.kind = .update) (empty : r.assignments ctx.root parent children = [])
      (reached : ctx.reach r parent = .ok reach) :
      StepMade ctx (.rows r parent children) [⟨r.table.name, .read r.table.name reach⟩]
  | attach {g : LinkGroup} {owner : Rows} {l : Link} {filter : Template}
      (kind : g.edge.kind = .oneToMany) (connects : l.kind = .connect)
      (taken : Filter.sql ctx.schema g.table l.filter = .ok filter) :
      StepMade ctx (.link g owner l) [⟨g.cteName l, .attach g.table.name g.edge.left.column
        ⟨owner.table.name, g.edge.right.column⟩ filter⟩]
  | detach {g : LinkGroup} {owner : Rows} {l : Link} {filter : Template}
      (kind : g.edge.kind = .oneToMany) (removes : l.kind = .disconnect)
      (taken : Filter.sql ctx.schema g.table l.filter = .ok filter) :
      StepMade ctx (.link g owner l) [⟨g.cteName l, .detach g.table.name g.edge.left.column
        owner.table.name (Sql.edgeCondition g.edge owner.table.name) filter⟩]
  | pick {g : LinkGroup} {owner : Rows} {l : Link} {filter : Template}
      (kind : g.edge.kind = .oneToOne)
      (taken : Filter.sql ctx.schema g.table l.filter = .ok filter) :
      StepMade ctx (.link g owner l) [⟨g.cteName l, .pick g.table.name filter true⟩]
  | connectAcross {g : LinkGroup} {owner : Rows} {l : Link} {filter : Template} {j : Junction}
      (kind : g.edge.kind = .through j) (connects : l.kind = .connect)
      (taken : Filter.sql ctx.schema g.table l.filter = .ok filter) :
      StepMade ctx (.link g owner l) [⟨g.cteName l, .pick g.table.name filter false⟩,
        ⟨crossingName j l.id, .cross (linkCrossing g owner l j)⟩]
  | disconnectAcross {g : LinkGroup} {owner : Rows} {l : Link} {filter : Template} {j : Junction}
      (kind : g.edge.kind = .through j) (removes : l.kind = .disconnect)
      (taken : Filter.sql ctx.schema g.table l.filter = .ok filter) :
      StepMade ctx (.link g owner l) [⟨g.cteName l, .pick g.table.name filter false⟩,
        ⟨crossingName j l.id, .uncross (linkCrossing g owner l j)⟩]
  | union (g : LinkGroup) :
      StepMade ctx (.union g) [⟨g.table.name, .union (g.links.map g.cteName)⟩]

theorem insert_made {ctx : Context} {r : Rows} {parent : Option Rows} {children : List Write}
    {ctes : List Cte} (writes : r.kind.writesRow = true)
    (run : ctx.insert r parent (r.assignments ctx.root parent children) = .ok ctes) :
    StepMade ctx (.rows r parent children) ctes := by
  unfold Context.insert at run
  simp only [check_eq_ok, choice_eq_ok, List.isEmpty_iff] at run
  obtain ⟨filled, conflict, settled, run⟩ := run
  split at run
  · rename_i e p edge
    split at run
    · rename_i c crossed
      obtain ⟨j, through, rfl⟩ := Option.map_eq_some_iff.mp crossed
      simp only [pure_eq_ok] at run
      subst run
      -- only the root can settle a conflict
      simp only [Option.isNone_some, Bool.false_and, Bool.false_eq_true, ↓reduceIte, pure_eq_ok]
        at settled
      subst settled
      exact .insertAcross writes filled edge through
    · rename_i direct
      simp only [pure_eq_ok] at run
      subst run
      refine .insert writes filled settled ?_
      intro e' p' edge' _
      rw [edge] at edge'
      cases edge'
      simpa [crossing?] using direct
  · rename_i alone
    simp only [pure_eq_ok] at run
    subst run
    exact .insert writes filled settled fun e p edge parent => absurd parent (alone e p edge)

theorem update_made {ctx : Context} {r : Rows} {parent : Option Rows} {children : List Write}
    {ctes : List Cte} (updates : r.kind = .update)
    (run : ctx.update r parent (r.assignments ctx.root parent children) = .ok ctes) :
    StepMade ctx (.rows r parent children) ctes := by
  unfold Context.update at run
  obtain ⟨reach, reached, run⟩ := bind_eq_ok.mp run
  split at run
  · rename_i empty
    simp only [pure_eq_ok] at run
    subst run
    exact .read updates (List.isEmpty_iff.mp empty) reached
  · rename_i filled
    simp only [pure_eq_ok] at run
    subst run
    exact .update updates (fun empty => filled (List.isEmpty_iff.mpr empty)) reached

theorem link_commands {ctx : Context} {g : LinkGroup} {owner : Rows} {l : Link} {ctes : List Cte}
    (run : ctx.link g owner l = .ok ctes) : StepMade ctx (.link g owner l) ctes := by
  unfold Context.link at run
  cases kind : g.edge.kind with
  | remote => simp [kind, throw_eq_ok] at run
  | oneToMany =>
    simp only [kind, bind_eq_ok] at run
    obtain ⟨filter, taken, run⟩ := run
    cases way : l.kind with
    | connect =>
      simp only [way, pure_eq_ok] at run
      subst run
      exact .attach kind way taken
    | disconnect =>
      simp only [way, pure_eq_ok] at run
      subst run
      exact .detach kind way taken
  | oneToOne =>
    simp only [kind, bind_eq_ok, pure_eq_ok] at run
    obtain ⟨filter, taken, rfl⟩ := run
    exact .pick kind taken
  | through j =>
    simp only [kind, bind_eq_ok, pure_eq_ok] at run
    obtain ⟨filter, taken, rfl⟩ := run
    cases way : l.kind with
    | connect => exact .connectAcross kind way taken
    | disconnect => exact .disconnectAcross kind way taken

theorem step_made {ctx : Context} {step : Step} {ctes : List Cte}
    (run : ctx.step step = .ok ctes) : StepMade ctx step ctes := by
  cases step with
  | rows r parent children =>
    cases kind : r.kind with
    | insert =>
      simp only [Context.step, kind] at run
      exact insert_made (by simp [kind, RowKind.writesRow]) run
    | upsert =>
      simp only [Context.step, kind] at run
      exact insert_made (by simp [kind, RowKind.writesRow]) run
    | update =>
      simp only [Context.step, kind] at run
      exact update_made kind run
  | link g owner l => exact link_commands run
  | union g =>
    simp only [Context.step, Except.ok.injEq] at run
    subst run
    exact .union g

end Lateral.Mutation
