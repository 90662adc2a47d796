import Lateral.Query.Walk
import Lateral.Proofs.Registration

/-!
How a selection is worked out, in two stages: everything that can be refused comes first, and the
node is put together from what was found. The check of the ids says that each is a position.
-/

namespace Lateral

def Request.Positioned (r : Request) : Prop :=
  ∀ (i : Nat) (s : Selection), r.selections[i]? = some s → s.id = i

theorem Table.column_eq_ok {t : Table} {name : String} {c : Column} :
    t.column name = .ok c ↔ t.column? name = some c := by
  unfold column
  cases t.column? name with
  | none => simp
  | some d => simp

theorem Table.primary_eq_ok {t : Table} {field : String} {key : Column} :
    t.primary field = .ok key ↔ t.primary? = some key := by
  unfold primary
  cases t.primary? with
  | none => simp
  | some d => simp

namespace Query
open Outcome

structure Findings extends Plan where
  restrictions : List Restriction

namespace Findings

def base (ctx : Context) (found : Findings) : BaseSource := found.toPlan.base ctx found.restrictions

def node (ctx : Context) (found : Findings) : Node := found.toPlan.node ctx found.restrictions

end Findings

namespace Context

def findings (ctx : Context) (id : Nat) : Except Error Findings := do
  let p ← ctx.plan id
  return ⟨p, ← ctx.restrictions p.selection p.table p.parent p.cursor⟩

theorem findings_eq (ctx : Context) (id : Nat) :
    ctx.findings id = do
      let s ← ctx.selection id
      let t ← ctx.schema.table s.table
      let parent ← ctx.parent? s
      let links ← s.children.mapM (ctx.link s)
      let distinctOn ← distinctColumns s t
      let requested ← requestedOrders s t
      let cursor ← ctx.cursorColumn s t
      let restrictions ← ctx.restrictions s t parent cursor
      return ⟨⟨s, t, parent, links, distinctOn, requested, cursor⟩, restrictions⟩ := by
  simp only [findings, plan, bind_assoc, pure_bind]

theorem node_eq_findings (ctx : Context) (id : Nat) :
    ctx.node id = Findings.node ctx <$> ctx.findings id := by
  simp only [findings, map_bind, map_pure]
  rfl

structure Found (ctx : Context) (id : Nat) (found : Findings) : Prop where
  selection : ctx.selection id = .ok found.selection
  table : ctx.schema.table found.selection.table = .ok found.table
  parent : ctx.parent? found.selection = .ok found.parent
  links : found.selection.children.mapM (ctx.link found.selection) = .ok found.links
  distinctOn : distinctColumns found.selection found.table = .ok found.distinctOn
  requested : requestedOrders found.selection found.table = .ok found.requested
  cursor : ctx.cursorColumn found.selection found.table = .ok found.cursor
  restrictions : ctx.restrictions found.selection found.table found.parent found.cursor =
    .ok found.restrictions

theorem findings_eq_ok {ctx : Context} {id : Nat} {found : Findings}
    (run : ctx.findings id = .ok found) : ctx.Found id found := by
  simp only [findings_eq, bind_eq_ok, pure_eq_ok] at run
  obtain ⟨s, selection, t, table, parent, inside, links, linked, told, distinctOn, asked, requested,
    key, cursor, kept, restrictions, rfl⟩ := run
  exact ⟨selection, table, inside, linked, distinctOn, requested, cursor, restrictions⟩

theorem node_found {ctx : Context} {id : Nat} {n : Node} (run : ctx.node id = .ok n) :
    ∃ found, ctx.Found id found ∧ n = found.node ctx := by
  rw [node_eq_findings] at run
  obtain ⟨found, made, rfl⟩ := map_eq_ok.mp run
  exact ⟨found, findings_eq_ok made, rfl⟩

theorem selection_eq_ok {ctx : Context} {id : Nat} {s : Selection} :
    ctx.selection id = .ok s ↔ ctx.request.selections[id]? = some s := by
  unfold selection
  cases ctx.request.selections[id]? with
  | none => simp
  | some t => simp

theorem Found.selection_eq {ctx : Context} {id : Nat} {found : Findings} {s : Selection}
    (made : ctx.Found id found) (known : ctx.request.selections[id]? = some s) :
    found.selection = s :=
  Option.some.inj ((selection_eq_ok.mp made.selection).symm.trans known)

theorem distinctColumns_eq_ok {s : Selection} {t : Table} {distinctOn : List String}
    (run : distinctColumns s t = .ok distinctOn) :
    List.Forall₂ (fun name own => ∃ c, t.column? name = some c ∧ c.name = own) s.distinctOn
      distinctOn := by
  refine (mapM_eq_ok.mp run).imp ?_
  intro name own made
  obtain ⟨c, found, same⟩ := bind_eq_ok.mp made
  exact ⟨c, Table.column_eq_ok.mp found, pure_eq_ok.mp same⟩

theorem requestedOrders_eq_ok {s : Selection} {t : Table} {requested : List (String × Direction)}
    (run : requestedOrders s t = .ok requested) :
    List.Forall₂ (fun o own => ∃ c, t.column? o.column = some c ∧ (c.name, o.direction) = own)
      s.orderBy requested := by
  refine (mapM_eq_ok.mp run).imp ?_
  intro o own made
  obtain ⟨c, found, same⟩ := bind_eq_ok.mp made
  exact ⟨c, Table.column_eq_ok.mp found, pure_eq_ok.mp same⟩

theorem cursorColumn_eq_ok {ctx : Context} {s : Selection} {t : Table} {cursor : Option Column}
    (run : ctx.cursorColumn s t = .ok cursor) :
    ctx.hasCursor s = true ∧ (∃ key, t.primary? = some key ∧ cursor = some key) ∨
      ctx.hasCursor s = false ∧ cursor = none := by
  unfold cursorColumn at run
  cases paged : ctx.hasCursor s with
  | true =>
    rw [if_pos paged] at run
    obtain ⟨key, found, same⟩ := bind_eq_ok.mp run
    exact Or.inl ⟨rfl, key, Table.primary_eq_ok.mp found, (pure_eq_ok.mp same).symm⟩
  | false =>
    rw [if_neg (by simp [paged])] at run
    exact Or.inr ⟨rfl, (pure_eq_ok.mp run).symm⟩

theorem link_eq_ok {ctx : Context} {s : Selection} {id : Nat} {l : Link}
    (run : ctx.link s id = .ok l) :
    ∃ child e, ctx.request.selections[id]? = some child ∧
      ctx.schema.edge? child.table s.table = some e ∧
      (e.isRemote = true ∧ id < SkipMask.width ∧ l = .remote child e ∨
        e.isRemote = false ∧ l = .joined child e) := by
  simp only [link, bind_eq_ok, selection_eq_ok, Schema.edge_eq_ok] at run
  obtain ⟨child, found, e, edge, run⟩ := run
  refine ⟨child, e, found, edge, ?_⟩
  cases remote : e.isRemote with
  | true =>
    simp only [remote, if_true, bind_eq_ok, pure_eq_ok] at run
    obtain ⟨⟨⟩, fits, rfl⟩ := run
    exact Or.inl ⟨rfl, SkipMask.require_eq_ok.mp fits, rfl⟩
  | false =>
    simp only [remote, Bool.false_eq_true, if_false, pure_eq_ok] at run
    exact Or.inr ⟨rfl, run.symm⟩

theorem checkPositions_eq_ok {position : Nat} {selections : List Selection} :
    checkPositions position selections = .ok () ↔
      ∀ (i : Nat) (s : Selection), selections[i]? = some s → s.id = position + i := by
  induction selections generalizing position with
  | nil => simp [checkPositions]
  | cons first rest ih =>
    simp only [checkPositions]
    constructor
    · intro passed i s found
      split at passed
      · rename_i placed
        cases i with
        | zero =>
          cases found
          exact placed
        | succ i =>
          have later := ih.mp passed i s found
          omega
      · cases passed
    · intro placed
      have head : first.id = position := placed 0 first rfl
      rw [if_pos head]
      refine ih.mpr fun i s found => ?_
      have later := placed (i + 1) s found
      omega

theorem checkPositions_iff {r : Request} :
    checkPositions 0 r.selections = .ok () ↔ r.Positioned := by
  simp only [checkPositions_eq_ok, Nat.zero_add]
  rfl

theorem roots_positioned {ctx : Context} {roots : List Selection} (run : ctx.roots = .ok roots) :
    ctx.request.Positioned := by
  unfold Context.roots at run
  simp only [check_eq_ok, bind_eq_ok] at run
  obtain ⟨-, ⟨⟩, checked, -⟩ := run
  exact checkPositions_iff.mp checked

end Context

end Query

end Lateral
