import Lateral.Proofs.CompiledTemplates
import Lateral.Proofs.Agreement
import Lateral.Proofs.Nodes
import Lateral.Proofs.RelationshipGraph

/-!
The names that selections give their tables. A name is read in look-ups only, of tables and of
relationships, and these go by its key. So a request compiles to the same statement under any other
names with the same keys, and where it is refused, the reason is the same but for the names in it.
-/

namespace Lateral
open Outcome

namespace Error

def unnamed : Error → Error
  | .unknownTable _ => .unknownTable ""
  | .unknownEdge _ _ => .unknownEdge "" ""
  | e => e

theorem unnamed_ctorIdx (e : Error) : e.unnamed.ctorIdx = e.ctorIdx := by cases e <;> rfl

end Error

namespace Outcome

variable {ε δ α β γ κ : Type}

theorem mapError_bind (g : ε → δ) (x : Except ε α) (f : α → Except ε β) :
    (x >>= f).mapError g = x.mapError g >>= fun a => (f a).mapError g := by
  cases x <;> rfl

theorem mapError_mapM (g : ε → δ) (f : α → Except ε β) (xs : List α) :
    (xs.mapM f).mapError g = xs.mapM fun a => (f a).mapError g := by
  induction xs with
  | nil => rfl
  | cons x rest ih =>
    simp only [List.mapM_cons, mapError_bind, ih]
    rfl

theorem filterMap_eq_of_forall₂ {f : α → Option γ} {g : β → Option γ} {xs : List α} {ys : List β}
    (same : List.Forall₂ (fun x y => f x = g y) xs ys) : xs.filterMap f = ys.filterMap g := by
  induction same with
  | nil => rfl
  | cons first _ ih => rw [List.filterMap_cons, List.filterMap_cons, first, ih]

theorem getElem?_rel {R : α → β → Prop} {xs : List α} {ys : List β}
    (both : List.Forall₂ R xs ys) (i : Nat) : Option.Rel R xs[i]? ys[i]? := by
  induction both generalizing i with
  | nil => exact .none
  | cons first _ ih =>
    cases i with
    | zero => exact .some first
    | succ i => simpa using ih i

/-- Two computations that return related values, or are refused for the same reason but for the
names in it. -/
def Alike (R : α → β → Prop) (x : Except Error α) (y : Except Error β) : Prop :=
  Agree R (x.mapError Error.unnamed) (y.mapError Error.unnamed)

namespace Alike

variable {R : α → β → Prop} {S : γ → κ → Prop} {x : Except Error α} {y : Except Error β}

theorem ok {a : α} {b : β} (related : R a b) : Alike R (.ok a) (.ok b) := Agree.ok related

theorem of_agree (both : Agree R x y) : Alike R x y := by
  cases both with
  | ok related => exact .ok related
  | error e => exact Agree.error _

theorem bind {f : α → Except Error γ} {g : β → Except Error κ} (first : Alike R x y)
    (next : ∀ a b, R a b → Alike S (f a) (g b)) : Alike S (x >>= f) (y >>= g) := by
  unfold Alike
  rw [mapError_bind, mapError_bind]
  exact Agree.bind first next

theorem bind_same {f : α → Except Error γ} {g : α → Except Error κ} (x : Except Error α)
    (next : ∀ a, Alike S (f a) (g a)) : Alike S (x >>= f) (x >>= g) :=
  (of_agree (Agree.refl (fun _ => rfl) x)).bind fun a _ same => same ▸ next a

theorem map {f : α → γ} {g : β → κ} (first : Alike R x y) (each : ∀ a b, R a b → S (f a) (g b)) :
    Alike S (f <$> x) (g <$> y) :=
  first.bind fun a b related => .ok (each a b related)

theorem mapM {f : α → Except Error γ} {g : α → Except Error κ} (xs : List α)
    (each : ∀ a ∈ xs, Alike S (f a) (g a)) : Alike (List.Forall₂ S) (xs.mapM f) (xs.mapM g) := by
  unfold Alike
  rw [mapError_mapM, mapError_mapM]
  exact Agree.mapM_same xs each

theorem same_or_refused {y : Except Error α} (both : Alike (fun a b => a = b) x y) :
    (∃ a, x = .ok a ∧ y = .ok a) ∨
      ∃ e f, x = .error e ∧ y = .error f ∧ e.unnamed = f.unnamed := by
  have same := Agree.eq both
  cases x with
  | ok a =>
    cases y with
    | ok b => exact Or.inl ⟨a, rfl, congrArg Except.ok (Except.ok.inj same).symm⟩
    | error f => cases same
  | error e =>
    cases y with
    | ok b => cases same
    | error f => exact Or.inr ⟨e, f, rfl, rfl, Except.error.inj same⟩

end Alike

end Outcome

namespace Schema

variable (s : Schema) {name other : String}

/-- A table is found under the key of a name. A name that resolves to nothing is no table's key. -/
theorem table?_edgeKey (name : String) : s.table? name = s.tables.get? (s.edgeKey name) := by
  unfold table? edgeKey
  cases resolved : s.resolve? name with
  | some key => rfl
  | none =>
    unfold resolve? at resolved
    dsimp only at resolved
    split at resolved
    · cases resolved
    · rename_i absent
      rw [Dict.contains, Option.not_isSome_iff_eq_none] at absent
      rw [Option.getD_none, absent, Option.bind_none]

theorem table_alike (same : s.edgeKey other = s.edgeKey name) :
    Alike (fun t u => t = u) (s.table name) (s.table other) := by
  unfold table
  rw [table?_edgeKey, table?_edgeKey, same]
  cases s.tables.get? (s.edgeKey name) with
  | some t => exact .ok rfl
  | none => exact Agree.error _

theorem edge_alike {child parent child' parent' : String}
    (lower : s.edgeKey child' = s.edgeKey child) (upper : s.edgeKey parent' = s.edgeKey parent) :
    Alike (fun e f => e = f) (s.edge child parent) (s.edge child' parent') := by
  unfold edge edge?
  rw [lower, upper]
  cases s.edges.get? (s.edgeKey child, s.edgeKey parent) with
  | some e => exact .ok rfl
  | none => exact Agree.error _

end Schema

def Selection.named (s : Selection) (name : String) : Selection := { s with table := name }

/-- The same selection, with a name of its table that has the same key. -/
structure Selection.Respelled (schema : Schema) (a b : Selection) : Prop where
  rest : b = a.named b.table
  key : schema.edgeKey b.table = schema.edgeKey a.table

structure Request.Respelled (schema : Schema) (q r : Request) : Prop where
  operation : r.operation = q.operation
  roots : r.roots = q.roots
  payload : r.payload = q.payload
  selections : List.Forall₂ (Selection.Respelled schema) q.selections r.selections

theorem Selection.Respelled.apply {schema : Schema} {a b : Selection} {γ : Type}
    (same : Respelled schema a b) (f : Selection → γ) (unread : ∀ name, f (a.named name) = f a) :
    f b = f a := by
  rw [same.rest]
  exact unread _

namespace Query

inductive Link.Respelled (schema : Schema) : Link → Link → Prop where
  | remote {a b : Selection} (same : a.Respelled schema b) (e : Edge) :
      Respelled schema (.remote a e) (.remote b e)
  | joined {a b : Selection} (same : a.Respelled schema b) (e : Edge) :
      Respelled schema (.joined a e) (.joined b e)

namespace Link

variable {schema : Schema} {links others : List Link} {γ : Type}

theorem parentColumn_respelled (same : List.Forall₂ (Respelled schema) links others) :
    links.map parentColumn = others.map parentColumn := by
  refine map_eq_map_iff_forall₂.mpr (same.imp fun a b spelled => ?_)
  cases spelled <;> rfl

theorem joined_respelled (same : List.Forall₂ (Respelled schema) links others) (f : Selection → γ)
    (unread : ∀ s name, f (s.named name) = f s) :
    (links.filterMap joined?).map f = (others.filterMap joined?).map f := by
  rw [List.map_filterMap, List.map_filterMap]
  refine filterMap_eq_of_forall₂ (same.imp fun a b spelled => ?_)
  cases spelled with
  | remote => rfl
  | joined spelled e => exact congrArg some (spelled.apply f (unread _)).symm

theorem remote_respelled (same : List.Forall₂ (Respelled schema) links others)
    (f : Selection × Edge → γ) (unread : ∀ s name e, f (s.named name, e) = f (s, e)) :
    (links.filterMap remote?).map f = (others.filterMap remote?).map f := by
  rw [List.map_filterMap, List.map_filterMap]
  refine filterMap_eq_of_forall₂ (same.imp fun a b spelled => ?_)
  cases spelled with
  | remote spelled e =>
    exact congrArg some (spelled.apply (fun s => f (s, e)) fun name => unread _ name e).symm
  | joined => rfl

end Link

namespace Context

variable {ctx : Context} {r : Request}

def withRequest (ctx : Context) (r : Request) : Context := { ctx with request := r }

section Respelled

variable (same : ctx.request.Respelled ctx.schema r)
include same

theorem selection_alike (id : Nat) :
    Alike (Selection.Respelled ctx.schema) (ctx.selection id)
      ((ctx.withRequest r).selection id) := by
  have both := getElem?_rel same.selections id
  unfold selection withRequest
  generalize ctx.request.selections[id]? = a at both ⊢
  generalize r.selections[id]? = b at both ⊢
  cases both with
  | none => exact Agree.error _
  | some spelled => exact .ok spelled

theorem parent?_alike {a b : Selection} (spelled : a.Respelled ctx.schema b) :
    Alike (fun p q => p = q) (ctx.parent? a) ((ctx.withRequest r).parent? b) := by
  have above : b.parent = a.parent := spelled.apply Selection.parent fun _ => rfl
  unfold parent?
  rw [above]
  cases a.parent with
  | none => exact .ok rfl
  | some id =>
    refine (selection_alike same id).bind fun p q upper => ?_
    refine (ctx.schema.table_alike upper.key).bind fun t _ found => ?_
    subst found
    refine (ctx.schema.edge_alike spelled.key upper.key).bind fun e _ found => ?_
    subst found
    exact .ok rfl

theorem link_alike {a b : Selection} (spelled : a.Respelled ctx.schema b) (id : Nat) :
    Alike (Link.Respelled ctx.schema) (ctx.link a id) ((ctx.withRequest r).link b id) := by
  unfold link
  refine (selection_alike same id).bind fun child child' lower => ?_
  refine (ctx.schema.edge_alike lower.key spelled.key).bind fun e _ found => ?_
  subst found
  split
  · exact .bind_same _ fun _ => .ok (.remote lower e)
  · exact .ok (.joined lower e)

omit same in
theorem node_respelled {a b : Selection} (spelled : a.Respelled ctx.schema b)
    {links others : List Link} (linked : List.Forall₂ (Link.Respelled ctx.schema) links others)
    (t : Table) (parent : Option Parent) (distinctOn : List String)
    (requested : List (String × Direction)) (cursor : Option Column) (kept : List Restriction) :
    Findings.node ctx ⟨⟨a, t, parent, links, distinctOn, requested, cursor⟩, kept⟩ =
      Findings.node (ctx.withRequest r)
        ⟨⟨b, t, parent, others, distinctOn, requested, cursor⟩, kept⟩ := by
  rw [spelled.rest]
  have columns := Link.parentColumn_respelled linked
  have entries : ctx.linkEntries links = (ctx.withRequest r).linkEntries others := by
    unfold linkEntries
    rw [Link.remote_respelled linked _ fun _ _ _ => rfl,
      Link.joined_respelled linked _ fun _ _ => rfl]
    rfl
  have joined := Link.joined_respelled linked Selection.id fun _ _ => rfl
  have remote := Link.remote_respelled linked (fun c => c.1.id) fun _ _ _ => rfl
  simp only [Findings.node, Plan.node, Plan.head, Plan.base, Plan.groupBy, Plan.outputs, Plan.extra,
    Plan.joined, Plan.remote, columns, entries, joined, remote]
  rfl

theorem findings_alike (id : Nat) :
    Alike (fun found other => found.node ctx = other.node (ctx.withRequest r)) (ctx.findings id)
      ((ctx.withRequest r).findings id) := by
  rw [findings_eq, findings_eq]
  refine (selection_alike same id).bind fun a b spelled => ?_
  refine (ctx.schema.table_alike spelled.key).bind fun t _ found => ?_
  subst found
  refine (parent?_alike same spelled).bind fun parent _ found => ?_
  subst found
  have children : b.children = a.children := spelled.apply Selection.children fun _ => rfl
  rw [children]
  refine (Alike.mapM a.children fun child _ => link_alike same spelled child).bind
    fun links others linked => ?_
  rw [spelled.apply (distinctColumns · t) fun _ => rfl]
  refine .bind_same _ fun distinctOn => ?_
  rw [spelled.apply (requestedOrders · t) fun _ => rfl]
  refine .bind_same _ fun requested => ?_
  rw [spelled.apply ((ctx.withRequest r).cursorColumn · t) fun _ => rfl]
  refine .bind_same (ctx.cursorColumn a t) fun cursor => ?_
  rw [spelled.apply ((ctx.withRequest r).restrictions · t parent cursor) fun _ => rfl]
  refine .bind_same (ctx.restrictions a t parent cursor) fun kept => ?_
  exact .ok (node_respelled spelled linked t parent distinctOn requested cursor kept)

theorem node_alike (id : Nat) :
    Alike (fun n m => n = m) (ctx.node id) ((ctx.withRequest r).node id) := by
  rw [node_eq_findings, node_eq_findings]
  exact (findings_alike same id).map fun _ _ nodes => nodes

theorem walk_alike (depth id : Nat) :
    Alike (fun x y => x = y) (ctx.walk depth id) ((ctx.withRequest r).walk depth id) := by
  induction depth generalizing id with
  | zero => exact Agree.error _
  | succ depth ih =>
    unfold walk
    refine (node_alike same id).bind fun n _ found => ?_
    subst found
    refine (Alike.mapM n.joined fun child _ => ih child).bind fun inner _ found => ?_
    rw [List.forall₂_eq_eq_eq] at found
    subst found
    exact .ok rfl

theorem events_alike : Alike (fun x y => x = y) ctx.events (ctx.withRequest r).events := by
  unfold events
  change Alike _ _ (r.roots.mapM ((ctx.withRequest r).walk r.selections.length) >>= _)
  rw [same.roots, ← same.selections.length_eq]
  refine (Alike.mapM ctx.request.roots fun root _ => walk_alike same _ root).bind
    fun walks _ found => ?_
  rw [List.forall₂_eq_eq_eq] at found
  subst found
  exact .ok rfl

omit same in
theorem checkPositions_respelled {selections others : List Selection}
    (spelled : List.Forall₂ (Selection.Respelled ctx.schema) selections others) (position : Nat) :
    checkPositions position others = checkPositions position selections := by
  induction spelled generalizing position with
  | nil => rfl
  | cons first _ ih =>
    unfold checkPositions
    rw [first.apply Selection.id fun _ => rfl, ih]

theorem roots_alike : Alike (List.Forall₂ (Selection.Respelled ctx.schema)) ctx.roots
    (ctx.withRequest r).roots := by
  unfold roots
  change Alike _ _ (if r.roots.isEmpty then _ else
    checkPositions 0 r.selections >>= fun _ => r.roots.mapM (ctx.withRequest r).selection)
  rw [same.roots, checkPositions_respelled same.selections]
  split
  · exact Agree.error _
  · refine .bind_same _ fun _ => ?_
    exact Alike.mapM _ fun root _ => selection_alike same root

omit same in
theorem isSeveral_respelled {selections others : List Selection}
    (spelled : List.Forall₂ (Selection.Respelled ctx.schema) selections others) :
    ctx.isSeveral selections = (ctx.withRequest r).isSeveral others := by
  have cursors : selections.map ctx.hasCursor = others.map (ctx.withRequest r).hasCursor :=
    map_eq_map_iff_forall₂.mpr (spelled.imp fun a b named =>
      (named.apply (ctx.withRequest r).hasCursor fun _ => rfl).symm)
  have any := congrArg (List.any · id) cursors
  simp only [List.any_map, Function.id_comp] at any
  unfold isSeveral
  rw [spelled.length_eq, any]

omit same in
theorem header_respelled {selections others : List Selection}
    (spelled : List.Forall₂ (Selection.Respelled ctx.schema) selections others) :
    ctx.header selections = (ctx.withRequest r).header others := by
  have columns : (selections.map fun s => rootColumn (ctx.hasCursor s) s) =
      others.map fun s => rootColumn ((ctx.withRequest r).hasCursor s) s :=
    map_eq_map_iff_forall₂.mpr (spelled.imp fun a b named =>
      (named.apply (fun s => rootColumn ((ctx.withRequest r).hasCursor s) s) fun _ => rfl).symm)
  unfold header
  rw [isSeveral_respelled (r := r) spelled, columns]
  split
  · rfl
  · cases spelled with
    | nil => rfl
    | cons first _ => exact (first.apply singleHeader fun _ => rfl).symm

theorem compile_alike : Alike (fun x y => x = y) ctx.compile (ctx.withRequest r).compile := by
  unfold compile
  refine (roots_alike same).bind fun selections others spelled => ?_
  refine (events_alike same).bind fun events _ found => ?_
  subst found
  refine .ok ?_
  rw [header_respelled (r := r) spelled, spelled.length_eq, trailer, trailer,
    isSeveral_respelled (r := r) spelled]

end Respelled

end Context

end Query

namespace Mutation.Context

def named (ctx : Context) (name : String) : Context := { ctx with root := ctx.root.named name }

theorem ctes_named (ctx : Context) (name payload : String) (chain : Chain) :
    (ctx.named name).ctes payload chain = ctx.ctes payload chain := rfl

theorem deletion_named (ctx : Context) (name : String) :
    (ctx.named name).deletion = ctx.deletion := rfl

end Mutation.Context

namespace Compiler

variable (c : Compiler) {q r : Request} (same : q.Respelled c.schema r)
include same

theorem read_alike (absorbed : Option Nat) :
    Alike (fun x y => x = y) (c.queryContext q absorbed).compile
      (c.queryContext r absorbed).compile := by
  have spelled : (c.queryContext q absorbed).request.Respelled
    (c.queryContext q absorbed).schema r := same
  exact Query.Context.compile_alike spelled

theorem withRead_alike (root : Nat) (ctes : List Cte) :
    Alike (fun x y => x = y) (c.withRead q root ctes) (c.withRead r root ctes) := by
  refine (c.read_alike same (some root)).bind fun read _ found => ?_
  subst found
  exact .ok rfl

theorem mutationRoot_alike : Alike (fun x y => ∃ name, y = (x.1, x.2.named name))
    (c.mutationRoot q) (c.mutationRoot r) := by
  unfold mutationRoot
  rw [same.roots, same.operation]
  cases q.roots.head? with
  | none => exact Agree.error _
  | some id =>
    have both := getElem?_rel same.selections id
    dsimp only
    generalize q.selections[id]? = a at both ⊢
    generalize r.selections[id]? = b at both ⊢
    cases both with
    | none => exact Agree.error _
    | @some a b spelled =>
      have presets : b.presets = a.presets := spelled.apply Selection.presets fun _ => rfl
      dsimp only
      refine (c.schema.table_alike spelled.key).bind fun t _ found => ?_
      subst found
      rw [presets]
      have finish : Alike (fun x y => ∃ name, y = (x.1, x.2.named name))
          (a.presets.mapM (fun p => t.column p.column) >>= fun _ =>
            pure (id, Mutation.Context.mk c.schema a t))
          (a.presets.mapM (fun p => t.column p.column) >>= fun _ =>
            pure (id, Mutation.Context.mk c.schema b t)) := by
        refine .bind_same _ fun _ => .ok ⟨b.table, ?_⟩
        exact congrArg (fun s => (id, Mutation.Context.mk c.schema s t)) spelled.rest
      split
      · exact .bind_same _ fun _ => finish
      · exact finish

theorem writeTemplate_alike (ctx : Mutation.Context) (name : String) (root : Nat) (kind : RowKind)
    (given : Variables) :
    Alike (fun x y => x = y) (c.writeTemplate ctx q root kind given)
      (c.writeTemplate (ctx.named name) r root kind given) := by
  have payload : payload r given = payload q given := by
    unfold Compiler.payload
    rw [same.payload]
  unfold writeTemplate
  rw [payload]
  refine .bind_same _ fun data => .bind_same _ fun chain => ?_
  rw [ctx.ctes_named]
  exact .bind_same _ fun ctes => c.withRead_alike same root ctes

theorem mutationTemplate_alike (given : Variables) :
    Alike (fun x y => x = y) (c.mutationTemplate q given) (c.mutationTemplate r given) := by
  unfold mutationTemplate
  rw [same.operation]
  refine (c.mutationRoot_alike same).bind ?_
  rintro ⟨id, ctx⟩ _ ⟨name, rfl⟩
  cases q.operation with
  | query => exact c.read_alike same none
  | delete =>
    dsimp only
    rw [ctx.deletion_named]
    refine .bind_same ctx.deletion fun deleted => ?_
    exact c.withRead_alike same id [deleted]
  | insert => exact c.writeTemplate_alike same ctx name id .insert given
  | upsert => exact c.writeTemplate_alike same ctx name id .upsert given
  | update => exact c.writeTemplate_alike same ctx name id .update given

theorem compile_alike (given : Variables) :
    Alike (fun x y => x = y) (c.compile q given) (c.compile r given) := by
  have finish (x y : Template × SkipMask) (eq : x = y) : c.finish given x = c.finish given y :=
    congrArg (c.finish given) eq
  unfold compile
  rw [same.operation]
  cases q.operation with
  | query =>
    rw [compileQuery_eq_template, compileQuery_eq_template]
    exact (c.read_alike same none).map finish
  | _ =>
    rw [compileMutation_eq_template, compileMutation_eq_template]
    exact (c.mutationTemplate_alike same given).map finish

end Compiler

theorem name_forms_interchangeable (c : Compiler) (given : Variables) {q r : Request}
    (same : q.Respelled c.schema r) :
    (∃ statement, c.compile q given = .ok statement ∧ c.compile r given = .ok statement) ∨
      ∃ e f, c.compile q given = .error e ∧ c.compile r given = .error f ∧
        e.ctorIdx = f.ctorIdx ∧ e.unnamed = f.unnamed := by
  rcases (c.compile_alike same given).same_or_refused with
    compiled | ⟨e, f, refused, refused', equal⟩
  · exact Or.inl compiled
  · refine Or.inr ⟨e, f, refused, refused', ?_, equal⟩
    rw [← e.unnamed_ctorIdx, equal, f.unnamed_ctorIdx]

def quizzesByHuman (human quiz : String) : Request := .query [
  { id := 0, table := human, label := "authors", fields := [.ofName "id"], children := [1] },
  { id := 1, parent := some 0, table := quiz, label := "asked", fields := [.ofName "id"] }]

theorem quizzesByHuman_interchangeable : ∃ s statement,
    Schema.ofCatalog quizCatalog ⟨[("humans", ["thieves"])]⟩ = .ok s ∧
    (quizzesByHuman "humans" "quizzes").Respelled s (quizzesByHuman "THIEVES" "Quiz") ∧
    Compiler.compile ⟨s, {}⟩ (quizzesByHuman "humans" "quizzes") {} = .ok statement ∧
    Compiler.compile ⟨s, {}⟩ (quizzesByHuman "THIEVES" "Quiz") {} = .ok statement := by
  have found : (Schema.ofCatalog quizCatalog ⟨[("humans", ["thieves"])]⟩ >>= fun s =>
      (fun _ =>
        (s.edgeKey "humans", s.edgeKey "THIEVES", s.edgeKey "quizzes", s.edgeKey "Quiz")) <$>
        Compiler.compile ⟨s, {}⟩ (quizzesByHuman "humans" "quizzes") {}) =
      .ok ("human", "human", "quiz", "quiz") := by
    decide +kernel
  obtain ⟨s, built, found⟩ := bind_eq_ok.mp found
  obtain ⟨statement, compiled, keys⟩ := map_eq_ok.mp found
  simp only [Prod.mk.injEq] at keys
  obtain ⟨human, thief, quizzes, quiz⟩ := keys
  have spelled :
      (quizzesByHuman "humans" "quizzes").Respelled s (quizzesByHuman "THIEVES" "Quiz") :=
    ⟨rfl, rfl, rfl, .cons ⟨rfl, thief.trans human.symm⟩ (.cons ⟨rfl, quiz.trans quizzes.symm⟩ .nil)⟩
  rcases name_forms_interchangeable ⟨s, {}⟩ {} spelled with
    ⟨other, first, second⟩ | ⟨e, _, refused, _⟩
  · rw [compiled] at first
    cases first
    exact ⟨s, statement, built, spelled, compiled, second⟩
  · rw [compiled] at refused
    cases refused

end Lateral
