import Lateral.Proofs.Assignments
import Lateral.Proofs.CompiledWrite
import Lateral.Proofs.PayloadNames
import Lateral.Proofs.WriteOrder

/-!
A mutation does not depend on the scalars in its data. The data is left open in the statement and
filled in later; of it the compiler sees only the shape, and the filters that lie in it.
-/

namespace Lateral
open Template Outcome

def Source.names : Source → List String
  | .preset value => value.names
  | _ => []

theorem names_source (source : Source) (column : Column) :
    (source.sql column).names = source.names := by
  cases source with
  | preset value => exact names_typed value column.sqlType
  | _ => rfl

def Command.names : Command → List String
  | .insert _ columns _ _ conflict =>
    (sourceList columns).names ++ Template.names ((conflict.map Conflict.sql).getD [])
  | .update _ columns _ reach => (sourceList columns).names ++ (reach.sql " FROM ").names
  | .read _ reach => (reach.sql ", ").names
  | .delete _ filter | .pick _ filter _ | .attach _ _ _ filter | .detach _ _ _ _ filter =>
    Template.names filter
  | .input _ | .cross _ | .uncross _ | .union _ | .settle .. => []

theorem names_command (c : Command) : c.sql.names = c.names := by
  cases c <;>
    simp only [Command.sql, Command.names, names_append, names_text, List.append_nil,
      List.nil_append]

section Columns

variable {r : Rows} {parent : Option Rows} {children : List Write}

theorem related_names {column : String} {source : Source}
    (found : (r.related parent children).lookup column = some source) : source.names = [] := by
  rcases related_of_lookup found with above | ⟨w, -, given⟩
  · obtain ⟨e, p, -, -, -, -, -, rfl⟩ := mem_fromParent.mp above
    rfl
  · cases given with
    | row | connected | disconnected => rfl

theorem assignment_names {root : Selection} {a : Assignment}
    (member : a ∈ r.assignments root parent children) : a.source.names ⊆ root.names := by
  obtain ⟨-, given⟩ := mem_assignments.mp member
  cases found : (r.related parent children).lookup a.column.name with
  | some source =>
    simp only [Rows.source?, found, Option.some.injEq] at given
    rw [← given, related_names found]
    exact List.nil_subset _
  | none =>
    rcases source?_of_unrelated found given with payload | ⟨p, own, preset⟩
    · rw [payload]
      exact List.nil_subset _
    · rw [preset]
      exact Selection.preset_names own

theorem sourceList_names {root : Selection} :
    (sourceList (r.assignments root parent children)).names ⊆ root.names := by
  intro name member
  obtain ⟨t, among, inside⟩ := mem_names_join member
  obtain ⟨a, listed, rfl⟩ := List.mem_map.mp among
  rw [names_source] at inside
  exact assignment_names listed inside

end Columns

namespace Mutation

variable {ctx : Context}

theorem rootFilter_names {operation : Operation} {text : Template}
    (run : ctx.rootFilter operation = .ok text) : text.names ⊆ ctx.root.names := by
  unfold Context.rootFilter at run
  split at run
  · rename_i f own
    exact List.Subset.trans (Filter.sql_names run) (Selection.filter_names own)
  · cases run

theorem conflict_names {columns : List Assignment} {c : Conflict}
    (run : ctx.conflict columns = .ok c) : c.sql.names ⊆ ctx.root.names := by
  have own : ∀ f, c.filter = some f → f.names ⊆ ctx.root.names := by
    intro f taken
    unfold Context.conflict at run
    obtain ⟨targets, -, run⟩ := bind_eq_ok.mp run
    split at run
    · simp only [pure_eq_ok, bind_eq_ok] at run
      obtain ⟨_, rfl, rfl⟩ := run
      cases taken
    · simp only [pure_eq_ok, bind_eq_ok] at run
      obtain ⟨_, rfl, rfl⟩ := run
      cases taken
    · rename_i g filter
      simp only [pure_eq_ok, bind_eq_ok, map_eq_ok] at run
      obtain ⟨_, ⟨text, made, rfl⟩, rfl⟩ := run
      cases taken
      exact List.Subset.trans (Filter.sql_names made) (Selection.filter_names filter)
  simp only [Conflict.sql, names_append, names_text, List.append_nil, List.nil_append]
  cases filter : c.filter with
  | none => exact List.nil_subset _
  | some f =>
    simp only [names_append, names_text, List.nil_append]
    exact own f filter

theorem insertion_names {r : Rows} {parent : Option Rows} {children : List Write}
    {conflict : Option Conflict} (settled : ∀ c, conflict = some c → c.sql.names ⊆ ctx.root.names) :
    (ctx.insertion r parent children conflict).command.names ⊆ ctx.root.names := by
  refine List.append_subset.mpr ⟨sourceList_names, ?_⟩
  cases conflict with
  | none => exact List.nil_subset _
  | some c => exact settled c rfl

theorem reach_names {r : Rows} {parent : Option Rows} {reach : Reach}
    (run : ctx.reach r parent = .ok reach) (word : String) :
    (reach.sql word).names ⊆ ctx.root.names ++ r.filter.toList.flatMap Filter.names := by
  unfold Context.reach at run
  split at run
  · split at run
    · rename_i f own
      obtain ⟨text, made, run⟩ := bind_eq_ok.mp run
      cases run
      simp only [Reach.sql, Reach.relatedSql, names_append, names_text, List.nil_append, own,
        Option.toList_some, List.flatMap_singleton]
      exact List.Subset.trans (Filter.sql_names made) (List.subset_append_right ..)
    · cases run
      exact List.nil_subset _
  · obtain ⟨text, made, run⟩ := bind_eq_ok.mp run
    cases run
    simp only [Reach.sql, names_append, names_text, List.nil_append]
    exact List.Subset.trans (rootFilter_names made) (List.subset_append_left ..)

theorem step_names {step : Step} {ctes : List Cte} (run : ctx.step step = .ok ctes) :
    ∀ cte ∈ ctes, cte.command.names ⊆ ctx.root.names ++ step.filterNames := by
  have picked {s : Schema} {t : Table} {f : Filter} {text : Template}
      (taken : f.sql s t = .ok text) : text.names ⊆ ctx.root.names ++ f.names :=
    List.Subset.trans (Filter.sql_names taken) (List.subset_append_right ..)
  cases step_made run with
  | insert writes filled settled direct =>
    refine List.forall_mem_singleton.mpr ?_
    refine List.Subset.trans (insertion_names fun c own => ?_) (List.subset_append_left ..)
    subst own
    split at settled
    · obtain ⟨c', made, same⟩ := map_eq_ok.mp settled
      cases same
      exact conflict_names made
    · cases settled
  | insertAcross writes filled edge through =>
    refine List.forall_mem_cons.mpr ⟨?_, List.forall_mem_singleton.mpr ?_⟩
    · exact List.Subset.trans (insertion_names (fun _ none => by cases none))
        (List.subset_append_left ..)
    · exact List.nil_subset _
  | update updates filled reached =>
    refine List.forall_mem_singleton.mpr (List.append_subset.mpr ⟨?_, reach_names reached _⟩)
    exact List.Subset.trans sourceList_names (List.subset_append_left ..)
  | read updates empty reached => exact List.forall_mem_singleton.mpr (reach_names reached _)
  | attach kind connects taken | detach kind removes taken | pick kind taken =>
    exact List.forall_mem_singleton.mpr (picked taken)
  | connectAcross kind connects taken | disconnectAcross kind removes taken =>
    refine List.forall_mem_cons.mpr ⟨picked taken, List.forall_mem_singleton.mpr ?_⟩
    exact List.nil_subset _
  | union g => exact List.forall_mem_singleton.mpr (List.nil_subset _)

theorem deletion_names {cte : Cte} (run : ctx.deletion = .ok cte) :
    cte.command.names ⊆ ctx.root.names := by
  simp only [Context.deletion, bind_eq_ok, pure_eq_ok] at run
  obtain ⟨text, taken, rfl⟩ := run
  exact rootFilter_names taken

theorem ctes_names {name : String} {chain : Chain} {ctes : List Cte} {names : List String}
    (run : ctx.ctes name chain = .ok ctes)
    (filters : ∀ step ∈ chain.steps, step.filterNames ⊆ names) :
    ∀ cte ∈ ctes, cte.command.names ⊆ ctx.root.names ++ names := by
  intro cte member
  rcases mem_ctes run member with rfl | ⟨step, listed, own, made, inside⟩ | ⟨junction, rfl⟩
  · exact List.nil_subset _
  · exact List.Subset.trans (step_names made cte inside)
      (append_subset_append (List.Subset.refl _) (filters step listed))
  · exact List.nil_subset _

end Mutation

namespace Compiler

theorem withRead_names {c : Compiler} {r : Request} {root : Nat} {ctes : List Cte}
    {text : Template} {skipped : SkipMask} {names : List String}
    (run : c.withRead r root ctes = .ok (text, skipped))
    (each : ∀ cte ∈ ctes, cte.command.names ⊆ names) : text.names ⊆ names ++ r.names := by
  simp only [withRead, bind_eq_ok, pure_eq_ok, Prod.mk.injEq] at run
  obtain ⟨⟨read, mask⟩, compiled, rfl, -⟩ := run
  simp only [names_append, names_text, List.append_nil, List.nil_append]
  refine append_subset_append (fun name member => ?_) (Query.Context.compile_names compiled)
  obtain ⟨t, among, inside⟩ := mem_names_join member
  obtain ⟨cte, listed, rfl⟩ := List.mem_map.mp among
  simp only [Cte.sql, names_append, names_text, names_command, List.append_nil, List.nil_append]
    at inside
  exact each cte listed inside

theorem root_names {c : Compiler} {r : Request} {id : Nat} {ctx : Mutation.Context}
    (rooted : c.mutationRoot r = .ok (id, ctx)) : ctx.root.names ⊆ r.names :=
  Request.names_of_selection (mutationRoot_made rooted).2.1

theorem payload_loaded {r : Request} {given : Variables} {name : String} {v : Json}
    (action : r.payload = some name) (loaded : given.get? name = some v)
    (structured : v.isScalar = false) : payload r given = .ok (name, v) := by
  unfold payload
  simp only [action, loaded]
  cases v with
  | arr items => rfl
  | obj fields => rfl
  | _ => cases structured

/-- The values of variables come into a write only as the data of the mutation. -/
theorem writeTemplate_loaded (c : Compiler) {ctx : Mutation.Context} {r : Request} {root : Nat}
    {kind : RowKind} {given : Variables} {name : String} {v : Json}
    (loaded : payload r given = .ok (name, v)) :
    c.writeTemplate ctx r root kind given =
      ((Mutation.build c.schema kind ctx.table v >>= ctx.ctes name) >>= c.withRead r root) := by
  rw [writeTemplate, loaded, bind_assoc]
  rfl

section Runs

variable {c : Compiler} {r : Request} {given other : Variables} {name : String} {v w : Json}

theorem writeTemplate_names {ctx : Mutation.Context} {root : Nat} {kind : RowKind}
    {text : Template} {skipped : SkipMask} (loaded : payload r given = .ok (name, v))
    (within : ctx.root.names ⊆ r.names)
    (run : c.writeTemplate ctx r root kind given = .ok (text, skipped)) :
    text.names ⊆ r.names ++ v.filterNames := by
  rw [writeTemplate_loaded c loaded] at run
  simp only [bind_eq_ok] at run
  obtain ⟨ctes, ⟨chain, built, commanded⟩, run⟩ := run
  have each := Mutation.ctes_names commanded (Mutation.build_names built)
  intro n member
  have origin := withRead_names run each member
  simp only [List.mem_append] at origin ⊢
  rcases origin with (root | data) | read
  · exact .inl (within root)
  · exact .inr data
  · exact .inl read

theorem mutationTemplate_names {text : Template} {skipped : SkipMask}
    (loaded : payload r given = .ok (name, v))
    (run : c.mutationTemplate r given = .ok (text, skipped)) :
    text.names ⊆ r.names ++ v.filterNames := by
  obtain ⟨⟨id, ctx⟩, rooted, run⟩ := bind_eq_ok.mp run
  have within := root_names rooted
  cases operation : r.operation with
  | query =>
    simp only [operation] at run
    exact List.Subset.trans (Query.Context.compile_names run) (List.subset_append_left ..)
  | delete =>
    simp only [operation, bind_eq_ok] at run
    obtain ⟨cte, deleted, run⟩ := run
    have own : ∀ d ∈ [cte], d.command.names ⊆ ctx.root.names :=
      List.forall_mem_singleton.mpr (Mutation.deletion_names deleted)
    have requested : text.names ⊆ r.names :=
      List.Subset.trans (withRead_names run own)
        (List.append_subset.mpr ⟨within, List.Subset.refl _⟩)
    exact List.Subset.trans requested (List.subset_append_left ..)
  | insert | upsert | update =>
    simp only [operation] at run
    exact writeTemplate_names loaded within run

/-- The data of a mutation shows in the template only by its shape. -/
theorem mutationTemplate_eq (loaded : payload r given = .ok (name, v))
    (replaced : payload r other = .ok (name, w)) (structured : v.isScalar = false)
    (alike : v.shape = w.shape) : c.mutationTemplate r given = c.mutationTemplate r other := by
  refine bind_congr fun (id, ctx) => ?_
  have writes (kind : RowKind) :
      c.writeTemplate ctx r id kind given = c.writeTemplate ctx r id kind other := by
    rw [writeTemplate_loaded c loaded, writeTemplate_loaded c replaced,
      Mutation.commands_eq_of_shape ctx name c.schema kind ctx.table structured alike]
  cases r.operation with
  | query => rfl
  | delete => rfl
  | insert | upsert | update => exact writes _

end Runs

end Compiler

/-- The data of a mutation drives only the structure of its statement. Scalars in it, other than
those in filters, may be replaced by others: the statement, the skipped selections or the refusal
stay the same, as long as the variable of the data is not named elsewhere as well. -/
theorem mutation_reads_only_shape (c : Compiler) (r : Request) (given other : Variables)
    (name : String) (v w : Json) (action : r.payload = some name)
    (loaded : given.get? name = some v) (replaced : other.get? name = some w)
    (elsewhere : ∀ n, n ≠ name → given.get? n = other.get? n)
    (structured : v.isScalar = false) (alike : v.shape = w.shape)
    (unnamed : name ∉ r.names) (unfiltered : name ∉ v.filterNames) :
    c.compileMutation r given = c.compileMutation r other := by
  have other_structured : w.isScalar = false := by
    rw [← Json.isScalar_shape, ← alike, Json.isScalar_shape, structured]
  have first := Compiler.payload_loaded action loaded structured
  have second := Compiler.payload_loaded action replaced other_structured
  rw [c.compileMutation_eq_template, c.compileMutation_eq_template,
    ← Compiler.mutationTemplate_eq first second structured alike]
  cases run : c.mutationTemplate r given with
  | error e => rfl
  | ok compiled =>
    obtain ⟨text, skipped⟩ := compiled
    have open_names := Compiler.mutationTemplate_names first run
    refine congrArg (fun sql => Except.ok (Statement.mk sql skipped)) ?_
    refine fill_congr fun n member => ?_
    have different : n ≠ name := by
      rintro rfl
      rcases List.mem_append.mp (open_names member) with request | data
      · exact unnamed request
      · exact unfiltered data
    simp only [Bindings.value?, Compiler.bindings, elsewhere n different]

def quizCompiler : Compiler where
  schema := quizSchema

def addQuiz : Request := .mutation .insert "data" [Selection.ofTable 0 "quizzes"]

def quizWith (text : Json) : Json := .obj [
  ("human", .obj [("connect", .obj [("id", .str "$author")])]),
  ("proof", .arr [.obj [("text", text)]])]

def quizVariables (text : Json) : Variables :=
  ⟨[("data", quizWith text), ("author", .int 1)]⟩

theorem quiz_reads_only_shape :
    (quizWith (.str "by cases")).shape = (quizWith (.bool true)).shape ∧
    (quizWith (.str "by cases")).filterNames = ["author"] ∧
    ∃ statement,
      quizCompiler.compileMutation addQuiz (quizVariables (.str "by cases")) = .ok statement ∧
      quizCompiler.compileMutation addQuiz (quizVariables (.bool true)) = .ok statement := by
  have shape : (quizWith (.str "by cases")).shape = (quizWith (.bool true)).shape := rfl
  have same := mutation_reads_only_shape quizCompiler addQuiz (quizVariables (.str "by cases"))
    (quizVariables (.bool true)) "data" (quizWith (.str "by cases")) (quizWith (.bool true)) rfl rfl
    rfl (fun n different => by
      simp [quizVariables, Dict.get?, List.lookup_cons, beq_false_of_ne different])
    rfl shape (by decide +kernel) (by decide +kernel)
  have compiles : (quizCompiler.compileMutation addQuiz
      (quizVariables (.str "by cases"))).toBool = true := by
    decide +kernel
  refine ⟨shape, by decide +kernel, ?_⟩
  cases run : quizCompiler.compileMutation addQuiz (quizVariables (.str "by cases")) with
  | error e =>
    rw [run] at compiles
    cases compiles
  | ok statement => exact ⟨statement, rfl, same ▸ run⟩

end Lateral
