import Lateral.Proofs.WriteOrigins

/-!
The data that an update reads. Below the root a list of objects is refused, so that each update
there reads one record. The root takes a list as an insert does, and its update then reads as many
records as the list has, of which only one can give the values to set.
-/

namespace Lateral
open Mutation Outcome

/-- A field that an update takes as the data of a table below: it is no column, and neither links
rows nor narrows them. -/
inductive UpdateData (s : Schema) : Table → Json → String × Json → Prop where
  | here {t : Table} {value : Json} {p : Payload} {f : String × Json}
      (read : Payload.ofJson value = .ok p) (member : f ∈ p.fields) (holds : t.holdsData f = true)
      (data : isLinkKey f.1 = false) (other : f.1 ≠ whereKey) : UpdateData s t value f
  | deeper {t u : Table} {value : Json} {p : Payload} {f g : String × Json}
      (read : Payload.ofJson value = .ok p) (member : f ∈ p.fields) (holds : t.holdsData f = true)
      (data : isLinkKey f.1 = false) (other : f.1 ≠ whereKey) (names : s.table f.1 = .ok u)
      (inside : UpdateData s u f.2 g) : UpdateData s t value g

def Json.isList : Json → Bool
  | .arr _ => true
  | _ => false

theorem Payload.array_eq {value : Json} {p : Payload} (read : ofJson value = .ok p) :
    p.array = value.isList := by
  cases value with
  | obj fields =>
    cases read
    rfl
  | arr items =>
    obtain ⟨united, -, made⟩ := bind_eq_ok.mp read
    rw [← pure_eq_ok.mp made]
    rfl
  | _ => cases read

section Records

variable {s : Schema} {d : Draft} {st st' : State}

theorem lastFirst_draft {P : Draft → State → Write → State → Prop} {ds : List Draft}
    {ws : List Write} (all : LastFirst P ds st ws st') (member : d ∈ ds) :
    ∃ w before after, P d before w after := by
  induction all with
  | nil => cases member
  | cons _ first ih =>
    rcases List.mem_cons.mp member with rfl | later
    · exact ⟨_, _, _, first⟩
    · exact ih later

theorem UpdateData.nested {value : Json} {f : String × Json} (data : UpdateData s d.table value f)
    (read : Payload.ofJson value = .ok d.payload) :
    ∃ g ∈ d.nested, isLinkKey g.1 = false ∧ g.1 ≠ whereKey ∧
      (f = g ∨ ∃ u, s.table g.1 = .ok u ∧ UpdateData s u g.2 f) := by
  cases data with
  | here again member holds data other =>
    rw [Except.ok.inj (again.symm.trans read)] at member
    exact ⟨f, List.mem_filter.mpr ⟨member, holds⟩, data, other, .inl rfl⟩
  | deeper again member holds data other names inside =>
    rw [Except.ok.inj (again.symm.trans read)] at member
    exact ⟨_, List.mem_filter.mpr ⟨member, holds⟩, data, other, .inr ⟨_, names, inside⟩⟩

def Mutation.Draft.Records (s : Schema) (d : Draft) : Prop :=
  d.kind = .update → ∀ value, Payload.ofJson value = .ok d.payload →
    ∀ f, UpdateData s d.table value f → f.2.isList = false

theorem expand_records {w : Write} (run : expand s d st = .ok (w, st')) : d.Records s := by
  refine expand_induction (P := fun d _ _ _ => d.Records s) ?_ ?_ run
  · intro d e st ls st' _ _ all _ _ value read f data
    -- where there are links there is no other data
    obtain ⟨g, member, no_link, -⟩ := data.nested read
    rw [nested_isLinkKey all member] at no_link
    cases no_link
  · intro d st drafts filter st₁ writes st₂ _ made below updates value read f data
    obtain ⟨g, member, -, other, reached⟩ := data.nested read
    obtain ⟨c, listed, _, _, first⟩ := children_mem made member fun both => other both.1
    have kept : c.kind = .update := by
      rw [first.kind, updates]
      rfl
    rcases reached with rfl | ⟨u, names, inside⟩
    · rw [← Payload.array_eq first.payload]
      exact first.record kept
    · obtain ⟨w, _, _, single⟩ := lastFirst_draft below listed
      rw [Except.ok.inj (names.symm.trans first.table)] at inside
      exact single kept _ first.payload f inside

theorem build_records {t : Table} {value : Json} {chain : Chain}
    (built : build s .update t value = .ok chain) {f : String × Json}
    (data : UpdateData s t value f) : f.2.isList = false := by
  obtain ⟨root, last, -, kind, table, -, -, read, run⟩ := build_expanded built
  rw [← table] at data
  exact expand_records run kind value read f data

end Records

namespace Input

def rowsBefore (columns : List Assignment) : String :=
  Sql.name Input.name ++ " i, " ++
    String.join ((distinct (columns.filterMap fun a => a.source.table?)).map fun t =>
      Sql.name t ++ ", ")

def arguments (input : Input) : String :=
  "(NULL::" ++ Sql.name input.table ++ ", i.j" ++
    String.join (input.path.map fun key => "->" ++ Text.quote key) ++ ") t"

def ReadBy (input : Input) (columns : List Assignment) (function : String) : Prop :=
  input.sql columns = rowsBefore columns ++ function ++ input.arguments

variable {input : Input} {columns : List Assignment}

theorem readBy_iff {function : String} : input.ReadBy columns function ↔
    function = if input.array then "json_populate_recordset" else "json_populate_record" := by
  have text : input.sql columns = rowsBefore columns ++
      (if input.array then "json_populate_recordset" else "json_populate_record") ++
        input.arguments := by
    simp only [Input.sql, rowsBefore, arguments, String.append_assoc]
  unfold ReadBy
  rw [text]
  rw [String.append_left_inj, String.append_right_inj]
  exact eq_comm

end Input

def Command.updateData? : Command → Option (List Assignment × Input)
  | .update _ columns data _ => some (columns, data)
  | _ => none

def Command.SetBy (command : Command) (function : String) : Prop :=
  ∃ columns data, command.updateData? = some (columns, data) ∧ data.ReadBy columns function

theorem update_step {ctx : Context} {step : Step} {own : List Cte} (made : ctx.step step = .ok own)
    {cte : Cte} (inside : cte ∈ own) {columns : List Assignment} {data : Input}
    (command : cte.command.updateData? = some (columns, data)) :
    ∃ r parent children, step = .rows r parent children ∧ r.kind = .update ∧ data = input r ∧
      r.assignments ctx.root parent children ≠ [] := by
  cases step_made made with
  | update updates filled =>
    rw [List.mem_singleton.mp inside] at command
    cases command
    exact ⟨_, _, _, rfl, updates, rfl, filled⟩
  | insert | read | attach | detach | pick | union =>
    rw [List.mem_singleton.mp inside] at command
    cases command
  | insertAcross | connectAcross | disconnectAcross =>
    rcases List.mem_pair.mp inside with rfl | rfl <;> cases command

namespace WriteRun

variable {c : Compiler} {r : Request} {given : Variables} (run : WriteRun c r given)

def rootColumns : List Assignment :=
  run.chain.root.assignments run.ctx.root none run.chain.children

/-- An update is that of the root, or one below it that reads a single record. -/
theorem update_data {cte : Cte} (member : cte ∈ run.ctes) {columns : List Assignment} {data : Input}
    (command : cte.command.updateData? = some (columns, data)) :
    (data = input run.chain.root ∧ run.rootColumns ≠ []) ∨
      (data.path ≠ [] ∧ data.array = false) := by
  rcases mem_ctes run.commanded member with
    rfl | ⟨step, listed, own, made, inside⟩ | ⟨junction, rfl⟩
  · cases command
  · obtain ⟨rows, parent, children, rfl, updates, rfl, filled⟩ := update_step made inside command
    rcases chain_step_stands listed with root | stands
    · cases root
      exact .inl ⟨rfl, filled⟩
    · cases stands with
      | rows hangs =>
        obtain ⟨f, taken⟩ := build_taken run.built hangs
        have path : rows.path ≠ [] := by
          rw [(taken.rows _ _ rfl).2.1]
          simp
        exact .inr ⟨path, (taken.updated _ _ rfl updates).1⟩
  · cases command

theorem root_data : (input run.chain.root).path = [] ∧
    (input run.chain.root).array = run.value.isList := by
  obtain ⟨-, -, -, path, -, read⟩ := build_root run.built
  exact ⟨path, Payload.array_eq read⟩

theorem root_update (updates : run.kind = .update) (filled : run.rootColumns ≠ []) :
    ∃ cte ∈ run.ctes, ∃ columns,
      cte.command.updateData? = some (columns, input run.chain.root) := by
  obtain ⟨cte, member, made, -⟩ := run.root_command
  have kind : run.chain.root.kind = .update := (build_root run.built).2.1.trans updates
  generalize listed : [cte] = ctes at made
  cases step_made made with
  | update =>
    cases listed
    exact ⟨_, member, _, rfl⟩
  | insert writes => simp [kind, RowKind.writesRow] at writes
  | read _ empty => exact absurd empty filled

end WriteRun

/-- An update reads a list of records at its root only. A list that is data for a table below makes
it fail; every update below the root reads one record, and that of the root reads a set of them just
if the data is a list. -/
theorem lists_updated_at_root (c : Compiler) (r : Request) (given : Variables)
    (updates : r.operation = .update) :
    (∀ rootId ctx name value f, c.mutationRoot r = .ok (rootId, ctx) →
      Compiler.payload r given = .ok (name, value) → UpdateData c.schema ctx.table value f →
      f.2.isList = true → ∃ e, c.compileMutation r given = .error e) ∧
    ∀ statement, c.compileMutation r given = .ok statement →
      ∃ run : WriteRun c r given, run.statement = statement ∧
        (∀ cte ∈ run.ctes, ∀ columns data, cte.command.updateData? = some (columns, data) →
          data.ReadBy columns (if data.path = [] ∧ run.value.isList then "json_populate_recordset"
            else "json_populate_record")) ∧
        ((∃ cte ∈ run.ctes, cte.command.SetBy "json_populate_recordset") ↔
          run.value.isList ∧ run.rootColumns ≠ []) := by
  have writes : r.operation.rowKind? = some .update := by rw [updates]; rfl
  have kind (run : WriteRun c r given) : run.kind = .update :=
    Option.some.inj (run.writes.symm.trans writes)
  constructor
  · intro rootId ctx name value f rooted loaded data list
    cases compiled : c.compileMutation r given with
    | error e => exact ⟨e, rfl⟩
    | ok statement =>
      obtain ⟨run, -⟩ := WriteRun.of_compiled writes compiled
      have built := run.built
      rw [kind run, run.value_eq loaded] at built
      cases rooted.symm.trans run.rooted
      rw [build_records built data] at list
      cases list
  · intro statement compiled
    obtain ⟨run, same⟩ := WriteRun.of_compiled writes compiled
    obtain ⟨rootPath, rootList⟩ := run.root_data
    refine ⟨run, same, ?_, ?_⟩
    · intro cte member columns data command
      rw [Input.readBy_iff]
      rcases run.update_data member command with ⟨rfl, -⟩ | ⟨nested, single⟩
      · simp [rootPath, rootList]
      · simp [nested, single]
    · constructor
      · rintro ⟨cte, member, columns, data, command, set⟩
        rw [Input.readBy_iff] at set
        rcases run.update_data member command with ⟨rfl, filled⟩ | ⟨-, single⟩
        · rw [rootList] at set
          refine ⟨?_, filled⟩
          by_contra record
          simp [record] at set
        · simp [single] at set
      · rintro ⟨list, filled⟩
        obtain ⟨cte, member, columns, command⟩ := run.root_update (kind run) filled
        refine ⟨cte, member, columns, _, command, ?_⟩
        rw [Input.readBy_iff, rootList, list]
        rfl

def changedQuiz : Variables :=
  quizzesOf (.obj [("id", .int 8), ("humans", .obj [("id", .int 1)])])

theorem changeQuiz_root : ∃ rootId ctx, Compiler.mutationRoot ⟨quizSchema, {}⟩ changeQuiz =
    .ok (rootId, ctx) ∧ ctx.table = quizTable := by
  have succeeds : (Compiler.mutationRoot ⟨quizSchema, {}⟩ changeQuiz).toBool = true := by
    decide +kernel
  have found : quizSchema.table "quizzes" = .ok quizTable := by decide +kernel
  cases rooted : Compiler.mutationRoot ⟨quizSchema, {}⟩ changeQuiz with
  | error e =>
    rw [rooted] at succeeds
    cases succeeds
  | ok root =>
    obtain ⟨rootId, ctx⟩ := root
    obtain ⟨first, chosen, -, table, -⟩ := mutationRoot_made rooted
    cases first
    rw [← Option.some.inj chosen] at table
    exact ⟨_, _, rfl, Except.ok.inj (table.symm.trans found)⟩

def updatePaths (ctes : List Cte) : List (String × Option (List String)) :=
  ctes.map fun cte => (cte.name, cte.command.updateData?.map fun u => u.2.path)

theorem mem_updatePaths {ctes : List Cte} {name : String} {path : List String}
    (listed : (name, some path) ∈ updatePaths ctes) : ∃ cte ∈ ctes, cte.name = name ∧
      ∃ columns data, cte.command.updateData? = some (columns, data) ∧ data.path = path := by
  obtain ⟨cte, member, same⟩ := List.mem_map.mp listed
  obtain ⟨named, command⟩ := Prod.mk.inj same
  obtain ⟨⟨columns, data⟩, command, found⟩ := Option.map_eq_some_iff.mp command
  exact ⟨cte, member, named, columns, data, command, found⟩

theorem changedQuiz_set_by_records :
    (∃ e, Compiler.compileMutation ⟨quizSchema, {}⟩ changeQuiz
      (quizzesOf (.obj [("humans", .arr [.obj [("id", .int 1)]])])) = .error e) ∧
    ∃ run : WriteRun ⟨quizSchema, {}⟩ changeQuiz changedQuiz,
      Compiler.compileMutation ⟨quizSchema, {}⟩ changeQuiz changedQuiz = .ok run.statement ∧
      run.value.isList = false ∧
      ∃ cte ∈ run.ctes, cte.name = "humans" ∧ cte.command.SetBy "json_populate_record" := by
  constructor
  · obtain ⟨rootId, ctx, rooted, table⟩ := changeQuiz_root
    refine (lists_updated_at_root ⟨quizSchema, {}⟩ changeQuiz _ rfl).1 rootId ctx "data" _
      ("humans", .arr [.obj [("id", .int 1)]]) rooted rfl ?_ rfl
    rw [table]
    exact .here rfl (List.mem_singleton_self _) (by decide +kernel) (by decide) (by decide)
  · obtain ⟨first, compiled⟩ : ∃ run : WriteRun ⟨quizSchema, {}⟩ changeQuiz changedQuiz, _ :=
      WriteRun.of_succeeds rfl (by decide +kernel)
    obtain ⟨run, same, reads, -⟩ :=
      (lists_updated_at_root ⟨quizSchema, {}⟩ changeQuiz changedQuiz rfl).2 first.statement compiled
    have paths : (Compiler.commands ⟨quizSchema, {}⟩ changeQuiz changedQuiz).map updatePaths =
        .ok [("_sg_input", none), ("quizzes", some []), ("humans", some ["humans"])] := by
      decide +kernel
    rw [run.commands_eq] at paths
    have listed : ("humans", some ["humans"]) ∈ updatePaths run.ctes := by
      rw [Except.ok.inj paths]
      decide
    obtain ⟨cte, member, named, columns, data, command, path⟩ := mem_updatePaths listed
    have record := reads cte member columns data command
    rw [path] at record
    exact ⟨run, same ▸ compiled, by rw [run.value_eq rfl]; rfl, cte, member, named, columns, data,
      command, record⟩

def changedTwice : Variables := quizzesOf (.arr [.obj [("id", .int 8)], .obj [("id", .int 9)]])

theorem changedTwice_set_by_set :
    ∃ run : WriteRun ⟨quizSchema, {}⟩ changeQuiz changedTwice,
      Compiler.compileMutation ⟨quizSchema, {}⟩ changeQuiz changedTwice = .ok run.statement ∧
      ∃ cte ∈ run.ctes, cte.name = "quizzes" ∧ cte.command.SetBy "json_populate_recordset" := by
  obtain ⟨run, compiled⟩ : ∃ run : WriteRun ⟨quizSchema, {}⟩ changeQuiz changedTwice, _ :=
    WriteRun.of_succeeds rfl (by decide +kernel)
  have paths : (Compiler.commands ⟨quizSchema, {}⟩ changeQuiz changedTwice).map updatePaths =
      .ok [("_sg_input", none), ("quizzes", some [])] := by
    decide +kernel
  rw [run.commands_eq] at paths
  have listed : ("quizzes", some []) ∈ updatePaths run.ctes := by
    rw [Except.ok.inj paths]
    decide
  obtain ⟨cte, member, named, columns, data, command, path⟩ := mem_updatePaths listed
  refine ⟨run, compiled, cte, member, named, columns, data, command, ?_⟩
  obtain ⟨-, list⟩ := run.root_data
  rcases run.update_data member command with ⟨rfl, -⟩ | ⟨nested, -⟩
  · rw [Input.readBy_iff, list, run.value_eq rfl]
    rfl
  · exact absurd path nested

end Lateral
