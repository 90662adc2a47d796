import Lateral.Proofs.CompiledWrite
import Lateral.Proofs.WriteOrder

/-!
Data given as a list of objects. The objects are taken together into one, in which the first value
under a key counts. A value that holds data of its own is looked into only if it is that first one:
a later one is dropped without notice.
-/

namespace Lateral
open Mutation Outcome

namespace Payload

def listed (items : List Json) : List (String × Json) :=
  items.flatMap fun
    | .obj fields => fields
    | _ => []

theorem unite_eq_foldl {items : List Json} {fields united : List (String × Json)}
    (run : unite fields items = .ok united) : united = (listed items).foldl addField fields := by
  induction items generalizing fields with
  | nil =>
    cases run
    rfl
  | cons item rest ih =>
    cases item with
    | obj more =>
      rw [listed, List.flatMap_cons, List.foldl_append]
      exact ih run
    | _ => cases run

theorem foldl_addField_sublist (fields more : List (String × Json)) :
    (more.foldl addField fields).Sublist (fields ++ more) := by
  induction more generalizing fields with
  | nil => rw [List.foldl_nil, List.append_nil]
  | cons f rest ih =>
    have one : (addField fields f).Sublist (fields ++ [f]) := by
      unfold addField
      split
      · exact List.sublist_append_left ..
      · exact .refl _
    have all := (ih (addField fields f)).trans (one.append_right rest)
    rwa [List.append_assoc, List.singleton_append] at all

def KeptFirst (keep : String × Json → Bool) (fields : List (String × Json)) : Prop :=
  fields.Pairwise fun g f => keep f = true → g.1 ≠ f.1

theorem foldl_addField_length_iff (keep : String × Json → Bool)
    (fields more : List (String × Json)) :
    ((more.foldl addField fields).filter keep).length =
        (fields.filter keep).length + (more.filter keep).length ↔
      (∀ f ∈ more, keep f = true → ∀ g ∈ fields, g.1 ≠ f.1) ∧ KeptFirst keep more := by
  induction more generalizing fields with
  | nil => simp [KeptFirst]
  | cons f rest ih =>
    rw [List.foldl_cons]
    by_cases there : ∃ g ∈ fields, g.1 = f.1
    · have same : addField fields f = fields := by simpa [addField] using there
      obtain ⟨g, earlier, key⟩ := there
      rw [same]
      cases kept : keep f with
      | true =>
        -- this one is dropped, so that there are fewer than listed
        have fewer := ((foldl_addField_sublist fields rest).filter keep).length_le
        rw [List.filter_append, List.length_append] at fewer
        rw [List.filter_cons_of_pos kept, List.length_cons]
        constructor
        · intro equal
          omega
        · rintro ⟨free, -⟩
          exact absurd key (free f (List.mem_cons_self ..) kept g earlier)
      | false =>
        have dropped : ¬ keep f = true := by simp [kept]
        rw [List.filter_cons_of_neg dropped, ih, KeptFirst, KeptFirst, List.forall_mem_cons,
          List.pairwise_cons]
        constructor
        · rintro ⟨free, others⟩
          refine ⟨⟨fun keeps => absurd keeps dropped, free⟩, ?_, others⟩
          intro h later keeps same
          exact free h later keeps g earlier (key.trans same)
        · rintro ⟨⟨-, free⟩, -, others⟩
          exact ⟨free, others⟩
    · have added : addField fields f = fields ++ [f] := by
        rw [addField, if_neg (by simpa using there)]
      have count : ((fields ++ [f]).filter keep).length + (rest.filter keep).length =
          (fields.filter keep).length + ((f :: rest).filter keep).length := by
        rw [List.filter_append, List.length_append, Nat.add_assoc, ← List.length_append,
          ← List.filter_append, List.singleton_append]
      rw [added, ← count, ih, KeptFirst, KeptFirst, List.forall_mem_cons, List.pairwise_cons]
      constructor
      · rintro ⟨free, others⟩
        refine ⟨⟨fun _ g earlier key => there ⟨g, earlier, key⟩, ?_⟩, ?_, others⟩
        · intro h later keeps g earlier
          exact free h later keeps g (List.mem_append_left _ earlier)
        · intro h later keeps
          exact free h later keeps f (List.mem_append_right _ (List.mem_singleton_self f))
      · rintro ⟨⟨-, free⟩, apart, others⟩
        refine ⟨?_, others⟩
        intro h later keeps g earlier
        rcases List.mem_append.mp earlier with old | new
        · exact free h later keeps g old
        · rw [List.mem_singleton.mp new]
          exact apart h later keeps

/-- The data of a list of objects holds as many of the kept fields as are listed just when each is
the first under its key; it then holds all of them. -/
theorem ofJson_arr_kept {items : List Json} {p : Payload} (read : ofJson (.arr items) = .ok p)
    (keep : String × Json → Bool) :
    (p.fields.filter keep).length = ((listed items).filter keep).length ↔
      KeptFirst keep (listed items) := by
  simp only [ofJson, bind_eq_ok, pure_eq_ok] at read
  obtain ⟨united, run, rfl⟩ := read
  have all := foldl_addField_length_iff keep [] (listed items)
  rw [List.filter_nil, List.length_nil, Nat.zero_add] at all
  rw [unite_eq_foldl run, all]
  simp

theorem ofJson_arr_sublist {items : List Json} {p : Payload}
    (read : ofJson (.arr items) = .ok p) : p.fields.Sublist (listed items) := by
  simp only [ofJson, bind_eq_ok, pure_eq_ok] at read
  obtain ⟨united, run, rfl⟩ := read
  rw [unite_eq_foldl run]
  exact foldl_addField_sublist [] (listed items)

end Payload

def Table.holdsData (t : Table) (f : String × Json) : Bool :=
  f.2.isNested && (t.column? f.1).isNone

/-- A value is data for a table: the whole for that of the root, and what a record holds under a key
that names a table for that. -/
inductive DataFor (s : Schema) : Table → Json → Table → Json → Prop where
  | whole (t : Table) (value : Json) : DataFor s t value t value
  | under {t u v : Table} {fields : List (String × Json)} {f : String × Json} {value : Json}
      (member : f ∈ fields) (holds : t.holdsData f = true) (data : isLinkKey f.1 = false)
      (names : s.table f.1 = .ok u) (inside : DataFor s u f.2 v value) :
      DataFor s t (.obj fields) v value

namespace Write

def items : Write → List (Write ⊕ Link)
  | .rows _ children => children.map Sum.inl
  | .links g => g.links.map Sum.inr

def Within (v w : Write) : Prop := w = v ∨ ∃ p, v.HasBelow p w

theorem Within.child {r : Rows} {ws : List Write} {v w : Write} (member : v ∈ ws)
    (within : v.Within w) : (Write.rows r ws).Within w := by
  rcases within with rfl | ⟨p, below⟩
  · exact Or.inr ⟨r, .here member⟩
  · exact Or.inr ⟨p, .deeper member below⟩

end Write

/-- What the value of a field has become: the write of a table that the key names with the value as
its data, or a link to the rows that the value describes. -/
def MadeFrom (s : Schema) (t : Table) (f : String × Json) : Write ⊕ Link → Prop
  | .inl w => s.table f.1 = .ok w.table ∧
      ∀ r children, w = .rows r children → Payload.ofJson f.2 = .ok r.payload
  | .inr l => linkFilter s t f.2 = .ok l.filter ∧
      (l.kind = .disconnect ↔ disconnectKeys.contains f.1 = true)

structure Write.Reads (s : Schema) (w : Write) (t : Table) (value : Json) : Prop where
  table : w.table = t
  items : ∃ p, Payload.ofJson value = .ok p ∧
    List.Forall₂ (MadeFrom s t) (p.fields.filter t.holdsData) w.items

section Data

variable {s : Schema} {d : Draft} {st st' : State}

theorem links_items {e : Edge} {fields : List (String × Json)} {ls : List Link}
    (made : LinksMade s d e st fields ls st') :
    List.Forall₂ (MadeFrom s d.table) fields (ls.map Sum.inr) := by
  induction made with
  | nil => exact .nil
  | cons first others ih =>
    refine .cons ⟨first.filter, ?_⟩ ih
    rw [first.kind]
    split <;> simp_all

theorem children_pairs {P : Draft → State → Write → State → Prop} {filter filter' : Option Filter}
    {fields : List (String × Json)} {cs : List Draft} {st₁ st₂ : State} {ws : List Write}
    (made : ChildrenMade s d st filter fields cs filter' st') (inserts : d.kind ≠ .update)
    (below : LastFirst P cs st₁ ws st₂) :
    List.Forall₂ (fun f w => ∃ c, (∃ st st', ChildMade s d st f c st') ∧
      ∃ st st', P c st w st') fields ws := by
  induction made generalizing ws st₂ with
  | nil =>
    cases below
    exact .nil
  | rootFilter key updates | ownFilter key updates => exact absurd updates inserts
  | child other first others ih =>
    cases below with
    | cons later own => exact .cons ⟨_, ⟨_, _, first⟩, _, _, own⟩ (ih later)

structure Follows (s : Schema) (d : Draft) (w : Write) : Prop where
  table : w.table = d.table
  payload : ∀ r children, w = .rows r children → r.payload = d.payload
  data : d.kind ≠ .update → ∀ value, Payload.ofJson value = .ok d.payload →
    ∀ u x, DataFor s d.table value u x → ∃ v, w.Within v ∧ v.Reads s u x

theorem mem_nested {fields : List (String × Json)}
    (read : Payload.ofJson (.obj fields) = .ok d.payload) {f : String × Json} (member : f ∈ fields)
    (holds : d.table.holdsData f = true) : f ∈ d.nested := by
  rw [Payload.ofJson, Except.ok.injEq] at read
  rw [Draft.nested, ← read]
  exact List.mem_filter.mpr ⟨member, holds⟩

theorem expand_follows {w : Write} (run : expand s d st = .ok (w, st')) : Follows s d w := by
  refine expand_induction (P := fun d _ w _ => Follows s d w) ?_ ?_ run
  · intro d e st ls st' _ _ all made
    refine ⟨rfl, ?_, ?_⟩
    · intro r children same
      cases same
    intro _ value read u x data
    cases data with
    | whole => exact ⟨_, Or.inl rfl, rfl, d.payload, read, links_items made⟩
    | under member holds data =>
      rw [nested_isLinkKey all (mem_nested read member holds)] at data
      cases data
  · intro d st drafts filter st₁ writes st₂ _ made below
    refine ⟨rfl, ?_, ?_⟩
    · rintro r children ⟨⟩
      rfl
    intro inserts value read u x data
    have pairs := children_pairs made inserts below
    cases data with
    | whole =>
      refine ⟨_, Or.inl rfl, rfl, d.payload, read, ?_⟩
      refine List.forall₂_map_right_iff.mpr (pairs.imp ?_)
      rintro f w ⟨c, ⟨_, _, first⟩, _, _, follows⟩
      refine ⟨by rw [follows.table, first.table], fun r children same => ?_⟩
      rw [follows.payload r children same, first.payload]
    | @under _ v _ fields f _ member holds data names deeper =>
      have inside := mem_nested read member holds
      obtain ⟨w, among, c, ⟨_, _, first⟩, _, _, follows⟩ := forall₂_mem_left pairs inside
      have table : v = c.table := Except.ok.inj (names.symm.trans first.table)
      subst table
      have inserted : c.kind ≠ .update := by
        rw [first.kind]
        cases kind : d.kind <;> simp_all [childKind]
      obtain ⟨v, within, reads⟩ := follows.data inserted f.2 first.payload u x deeper
      exact ⟨v, within.child among, reads⟩

theorem build_follows {kind : RowKind} {t : Table} {value : Json} {chain : Chain}
    (built : build s kind t value = .ok chain) (inserts : kind ≠ .update) {u : Table} {x : Json}
    (data : DataFor s t value u x) : ∃ w, chain.tree.Within w ∧ w.Reads s u x := by
  obtain ⟨root, last, -, rfl, rfl, -, -, read, run⟩ := build_expanded built
  exact (expand_follows run).data inserts value read u x data

end Data

def Write.KeepsAll (s : Schema) (w : Write) (fields : List (String × Json)) : Prop :=
  ∃ own, own.Subperm w.items ∧
    List.Forall₂ (MadeFrom s w.table) (fields.filter w.table.holdsData) own

theorem keepsAll_iff {s : Schema} {w : Write} {t : Table} {items : List Json}
    (reads : w.Reads s t (.arr items)) :
    w.KeepsAll s (Payload.listed items) ↔ Payload.KeptFirst t.holdsData (Payload.listed items) := by
  obtain ⟨rfl, p, read, made⟩ := reads
  have inside := (Payload.ofJson_arr_sublist read).filter w.table.holdsData
  rw [← Payload.ofJson_arr_kept read]
  constructor
  · -- there is one item for each first value only
    rintro ⟨own, among, each⟩
    have upper := among.length_le
    have lower := inside.length_le
    rw [← each.length_eq, ← made.length_eq] at upper
    omega
  · intro same
    rw [Write.KeepsAll, ← inside.eq_of_length same]
    exact ⟨w.items, List.Subperm.refl _, made⟩

/-- Where rows are inserted, every list of objects that is data for a table has its write. All
values in it that hold data are kept just when none comes after another under the same key. -/
theorem bulk_values_kept_iff (c : Compiler) (r : Request) (given : Variables)
    (statement : Statement) (inserts : r.operation = .insert ∨ r.operation = .upsert)
    (compiled : c.compileMutation r given = .ok statement) :
    ∃ run : WriteRun c r given, run.statement = statement ∧
      ∀ t items, DataFor c.schema run.ctx.table run.value t (.arr items) →
        ∃ w, run.chain.tree.Within w ∧ w.table = t ∧
          (w.KeepsAll c.schema (Payload.listed items) ↔
            (Payload.listed items).Pairwise fun g f => t.holdsData f = true → g.1 ≠ f.1) := by
  obtain ⟨kind, writes, inserted⟩ : ∃ kind, r.operation.rowKind? = some kind ∧ kind ≠ .update := by
    rcases inserts with operation | operation
    · exact ⟨.insert, by rw [operation]; rfl, by decide⟩
    · exact ⟨.upsert, by rw [operation]; rfl, by decide⟩
  obtain ⟨run, same⟩ := WriteRun.of_compiled writes compiled
  have own : run.kind = kind := Option.some.inj (run.writes.symm.trans writes)
  refine ⟨run, same, ?_⟩
  intro t items data
  obtain ⟨w, within, reads⟩ := build_follows run.built (own ▸ inserted) data
  exact ⟨w, within, reads.table, keepsAll_iff reads⟩

def quizTable : Table := .ofColumns "quizzes" "quiz" .table
  [{ id := 1, name := "id", sqlType := "bigint", primaryKey := true },
    { id := 2, name := "human_id", sqlType := "bigint" }]

def humanTable : Table := .ofColumns "humans" "human" .table
  [{ id := 1, name := "id", sqlType := "bigint", primaryKey := true }]

def quizzesOf (data : Json) : Variables := ⟨[("data", data)]⟩

theorem quizzes_run {data : Json}
    (loaded : Compiler.payload (addTo "quizzes") (quizzesOf data) = .ok ("data", data))
    (run : WriteRun ⟨quizSchema, {}⟩ (addTo "quizzes") (quizzesOf data)) :
    run.ctx.table = quizTable ∧ run.value = data := by
  have found : quizSchema.table "quizzes" = .ok quizTable := by decide +kernel
  exact ⟨(run.root_eq rfl rfl found).2, run.value_eq loaded⟩

def authors : List Json := [
  .obj [("connect", .obj [("id", .int 1)])], .obj [("_connect", .obj [("id", .int 2)])]]

theorem authors_kept : ∃ statement,
    Compiler.compileMutation ⟨quizSchema, {}⟩ (addTo "quizzes")
      (quizzesOf (.obj [("humans", .arr authors)])) = .ok statement ∧
    ∃ run : WriteRun ⟨quizSchema, {}⟩ (addTo "quizzes")
        (quizzesOf (.obj [("humans", .arr authors)])), run.statement = statement ∧
      DataFor quizSchema run.ctx.table run.value humanTable (.arr authors) ∧
      ∃ w, run.chain.tree.Within w ∧ w.table = humanTable ∧
        w.KeepsAll quizSchema (Payload.listed authors) := by
  obtain ⟨first, compiled⟩ : ∃ run : WriteRun ⟨quizSchema, {}⟩ (addTo "quizzes")
      (quizzesOf (.obj [("humans", .arr authors)])), _ :=
    WriteRun.of_succeeds rfl (by decide +kernel)
  obtain ⟨run, same, kept⟩ := bulk_values_kept_iff ⟨quizSchema, {}⟩ (addTo "quizzes")
    (quizzesOf (.obj [("humans", .arr authors)])) first.statement (Or.inl rfl) compiled
  have data : DataFor quizSchema run.ctx.table run.value humanTable (.arr authors) := by
    obtain ⟨table, value⟩ := quizzes_run rfl run
    rw [table, value]
    exact .under (List.mem_singleton_self _) (by decide +kernel) (by decide) (by decide +kernel)
      (.whole ..)
  obtain ⟨w, within, table, exactly⟩ := kept humanTable authors data
  exact ⟨first.statement, compiled, run, same, data, w, within, table,
    exactly.mpr (by decide +kernel)⟩

def provedLate : List Json := [
  .obj [("id", .int 1), ("proofs", .null)],
  .obj [("id", .int 2), ("proofs", .arr [.obj [("text", .str "by cases")]])]]

theorem late_proof_dropped :
    ∃ run : WriteRun ⟨quizSchema, {}⟩ (addTo "quizzes") (quizzesOf (.arr provedLate)),
      Compiler.compileMutation ⟨quizSchema, {}⟩ (addTo "quizzes") (quizzesOf (.arr provedLate)) =
        .ok run.statement ∧
      DataFor quizSchema run.ctx.table run.value quizTable (.arr provedLate) ∧
      ∃ w, run.chain.tree.Within w ∧ w.table = quizTable ∧
        ¬ w.KeepsAll quizSchema (Payload.listed provedLate) := by
  obtain ⟨run, compiled⟩ : ∃ run : WriteRun ⟨quizSchema, {}⟩ (addTo "quizzes")
      (quizzesOf (.arr provedLate)), _ := WriteRun.of_succeeds rfl (by decide +kernel)
  have kind : run.kind = .insert := (Option.some.inj run.writes).symm
  have data : DataFor quizSchema run.ctx.table run.value quizTable (.arr provedLate) := by
    obtain ⟨table, value⟩ := quizzes_run rfl run
    rw [table, value]
    exact .whole ..
  obtain ⟨w, within, reads⟩ := build_follows run.built (by rw [kind]; decide) data
  refine ⟨run, compiled, data, w, within, reads.table, ?_⟩
  rw [keepsAll_iff reads, Payload.KeptFirst]
  decide +kernel

end Lateral
