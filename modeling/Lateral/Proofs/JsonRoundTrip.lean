import Lateral.Catalog.Codec
import Lateral.Request.Codec
import Lateral.Proofs.Outcome

/-!
What is written as JSON is read back. A catalog always is. A request is exactly when the numbers in
its filters are finite, since a number that is not has no JSON form; the columns it allows come back
as the same set, sorted.
-/

namespace Lateral

open Outcome

namespace Outcome

variable {ε α β : Type}

/-- The computation succeeds just when the condition holds, and then returns the value. -/
structure Yields (x : Except ε α) (fits : Prop) (a : α) : Prop where
  returned : fits → x = .ok a
  needed : ∀ b, x = .ok b → fits

theorem yields_of_ok {x : Except ε α} {fits : Prop} {a : α} (holds : fits) (run : x = .ok a) :
    Yields x fits a := ⟨fun _ => run, fun _ _ => holds⟩

theorem Yields.make {x : Except ε α} {fits : Prop} {a : α} (y : Yields x fits a) (f : α → β) :
    Yields (do return f (← x)) fits (f a) := by
  constructor
  · intro holds
    exact bind_eq_ok.mpr ⟨a, y.returned holds, rfl⟩
  · intro b run
    obtain ⟨a', inner, _⟩ := bind_eq_ok.mp run
    exact y.needed a' inner

theorem Yields.cons {x : Except ε α} {xs : Except ε (List α)} {fits rest : Prop} {a : α}
    {as : List α} (first : Yields x fits a) (others : Yields xs rest as) :
    Yields (do let y ← x; let ys ← xs; return y :: ys) (fits ∧ rest) (a :: as) := by
  constructor
  · rintro ⟨here, there⟩
    rw [first.returned here, others.returned there]
    rfl
  · intro b run
    obtain ⟨y, here, run⟩ := bind_eq_ok.mp run
    obtain ⟨ys, there, _⟩ := bind_eq_ok.mp run
    exact ⟨first.needed y here, others.needed ys there⟩

theorem yields_mapM {f : α → Except ε β} {fits : α → Prop} {g : α → β} (xs : List α)
    (each : ∀ x, Yields (f x) (fits x) (g x)) :
    Yields (xs.mapM f) (∀ x ∈ xs, fits x) (xs.map g) := by
  induction xs with
  | nil => exact yields_of_ok (List.forall_mem_nil _) rfl
  | cons x rest ih =>
    rw [List.mapM_cons, List.forall_mem_cons]
    exact (each x).cons ih

end Outcome

namespace Json

variable {α : Type} {read : Json → Except ReadFault α}

theorem toList_arr {write : α → Json} (reads : ∀ a, read (write a) = .ok a) (as : List α) :
    toList read (.arr (as.map write)) = .ok as := by
  change (as.map write).mapM read = .ok as
  rw [mapM_eq_ok, List.forall₂_map_left_iff]
  exact List.forall₂_same.mpr fun a _ => reads a

theorem toOption_ofOption {write : α → Json}
    (reads : ∀ a, toOption read (write a) = .ok (some a)) (o : Option α) :
    toOption read (ofOption write o) = .ok o := by
  cases o with
  | none => rfl
  | some a => exact reads a

theorem toOption_text (o : Option String) : toOption toText (ofOption .str o) = .ok o :=
  toOption_ofOption (fun _ => rfl) o

theorem toList_nat (ns : List Nat) : toList toNat (.arr (ns.map ofNat)) = .ok ns :=
  toList_arr (fun n => show toNat (ofNat n) = .ok n from rfl) ns

theorem toTexts_ofTexts (ss : List String) : toTexts (ofTexts ss) = .ok ss :=
  toList_arr (fun s => show toText (.str s) = .ok s from rfl) ss

theorem toIntIn_int {least greatest n : Int} (low : least ≤ n) (high : n ≤ greatest) :
    toIntIn least greatest (.int n) = .ok n := if_pos ⟨low, high⟩

theorem toInt16_int (n : Int16) : toInt16 (.int n.toInt) = .ok n := by
  rw [toInt16, toIntIn_int n.minValue_le_toInt n.toInt_le]
  exact congrArg Except.ok (Int16.ofInt_toInt n)

theorem toInt32_int (n : Int32) : toInt32 (.int n.toInt) = .ok n := by
  rw [toInt32, toIntIn_int n.minValue_le_toInt n.toInt_le]
  exact congrArg Except.ok (Int32.ofInt_toInt n)

theorem toInt64_int (n : Int64) : toInt64 (.int n.toInt) = .ok n := by
  rw [toInt64, toIntIn_int n.minValue_le_toInt n.toInt_le]
  exact congrArg Except.ok (Int64.ofInt_toInt n)

def inOrder : Json → Json
  | .obj fields => .arr (fields.map Prod.snd)
  | j => j

theorem toRecord_inOrder {σ : Type} {start : σ} {field : σ → String → Json → Except ReadFault σ}
    {names required : List String} {fields : List (String × Json)}
    (keys : fields.map Prod.fst = names) :
    toRecord start field names required (obj fields).inOrder =
      toRecord start field names required (.obj fields) := by
  have named : names.zip (fields.map Prod.snd) = fields := by
    rw [← keys, List.zip_map']
    exact List.map_id fields
  have fits : (fields.map Prod.snd).length ≤ names.length := by
    simp [← keys]
  simp only [inOrder, toRecord, named, if_pos fits, bind_pure]

end Json

/-! ## Filters -/

mutual

def Operand.isFinite : Operand → Bool
  | .float x => x.isFinite
  | .list items => Operand.areFinite items
  | _ => true

def Operand.areFinite : List Operand → Bool
  | [] => true
  | operand :: rest => operand.isFinite && Operand.areFinite rest

end

mutual

def Filter.isFinite : Filter → Bool
  | .all parts => Filter.areFinite parts
  | .any parts => Filter.areFinite parts
  | .not part => part.isFinite
  | .never => true
  | .leaf condition => condition.operand.isFinite

def Filter.areFinite : List Filter → Bool
  | [] => true
  | part :: rest => part.isFinite && Filter.areFinite rest

end

namespace Operand

theorem float_yields (x : Double) :
    Yields (ofJson (toJson (.float x))) (x.isFinite = true) (.float x) := by
  change Yields (do return Operand.float (← (if x.isFinite then Json.float x else .null).toDouble))
    _ _
  constructor
  · intro finite
    rw [if_pos finite]
    rfl
  · intro back run
    by_contra endless
    rw [if_neg endless] at run
    cases run

mutual

theorem ofJson_yields (operand : Operand) :
    Yields (ofJson operand.toJson) (operand.isFinite = true) operand := by
  cases operand with
  | null => exact yields_of_ok rfl rfl
  | bool b => exact yields_of_ok rfl rfl
  | int n => exact (yields_of_ok rfl (Json.toInt64_int n)).make Operand.int
  | float x => exact float_yields x
  | text s => exact yields_of_ok rfl rfl
  | list items => exact (listOfJson_yields items).make Operand.list
  | «variable» name => exact yields_of_ok rfl rfl

theorem listOfJson_yields (operands : List Operand) :
    Yields (listOfJson (listToJson operands)) (areFinite operands = true) operands := by
  cases operands with
  | nil => exact yields_of_ok rfl rfl
  | cons operand rest =>
    rw [areFinite, Bool.and_eq_true]
    exact (ofJson_yields operand).cons (listOfJson_yields rest)

end

end Operand

theorem Operator.ofJson_toJson (op : Operator) : Operator.ofJson op.toJson = .ok op := by
  simp only [ofJson, toJson, Json.toText, bind, Except.bind, ofCode?_code]
  rfl

theorem Condition.ofJson_toJson (c : Condition) :
    Condition.ofJson c.toJson =
      (do return { c with operand := ← Operand.ofJson c.operand.toJson }) := by
  simp only [ofJson, toJson, Json.toRecord, Json.gather, List.foldlM_cons, List.foldlM_nil,
    Json.toTexts_ofTexts, Json.toText, Operator.ofJson_toJson]
  cases Operand.ofJson c.operand.toJson with
  | error fault => rfl
  | ok operand => rfl

namespace Filter

mutual

theorem ofJson_yields (f : Filter) : Yields (ofJson f.toJson) (f.isFinite = true) f := by
  cases f with
  | all parts => exact (listOfJson_yields parts).make Filter.all
  | any parts => exact (listOfJson_yields parts).make Filter.any
  | not part => exact (ofJson_yields part).make Filter.not
  | never => exact yields_of_ok rfl rfl
  | leaf condition =>
    have read := (Operand.ofJson_yields condition.operand).make
      fun operand => { condition with operand }
    rw [← Condition.ofJson_toJson] at read
    exact read.make Filter.leaf

theorem listOfJson_yields (parts : List Filter) :
    Yields (listOfJson (listToJson parts)) (areFinite parts = true) parts := by
  cases parts with
  | nil => exact yields_of_ok rfl rfl
  | cons part rest =>
    rw [areFinite, Bool.and_eq_true]
    exact (ofJson_yields part).cons (listOfJson_yields rest)

end

theorem toOption_yields (o : Option Filter) :
    Yields (Json.toOption ofJson (Json.ofOption toJson o)) (o.all isFinite = true) o := by
  cases o with
  | none => exact yields_of_ok rfl rfl
  | some f =>
    -- no filter is written as nothing
    have solid : Json.toOption ofJson f.toJson = (do return some (← ofJson f.toJson)) := by
      cases f <;> rfl
    change Yields (Json.toOption ofJson f.toJson) (f.isFinite = true) _
    rw [solid]
    exact (ofJson_yields f).make some

end Filter

/-! ## Requests -/

theorem Operation.ofJson_toJson (op : Operation) : Operation.ofJson op.toJson = .ok op := by
  cases op <;> rfl

theorem Direction.ofJson_toJson (d : Direction) : Direction.ofJson d.toJson = .ok d := by
  cases d <;> rfl

theorem PagingKind.ofJson_toJson (kind : PagingKind) :
    PagingKind.ofJson kind.toJson = .ok kind := by
  cases kind <;> rfl

theorem Ordering.ofJson_toJson (o : Ordering) : Ordering.ofJson o.toJson = .ok o := by
  simp only [ofJson, toJson, Json.toRecord, Json.gather, List.foldlM_cons, List.foldlM_nil,
    Json.toText, Direction.ofJson_toJson]
  rfl

theorem Paging.ofJson_toJson (p : Paging) : Paging.ofJson p.toJson = .ok p := by
  simp only [ofJson, toJson, Json.toRecord, Json.gather, List.foldlM_cons, List.foldlM_nil,
    Json.toBool, Json.toOption_text, PagingKind.ofJson_toJson]
  rfl

theorem Field.ofJson_toJson (f : Field) : Field.ofJson f.toJson = .ok f := rfl

theorem Preset.ofJson_toJson (p : Preset) : Preset.ofJson p.toJson = .ok p := rfl

theorem Selection.ofJson_toJson (s : Selection) :
    Selection.ofJson s.toJson =
      (do return { s with
        filter := ← Json.toOption Filter.ofJson (Json.ofOption Filter.toJson s.filter)
        allowed := sortedTexts s.allowed }) := by
  have parent : Json.toOption Json.toNat (Json.ofOption Json.ofNat s.parent) = .ok s.parent :=
    Json.toOption_ofOption (fun _ => rfl) s.parent
  simp only [ofJson, toJson, Json.toRecord, Json.gather, List.foldlM_cons, List.foldlM_nil, parent,
    Json.toText, Json.toBool, Json.toList_arr Field.ofJson_toJson, Json.toList_nat,
    Json.toList_arr Ordering.ofJson_toJson, Json.toTexts_ofTexts, Paging.ofJson_toJson,
    Json.toList_arr Preset.ofJson_toJson, Json.toOption_text]
  cases Json.toOption Filter.ofJson (Json.ofOption Filter.toJson s.filter) with
  | error fault => rfl
  | ok filter => rfl

def Selection.isFinite (s : Selection) : Bool := s.filter.all Filter.isFinite

/-- The same but for the order and the repeats of the allowed columns, which are a set. -/
def Selection.SameAs (s t : Selection) : Prop :=
  s = { t with allowed := s.allowed } ∧ ∀ column, column ∈ s.allowed ↔ column ∈ t.allowed

def Selection.tidy (s : Selection) : Selection := { s with allowed := sortedTexts s.allowed }

theorem Selection.tidy_sameAs (s : Selection) : s.tidy.SameAs s := by
  constructor
  · rfl
  · intro column
    exact (sortBy_perm _ _).mem_iff.trans mem_distinct

theorem Selection.ofJson_yields (s : Selection) :
    Yields (ofJson s.toJson) (s.isFinite = true) s.tidy := by
  rw [ofJson_toJson]
  exact (Filter.toOption_yields s.filter).make
    fun filter => { s with filter, allowed := sortedTexts s.allowed }

theorem Request.ofJson_toJson (r : Request) :
    Request.ofJson r.toJson =
      (do return { r with
        selections := ← r.selections.mapM fun s => Selection.ofJson s.toJson }) := by
  have selections : Json.toList Selection.ofJson (.arr (r.selections.map Selection.toJson)) =
      r.selections.mapM fun s => Selection.ofJson s.toJson := List.mapM_map
  simp only [ofJson, toJson, Json.toRecord, Json.gather, List.foldlM_cons, List.foldlM_nil,
    Operation.ofJson_toJson, selections, Json.toList_nat, Json.toOption_text]
  cases r.selections.mapM fun s => Selection.ofJson s.toJson with
  | error fault => rfl
  | ok selections => rfl

def Request.isFinite (r : Request) : Bool := r.selections.all Selection.isFinite

def Request.SameAs (r q : Request) : Prop :=
  r = { q with selections := r.selections } ∧
    List.Forall₂ Selection.SameAs r.selections q.selections

theorem Request.ofJson_yields (r : Request) :
    Yields (ofJson r.toJson) (r.isFinite = true)
      { r with selections := r.selections.map Selection.tidy } := by
  rw [ofJson_toJson, isFinite, List.all_eq_true]
  exact (yields_mapM r.selections Selection.ofJson_yields).make
    fun selections => { r with selections }

theorem Request.tidy_sameAs (r : Request) :
    { r with selections := r.selections.map Selection.tidy }.SameAs r := by
  constructor
  · rfl
  · rw [List.forall₂_map_left_iff]
    exact List.forall₂_same.mpr fun s _ => s.tidy_sameAs

/-! ## Catalogs -/

theorem TableKind.ofJson_toJson (kind : TableKind) : TableKind.ofJson kind.toJson = .ok kind := by
  cases kind <;> rfl

theorem Column.ofJson_toJson (c : Column) : Column.ofJson c.toJson = .ok c := by
  simp only [ofJson, toJson, Json.toRecord, Json.gather, List.foldlM_cons, List.foldlM_nil,
    Json.toInt16_int, Json.toText, Json.toBool, Json.toOption_text,
    Json.toList_arr Json.toInt16_int]
  rfl

theorem CatalogTable.ofJson_toJson (t : CatalogTable) : CatalogTable.ofJson t.toJson = .ok t := by
  simp only [ofJson, toJson, Json.toRecord, Json.gather, List.foldlM_cons, List.foldlM_nil,
    Json.toInt32_int, Json.toText, TableKind.ofJson_toJson]
  rfl

theorem Catalog.ofJson_toJson (c : Catalog) : Catalog.ofJson c.toJson = .ok c := by
  simp only [ofJson, toJson, Json.toRecord, Json.gather, List.foldlM_cons, List.foldlM_nil,
    Json.toInt32_int, Json.toList_arr CatalogTable.ofJson_toJson,
    Json.toList_arr (Json.toList_arr Column.ofJson_toJson)]
  rfl

/-- A request is read back from what it is written as if and only if its numbers are finite, and a
catalog always is. The values of their fields alone are read as what they are written as. -/
theorem json_reads_back :
    (∀ r : Request, r.isFinite = true ↔
      ∃ back, Request.ofJson r.toJson = .ok back ∧ back.SameAs r) ∧
    (∀ c : Catalog, Catalog.ofJson c.toJson = .ok c) ∧
    (∀ r : Request, Request.ofJson r.toJson.inOrder = Request.ofJson r.toJson) ∧
    ∀ c : Catalog, Catalog.ofJson c.toJson.inOrder = .ok c := by
  refine ⟨?_, Catalog.ofJson_toJson, fun r => Json.toRecord_inOrder rfl, ?_⟩
  · intro r
    constructor
    · intro finite
      exact ⟨_, r.ofJson_yields.returned finite, r.tidy_sameAs⟩
    · rintro ⟨back, read, _⟩
      exact r.ofJson_yields.needed back read
  · intro c
    exact (Json.toRecord_inOrder rfl).trans c.ofJson_toJson

end Lateral
