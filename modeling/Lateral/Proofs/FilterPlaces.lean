import Lateral.Filter.FromJson
import Lateral.Proofs.FilterMeaning
import Mathlib.Logic.Relation

/-!
A JSON filter as a tree of places. A place is a value in its slot, and the slot holds what is known
there: the table and path that the value is about, and how deeply it is nested. What a place stands
for, and the places inside it, can be read off, and its filter is put together from theirs.
-/

namespace Lateral

def Connective.group : Connective → List Filter → Filter
  | .and => .all
  | .or => .any

namespace Filter
open Outcome

def KeyMeaning.connective? : KeyMeaning → Option Connective
  | .all => some .and
  | .any => some .or
  | _ => none

inductive Slot where
  /-- An object must stand here. -/
  | object (t : Table) (path : List String) (depth : Nat)
  /-- The value of an entry of an object. -/
  | entry (t : Table) (path : List String) (depth : Nat) (key : String)
  /-- What a column is compared with by an operator. -/
  | operator (path : List String) (column code : String)

structure Place where
  slot : Slot
  value : Json

inductive Role where
  | group (c : Connective)
  | negation
  /-- Conditions on a related table. -/
  | passage
  | condition (c : Condition)
  | refusal (e : Error)

def Role.build : Role → List Filter → Except Error Filter
  | .group c, parts => combine c.group parts
  | .negation, parts => .not <$> combine .all parts
  | .passage, parts => combine .all parts
  | .condition c, _ => .ok (.leaf c)
  | .refusal e, _ => .error e

inductive Opening where
  /-- One for each entry of an object by its key, and perhaps one for the items of a list. -/
  | parts (field : String → Slot) (item : Option Slot)
  /-- One for the value itself. -/
  | whole (slot : Slot)
  | closed

def Opening.inner : Opening → Json → List Place
  | .parts field _, .obj fields => fields.map fun e => ⟨field e.1, e.2⟩
  | .parts _ (some item), .arr items => items.map fun value => ⟨item, value⟩
  | .whole slot, value => [⟨slot, value⟩]
  | _, _ => []

def groupRole (key : String) (c : Connective) : Json → Role
  | .obj _ | .arr _ => .group c
  | _ => .refusal (.invalidFilter (.notGroup key))

def columnRole (path : List String) (column : String) : Json → Role
  | .obj _ => .group .and
  | .null => .condition ⟨path, column, .isNull, .bool true⟩
  | .arr items => .condition ⟨path, column, .isIn, Operand.ofPayload (.arr items)⟩
  | scalar => .condition ⟨path, column, .equals, Operand.ofPayload scalar⟩

namespace Slot

def role (s : Schema) : Slot → Json → Role
  | .object _ _ _, .obj _ => .group .and
  | .object _ _ _, value => .refusal (.invalidFilter (.notObject value.render))
  | .entry t path _ key, value => match KeyMeaning.of s t key with
    | .all => groupRole key .and value
    | .any => groupRole key .or value
    | .not => .negation
    | .related _ => .passage
    | .column => columnRole path key value
    | .unknown => .refusal (.unknownColumn t.name key)
  | .operator path column code, operand => match Operator.ofCode? code with
    | some op => .condition ⟨path, column, op, Operand.ofPayload operand⟩
    | none => .refusal (.unknownOperator code)

/-- A combinator and a related table lead one level down. -/
def opening (s : Schema) : Slot → Opening
  | .object t path depth => .parts (.entry t path depth) none
  | .entry t path depth key => match KeyMeaning.of s t key with
    | .all | .any => .parts (.entry t path (depth + 1)) (some (.object t path (depth + 1)))
    | .not => .whole (.object t path (depth + 1))
    | .related child => .whole (.object child (path ++ [key]) (depth + 1))
    | .column => .parts (.operator path key) none
    | .unknown => .closed
  | .operator _ _ _ => .closed

/-- Only where an object must stand is the depth looked at. -/
def check : Slot → Except Error Unit
  | .object _ _ depth => requireDepth depth
  | _ => .ok ()

end Slot

namespace Place

def role (s : Schema) (p : Place) : Role := p.slot.role s p.value

def inner (s : Schema) (p : Place) : List Place := (p.slot.opening s).inner p.value

def filter (s : Schema) (p : Place) : Except Error Filter :=
  match p.slot with
  | .object t path depth => ofObject s t path depth p.value
  | .entry t path depth key => ofEntry s t path depth key p.value
  | .operator path column code => match Operator.ofCode? code with
    | some op => .ok (.leaf ⟨path, column, op, Operand.ofPayload p.value⟩)
    | none => .error (.unknownOperator code)

def root (t : Table) (value : Json) : Place := ⟨.object t [] 0, value⟩

end Place

section Equations

variable (s : Schema) (t : Table) (path : List String) (depth : Nat)

theorem ofFields_eq_mapM (fields : List (String × Json)) :
    ofFields s t path depth fields = fields.mapM fun e => ofEntry s t path depth e.1 e.2 := by
  induction fields with
  | nil => rfl
  | cons e rest ih =>
    obtain ⟨key, value⟩ := e
    rw [ofFields, List.mapM_cons, ih]

theorem ofItems_eq_mapM (items : List Json) :
    ofItems s t path depth items = items.mapM fun item => ofObject s t path depth item := by
  induction items with
  | nil => rfl
  | cons item rest ih => rw [ofItems, List.mapM_cons, ih]

theorem ofEntry_negated {key : String} (meaning : KeyMeaning.of s t key = .not) (value : Json) :
    ofEntry s t path depth key value = .not <$> ofObject s t path (depth + 1) value := by
  cases value with
  | obj fields => simp only [ofEntry, ofObject, meaning, map_eq_pure_bind, bind_assoc]
  | _ =>
    simp only [ofEntry, ofObject, meaning, refuseValue]
    cases requireDepth (depth + 1) with
    | error e => rfl
    | ok _ => rfl

theorem ofEntry_related {key : String} {child : Table}
    (meaning : KeyMeaning.of s t key = .related child) (value : Json) :
    ofEntry s t path depth key value = ofObject s child (path ++ [key]) (depth + 1) value := by
  cases value <;> simp only [ofEntry, ofObject, meaning]

theorem ofEntry_column {key : String} (meaning : KeyMeaning.of s t key = .column) (value : Json) :
    ofEntry s t path depth key value = ofColumn path key value := by
  cases value <;> simp only [ofEntry, meaning]

theorem requireDepth_eq_ok : requireDepth depth = .ok () ↔ depth ≤ maxDepth := by
  unfold requireDepth
  split
  · simp
    omega
  · simp
    omega

end Equations

namespace Place

variable {s : Schema}

theorem filter_eq (p : Place) : p.filter s = p.slot.check >>= fun _ =>
    (p.inner s).mapM (filter s) >>= (p.role s).build := by
  obtain ⟨slot, value⟩ := p
  cases slot with
  | object t path depth =>
    cases value with
    | obj fields =>
      simp only [filter, ofObject, Slot.check, inner, Slot.opening, Opening.inner, role, Slot.role,
        List.mapM_map, ofFields_eq_mapM]
      rfl
    | _ => rfl
  | entry t path depth key =>
    change ofEntry s t path depth key value = _
    simp only [Slot.check, role, Slot.role, inner, Slot.opening]
    cases meaning : KeyMeaning.of s t key with
    | all | any =>
      cases value with
      | obj fields =>
        simp only [ofEntry, meaning, ofFields_eq_mapM, Opening.inner, groupRole, List.mapM_map]
        rfl
      | arr items =>
        simp only [ofEntry, meaning, ofItems_eq_mapM, Opening.inner, groupRole, List.mapM_map]
        rfl
      | _ =>
        simp only [ofEntry, meaning]
        rfl
    | not =>
      rw [ofEntry_negated s t path depth meaning]
      simp only [Opening.inner, List.mapM_cons, List.mapM_nil, filter]
      cases ofObject s t path (depth + 1) value with
      | error e => rfl
      | ok f => rfl
    | related child =>
      rw [ofEntry_related s t path depth meaning]
      simp only [Opening.inner, List.mapM_cons, List.mapM_nil, filter]
      cases ofObject s child (path ++ [key]) (depth + 1) value with
      | error e => rfl
      | ok f => rfl
    | column =>
      rw [ofEntry_column s t path depth meaning]
      cases value with
      | obj operators =>
        simp only [ofColumn, columnRole, Opening.inner, List.mapM_map]
        rfl
      | _ => rfl
    | unknown => cases value <;> simp only [ofEntry, meaning] <;> rfl
  | operator path column code =>
    simp only [filter, Slot.check, inner, Slot.opening, Opening.inner, role, Slot.role]
    cases Operator.ofCode? code with
    | some op => rfl
    | none => rfl

theorem filter_eq_ok {p : Place} {f : Filter} : p.filter s = .ok f ↔ p.slot.check = .ok () ∧
    ∃ parts, List.Forall₂ (fun q g => q.filter s = .ok g) (p.inner s) parts ∧
      (p.role s).build parts = .ok f := by
  rw [filter_eq, bind_eq_ok]
  simp only [bind_eq_ok, mapM_eq_ok]
  constructor
  · rintro ⟨⟨⟩, passed, rest⟩
    exact ⟨passed, rest⟩
  · rintro ⟨passed, rest⟩
    exact ⟨(), passed, rest⟩

theorem columnRole_condition {path : List String} {column : String} {value : Json}
    {c : Condition} (role : columnRole path column value = .condition c) :
    c.path = path ∧ c.column = column ∧ (∀ fields, value ≠ .obj fields) ∧
      ∀ items, value = .arr items → c.operand = Operand.ofPayload value := by
  cases value with
  | obj fields => cases role
  | arr items =>
    cases role
    exact ⟨rfl, rfl, fun _ other => Json.noConfusion other, fun _ _ => rfl⟩
  | _ =>
    cases role
    exact ⟨rfl, rfl, fun _ other => Json.noConfusion other, fun _ other => Json.noConfusion other⟩

theorem role_eq_condition {p : Place} {c : Condition} (role : p.role s = .condition c) :
    (∃ t path depth key, p.slot = .entry t path depth key ∧ KeyMeaning.of s t key = .column ∧
      columnRole path key p.value = .condition c) ∨
    ∃ path column code op, p.slot = .operator path column code ∧
      c = ⟨path, column, op, Operand.ofPayload p.value⟩ := by
  obtain ⟨slot, value⟩ := p
  cases slot with
  | object t path depth => cases value <;> cases role
  | entry t path depth key =>
    simp only [Place.role, Slot.role] at role
    cases meaning : KeyMeaning.of s t key with
    | column =>
      rw [meaning] at role
      exact Or.inl ⟨t, path, depth, key, rfl, meaning, role⟩
    | all | any =>
      rw [meaning] at role
      cases value <;> cases role
    | not | related | unknown =>
      rw [meaning] at role
      cases role
  | operator path column code =>
    simp only [Place.role, Slot.role] at role
    cases known : Operator.ofCode? code with
    | none =>
      rw [known] at role
      cases role
    | some op =>
      rw [known] at role
      cases role
      exact Or.inr ⟨path, column, code, op, rfl, rfl⟩

theorem inner_condition {p : Place} {c : Condition} (role : p.role s = .condition c) :
    p.inner s = [] := by
  rcases role_eq_condition role with ⟨t, path, depth, key, slot, meaning, read⟩ |
    ⟨path, column, code, op, slot, -⟩
  · obtain ⟨-, -, plain, -⟩ := columnRole_condition read
    simp only [inner, slot, Slot.opening, meaning]
    cases value : p.value with
    | obj fields => exact absurd value (plain fields)
    | _ => rfl
  · simp only [inner, slot, Slot.opening, Opening.inner]

theorem condition_listed {p : Place} {c : Condition} {items : List Json}
    (role : p.role s = .condition c) (listed : p.value = .arr items) :
    c.operand = .list (items.map Operand.ofPayload) := by
  have operand : c.operand = Operand.ofPayload p.value := by
    rcases role_eq_condition role with ⟨t, path, depth, key, -, -, read⟩ | ⟨_, _, _, _, -, rfl⟩
    · exact (columnRole_condition read).2.2.2 items listed
    · rfl
  rw [operand, listed, Operand.ofPayload, Operand.ofPayloads_eq_map]

/-- The second place lies directly inside the first. -/
inductive Opens (s : Schema) : Place → Place → Prop where
  | field {t : Table} {path : List String} {depth : Nat} {fields : List (String × Json)}
      {e : String × Json} (member : e ∈ fields) :
      Opens s ⟨.object t path depth, .obj fields⟩ ⟨.entry t path depth e.1, e.2⟩
  | grouped {t : Table} {path : List String} {depth : Nat} {key : String}
      {fields : List (String × Json)} {e : String × Json}
      (meaning : (KeyMeaning.of s t key).connective?.isSome) (member : e ∈ fields) :
      Opens s ⟨.entry t path depth key, .obj fields⟩ ⟨.entry t path (depth + 1) e.1, e.2⟩
  | listed {t : Table} {path : List String} {depth : Nat} {key : String} {items : List Json}
      {item : Json} (meaning : (KeyMeaning.of s t key).connective?.isSome)
      (member : item ∈ items) :
      Opens s ⟨.entry t path depth key, .arr items⟩ ⟨.object t path (depth + 1), item⟩
  | negated {t : Table} {path : List String} {depth : Nat} {key : String} {value : Json}
      (meaning : KeyMeaning.of s t key = .not) :
      Opens s ⟨.entry t path depth key, value⟩ ⟨.object t path (depth + 1), value⟩
  | related {t child : Table} {path : List String} {depth : Nat} {key : String} {value : Json}
      (meaning : KeyMeaning.of s t key = .related child) :
      Opens s ⟨.entry t path depth key, value⟩ ⟨.object child (path ++ [key]) (depth + 1), value⟩
  | compared {t : Table} {path : List String} {depth : Nat} {key : String}
      {operators : List (String × Json)} {e : String × Json}
      (meaning : KeyMeaning.of s t key = .column) (member : e ∈ operators) :
      Opens s ⟨.entry t path depth key, .obj operators⟩ ⟨.operator path key e.1, e.2⟩

theorem opens_of_inner {p q : Place} (inside : q ∈ p.inner s) : Opens s p q := by
  obtain ⟨slot, value⟩ := p
  cases slot with
  | object t path depth =>
    cases value with
    | obj fields =>
      obtain ⟨e, member, rfl⟩ := List.mem_map.mp inside
      exact .field member
    | _ => cases inside
  | entry t path depth key =>
    simp only [inner, Slot.opening] at inside
    cases meaning : KeyMeaning.of s t key with
    | all | any =>
      rw [meaning] at inside
      have group : (KeyMeaning.of s t key).connective?.isSome := by rw [meaning]; rfl
      cases value with
      | obj fields =>
        obtain ⟨e, member, rfl⟩ := List.mem_map.mp inside
        exact .grouped group member
      | arr items =>
        obtain ⟨item, member, rfl⟩ := List.mem_map.mp inside
        exact .listed group member
      | _ => cases inside
    | not =>
      rw [meaning] at inside
      cases List.mem_singleton.mp inside
      exact .negated meaning
    | related child =>
      rw [meaning] at inside
      cases List.mem_singleton.mp inside
      exact .related meaning
    | column =>
      rw [meaning] at inside
      cases value with
      | obj operators =>
        obtain ⟨e, member, rfl⟩ := List.mem_map.mp inside
        exact .compared meaning member
      | _ => cases inside
    | unknown =>
      rw [meaning] at inside
      cases inside
  | operator => cases inside

theorem Opens.mem_inner {p q : Place} (opens : Opens s p q) : q ∈ p.inner s := by
  have group {t : Table} {path : List String} {depth : Nat} {key : String}
      (meaning : (KeyMeaning.of s t key).connective?.isSome) :
      (Slot.entry t path depth key).opening s =
        .parts (.entry t path (depth + 1)) (some (.object t path (depth + 1))) := by
    simp only [Slot.opening]
    cases known : KeyMeaning.of s t key with
    | all | any => rfl
    | _ => simp [known, KeyMeaning.connective?] at meaning
  cases opens with
  | field member => exact List.mem_map_of_mem member
  | grouped meaning member =>
    rw [inner, group meaning]
    exact List.mem_map_of_mem member
  | listed meaning member =>
    rw [inner, group meaning]
    exact List.mem_map_of_mem member
  | negated meaning => simp [inner, Slot.opening, Opening.inner, meaning]
  | related meaning => simp [inner, Slot.opening, Opening.inner, meaning]
  | compared meaning member =>
    simp only [inner, Slot.opening, meaning]
    exact List.mem_map_of_mem member

/-- An entry weighs more than its value alone, which may be the place inside it. -/
def weight (p : Place) : Nat :=
  match p.slot with
  | .object _ _ _ => 2 * p.value.size
  | .entry _ _ _ _ => 2 * p.value.size + 1
  | .operator _ _ _ => 0

theorem Opens.weight_lt {p q : Place} (opens : Opens s p q) : q.weight < p.weight := by
  cases opens with
  | field member | grouped meaning member =>
    have := Json.size_le_fieldSizes member
    simp only [weight, Json.size]
    omega
  | listed meaning member =>
    have := Json.size_le_sizes member
    simp only [weight, Json.size]
    omega
  | negated | related | compared =>
    simp only [weight]
    omega

/-- What passes from the places inside to the place around them holds everywhere. -/
theorem induct (s : Schema) {P : Place → Prop} (step : ∀ p, (∀ q ∈ p.inner s, P q) → P p)
    (p : Place) : P p := by
  -- The size of the value is not enough: under a negation the same value stands in another slot.
  induction size : p.weight using Nat.strongRecOn generalizing p with
  | ind n ih =>
    apply step
    intro q inside
    have less := (opens_of_inner inside).weight_lt
    exact ih q.weight (by omega) q rfl

def Within (s : Schema) : Place → Place → Prop := Relation.ReflTransGen (Opens s)

theorem forall_within_iff {P : Place → Prop} {p : Place} :
    (∀ q, Within s p q → P q) ↔ P p ∧ ∀ q ∈ p.inner s, ∀ r, Within s q r → P r := by
  constructor
  · intro all
    refine ⟨all p .refl, ?_⟩
    intro q inside r below
    exact all r (.head (opens_of_inner inside) below)
  · rintro ⟨here, inside⟩ q below
    rcases Relation.ReflTransGen.cases_head below with rfl | ⟨r, first, rest⟩
    · exact here
    · exact inside r first.mem_inner q rest

end Place

end Filter

end Lateral
