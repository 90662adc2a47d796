import Lateral.Mutation.Chain
import Lateral.Proofs.Agreement
import Lateral.Proofs.Expansion

/-!
What a mutation sees of its data: the keys, and which values lie in which. A scalar counts only in a
filter, under one of a few keys. Data of the same shape comes down to the same commands, and is
refused for the same reasons.
-/

namespace Lateral

def Mutation.isFilterKey (key : String) : Bool := key = whereKey || isLinkKey key

namespace Json

def isScalar : Json → Bool
  | .arr _ | .obj _ => false
  | _ => true

mutual

/-- The value with each scalar struck out that is in no filter. -/
def shape : Json → Json
  | .arr items => .arr (shapes items)
  | .obj fields => .obj (fieldShapes fields)
  | _ => .null

def shapes : List Json → List Json
  | [] => []
  | item :: rest => shape item :: shapes rest

def fieldShapes : List (String × Json) → List (String × Json)
  | [] => []
  | (key, value) :: rest =>
    (key, if Mutation.isFilterKey key then value else shape value) :: fieldShapes rest

end

def fieldShape (f : String × Json) : String × Json :=
  (f.1, if Mutation.isFilterKey f.1 then f.2 else f.2.shape)

theorem shapes_eq_map (items : List Json) : shapes items = items.map shape := by
  induction items with
  | nil => rfl
  | cons item rest ih => rw [shapes, ih, List.map_cons]

theorem fieldShapes_eq_map (fields : List (String × Json)) :
    fieldShapes fields = fields.map fieldShape := by
  induction fields with
  | nil => rfl
  | cons f rest ih => rw [fieldShapes, ih, List.map_cons, fieldShape]

theorem shape_arr (items : List Json) : (arr items).shape = .arr (items.map shape) := by
  rw [shape, shapes_eq_map]

theorem shape_obj (fields : List (String × Json)) :
    (obj fields).shape = .obj (fields.map fieldShape) := by
  rw [shape, fieldShapes_eq_map]

theorem isNested_shape (v : Json) : v.shape.isNested = v.isNested := by
  cases v with
  | arr items =>
    cases items with
    | nil => rfl
    | cons first rest => cases first <;> rfl
  | _ => rfl

theorem isNested_fieldShape (f : String × Json) : (fieldShape f).2.isNested = f.2.isNested := by
  unfold fieldShape
  split
  · rfl
  · exact isNested_shape f.2

theorem isScalar_shape (v : Json) : v.shape.isScalar = v.isScalar := by
  cases v <;> rfl

theorem isScalar_of_isNested {v : Json} (nested : v.isNested = true) : v.isScalar = false := by
  cases v <;> first | rfl | cases nested

section SameField

variable {f g : String × Json} (same : fieldShape f = fieldShape g)
include same

theorem key_of_fieldShape : f.1 = g.1 := (Prod.mk.inj same).1

theorem shape_of_fieldShape : f.2.shape = g.2.shape := by
  have key := key_of_fieldShape same
  have value := congrArg Prod.snd same
  simp only [fieldShape, ← key] at value
  split at value
  · exact congrArg shape value
  · exact value

theorem value_of_fieldShape (filtered : Mutation.isFilterKey f.1 = true) : f = g := by
  have key := key_of_fieldShape same
  have value := congrArg Prod.snd same
  simp only [fieldShape, ← key, filtered, ↓reduceIte] at value
  exact Prod.ext key value

end SameField

end Json

namespace Payload
open Json Outcome

def shape (p : Payload) : Payload := ⟨p.fields.map fieldShape, p.array⟩

theorem any_key_shape (fields : List (String × Json)) (key : String) :
    ((fields.map fieldShape).any fun g => g.1 = key) = fields.any fun g => g.1 = key := by
  rw [List.any_map]
  rfl

theorem addField_shape (fields : List (String × Json)) (f : String × Json) :
    (addField fields f).map fieldShape = addField (fields.map fieldShape) (fieldShape f) := by
  have keys : ((fields.map fieldShape).any fun g => g.1 = (fieldShape f).1) =
      fields.any fun g => g.1 = f.1 := any_key_shape fields f.1
  unfold addField
  rw [keys]
  split
  · rfl
  · rw [List.map_append]
    rfl

theorem foldl_addField_shape (more fields : List (String × Json)) :
    (more.foldl addField fields).map fieldShape =
      (more.map fieldShape).foldl addField (fields.map fieldShape) := by
  induction more generalizing fields with
  | nil => rfl
  | cons f rest ih => rw [List.foldl_cons, ih, addField_shape, List.map_cons, List.foldl_cons]

theorem unite_agree {items others : List Json} {fields extra : List (String × Json)}
    (same_items : List.Forall₂ (fun a b => a.shape = b.shape) items others)
    (same_fields : fields.map fieldShape = extra.map fieldShape) :
    Agree (fun a b => a.map fieldShape = b.map fieldShape) (unite fields items)
      (unite extra others) := by
  induction same_items generalizing fields extra with
  | nil => exact .ok same_fields
  | @cons a b _ _ first _ ih =>
    cases a with
    | obj more =>
      cases b with
      | obj another =>
        rw [shape_obj, shape_obj] at first
        refine ih ?_
        rw [foldl_addField_shape, foldl_addField_shape, Json.obj.inj first, same_fields]
      | _ => cases first
    | _ =>
      cases b with
      | obj another => cases first
      | _ => exact .error _

theorem ofJson_agree {v w : Json} (structured : v.isScalar = false) (same : v.shape = w.shape) :
    Agree (fun p q => p.shape = q.shape) (ofJson v) (ofJson w) := by
  cases v with
  | obj fields =>
    cases w with
    | obj others =>
      rw [shape_obj, shape_obj] at same
      exact .ok (congrArg (Payload.mk · false) (Json.obj.inj same))
    | _ => cases same
  | arr items =>
    cases w with
    | arr others =>
      rw [shape_arr, shape_arr] at same
      have each := map_eq_map_iff_forall₂.mp (Json.arr.inj same)
      exact (unite_agree each rfl).bind fun _ _ united => .ok (congrArg (Payload.mk · true) united)
    | _ => cases same
  | _ => cases structured

/-- What follows the reading of data may use that it has succeeded. -/
theorem ofJson_then {γ δ : Type} {R : Payload → Payload → Prop} {S : γ → δ → Prop} {v w : Json}
    {f : (p : Payload) → ofJson v = .ok p → Except Error γ}
    {g : (p : Payload) → ofJson w = .ok p → Except Error δ} (read : Agree R (ofJson v) (ofJson w))
    (next : ∀ p q left right, R p q → Agree S (f p left) (g q right)) :
    Agree S (match made : ofJson v with | .error e => throw e | .ok p => f p made)
      (match made : ofJson w with | .error e => throw e | .ok p => g p made) := by
  split
  · rename_i refused
    split
    · rename_i also_refused
      rw [refused, also_refused] at read
      cases read
      exact .error _
    · rename_i made
      rw [refused, made] at read
      cases read
  · rename_i p made
    split
    · rename_i refused
      rw [made, refused] at read
      cases read
    · rename_i q also_made
      refine next p q made also_made ?_
      rw [made, also_made] at read
      cases read
      assumption

theorem contains_shape (p : Payload) (key : String) : p.shape.contains key = p.contains key :=
  any_key_shape p.fields key

end Payload

def Rows.shape (r : Rows) : Rows := { r with payload := r.payload.shape }

mutual

def Write.shape : Write → Write
  | .rows r children => .rows r.shape (Write.shapes children)
  | .links g => .links g

def Write.shapes : List Write → List Write
  | [] => []
  | w :: rest => Write.shape w :: Write.shapes rest

end

theorem Write.shapes_eq_map (ws : List Write) : Write.shapes ws = ws.map Write.shape := by
  induction ws with
  | nil => rfl
  | cons w rest ih => rw [Write.shapes, ih, List.map_cons]

theorem Write.shape_rows (r : Rows) (children : List Write) :
    (Write.rows r children).shape = .rows r.shape (children.map Write.shape) := by
  rw [Write.shape, Write.shapes_eq_map]

def Chain.shape (c : Chain) : Chain := ⟨c.root.shape, c.children.map Write.shape⟩

namespace Mutation
open Json Outcome

structure Draft.Alike (d other : Draft) : Prop where
  id : d.id = other.id
  kind : d.kind = other.kind
  table : d.table = other.table
  path : d.path = other.path
  edge : d.edge = other.edge
  payload : d.payload.shape = other.payload.shape

variable {s : Schema} {d other : Draft}

namespace Draft.Alike

theorem array (alike : d.Alike other) : d.payload.array = other.payload.array :=
  (Payload.mk.inj alike.payload).2

theorem fields (alike : d.Alike other) :
    d.payload.fields.map fieldShape = other.payload.fields.map fieldShape :=
  (Payload.mk.inj alike.payload).1

theorem nested (alike : d.Alike other) :
    List.Forall₂ (fun f g => fieldShape f = fieldShape g) d.nested other.nested := by
  have keeps (t : Table) : (fun f : String × Json => f.2.isNested && (t.column? f.1).isNone) ∘
      fieldShape = fun f => f.2.isNested && (t.column? f.1).isNone := by
    funext f
    simp only [Function.comp_apply, isNested_fieldShape]
    rfl
  refine map_eq_map_iff_forall₂.mp ?_
  unfold Draft.nested
  rw [← keeps d.table, ← keeps other.table, ← List.filter_map, ← List.filter_map, alike.fields,
    alike.table]

theorem linkCount (alike : d.Alike other) : d.linkCount = other.linkCount := by
  have counted (fields : List (String × Json)) : (fields.countP fun f => isLinkKey f.1) =
      (fields.map fieldShape).countP fun f => isLinkKey f.1 := by
    rw [List.countP_map]
    rfl
  unfold Draft.linkCount
  rw [counted d.nested, counted other.nested, map_eq_map_iff_forall₂.mpr alike.nested]

end Draft.Alike

theorem links_alike (alike : d.Alike other) (e : Edge) (st : State)
    (fields : List (String × Json)) : links s d e st fields = links s other e st fields := by
  have each : link s d e = link s other e := by
    funext st f
    unfold link
    rw [alike.kind, alike.table]
  induction fields generalizing st with
  | nil => rfl
  | cons f rest ih => simp only [links, each, ih]

theorem nested_all_links (links : d.linkCount = d.payload.fields.length) {f : String × Json}
    (member : f ∈ d.nested) : isFilterKey f.1 = true := by
  simp [isFilterKey, nested_isLinkKey links member]

/-- Where there is nothing but links the data is read in full, so it is the same. -/
theorem nested_links_alike (alike : d.Alike other) (links : d.linkCount = d.payload.fields.length) :
    d.nested = other.nested := by
  have same := (List.forall₂_and_left d.nested other.nested).mpr
    ⟨fun f member => nested_all_links links member, alike.nested⟩
  have equal : List.Forall₂ (· = ·) d.nested other.nested :=
    same.imp fun f g ⟨filtered, alike⟩ => value_of_fieldShape alike filtered
  rwa [List.forall₂_eq_eq_eq] at equal

theorem child_agree (alike : d.Alike other) {f g : String × Json}
    (same : fieldShape f = fieldShape g) (nested : f.2.isNested = true) {st : State}
    {small : f.2.size < d.weight} {small' : g.2.size < other.weight} :
    Agree (fun a b => a.1.1.Alike b.1.1 ∧ a.2 = b.2) (child s d st f small)
      (child s other st g small') := by
  have key := key_of_fieldShape same
  have read := Payload.ofJson_agree (isScalar_of_isNested nested) (shape_of_fieldShape same)
  unfold child
  rw [← alike.array, ← alike.table, ← alike.kind, ← key]
  refine Agree.check fun _ => ?_
  refine Agree.bind_same _ fun t _ => ?_
  refine Agree.bind_same _ fun e _ => ?_
  refine Agree.bind_same _ fun _ _ => ?_
  refine Agree.check fun _ => Agree.check fun _ => ?_
  dsimp only
  refine Payload.ofJson_then read fun payload others _ _ related => ?_
  have array : payload.array = others.array := (Payload.mk.inj related).2
  rw [← array, alike.path]
  exact Agree.check fun _ => .ok ⟨⟨rfl, rfl, rfl, rfl, rfl, related⟩, rfl⟩

def SameDrafts {m n : Nat}
    (a : List { c : Draft // c.weight < m } × Option Filter × State)
    (b : List { c : Draft // c.weight < n } × Option Filter × State) : Prop :=
  List.Forall₂ (fun c c' => c.1.Alike c'.1) a.1 b.1 ∧ a.2 = b.2

theorem children_agree (alike : d.Alike other) {fields others : List (String × Json)}
    (same : List.Forall₂ (fun f g => fieldShape f = fieldShape g) fields others)
    (nested : ∀ f ∈ fields, f.2.isNested = true) {st : State} {filter : Option Filter}
    {small : ∀ f ∈ fields, f.2.size < d.weight} {small' : ∀ g ∈ others, g.2.size < other.weight} :
    Agree SameDrafts (children s d st filter fields small)
      (children s other st filter others small') := by
  induction same generalizing st filter with
  | nil => exact .ok ⟨.nil, rfl⟩
  | @cons f g _ _ first _ ih =>
    have key := key_of_fieldShape first
    have rest_nested := fun h member => nested h (List.mem_cons_of_mem f member)
    rw [children, children, ← alike.kind, ← alike.path, ← alike.table, ← key]
    split
    · rename_i narrows
      have filtered : isFilterKey f.1 = true := by simp [isFilterKey, narrows.1]
      split
      · exact ih rest_nested
      · rw [congrArg Prod.snd (value_of_fieldShape first filtered)]
        exact Agree.bind_same _ fun own _ => ih rest_nested
    · refine (child_agree alike first (nested f (List.mem_cons_self ..))).bind ?_
      rintro ⟨c, st⟩ ⟨c', st'⟩ ⟨alike_child, rfl⟩
      refine (ih rest_nested).bind ?_
      rintro ⟨cs, filter, st⟩ ⟨cs', filter', st'⟩ ⟨each, same⟩
      cases same
      exact .ok ⟨.cons alike_child each, rfl⟩

def SameWrite (a b : Write × State) : Prop := a.1.shape = b.1.shape ∧ a.2 = b.2

theorem writes_agree {m n : Nat} {drafts : List { c : Draft // c.weight < m }}
    {others : List { c : Draft // c.weight < n }}
    (alike : List.Forall₂ (fun c c' => c.1.Alike c'.1) drafts others)
    (each : ∀ c ∈ drafts, ∀ c' : Draft, c.1.Alike c' → ∀ st,
      Agree SameWrite (expand s c.1 st) (expand s c' st)) (st : State) :
    Agree (fun a b => a.1.map Write.shape = b.1.map Write.shape ∧ a.2 = b.2)
      (drafts.foldrM (fun c (ws, st) => do
        let (w, st) ← expand s c.1 st
        return (w :: ws, st)) ([], st))
      (others.foldrM (fun c (ws, st) => do
        let (w, st) ← expand s c.1 st
        return (w :: ws, st)) ([], st)) := by
  induction alike with
  | nil => exact .ok ⟨rfl, rfl⟩
  | cons first _ ih =>
    rw [List.foldrM_cons, List.foldrM_cons]
    refine (ih fun c member => each c (List.mem_cons_of_mem _ member)).bind ?_
    rintro ⟨ws, st⟩ ⟨ws', st'⟩ ⟨others, rfl⟩
    refine (each _ (List.mem_cons_self ..) _ first st).bind ?_
    rintro ⟨w, st⟩ ⟨w', st'⟩ ⟨same, rfl⟩
    refine .ok ⟨?_, rfl⟩
    exact congrArg₂ List.cons same others

theorem expand_agree (alike : d.Alike other) (st : State) :
    Agree SameWrite (expand s d st) (expand s other st) := by
  -- Induction on the weight of one side alone: the other side follows it draft by draft.
  induction weight : d.weight using Nat.strongRecOn generalizing d other st with
  | ind m ih =>
    have count : (d.nested.countP fun f => isLinkKey f.1) =
        other.nested.countP fun f => isLinkKey f.1 := alike.linkCount
    have size : d.payload.fields.length = other.payload.fields.length := by
      simpa using congrArg List.length alike.fields
    rw [expand, expand, ← count, ← alike.edge, ← size, ← alike.path, ← alike.id, ← alike.table,
      ← alike.kind]
    split
    · split
      · exact .error _
      · refine Agree.check fun all_links => ?_
        have same := nested_links_alike alike (not_ne_iff.mp all_links)
        rw [← same, ← links_alike alike]
        exact Agree.bind_same _ fun _ _ => .ok ⟨rfl, rfl⟩
    · have nested : ∀ f ∈ d.nested, f.2.isNested = true := by
        intro f member
        have kept := (List.mem_filter.mp member).2
        simp only [Bool.and_eq_true] at kept
        exact kept.1
      refine (children_agree alike alike.nested nested).bind ?_
      rintro ⟨drafts, filter, st⟩ ⟨others, filter', st'⟩ ⟨each, same⟩
      cases same
      refine (writes_agree each (fun c _ c' alike st => ?_) st).bind ?_
      · exact ih c.1.weight (weight ▸ c.2) alike st rfl
      · rintro ⟨ws, st⟩ ⟨ws', st'⟩ ⟨same, rfl⟩
        refine .ok ⟨?_, rfl⟩
        simp only [Write.shape_rows, same, Rows.shape, alike.payload]

theorem build_agree {kind : RowKind} {t : Table} {v w : Json} (structured : v.isScalar = false)
    (same : v.shape = w.shape) :
    Agree (fun c c' => c.shape = c'.shape) (build s kind t v) (build s kind t w) := by
  unfold build
  have read := Payload.ofJson_agree structured same
  refine Payload.ofJson_then read fun payload others _ _ related => ?_
  refine (expand_agree ?_ _).bind ?_
  · exact ⟨rfl, rfl, rfl, rfl, rfl, related⟩
  · rintro ⟨write, st⟩ ⟨write', st'⟩ ⟨same, rfl⟩
    cases write with
    | rows r children =>
      cases write' with
      | rows r' children' =>
        rw [Write.shape_rows, Write.shape_rows] at same
        exact .ok (congrArg₂ Chain.mk (Write.rows.inj same).1 (Write.rows.inj same).2)
      | links g => cases same
    | links g =>
      cases write' with
      | rows r' children' => cases same
      | links g' => exact .error _

end Mutation

def Step.shape : Step → Step
  | .rows r parent children => .rows r.shape (parent.map Rows.shape) (children.map Write.shape)
  | .link g owner l => .link g owner.shape l
  | .union g => .union g

theorem Write.runsFirst_shape (w : Write) : w.shape.runsFirst = w.runsFirst := by
  cases w with
  | rows r children => rw [Write.shape_rows]; rfl
  | links g => rfl

mutual

theorem Write.steps_shape (parent : Rows) : ∀ w : Write,
    w.shape.steps parent.shape = (w.steps parent).map Step.shape
  | .rows r children => by
    rw [Write.shape_rows, Write.steps, Write.steps, Write.stepsOf_shape true r children,
      Write.stepsOf_shape false r children, List.map_append, List.map_cons]
    rfl
  | .links g => by
    simp only [Write.shape, Write.steps, List.map_append, List.map_map]
    rfl

theorem Write.stepsOf_shape (first : Bool) (parent : Rows) : ∀ ws : List Write,
    Write.stepsOf first parent.shape (ws.map Write.shape) =
      (Write.stepsOf first parent ws).map Step.shape
  | [] => by simp [Write.stepsOf]
  | w :: rest => by
    rw [List.map_cons, Write.stepsOf, Write.stepsOf, Write.runsFirst_shape,
      Write.stepsOf_shape first parent rest, List.map_append]
    split
    · rw [Write.steps_shape parent w]
    · rfl

end

theorem Chain.steps_shape (chain : Chain) : chain.shape.steps = chain.steps.map Step.shape := by
  simp only [Chain.steps, List.map_append, List.map_cons]
  rw [← Write.stepsOf_shape, ← Write.stepsOf_shape]
  rfl

namespace Rows

theorem fromChild_shape (r : Rows) (w : Write) : r.shape.fromChild w.shape = r.fromChild w := by
  cases w with
  | rows c children => rw [Write.shape_rows]; rfl
  | links g => rfl

theorem fromParent_shape (r : Rows) (parent : Option Rows) :
    r.shape.fromParent (parent.map Rows.shape) = r.fromParent parent := by
  obtain ⟨id, kind, table, path, payload, edge, filter⟩ := r
  cases edge <;> cases parent <;> rfl

theorem assignments_shape (r : Rows) (root : Selection) (parent : Option Rows)
    (children : List Write) :
    r.shape.assignments root (parent.map Rows.shape) (children.map Write.shape) =
      r.assignments root parent children := by
  have payload (c : Column) : r.shape.fromPayload c = r.fromPayload c :=
    congrArg (if · then some Source.payload else none) (r.payload.contains_shape c.name)
  have related : r.shape.related (parent.map Rows.shape) (children.map Write.shape) =
      r.related parent children := by
    have below : r.shape.fromChild ∘ Write.shape = r.fromChild := funext r.fromChild_shape
    rw [Rows.related, Rows.related, fromParent_shape, List.filterMap_map, below]
  unfold Rows.assignments
  simp only [related, Selection.sourceOf, payload, Option.isNone_map]
  rfl

end Rows

namespace Mutation

theorem step_shape (ctx : Context) (step : Step) : ctx.step step.shape = ctx.step step := by
  cases step with
  | rows r parent children =>
    simp only [Step.shape, Context.step, Rows.assignments_shape]
    obtain ⟨id, kind, table, path, payload, edge, filter⟩ := r
    cases edge <;> cases parent <;> rfl
  | link g owner l => rfl
  | union g => rfl

theorem settleAll_shape (steps : List Step) :
    settleAll (steps.map Step.shape) = settleAll steps := by
  have writes : JunctionWrite.ofStep? ∘ Step.shape = JunctionWrite.ofStep? := by
    funext step
    cases step <;> rfl
  have tables (junction : String) : (fun step : Step => decide (step.table.name = junction)) ∘
      Step.shape = fun step => decide (step.table.name = junction) := by
    funext step
    cases step <;> rfl
  unfold settleAll junctionWrites
  simp only [List.filterMap_map, writes, List.any_map, tables]

theorem ctes_shape (ctx : Context) (name : String) (chain : Chain) :
    ctx.ctes name chain.shape = ctx.ctes name chain := by
  have each : ctx.step ∘ Step.shape = ctx.step := funext (step_shape ctx)
  unfold Context.ctes
  rw [Chain.steps_shape, List.mapM_map, each, settleAll_shape]

/-- Data of one shape comes down to the same commands, or is refused for the same reason. -/
theorem commands_eq_of_shape (ctx : Context) (name : String) (s : Schema) (kind : RowKind)
    (t : Table) {v w : Json} (structured : v.isScalar = false) (same : v.shape = w.shape) :
    (build s kind t v >>= ctx.ctes name) = (build s kind t w >>= ctx.ctes name) := by
  refine Outcome.Agree.eq ((build_agree structured same).bind fun chain other alike => ?_)
  rw [← ctes_shape, alike, ctes_shape]
  exact .refl (fun _ => rfl) _

end Mutation

end Lateral
