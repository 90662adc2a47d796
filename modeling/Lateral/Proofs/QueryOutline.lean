import Lateral.Proofs.CompiledTemplates
import Lateral.Proofs.Outcome

/-!
Two runs of one query. Which names a request binds decides the outline of a statement: texts, and
places for values. The values themselves only reach those places, each as one quoted literal.
-/

namespace Lateral

def Variables.binds (given : Variables) (name : String) : Bool :=
  match given.get? name with
  | none | some .null => false
  | some _ => true

def Variables.text? (given : Variables) (name : String) : Option String :=
  match given.get? name with
  | none | some .null => none
  | some (.str s) => some s
  | some j => some j.render

inductive Slot where
  | text (s : String)
  /-- The quoted text of a bound name. -/
  | value (name : String)
  deriving DecidableEq, Repr

def Slot.fill (given : Variables) : Slot → String
  | .text s => s
  | .value name => Text.quote ((given.text? name).getD "")

abbrev Outline := List Slot

def Outline.fill (given : Variables) (outline : Outline) : String :=
  String.join (outline.map (Slot.fill given))

/-- The place of a variable: its fixed value, the value of the request, or what stands for a name
that is left open. -/
def Slot.ofVariable (fixed : Dict String String) (bound : String → Bool) (name left : String) :
    Slot :=
  match fixed.get? name with
  | some known => .text (Text.quote known)
  | none => if bound name then .value name else .text left

def Piece.slot (fixed : Dict String String) (bound : String → Bool) : Piece → Slot
  | .text s => .text s
  | .literal name => .ofVariable fixed bound name ("'" ++ Bindings.mark name ++ "'")
  | .count name => .ofVariable fixed bound name (Text.quote (Bindings.mark name))

def Template.outline (fixed : Dict String String) (bound : String → Bool) (t : Template) :
    Outline :=
  t.map (Piece.slot fixed bound)

/-- The outline of a query. No value of a variable is read. -/
def Compiler.queryOutline (c : Compiler) (r : Request) (bound : String → Bool) :
    Except Error (Outline × SkipMask) :=
  (fun (t, skipped) => (Template.outline c.settings.fixed bound t, skipped)) <$> c.queryTemplate r

theorem Variables.binds_eq_isSome (given : Variables) (name : String) :
    given.binds name = (given.text? name).isSome := by
  unfold binds text?
  cases given.get? name with
  | none => rfl
  | some value => cases value <;> rfl

theorem Bindings.value?_eq (b : Bindings) (name : String) :
    b.value? name = (b.fixed.get? name).or (b.request.text? name) := by
  unfold value? Variables.text?
  cases b.fixed.get? name <;> rfl

theorem Slot.fill_ofVariable (fixed : Dict String String) (given : Variables)
    (name left : String) :
    (Slot.ofVariable fixed given.binds name left).fill given =
      match (Bindings.mk fixed given).value? name with
      | some known => Text.quote known
      | none => left := by
  rw [Bindings.value?_eq, Slot.ofVariable]
  cases fixed.get? name with
  | some known => rfl
  | none =>
    have bound := given.binds_eq_isSome name
    cases text : given.text? name with
    | some known => simp [bound, text, Slot.fill]
    | none => simp [bound, text, Slot.fill]

theorem Piece.fill_slot (fixed : Dict String String) (given : Variables) (piece : Piece) :
    (piece.slot fixed given.binds).fill given = piece.fill ⟨fixed, given⟩ := by
  cases piece with
  | text s => rfl
  | literal name => exact Slot.fill_ofVariable fixed given name _
  | count name =>
    rw [Piece.slot, Slot.fill_ofVariable, Piece.fill, Bindings.count]
    cases (Bindings.mk fixed given).value? name <;> rfl

theorem Template.fill_outline (fixed : Dict String String) (given : Variables) (t : Template) :
    (t.outline fixed given.binds).fill given = t.fill ⟨fixed, given⟩ := by
  have pieces : (t.map (Piece.slot fixed given.binds)).map (Slot.fill given) =
      t.map (Piece.fill ⟨fixed, given⟩) := by
    rw [List.map_map]
    exact List.map_congr_left fun piece _ => Piece.fill_slot fixed given piece
  exact congrArg String.join pieces

theorem Slot.value_of_ofVariable {fixed : Dict String String} {bound : String → Bool}
    {name left place : String}
    (slot : Slot.ofVariable fixed bound name left = .value place) : bound place = true := by
  unfold ofVariable at slot
  split at slot
  · cases slot
  · split at slot
    · cases slot
      assumption
    · cases slot

theorem Template.bound_of_value {fixed : Dict String String} {bound : String → Bool}
    {t : Template} {name : String} (place : .value name ∈ t.outline fixed bound) :
    bound name = true := by
  obtain ⟨piece, _, slot⟩ := List.mem_map.mp place
  cases piece with
  | text s => cases slot
  | literal other | count other =>
    rw [Piece.slot] at slot
    exact Slot.value_of_ofVariable slot

namespace Compiler

theorem compileQuery_eq_outline (c : Compiler) (r : Request) (given : Variables) :
    c.compileQuery r given =
      (fun (outline, skipped) => ⟨outline.fill given, skipped⟩) <$>
        c.queryOutline r given.binds := by
  rw [compileQuery_eq_template]
  unfold queryOutline
  cases c.queryTemplate r with
  | error e => rfl
  | ok compiled =>
    have filled := Template.fill_outline c.settings.fixed given compiled.1
    exact congrArg (fun sql => Except.ok (Statement.mk sql compiled.2)) filled.symm

theorem queryOutline_bound {c : Compiler} {r : Request} {bound : String → Bool}
    {outline : Outline} {skipped : SkipMask}
    (made : c.queryOutline r bound = .ok (outline, skipped)) {name : String}
    (place : .value name ∈ outline) : bound name = true := by
  obtain ⟨compiled, _, same⟩ := Outcome.map_eq_ok.mp made
  cases same
  exact Template.bound_of_value place

end Compiler

/-- Two requests that bind the same names get the same error, or one outline filled in with the
texts of each. -/
theorem compileQuery_shares_outline (c : Compiler) (r : Request) (given other : Variables)
    (same_names : ∀ name, given.binds name = other.binds name) :
    (∃ error, c.compileQuery r given = .error error ∧ c.compileQuery r other = .error error) ∨
    ∃ outline skipped, c.queryOutline r given.binds = .ok (outline, skipped) ∧
      (∀ name, .value name ∈ outline → given.binds name = true ∧ other.binds name = true) ∧
      c.compileQuery r given = .ok ⟨outline.fill given, skipped⟩ ∧
      c.compileQuery r other = .ok ⟨outline.fill other, skipped⟩ := by
  have first := c.compileQuery_eq_outline r given
  have second := c.compileQuery_eq_outline r other
  -- the outline only asks which names are bound, so both runs have the same one
  rw [← funext same_names] at second
  cases made : c.queryOutline r given.binds with
  | error error =>
    rw [made] at first second
    exact .inl ⟨error, first, second⟩
  | ok compiled =>
    obtain ⟨outline, skipped⟩ := compiled
    rw [made] at first second
    refine .inr ⟨outline, skipped, rfl, ?_, first, second⟩
    intro name place
    have bound := Compiler.queryOutline_bound made place
    exact ⟨bound, same_names name ▸ bound⟩

def humanCompiler : Compiler where
  schema := { tables := ⟨[("human", .ofColumns "humans" "human" .table
    [{ id := 1, name := "id", sqlType := "bigint", primaryKey := true },
      { id := 2, name := "name", sqlType := "text" }])]⟩ }

def humansByName : Request := .query [{
  table := "humans"
  label := "humans"
  fields := [.ofName "id"]
  filter := some (.leaf { column := "name", operator := .equals, operand := .variable "name" })
  paging := { limit := some "$count" } }]

def plainName : Variables := ⟨[("name", .str "Ada"), ("count", .int 5)]⟩

def quotedName : Variables := ⟨[("count", .str "1) --"), ("name", .str "' OR 'a' = 'a")]⟩

theorem humansByName_shares_outline :
    (∀ name, plainName.binds name = quotedName.binds name) ∧
    ∃ outline skipped, humanCompiler.queryOutline humansByName plainName.binds =
        .ok (outline, skipped) ∧
      .value "name" ∈ outline ∧ .value "count" ∈ outline ∧
      humanCompiler.compileQuery humansByName plainName = .ok ⟨outline.fill plainName, skipped⟩ ∧
      humanCompiler.compileQuery humansByName quotedName =
        .ok ⟨outline.fill quotedName, skipped⟩ := by
  have same_names : ∀ name, plainName.binds name = quotedName.binds name := by
    intro name
    by_cases is_name : name = "name"
    · subst is_name
      decide
    · by_cases is_count : name = "count"
      · subst is_count
        decide
      · simp [Variables.binds, plainName, quotedName, Dict.get?, List.lookup_cons,
          beq_false_of_ne is_name, beq_false_of_ne is_count]
  have places : (humanCompiler.queryOutline humansByName plainName.binds).map
      (fun made => decide (.value "name" ∈ made.1 ∧ .value "count" ∈ made.1)) = .ok true := by
    decide +kernel
  refine ⟨same_names, ?_⟩
  rcases compileQuery_shares_outline humanCompiler humansByName plainName quotedName same_names with
    ⟨error, failed, _⟩ | ⟨outline, skipped, made, _, first, second⟩
  · rw [Compiler.compileQuery_eq_outline] at failed
    obtain ⟨compiled, made, _⟩ := Outcome.map_eq_ok.mp places
    rw [made] at failed
    cases failed
  · rw [made] at places
    obtain ⟨compiled, same, both⟩ := Outcome.map_eq_ok.mp places
    cases same
    obtain ⟨name, count⟩ := of_decide_eq_true both
    exact ⟨outline, skipped, made, name, count, first, second⟩

end Lateral
