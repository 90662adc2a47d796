import Lateral.Error
import Lateral.Json

/-!
The data of a mutation at one level: the fields of an object, or of all objects in a list, where the
first value under a key counts.
-/

namespace Lateral

structure Payload where
  fields : List (String × Json)
  /-- The fields come from a list of objects. -/
  array : Bool
  deriving Repr, Inhabited

namespace Payload

def describe : Json → String
  | .null => "null"
  | .bool _ => "a boolean"
  | .int _ | .float _ => "a number"
  | .str _ => "a string"
  | .arr _ => "an array"
  | .obj _ => "an object"

def addField (fields : List (String × Json)) (f : String × Json) : List (String × Json) :=
  if fields.any fun g => g.1 = f.1 then fields else fields ++ [f]

def unite : List (String × Json) → List Json → Except Error (List (String × Json))
  | fields, [] => .ok fields
  | fields, .obj more :: rest => unite (more.foldl addField fields) rest
  | _, _ :: _ => .error (.invalidPayload .bulkItem)

def ofJson : Json → Except Error Payload
  | .obj fields => .ok ⟨fields, false⟩
  | .arr items => do return ⟨← unite [] items, true⟩
  | other => .error (.invalidPayload (.scalar (describe other)))

def contains (p : Payload) (key : String) : Bool := p.fields.any fun f => f.1 = key

theorem mem_addField {fields : List (String × Json)} {f g : String × Json}
    (h : g ∈ addField fields f) : g ∈ fields ∨ g = f := by
  unfold addField at h
  split at h
  · exact .inl h
  · simpa using h

theorem mem_foldl_addField {more fields : List (String × Json)} {g : String × Json}
    (h : g ∈ more.foldl addField fields) : g ∈ fields ∨ g ∈ more := by
  induction more generalizing fields with
  | nil => exact .inl h
  | cons f rest ih =>
    rcases ih h with h | h
    · rcases mem_addField h with h | rfl
      · exact .inl h
      · exact .inr (by simp)
    · exact .inr (by simp [h])

theorem mem_unite {items : List Json} {fields united : List (String × Json)} {g : String × Json}
    (h : unite fields items = .ok united) (hg : g ∈ united) :
    g ∈ fields ∨ ∃ more, Json.obj more ∈ items ∧ g ∈ more := by
  induction items generalizing fields with
  | nil =>
    cases h
    exact .inl hg
  | cons item rest ih =>
    cases item with
    | obj more =>
      rcases ih h with h | ⟨other, hother, hg⟩
      · rcases mem_foldl_addField h with h | h
        · exact .inl h
        · exact .inr ⟨more, by simp, h⟩
      · exact .inr ⟨other, by simp [hother], hg⟩
    | _ => cases h

theorem size_lt_of_mem {j : Json} {p : Payload} (h : ofJson j = .ok p) {f : String × Json}
    (hf : f ∈ p.fields) : f.2.size < j.size := by
  cases j with
  | obj fields =>
    cases h
    exact Nat.lt_succ_of_le (Json.size_le_fieldSizes hf)
  | arr items =>
    simp only [ofJson, bind, Except.bind] at h
    split at h
    · cases h
    · rename_i united hu
      cases h
      rcases mem_unite hu hf with h | ⟨more, hm, hf⟩
      · cases h
      · have h1 := Json.size_le_sizes hm
        have h2 := Json.size_le_fieldSizes hf
        simp only [Json.size] at h1 ⊢
        omega
  | _ => cases h

end Payload

end Lateral
