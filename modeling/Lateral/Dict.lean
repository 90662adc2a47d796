/-!
Finite maps as lists of entries with distinct keys. Putting an entry replaces the one under its key.
-/

namespace Lateral

structure Dict (κ α : Type) where
  entries : List (κ × α)
  deriving DecidableEq, Repr

namespace Dict

variable {κ α : Type} [DecidableEq κ]

def empty : Dict κ α := ⟨[]⟩

instance : EmptyCollection (Dict κ α) := ⟨empty⟩

instance : Inhabited (Dict κ α) := ⟨empty⟩

def get? (d : Dict κ α) (k : κ) : Option α := d.entries.lookup k

def contains (d : Dict κ α) (k : κ) : Bool := (d.get? k).isSome

def insert (d : Dict κ α) (k : κ) (a : α) : Dict κ α :=
  ⟨(k, a) :: d.entries.filter fun e => e.1 ≠ k⟩

def insertIfNew (d : Dict κ α) (k : κ) (a : α) : Dict κ α :=
  if d.contains k then d else d.insert k a

/-- A later entry replaces an earlier one with the same key. -/
def ofList (entries : List (κ × α)) : Dict κ α :=
  entries.foldl (fun d e => d.insert e.1 e.2) empty

def values (d : Dict κ α) : List α := d.entries.map Prod.snd

@[simp] theorem get?_empty (k : κ) : (∅ : Dict κ α).get? k = none := rfl

theorem lookup_filter_ne (entries : List (κ × α)) {k j : κ} (h : j ≠ k) :
    (entries.filter fun e => e.1 ≠ k).lookup j = entries.lookup j := by
  induction entries with
  | nil => rfl
  | cons e rest ih =>
    obtain ⟨i, a⟩ := e
    by_cases hi : i = k
    · subst hi
      simp_all [List.lookup_cons, beq_false_of_ne h]
    · simp_all [List.lookup_cons]

theorem lookup_of_unique {entries : List (κ × α)} {k : κ} {a : α} (member : (k, a) ∈ entries)
    (only : ∀ b, (k, b) ∈ entries → b = a) : entries.lookup k = some a := by
  cases found : entries.lookup k with
  | none =>
    have absent := List.lookup_eq_none_iff.mp found _ member
    simp at absent
  | some b =>
    obtain ⟨before, after, split, -⟩ := List.lookup_eq_some_iff.mp found
    rw [only b (by simp [split])]

theorem get?_insert (d : Dict κ α) (k j : κ) (a : α) :
    (d.insert k a).get? j = if j = k then some a else d.get? j := by
  by_cases h : j = k
  · simp [get?, insert, h]
  · simp only [get?, insert, List.lookup_cons, beq_false_of_ne h, h, if_false]
    exact lookup_filter_ne d.entries h

theorem get?_insertIfNew (d : Dict κ α) (k j : κ) (a : α) :
    (d.insertIfNew k a).get? j = if j = k then some ((d.get? k).getD a) else d.get? j := by
  unfold insertIfNew contains
  cases h : d.get? k with
  | none => simp [get?_insert]
  | some b => by_cases hj : j = k <;> simp [hj, h]

end Dict

end Lateral
