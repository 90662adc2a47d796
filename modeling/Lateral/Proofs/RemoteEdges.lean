import Lateral.Proofs.SchemaRuns

/-!
Registering a child that is resolved outside the database. The relationship is put under the
canonical form of the child's name, and looked for under the key that the name leads to. The two are
the same for the name of a table and for a name that nobody has. For a further name of a table they
are not: there the registration goes where no look-up comes.
-/

namespace Lateral

namespace Schema

section Keys

variable {s : Schema} (filed : s.Filed)
include filed

theorem edgeKey_eq_canonical_iff (name : String) :
    s.edgeKey name = s.canonical name ↔
      s.tables.contains (s.canonical name) = true ∨ s.isAlias name = false := by
  unfold edgeKey resolve? isAlias
  generalize s.canonical name = key
  dsimp only
  by_cases registered : s.tables.contains key = true
  · rw [if_pos registered, Option.getD_some]
    exact ⟨fun _ => Or.inl registered, fun _ => rfl⟩
  · rw [if_neg registered]
    cases leads : s.aliases.get? key with
    | none => simp [Dict.contains, leads]
    | some target =>
      -- A table stands under the target and none under the name itself, so the two differ.
      obtain ⟨t, stored⟩ := filed.known key target leads
      have apart : target ≠ key := by
        intro same
        rw [same] at stored
        simp [Dict.contains, stored] at registered
      have further : s.aliases.contains key = true := by simp [Dict.contains, leads]
      simp [registered, further, apart]

/-- No name leads to the canonical form of a further name. -/
theorem edgeKey_ne_canonical {child : String}
    (unregistered : s.tables.contains (s.canonical child) = false)
    (further : s.isAlias child = true) (name : String) :
    s.edgeKey name ≠ s.canonical child := by
  intro same
  unfold edgeKey at same
  cases resolved : s.resolve? name with
  | some key =>
    rw [resolved, Option.getD_some] at same
    obtain ⟨t, stored⟩ := resolve?_registered filed resolved
    rw [same] at stored
    simp [Dict.contains, stored] at unregistered
  | none =>
    rw [resolved, Option.getD_none] at same
    simp only [resolve?, same, unregistered, Bool.false_eq_true, if_false] at resolved
    simp [isAlias, Dict.contains, resolved] at further

end Keys

section Registered

variable {s extended : Schema} {child parent remoteField : String} {t : Table} {c : Column}

theorem withRemote_edge? (a b : String) : (s.withRemote t c child remoteField).edge? a b =
    if (s.edgeKey a, s.edgeKey b) = (s.canonical child, t.key) then
      some (remoteEdge t c child remoteField)
    else s.edge? a b := by
  have same : SameTables (s.withRemote t c child remoteField) s := ⟨rfl, rfl, rfl⟩
  unfold edge?
  rw [same.edgeKey, same.edgeKey]
  exact Dict.get?_insert ..

theorem edge_congr {u v : Schema} {a b : String} (same : u.edge? a b = v.edge? a b) :
    u.edge a b = v.edge a b := by
  unfold edge
  rw [same]

theorem withRemote_found (filed : s.Filed) (found : s.table parent = .ok t) :
    (s.withRemote t c child remoteField).edge child parent =
        .ok (remoteEdge t c child remoteField) ↔
      s.edgeKey child = s.canonical child ∨
        s.edge child parent = .ok (remoteEdge t c child remoteField) := by
  rw [edge_eq_ok, edge_eq_ok, withRemote_edge?, edgeKey_of_table filed found]
  by_cases own : s.edgeKey child = s.canonical child
  · simp [own]
  · simp [own]

theorem withRemote_other (filed : s.Filed) (found : s.table parent = .ok t) {a b : String}
    (apart : (s.edgeKey a, s.edgeKey b) ≠ (s.edgeKey child, s.edgeKey parent)) :
    (s.withRemote t c child remoteField).edge a b = s.edge a b := by
  apply edge_congr
  rw [withRemote_edge?]
  split
  · rename_i same
    rw [edgeKey_of_table filed found] at apart
    -- The key is the canonical form of the child here, so the child leads elsewhere by a further
    -- name; but then no name leads to that form.
    have elsewhere : s.edgeKey child ≠ s.canonical child := by
      intro own
      rw [own] at apart
      exact apart same
    rw [Ne, edgeKey_eq_canonical_iff filed, not_or, Bool.not_eq_true, Bool.not_eq_false]
      at elsewhere
    have unreached := edgeKey_ne_canonical filed elsewhere.1 elsewhere.2 a
    exact absurd (Prod.mk.inj same).1 unreached
  · rfl

theorem withRemote_lost (filed : s.Filed)
    (unregistered : s.tables.contains (s.canonical child) = false)
    (further : s.isAlias child = true) (a b : String) :
    (s.withRemote t c child remoteField).edge a b = s.edge a b := by
  apply edge_congr
  rw [withRemote_edge?]
  split
  · rename_i same
    exact absurd (Prod.mk.inj same).1 (edgeKey_ne_canonical filed unregistered further a)
  · rfl

end Registered

end Schema

/-- A remote child that was registered is found, with the parent's column on the left and the remote
field on the right, exactly if its name is that of a table or not a further name of one, or if the
same relationship was there already. All pairs of names with other keys are related as before. Under
a further name of a table the registration changes no answer at all. -/
theorem remote_edge_found_iff {s extended : Schema} {child parent localColumn remoteField : String}
    (reachable : s.Reachable)
    (added : s.addRemote child parent localColumn remoteField = .ok extended) :
    ∃ t, s.table parent = .ok t ∧ ∃ c, t.column localColumn = .ok c ∧
      (extended.edge child parent = .ok (Schema.remoteEdge t c child remoteField) ↔
        (s.tables.contains (s.canonical child) = true ∨ s.isAlias child = false) ∨
          s.edge child parent = .ok (Schema.remoteEdge t c child remoteField)) ∧
      (∀ a b, (s.edgeKey a, s.edgeKey b) ≠ (s.edgeKey child, s.edgeKey parent) →
        extended.edge a b = s.edge a b) ∧
      (s.tables.contains (s.canonical child) = false → s.isAlias child = true →
        ∀ a b, extended.edge a b = s.edge a b) := by
  have filed := reachable.filed
  obtain ⟨t, found, c, held, rfl⟩ := Schema.addRemote_eq_ok.mp added
  refine ⟨t, found, c, held, ?_, ?_, ?_⟩
  · rw [← Schema.edgeKey_eq_canonical_iff filed]
    exact Schema.withRemote_found filed found
  · intro a b apart
    exact Schema.withRemote_other filed found apart
  · intro unregistered further a b
    exact Schema.withRemote_lost filed unregistered further a b

def calledEchoes : Except Error Schema :=
  Schema.ofCatalog {
    tables := [{ name := "volcanoes" }, { name := "humans" }]
    columns := [
      [{ id := 1, name := "id", sqlType := "bigint", primaryKey := true },
        { id := 2, name := "place", sqlType := "text" }],
      [{ id := 1, name := "id", sqlType := "bigint", primaryKey := true }]] }
    ⟨[("humans", ["echoes"])]⟩

theorem thieves_found : ∃ s extended, calledEchoes = .ok s ∧
    s.addRemote "thieves" "volcanoes" "Place" "at" = .ok extended ∧
    s.isAlias "thieves" = false ∧ s.edgeKey "echoes" ≠ s.edgeKey "thieves" ∧
    (∃ t, s.table "volcanoes" = .ok t ∧ ∃ c, t.column "Place" = .ok c ∧
      extended.edge "thieves" "volcanoes" = .ok (Schema.remoteEdge t c "thieves" "at")) ∧
    extended.edge "echoes" "volcanoes" = s.edge "echoes" "volcanoes" := by
  have facts : (calledEchoes >>= fun s =>
      (fun _ => (s.isAlias "thieves", decide (s.edgeKey "echoes" = s.edgeKey "thieves"))) <$>
        s.addRemote "thieves" "volcanoes" "Place" "at") = .ok (false, false) := by
    decide +kernel
  obtain ⟨s, built, facts⟩ := Outcome.bind_eq_ok.mp facts
  obtain ⟨extended, added, facts⟩ := Outcome.map_eq_ok.mp facts
  obtain ⟨unaliased, apart⟩ := Prod.mk.inj facts
  rw [decide_eq_false_iff_not] at apart
  obtain ⟨t, found, c, held, known, others, -⟩ := remote_edge_found_iff (.catalog built) added
  refine ⟨s, extended, built, added, unaliased, apart, ?_, ?_⟩
  · exact ⟨t, found, c, held, known.mpr (Or.inl (Or.inr unaliased))⟩
  · apply others
    intro same
    exact apart (Prod.mk.inj same).1

theorem echoes_not_found : ∃ s extended, calledEchoes = .ok s ∧
    s.addRemote "echoes" "volcanoes" "place" "at" = .ok extended ∧
    extended.edge "echoes" "volcanoes" = .error (.unknownEdge "echoes" "volcanoes") := by
  have lost : (calledEchoes >>= fun s => (fun extended : Schema =>
      extended.edge "echoes" "volcanoes") <$> s.addRemote "echoes" "volcanoes" "place" "at") =
        .ok (.error (.unknownEdge "echoes" "volcanoes")) := by
    decide +kernel
  obtain ⟨s, built, lost⟩ := Outcome.bind_eq_ok.mp lost
  obtain ⟨extended, added, lost⟩ := Outcome.map_eq_ok.mp lost
  exact ⟨s, extended, built, added, lost⟩

end Lateral
