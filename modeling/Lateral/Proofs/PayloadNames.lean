import Lateral.Proofs.OpenNames
import Lateral.Proofs.PayloadShape

/-!
The variables that the data of a mutation names. They stand in filters: under the keys of links, and
under the key that narrows an update. The commands of a mutation wait for these and for those that
the request names, and for no others.
-/

namespace Lateral

theorem append_subset_append {xs ys names others : List String} (first : xs ⊆ names)
    (second : ys ⊆ others) : xs ++ ys ⊆ names ++ others :=
  List.append_subset.mpr
    ⟨List.Subset.trans first (List.subset_append_left ..),
      List.Subset.trans second (List.subset_append_right ..)⟩

namespace Json
open Mutation

mutual

def names : Json → List String
  | .str s => (Operand.ofPayload (.str s)).names
  | .arr items => namesOf items
  | .obj fields => fieldNames fields
  | _ => []

def namesOf : List Json → List String
  | [] => []
  | item :: rest => names item ++ namesOf rest

def fieldNames : List (String × Json) → List String
  | [] => []
  | (_, value) :: rest => names value ++ fieldNames rest

end

mutual

def filterNames : Json → List String
  | .arr items => filterNamesOf items
  | .obj fields => fieldFilterNames fields
  | _ => []

def filterNamesOf : List Json → List String
  | [] => []
  | item :: rest => filterNames item ++ filterNamesOf rest

def fieldFilterNames : List (String × Json) → List String
  | [] => []
  | (key, value) :: rest =>
    (if isFilterKey key then names value else filterNames value) ++ fieldFilterNames rest

end

mutual

theorem filterNames_subset : ∀ v : Json, v.filterNames ⊆ v.names
  | .arr items => by
    rw [filterNames, names]
    exact filterNamesOf_subset items
  | .obj fields => by
    rw [filterNames, names]
    exact fieldFilterNames_subset fields
  | .null | .bool _ | .int _ | .float _ | .str _ => List.nil_subset _

theorem filterNamesOf_subset : ∀ items : List Json, filterNamesOf items ⊆ namesOf items
  | [] => List.nil_subset _
  | item :: rest => by
    rw [filterNamesOf, namesOf]
    exact append_subset_append (filterNames_subset item) (filterNamesOf_subset rest)

theorem fieldFilterNames_subset : ∀ fields : List (String × Json),
    fieldFilterNames fields ⊆ fieldNames fields
  | [] => List.nil_subset _
  | (key, value) :: rest => by
    rw [fieldFilterNames, fieldNames]
    refine append_subset_append ?_ (fieldFilterNames_subset rest)
    split
    · exact List.Subset.refl _
    · exact filterNames_subset value

end

theorem namesOf_eq (items : List Json) : namesOf items = items.flatMap names := by
  induction items with
  | nil => rfl
  | cons item rest ih => rw [namesOf, ih, List.flatMap_cons]

theorem fieldNames_eq (fields : List (String × Json)) :
    fieldNames fields = fields.flatMap fun f => f.2.names := by
  induction fields with
  | nil => rfl
  | cons f rest ih => rw [fieldNames, ih, List.flatMap_cons]

theorem filterNamesOf_eq (items : List Json) : filterNamesOf items = items.flatMap filterNames := by
  induction items with
  | nil => rfl
  | cons item rest ih => rw [filterNamesOf, ih, List.flatMap_cons]

def namesAt (f : String × Json) : List String :=
  if isFilterKey f.1 then f.2.names else f.2.filterNames

theorem fieldFilterNames_eq (fields : List (String × Json)) :
    fieldFilterNames fields = fields.flatMap namesAt := by
  induction fields with
  | nil => rfl
  | cons f rest ih => rw [fieldFilterNames, ih, List.flatMap_cons, namesAt]

theorem filterNames_subset_namesAt (f : String × Json) : f.2.filterNames ⊆ namesAt f := by
  unfold namesAt
  split
  · exact filterNames_subset f.2
  · exact List.Subset.refl _

theorem namesAt_subset {f : String × Json} {fields : List (String × Json)}
    (member : f ∈ fields) : namesAt f ⊆ (Json.obj fields).filterNames := by
  rw [filterNames, fieldFilterNames_eq]
  exact subset_flatMap member

end Json

mutual

theorem Operand.ofPayload_names : ∀ v : Json, (Operand.ofPayload v).names ⊆ v.names
  | .arr items => by
    rw [Operand.ofPayload, Operand.names, Json.names]
    exact Operand.ofPayloads_names items
  | .int n => by
    rw [Operand.ofPayload]
    split <;> exact List.nil_subset _
  | .null | .bool _ | .float _ | .str _ | .obj _ => by
    simp [Json.names, Operand.ofPayload, Operand.names]

theorem Operand.ofPayloads_names : ∀ items : List Json,
    Operand.namesOf (Operand.ofPayloads items) ⊆ Json.namesOf items
  | [] => List.nil_subset _
  | item :: rest => by
    rw [Operand.ofPayloads, Operand.namesOf, Json.namesOf]
    exact append_subset_append (Operand.ofPayload_names item) (Operand.ofPayloads_names rest)

end

namespace Filter
open Outcome

theorem combine_names {group : List Filter → Filter} {parts : List Filter} {f : Filter}
    (grouped : ∀ parts, (group parts).names = namesOf parts)
    (run : combine group parts = .ok f) : f.names ⊆ namesOf parts := by
  unfold combine at run
  split at run
  · cases run
  · cases run
    simp [namesOf_eq]
  · cases run
    rw [grouped]
    exact List.Subset.refl _

theorem ofColumn_names {path : List String} {column : String} {value : Json} {f : Filter}
    (run : ofColumn path column value = .ok f) : f.names ⊆ value.names := by
  unfold ofColumn at run
  split at run
  · rename_i operators
    obtain ⟨parts, made, run⟩ := bind_eq_ok.mp run
    refine List.Subset.trans (combine_names (fun _ => by rw [Filter.names]) run) ?_
    rw [namesOf_eq, Json.names, Json.fieldNames_eq]
    refine flatMap_subset fun part member => ?_
    obtain ⟨⟨code, operand⟩, among, own⟩ := mapM_made made member
    dsimp only at own
    split at own
    · cases own
      rw [Filter.names]
      exact List.Subset.trans (Operand.ofPayload_names operand)
        (subset_flatMap (f := fun f : String × Json => f.2.names) among)
    · cases own
  · cases run
    exact List.nil_subset _
  · cases run
    rw [Filter.names]
    exact Operand.ofPayload_names _
  · cases run
    rw [Filter.names]
    exact Operand.ofPayload_names _

theorem refuseValue_ne_ok {depth : Nat} {value : Json} {f : Filter} :
    refuseValue depth value ≠ .ok f := by
  intro run
  simp [refuseValue, bind_eq_ok, throw_eq_ok] at run

section Object

variable {s : Schema}

mutual

theorem ofObject_names : ∀ (value : Json) {t : Table} {path : List String} {depth : Nat}
    {f : Filter}, ofObject s t path depth value = .ok f → f.names ⊆ value.names
  | .obj fields, t, path, depth, f, run => by
    rw [ofObject] at run
    obtain ⟨⟨⟩, -, run⟩ := bind_eq_ok.mp run
    obtain ⟨parts, made, run⟩ := bind_eq_ok.mp run
    rw [Json.names]
    exact List.Subset.trans (combine_names (fun _ => by rw [Filter.names]) run)
      (ofFields_names fields made)
  | .null, _, _, _, _, run | .bool _, _, _, _, _, run | .int _, _, _, _, _, run
  | .float _, _, _, _, _, run | .str _, _, _, _, _, run | .arr _, _, _, _, _, run =>
    (refuseValue_ne_ok run).elim

theorem ofFields_names : ∀ (fields : List (String × Json)) {t : Table} {path : List String}
    {depth : Nat} {parts : List Filter}, ofFields s t path depth fields = .ok parts →
      namesOf parts ⊆ Json.fieldNames fields
  | [], _, _, _, _, run => by
    cases run
    exact List.nil_subset _
  | (key, value) :: rest, t, path, depth, parts, run => by
    rw [ofFields] at run
    obtain ⟨first, own, run⟩ := bind_eq_ok.mp run
    obtain ⟨others, made, run⟩ := bind_eq_ok.mp run
    cases run
    rw [namesOf, Json.fieldNames]
    exact append_subset_append (ofEntry_names value own) (ofFields_names rest made)

theorem ofItems_names : ∀ (items : List Json) {t : Table} {path : List String}
    {depth : Nat} {parts : List Filter}, ofItems s t path depth items = .ok parts →
      namesOf parts ⊆ Json.namesOf items
  | [], _, _, _, _, run => by
    cases run
    exact List.nil_subset _
  | item :: rest, t, path, depth, parts, run => by
    rw [ofItems] at run
    obtain ⟨first, own, run⟩ := bind_eq_ok.mp run
    obtain ⟨others, made, run⟩ := bind_eq_ok.mp run
    cases run
    rw [namesOf, Json.namesOf]
    exact append_subset_append (ofObject_names item own) (ofItems_names rest made)

theorem ofEntry_names : ∀ (value : Json) {t : Table} {path : List String} {depth : Nat}
    {key : String} {f : Filter}, ofEntry s t path depth key value = .ok f → f.names ⊆ value.names
  | .obj fields, t, path, depth, key, f, run => by
    have inside {t : Table} {path : List String} {group : List Filter → Filter} {g : Filter}
        (grouped : ∀ parts, (group parts).names = namesOf parts)
        (run : (ofFields s t path (depth + 1) fields >>= combine group) = .ok g) :
        g.names ⊆ (Json.obj fields).names := by
      obtain ⟨parts, made, run⟩ := bind_eq_ok.mp run
      rw [Json.names]
      exact List.Subset.trans (combine_names grouped run) (ofFields_names fields made)
    rw [ofEntry] at run
    split at run
    · exact inside (fun _ => by rw [Filter.names]) run
    · exact inside (fun _ => by rw [Filter.names]) run
    · simp only [bind_eq_ok, pure_eq_ok] at run
      obtain ⟨⟨⟩, -, parts, made, part, run, rfl⟩ := run
      rw [Filter.names]
      exact inside (fun _ => by rw [Filter.names]) (bind_eq_ok.mpr ⟨parts, made, run⟩)
    · exact ofColumn_names run
    · obtain ⟨⟨⟩, -, run⟩ := bind_eq_ok.mp run
      exact inside (fun _ => by rw [Filter.names]) run
    · cases run
  | .arr items, t, path, depth, key, f, run => by
    have inside {group : List Filter → Filter}
        (grouped : ∀ parts, (group parts).names = namesOf parts)
        (run : (ofItems s t path (depth + 1) items >>= combine group) = .ok f) :
        f.names ⊆ (Json.arr items).names := by
      obtain ⟨parts, made, run⟩ := bind_eq_ok.mp run
      rw [Json.names]
      exact List.Subset.trans (combine_names grouped run) (ofItems_names items made)
    rw [ofEntry] at run
    split at run
    · exact inside (fun _ => by rw [Filter.names]) run
    · exact inside (fun _ => by rw [Filter.names]) run
    · exact (refuseValue_ne_ok run).elim
    · exact (refuseValue_ne_ok run).elim
    · exact ofColumn_names run
    · cases run
  | .null, _, _, _, _, _, run | .bool _, _, _, _, _, _, run | .int _, _, _, _, _, _, run
  | .float _, _, _, _, _, _, run | .str _, _, _, _, _, _, run => by
    simp only [ofEntry] at run
    split at run
    · cases run
    · cases run
    · exact (refuseValue_ne_ok run).elim
    · exact (refuseValue_ne_ok run).elim
    · exact ofColumn_names run
    · cases run

end

end Object

end Filter

theorem Payload.names_of_field {v : Json} {p : Payload} (read : Payload.ofJson v = .ok p)
    {f : String × Json} (member : f ∈ p.fields) : Json.namesAt f ⊆ v.filterNames := by
  cases v with
  | obj fields =>
    cases read
    exact Json.namesAt_subset member
  | arr items =>
    simp only [Payload.ofJson, Outcome.bind_eq_ok, Outcome.pure_eq_ok] at read
    obtain ⟨united, run, rfl⟩ := read
    rcases Payload.mem_unite run member with none | ⟨fields, item, inside⟩
    · cases none
    · rw [Json.filterNames, Json.filterNamesOf_eq]
      exact List.Subset.trans (Json.namesAt_subset inside) (subset_flatMap item)
  | _ => cases read

def Step.filterNames : Step → List String
  | .rows r _ _ => r.filter.toList.flatMap Filter.names
  | .link _ _ l => l.filter.names
  | .union _ => []

def Write.NamesIn (names : List String) (w : Write) : Prop :=
  ∀ parent, ∀ step ∈ w.steps parent, step.filterNames ⊆ names

namespace Mutation
open Outcome

theorem linkFilter_names {s : Schema} {t : Table} {value : Json} {f : Filter}
    (run : linkFilter s t value = .ok f) : f.names ⊆ value.names := by
  unfold linkFilter at run
  split at run
  · rename_i items
    obtain ⟨parts, made, run⟩ := bind_eq_ok.mp run
    have each : parts.flatMap Filter.names ⊆ (Json.arr items).names := by
      rw [Json.names, Json.namesOf_eq]
      refine flatMap_subset fun part member => ?_
      obtain ⟨item, among, own⟩ := mapM_made made member
      exact List.Subset.trans (Filter.ofObject_names item own) (subset_flatMap among)
    split at run
    · cases run
      exact List.Subset.trans (subset_flatMap (List.mem_singleton_self _)) each
    · cases run
      rw [Filter.names, Filter.namesOf_eq]
      exact each
  · exact Filter.ofObject_names _ run

variable {s : Schema} {d : Draft} {names : List String}

def Draft.NamesIn (names : List String) (d : Draft) : Prop :=
  ∀ f ∈ d.payload.fields, Json.namesAt f ⊆ names

theorem links_names {e : Edge} {st st' : State} {fields : List (String × Json)} {ls : List Link}
    (made : LinksMade s d e st fields ls st') (filtered : ∀ f ∈ fields, isFilterKey f.1 = true)
    (inside : ∀ f ∈ fields, Json.namesAt f ⊆ names) : ∀ l ∈ ls, l.filter.names ⊆ names := by
  induction made with
  | nil => exact List.forall_mem_nil _
  | @cons st st₁ st₂ f rest l ls first _ ih =>
    have others := ih (fun g member => filtered g (List.mem_cons_of_mem f member))
      fun g member => inside g (List.mem_cons_of_mem f member)
    refine List.forall_mem_cons.mpr ⟨?_, others⟩
    have own := inside f (List.mem_cons_self ..)
    rw [Json.namesAt, if_pos (filtered f (List.mem_cons_self ..))] at own
    exact List.Subset.trans (linkFilter_names first.filter) own

theorem children_names {st st' : State} {filter filter' : Option Filter}
    {fields : List (String × Json)} {cs : List Draft}
    (made : ChildrenMade s d st filter fields cs filter' st')
    (inside : ∀ f ∈ fields, Json.namesAt f ⊆ names)
    (own : filter.toList.flatMap Filter.names ⊆ names) :
    (∀ c ∈ cs, c.NamesIn names) ∧ filter'.toList.flatMap Filter.names ⊆ names := by
  induction made with
  | nil => exact ⟨List.forall_mem_nil _, own⟩
  | rootFilter key updates root _ ih =>
    exact ih (fun g member => inside g (List.mem_cons_of_mem _ member)) own
  | @ownFilter st st' filter filter' f rest cs taken key updates nested run _ ih =>
    refine ih (fun g member => inside g (List.mem_cons_of_mem _ member)) ?_
    have within := inside f (List.mem_cons_self ..)
    rw [Json.namesAt, if_pos (by simp [isFilterKey, key])] at within
    simpa using List.Subset.trans (Filter.ofObject_names _ run) within
  | @child st st₁ st₂ filter filter' f rest c cs other first _ ih =>
    obtain ⟨others, last⟩ := ih (fun g member => inside g (List.mem_cons_of_mem _ member)) own
    refine ⟨List.forall_mem_cons.mpr ⟨fun g member => ?_, others⟩, last⟩
    have below := Payload.names_of_field first.payload member
    have field := List.Subset.trans (Json.filterNames_subset_namesAt f)
      (inside f (List.mem_cons_self ..))
    exact List.Subset.trans below field

theorem stepsOf_mem {first : Bool} {parent : Rows} {ws : List Write} {step : Step}
    (member : step ∈ Write.stepsOf first parent ws) : ∃ w ∈ ws, step ∈ w.steps parent := by
  induction ws with
  | nil => cases member
  | cons w rest ih =>
    rw [Write.stepsOf, List.mem_append] at member
    rcases member with own | later
    · split at own
      · exact ⟨w, List.mem_cons_self .., own⟩
      · cases own
    · obtain ⟨v, among, inside⟩ := ih later
      exact ⟨v, List.mem_cons_of_mem _ among, inside⟩

theorem links_namesIn {e : Edge} {st st' : State} {ls : List Link} (inside : d.NamesIn names)
    (all_links : d.linkCount = d.payload.fields.length)
    (made : LinksMade s d e st d.nested ls st') :
    Write.NamesIn names (.links ⟨d.id, d.table, e, ls⟩) := by
  have each := links_names made (fun f => nested_all_links all_links)
    fun f nested => inside f (List.mem_filter.mp nested).1
  intro parent step member
  rw [Write.steps, List.mem_append, List.mem_singleton] at member
  rcases member with link | rfl
  · obtain ⟨l, among, rfl⟩ := List.mem_map.mp link
    exact each l among
  · exact List.nil_subset _

theorem rows_namesIn {r : Rows} {writes : List Write}
    (own : r.filter.toList.flatMap Filter.names ⊆ names)
    (below : ∀ w ∈ writes, w.NamesIn names) : Write.NamesIn names (.rows r writes) := by
  have deeper {first : Bool} {step : Step} (member : step ∈ Write.stepsOf first r writes) :
      step.filterNames ⊆ names := by
    obtain ⟨w, among, inside⟩ := stepsOf_mem member
    exact below w among r step inside
  intro parent step member
  rw [Write.steps, List.mem_append, List.mem_cons] at member
  rcases member with early | rfl | late
  · exact deeper early
  · exact own
  · exact deeper late

theorem expand_names {w : Write} {st st' : State} (run : expand s d st = .ok (w, st')) :
    d.NamesIn names → w.NamesIn names := by
  refine expand_induction (P := fun d _ w _ => d.NamesIn names → w.NamesIn names) ?_ ?_ run
  · intro d e st ls st' _ _ all_links made inside
    exact links_namesIn inside all_links made
  · intro d st drafts filter st₁ writes st₂ _ made below inside
    obtain ⟨drafts_in, own⟩ := children_names made
      (fun f nested => inside f (List.mem_filter.mp nested).1) (List.nil_subset _)
    refine rows_namesIn own fun w among => ?_
    obtain ⟨c, listed, _, _, each⟩ := lastFirst_mem below among
    exact each (drafts_in c listed)

theorem build_names {kind : RowKind} {t : Table} {v : Json} {chain : Chain}
    (built : build s kind t v = .ok chain) :
    ∀ step ∈ chain.steps, step.filterNames ⊆ v.filterNames := by
  obtain ⟨root, last, -, -, -, -, -, read, run⟩ := build_expanded built
  have each := expand_names run (fun f => Payload.names_of_field read) chain.root
  intro step member
  rw [Chain.steps, List.mem_append, List.mem_cons] at member
  rw [Write.steps] at each
  rcases member with early | rfl | late
  · exact each step (List.mem_append_left _ early)
  · exact each (.rows chain.root (some chain.root) chain.children)
      (List.mem_append_right _ (List.mem_cons_self ..))
  · exact each step (List.mem_append_right _ (List.mem_cons_of_mem _ late))

end Mutation

end Lateral
