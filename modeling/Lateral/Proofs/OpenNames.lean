import Lateral.Proofs.CompiledTemplates
import Lateral.Proofs.FilterRecursion
import Lateral.Proofs.Nodes

/-!
The variables that a statement waits for. A filled statement depends on the values of these alone,
and each of them is named by a filter, a preset, a page or a search of the request.
-/

namespace Lateral

def Piece.name? : Piece → Option String
  | .text _ => none
  | .literal name | .count name => some name

namespace Template

def names (t : Template) : List String := t.filterMap Piece.name?

theorem names_append (t u : Template) : (t ++ u).names = t.names ++ u.names :=
  List.filterMap_append

theorem names_text (s : String) : (text s).names = [] := rfl

theorem mem_names_join {separator name : String} {ts : List Template}
    (member : name ∈ (join separator ts).names) : ∃ t ∈ ts, name ∈ t.names := by
  induction ts with
  | nil => cases member
  | cons t rest ih =>
    cases rest with
    | nil => exact ⟨t, List.mem_cons_self .., member⟩
    | cons u more =>
      rw [join, names_append, names_append, names_text, List.append_nil, List.mem_append] at member
      · rcases member with first | later
        · exact ⟨t, List.mem_cons_self .., first⟩
        · obtain ⟨v, among, inside⟩ := ih later
          exact ⟨v, List.mem_cons_of_mem _ among, inside⟩
      · exact fun empty => List.cons_ne_nil _ _ empty

theorem fill_congr {b other : Bindings} {t : Template}
    (same : ∀ name ∈ t.names, b.value? name = other.value? name) : t.fill b = t.fill other := by
  have pieces : ∀ p ∈ t, p.fill b = p.fill other := by
    intro p member
    cases p with
    | text s => rfl
    | literal name =>
      have value := same name (List.mem_filterMap.mpr ⟨_, member, rfl⟩)
      simp only [Piece.fill, Bindings.literal, value]
    | count name =>
      have value := same name (List.mem_filterMap.mpr ⟨_, member, rfl⟩)
      simp only [Piece.fill, Bindings.count, value]
  rw [fill, fill, List.map_congr_left pieces]

end Template

open Template

theorem subset_flatMap {α : Type} {f : α → List String} {a : α} {xs : List α} (member : a ∈ xs) :
    f a ⊆ xs.flatMap f :=
  fun _ inside => List.mem_flatMap.mpr ⟨a, member, inside⟩

theorem flatMap_subset {α : Type} {f : α → List String} {xs : List α} {names : List String}
    (each : ∀ a ∈ xs, f a ⊆ names) : xs.flatMap f ⊆ names := by
  intro name member
  obtain ⟨a, among, inside⟩ := List.mem_flatMap.mp member
  exact each a among inside

def Argument.names : Argument → List String
  | .fixed _ => []
  | .variable name => [name]

theorem names_literal (a : Argument) : a.literal.names = a.names := by
  cases a <;> rfl

theorem names_typed (a : Argument) (sqlType : String) : (a.typed sqlType).names = a.names := by
  rw [Argument.typed, names_append, names_literal, names_text, List.append_nil]

theorem names_integer (a : Argument) : a.integer.names = a.names := by
  cases a <;> rfl

mutual

def Operand.names : Operand → List String
  | .variable name => [name]
  | .list items => Operand.namesOf items
  | _ => []

def Operand.namesOf : List Operand → List String
  | [] => []
  | item :: rest => Operand.names item ++ Operand.namesOf rest

end

theorem Operand.namesOf_eq (items : List Operand) :
    Operand.namesOf items = items.flatMap Operand.names := by
  induction items with
  | nil => rfl
  | cons item rest ih => rw [Operand.namesOf, ih, List.flatMap_cons]

mutual

def Filter.names : Filter → List String
  | .all parts => Filter.namesOf parts
  | .any parts => Filter.namesOf parts
  | .not part => Filter.names part
  | .never => []
  | .leaf c => c.operand.names

def Filter.namesOf : List Filter → List String
  | [] => []
  | part :: rest => Filter.names part ++ Filter.namesOf rest

end

theorem Filter.namesOf_eq (parts : List Filter) :
    Filter.namesOf parts = parts.flatMap Filter.names := by
  induction parts with
  | nil => rfl
  | cons part rest ih => rw [Filter.namesOf, ih, List.flatMap_cons]

section Condition
open Outcome

theorem literal_names {sqlType : String} {operand : Operand} {l : Literal}
    (made : operand.literal? sqlType = some l) : l.sql.names ⊆ operand.names := by
  unfold Operand.literal? at made
  split at made <;> cases made
  · exact List.nil_subset _
  · rename_i b
    cases b <;> exact List.nil_subset _
  · exact List.nil_subset _
  · exact List.nil_subset _
  · exact List.nil_subset _
  · rw [Literal.sql, names_typed]
    exact List.Subset.refl _

theorem literals_names {sqlType : String} {items : List Operand} {values : List Literal}
    (run : Operand.literals sqlType items = .ok values) {l : Literal} (member : l ∈ values) :
    l.sql.names ⊆ items.flatMap Operand.names := by
  obtain ⟨item, among, made⟩ := mapM_made run member
  split at made
  · rename_i value found
    cases made
    exact List.Subset.trans (literal_names found) (subset_flatMap among)
  · cases made

theorem comparand_names {op : Operator} {sqlType : String} {operand : Operand} {value : Comparand}
    (run : operand.comparand op sqlType = .ok value) : value.sql.names ⊆ operand.names := by
  unfold Operand.comparand at run
  split at run
  · rename_i items
    split at run
    all_goals
      obtain ⟨values, made, rfl⟩ := map_eq_ok.mp run
      intro name member
      simp only [Comparand.sql, names_append, names_text, List.append_nil, List.nil_append]
        at member
      obtain ⟨t, among, inside⟩ := mem_names_join member
      obtain ⟨l, listed, rfl⟩ := List.mem_map.mp among
      rw [Operand.names, Operand.namesOf_eq]
      exact literals_names made listed inside
  · split at run
    · rename_i l found
      cases run
      split
      · simp only [Comparand.sql, names_append, names_text, List.append_nil, List.nil_append]
        exact literal_names found
      · exact literal_names found
    · cases run

theorem searchWords_names {operand : Operand} {words : Argument}
    (run : Condition.searchWords operand = .ok words) : words.names ⊆ operand.names := by
  unfold Condition.searchWords at run
  split at run
  · cases run
    exact List.Subset.refl _
  · cases run
    exact List.nil_subset _
  · cases run

theorem predicate_names {s : Schema} {t : Table} {c : Condition} {p : Predicate}
    (run : c.predicate s t = .ok p) : p.sql.names ⊆ c.operand.names := by
  unfold Condition.predicate at run
  split at run
  · simp only [bind_eq_ok, pure_eq_ok] at run
    obtain ⟨key, -, value, made, rfl⟩ := run
    simp only [Predicate.sql, names_append, names_text, List.append_nil, List.nil_append]
    exact comparand_names made
  · simp only [bind_eq_ok, pure_eq_ok] at run
    obtain ⟨column, -, words, made, rfl⟩ := run
    simp only [Predicate.sql, names_append, names_text, names_literal, List.append_nil,
      List.nil_append]
    exact searchWords_names made
  · simp only [bind_eq_ok, pure_eq_ok] at run
    obtain ⟨column, -, rfl⟩ := run
    exact List.nil_subset _
  · simp only [bind_eq_ok] at run
    obtain ⟨column, -, run⟩ := run
    split at run
    · unfold Condition.emptyListPredicate at run
      split at run <;> cases run <;> exact List.nil_subset _
    · simp only [bind_eq_ok, pure_eq_ok] at run
      obtain ⟨value, made, rfl⟩ := run
      simp only [Predicate.sql, names_append, names_text, List.append_nil, List.nil_append]
      exact comparand_names made

theorem leaf_names {s : Schema} {t : Table} {c : Condition} {l : Leaf} (run : c.leaf s t = .ok l) :
    l.sql.names ⊆ c.operand.names := by
  simp only [Condition.leaf, bind_eq_ok, pure_eq_ok] at run
  obtain ⟨⟨hops, last⟩, -, p, made, rfl⟩ := run
  cases hops with
  | nil => exact predicate_names made
  | cons hop rest =>
    simp only [Leaf.sql, names_append, names_text, List.append_nil, List.nil_append]
    exact predicate_names made

end Condition

namespace Filter
open Outcome

def tokenNames (ts : List Token) : List String := Template.names (ts.flatMap Token.sql)

theorem tokenNames_append (ts us : List Token) :
    tokenNames (ts ++ us) = tokenNames ts ++ tokenNames us := by
  rw [tokenNames, List.flatMap_append, names_append]
  rfl

theorem tokenNames_cons (k : Token) (ts : List Token) :
    tokenNames (k :: ts) = k.sql.names ++ tokenNames ts := by
  rw [tokenNames, List.flatMap_cons, names_append]
  rfl

theorem joinTokens_names {separator : Token} (silent : separator.sql.names = [])
    {texts : List (List Token)} {names : List String}
    (each : ∀ text ∈ texts, tokenNames text ⊆ names) :
    tokenNames (joinTokens separator texts) ⊆ names := by
  induction texts with
  | nil => exact List.nil_subset _
  | cons text rest ih =>
    have first := each text (List.mem_cons_self ..)
    have others := ih fun u member => each u (List.mem_cons_of_mem _ member)
    cases rest with
    | nil => exact first
    | cons u more =>
      change tokenNames (text ++ separator :: joinTokens separator (u :: more)) ⊆ names
      rw [tokenNames_append, tokenNames_cons, silent, List.nil_append]
      exact List.append_subset.mpr ⟨first, others⟩

theorem groupTokens_names {separator : Token} (silent : separator.sql.names = []) {empty : Bool}
    {texts : List (List Token)} {names : List String}
    (each : ∀ text ∈ texts, tokenNames text ⊆ names) :
    tokenNames (groupTokens separator empty texts) ⊆ names := by
  unfold groupTokens
  split
  · exact List.nil_subset _
  · rw [tokenNames_cons, tokenNames_append]
    exact List.append_subset.mpr
      ⟨List.nil_subset _, List.append_subset.mpr ⟨joinTokens_names silent each, List.nil_subset _⟩⟩

theorem nestedTokens_names {s : Schema} {t : Table} {f : Filter} {ts : List Token}
    (run : nestedTokens s t f = .ok ts) : tokenNames ts ⊆ f.names := by
  -- the parts of a group are looked at in their written order, which holds the same parts
  have group {separator : Token} {empty : Bool} {parts : List Filter} {ts : List Token}
      (silent : separator.sql.names = [])
      (ih : ∀ f : { f // f ∈ canonicalOrder parts }, ∀ ts, nestedTokens s t f.1 = .ok ts →
        tokenNames ts ⊆ f.1.names)
      (run : groupTokens separator empty <$> (canonicalOrder parts).mapM (nestedTokens s t) =
        .ok ts) : tokenNames ts ⊆ parts.flatMap Filter.names := by
    obtain ⟨texts, made, rfl⟩ := map_eq_ok.mp run
    refine groupTokens_names silent fun text member => ?_
    obtain ⟨f, among, own⟩ := mapM_made made member
    have part : f ∈ parts := (canonicalOrder_perm parts).mem_iff.mp among
    exact List.Subset.trans (ih ⟨f, among⟩ text own) (subset_flatMap part)
  induction f using nestedTokens.induct generalizing ts with
  | case1 parts ih =>
    rw [nestedTokens_all] at run
    rw [Filter.names, namesOf_eq]
    exact group rfl (fun f ts own => ih f own) run
  | case2 parts ih =>
    rw [nestedTokens_any] at run
    rw [Filter.names, namesOf_eq]
    exact group rfl (fun f ts own => ih f own) run
  | case3 part ih =>
    rw [nestedTokens] at run
    obtain ⟨inner, made, rfl⟩ := map_eq_ok.mp run
    rw [tokenNames_cons, Filter.names]
    exact ih made
  | case4 =>
    rw [nestedTokens] at run
    cases run
    exact List.nil_subset _
  | case5 c =>
    rw [nestedTokens] at run
    obtain ⟨l, made, rfl⟩ := map_eq_ok.mp run
    rw [tokenNames_cons, Filter.names]
    exact List.append_subset.mpr ⟨leaf_names made, List.nil_subset _⟩

theorem tokens_names {s : Schema} {t : Table} {f : Filter} {ts : List Token}
    (run : f.tokens s t = .ok ts) : tokenNames ts ⊆ f.names :=
  nestedTokens_names ((tokens_eq_nested f).symm.trans run)

theorem sql_names {s : Schema} {t : Table} {f : Filter} {text : Template}
    (run : f.sql s t = .ok text) : text.names ⊆ f.names := by
  simp only [Filter.sql, bind_eq_ok, pure_eq_ok] at run
  obtain ⟨ts, made, rfl⟩ := run
  exact tokens_names made

end Filter

def textNames (text : Option String) : List String :=
  text.toList.flatMap fun s => (Argument.ofText s).names

def Selection.names (s : Selection) : List String :=
  s.filter.toList.flatMap Filter.names ++
    s.presets.flatMap (fun p => (Argument.ofText p.value).names) ++
    textNames s.paging.limit ++ textNames s.paging.offset ++ textNames s.paging.cursor ++
    textNames s.search

def Request.names (r : Request) : List String := r.selections.flatMap Selection.names

theorem Request.names_of_selection {r : Request} {id : Nat} {s : Selection}
    (found : r.selections[id]? = some s) : s.names ⊆ r.names :=
  subset_flatMap (List.mem_of_getElem? found)

namespace Selection

theorem filter_names {s : Selection} {f : Filter} (own : s.filter = some f) :
    f.names ⊆ s.names := by
  intro name member
  simp [names, own, member]

theorem preset_names {s : Selection} {p : Preset} (own : p ∈ s.presets) :
    (Argument.ofText p.value).names ⊆ s.names := by
  intro name member
  simp only [names, List.mem_append, List.mem_flatMap]
  exact .inl (.inl (.inl (.inl (.inr ⟨p, own, member⟩))))

end Selection

namespace Query
open Context Outcome

theorem search_names (ctx : Context) (s : Selection) : (ctx.search s).words.names ⊆ s.names := by
  intro name member
  cases text : s.search with
  | none => simp [Context.search, text, Argument.names] at member
  | some words =>
    simp only [Context.search, text] at member
    simp [Selection.names, textNames, text, member]

theorem output_names (search : Search) (table : String) (o : Output) :
    (o.sql search table).names ⊆ search.words.names := by
  cases o <;> simp [Output.sql, Search.sql, names_append, names_text, names_literal]

theorem limit_names {ctx : Context} {s : Selection} {a : Argument} (own : ctx.limit? s = some a) :
    a.names ⊆ s.names := by
  unfold Context.limit? at own
  split at own
  · cases own
    exact List.nil_subset _
  · split at own
    · cases own
    · split at own
      · rename_i value limit
        cases own
        intro name member
        simp [Selection.names, textNames, limit, member]
      · cases own
        exact List.nil_subset _

theorem offset_names {ctx : Context} {s : Selection} {a : Argument} (own : ctx.offset? s = some a) :
    a.names ⊆ s.names := by
  unfold Context.offset? at own
  split at own
  · cases own
  · obtain ⟨value, offset, rfl⟩ := Option.map_eq_some_iff.mp own
    intro name member
    simp [Selection.names, textNames, offset, member]

theorem countClause_names {word : String} {a? : Option Argument} {names : List String}
    (each : ∀ a, a? = some a → a.names ⊆ names) : (countClause word a?).names ⊆ names := by
  cases a? with
  | none => exact List.nil_subset _
  | some a =>
    rw [countClause, names_append, names_text, names_integer, List.nil_append]
    exact each a rfl

theorem restriction_names {ctx : Context} {s : Selection} {t : Table} {parent : Option Parent}
    {cursor : Option Column} {kept : List Restriction}
    (run : ctx.restrictions s t parent cursor = .ok kept) {r : Restriction} (member : r ∈ kept) :
    r.sql.names ⊆ s.names := by
  have related : ∀ r ∈ parent.toList.map fun p =>
      Restriction.related (Sql.edgeCondition p.edge p.source), r.sql.names ⊆ s.names := by
    intro r member
    obtain ⟨p, -, rfl⟩ := List.mem_map.mp member
    exact List.nil_subset _
  unfold Context.restrictions at run
  split at run
  · cases run
    exact related r member
  · simp only [bind_eq_ok, pure_eq_ok] at run
    obtain ⟨filters, filtered, rfl⟩ := run
    rw [List.mem_append, List.mem_append] at member
    rcases member with (first | among) | after
    · exact related r first
    · obtain ⟨f, own, made⟩ := mapM_made filtered among
      simp only [bind_eq_ok, pure_eq_ok] at made
      obtain ⟨ts, made, rfl⟩ := made
      exact List.Subset.trans (Filter.tokens_names made)
        (Selection.filter_names (Option.mem_toList.mp own))
    · split at after
      · rename_i key value _ paged
        cases List.mem_singleton.mp after
        simp only [Restriction.sql, names_append, names_text, names_typed, List.append_nil,
          List.nil_append]
        intro name member
        simp [Selection.names, textNames, paged, member]
      · cases after

theorem whereSql_names {kept : List Restriction} {names : List String}
    (each : ∀ r ∈ kept, r.sql.names ⊆ names) : (whereSql kept).names ⊆ names := by
  unfold whereSql
  split
  · exact List.nil_subset _
  · rw [names_append, names_text, List.nil_append]
    exact each _ (List.mem_singleton_self _)
  · simp only [names_append, names_text, List.append_nil, List.nil_append]
    intro name member
    obtain ⟨t, among, inside⟩ := mem_names_join member
    obtain ⟨r, listed, rfl⟩ := List.mem_map.mp among
    exact each r listed inside

theorem base_names {ctx : Context} {id : Nat} {found : Findings} (made : ctx.Found id found) :
    (found.base ctx).sql.names ⊆ found.selection.names := by
  simp only [BaseSource.sql, names_append, names_text, List.append_nil, List.nil_append,
    List.append_subset]
  refine ⟨⟨⟨?_, ?_⟩, ?_⟩, ?_⟩
  · intro name member
    obtain ⟨t, among, inside⟩ := mem_names_join member
    obtain ⟨o, -, rfl⟩ := List.mem_map.mp among
    exact search_names ctx found.selection (output_names _ _ o inside)
  · exact whereSql_names fun r member => restriction_names made.restrictions member
  · exact countClause_names fun a own => limit_names own
  · exact countClause_names fun a own => offset_names own

theorem node_names {ctx : Context} {id : Nat} {n : Node} (run : ctx.node id = .ok n) :
    n.openSql.names ⊆ ctx.request.names := by
  obtain ⟨found, made, rfl⟩ := node_found run
  have known := selection_eq_ok.mp made.selection
  simp only [Node.openSql, names_append, names_text, List.append_nil, List.nil_append]
  exact List.Subset.trans (base_names made) (Request.names_of_selection known)

/-- The variables that the text of an event waits for are among these. -/
def Event.NamesIn (names : List String) : Event → Prop
  | .enter n => n.openSql.names ⊆ names
  | .leave _ => True

namespace Context

theorem walk_names {ctx : Context} {depth id : Nat} {events : List Event}
    (run : ctx.walk depth id = .ok events) :
    ∀ e ∈ events, Event.NamesIn ctx.request.names e := by
  induction depth generalizing id events with
  | zero => cases run
  | succ depth ih =>
    simp only [walk, bind_eq_ok, pure_eq_ok] at run
    obtain ⟨n, worked, inner, each, rfl⟩ := run
    intro e member
    rw [List.mem_cons, List.mem_append, List.mem_singleton] at member
    rcases member with rfl | deeper | rfl
    · exact node_names worked
    · obtain ⟨part, among, inside⟩ := List.mem_flatten.mp deeper
      obtain ⟨child, -, made⟩ := mapM_made each among
      exact ih made e inside
    · trivial

theorem eventsSql_names {names : List String} {events : List Event}
    (each : ∀ e ∈ events, Event.NamesIn names e) (left : Nat) :
    (eventsSql left events).names ⊆ names := by
  induction events generalizing left with
  | nil => exact List.nil_subset _
  | cons e rest ih =>
    have others := ih fun e member => each e (List.mem_cons_of_mem _ member)
    cases e with
    | enter n =>
      rw [eventsSql, names_append]
      exact List.append_subset.mpr ⟨each _ (List.mem_cons_self ..), others left⟩
    | leave n =>
      rw [eventsSql]
      split
      · rw [names_append, names_text, List.nil_append]
        exact others left
      · simp only [names_append, names_text, List.nil_append]
        exact others (left - 1)

theorem compile_names {ctx : Context} {text : Template} {skipped : SkipMask}
    (run : ctx.compile = .ok (text, skipped)) : text.names ⊆ ctx.request.names := by
  simp only [compile, events, bind_eq_ok, pure_eq_ok, Prod.mk.injEq] at run
  obtain ⟨roots, -, events, ⟨walks, each, rfl⟩, rfl, -⟩ := run
  simp only [names_append, names_text, List.append_nil, List.nil_append]
  refine eventsSql_names (fun e member => ?_) _
  obtain ⟨walked, among, inside⟩ := List.mem_flatten.mp member
  obtain ⟨root, -, made⟩ := mapM_made each among
  exact walk_names made e inside

end Context

end Query

end Lateral
