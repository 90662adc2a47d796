import Lateral.Proofs.FilterPlaces
import Lateral.Proofs.StableSort
import Mathlib.Data.List.Lex
import Mathlib.Data.Prod.Lex
import Mathlib.Data.String.Basic
import Mathlib.Order.WithBot

/-!
The text of a filter by recursion on the tree. A group is the texts of its parts, sorted by rank
with its word between them: conditions by path and column, and behind them all other parts, which
have one rank.
-/

namespace Lateral

def Connective.word : Connective → String
  | .and => " AND "
  | .or => " OR "

theorem Connective.token_sql (c : Connective) : c.token.sql = Template.text c.word := by
  cases c <;> rfl

namespace Filter
open Outcome

/-- Where a part stands in its group. All parts but conditions come last. -/
abbrev Rank := WithTop (List String ×ₗ String)

def rank : Filter → Rank
  | .leaf c => ((toLex (c.path, c.column) : List String ×ₗ String) : Rank)
  | _ => ⊤

theorem pathLt_eq (xs ys : List String) : pathLt xs ys = decide (xs < ys) := by
  induction xs, ys using pathLt.induct with
  | case1 xs => simp [pathLt]
  | case2 y ys => simp [pathLt]
  | case3 x xs ys ih => simp [pathLt, ih]
  | case4 x xs y ys apart => simp [pathLt, apart, List.cons_lt_cons_iff]

theorem textLe_eq (x y : String) : textLe x y = decide (x ≤ y) := by
  rw [textLe, ← decide_not]
  apply decide_eq_decide.mpr
  rw [← not_lt, String.lt_iff_toList_lt]

theorem leafLe_eq (c d : Condition) :
    leafLe (.leaf c) (.leaf d) = rankLe rank (.leaf c) (.leaf d) := by
  simp only [leafLe, rankLe, rank, WithTop.coe_le_coe, Prod.Lex.toLex_le_toLex, pathLt_eq,
    textLe_eq]
  by_cases same : c.path = d.path
  · simp [same]
  · simp [same]

theorem rank_leaf_ne (c : Condition) : rank (.leaf c) ≠ ⊤ := WithTop.coe_ne_top

theorem rank_group {f : Filter} (group : f.isLeaf = false) : f.rank = ⊤ := by
  cases f with
  | leaf c => cases group
  | _ => rfl

section Order

variable {leaves groups : List Filter}

theorem insertSorted_leaf (c : Condition) (conditions : ∀ f ∈ leaves, f.isLeaf = true)
    (others : ∀ f ∈ groups, f.isLeaf = false) :
    insertSorted leafLe (.leaf c) leaves ++ groups =
      insertSorted (rankLe rank) (.leaf c) (leaves ++ groups) := by
  induction leaves with
  | nil =>
    cases groups with
    | nil => rfl
    | cons g rest =>
      have stop : rankLe rank (.leaf c) g = true := by
        simp [rankLe, rank_group (others g List.mem_cons_self)]
      simp [insertSorted, stop]
  | cons f rest ih =>
    obtain ⟨first, later⟩ := List.forall_mem_cons.mp conditions
    cases f with
    | leaf d =>
      simp only [List.cons_append, insertSorted, leafLe_eq]
      split
      · rfl
      · rw [List.cons_append, ih later]
    | _ => cases first

theorem insertSorted_group {f : Filter} (group : f.isLeaf = false)
    (conditions : ∀ g ∈ leaves, g.isLeaf = true) (others : ∀ g ∈ groups, g.isLeaf = false) :
    insertSorted (rankLe rank) f (leaves ++ groups) = leaves ++ f :: groups := by
  have passed : ∀ g ∈ leaves, rankLe rank f g = false := by
    intro g member
    cases g with
    | leaf d => simp [rankLe, rank_group group, rank_leaf_ne d]
    | _ => cases conditions _ member
  rw [insertSorted_append passed]
  cases groups with
  | nil => rfl
  | cons g rest =>
    have stop : rankLe rank f g = true := by
      simp [rankLe, rank_group group, rank_group (others g List.mem_cons_self)]
    simp [insertSorted, stop]

end Order

/-- The order of writing is that of the ranks. -/
theorem canonicalOrder_eq (parts : List Filter) :
    canonicalOrder parts = sortBy (rankLe rank) parts := by
  induction parts with
  | nil => rfl
  | cons f rest ih =>
    have conditions : ∀ g ∈ sortBy leafLe (rest.filter isLeaf), g.isLeaf = true := by
      intro g member
      exact (List.mem_filter.mp ((sortBy_perm _ _).mem_iff.mp member)).2
    have others : ∀ g ∈ rest.filter fun g => !g.isLeaf, g.isLeaf = false := by
      intro g member
      simpa using (List.mem_filter.mp member).2
    rw [sortBy, ← ih]
    unfold canonicalOrder
    -- A condition goes in among the conditions; any other part goes to the front of the others.
    cases kind : f.isLeaf with
    | true =>
      cases f with
      | leaf c =>
        rw [← insertSorted_leaf c conditions others, List.filter_cons_of_pos kind, sortBy]
        simp [isLeaf]
      | _ => cases kind
    | false =>
      rw [insertSorted_group kind conditions others]
      simp [kind]

section Text

def groupText (c : Connective) (texts : List String) : String :=
  if texts.isEmpty then truthSql c.unit else "(" ++ String.intercalate c.word texts ++ ")"

variable (s : Schema) (t : Table) (b : Bindings)

def text (f : Filter) : Except Error String := Template.fill b <$> f.sql s t

def tokenText (tokens : List Token) : String := Template.fill b (tokens.flatMap Token.sql)

variable {s t b}

theorem tokenText_cons (k : Token) (ts : List Token) :
    tokenText b (k :: ts) = Template.fill b k.sql ++ tokenText b ts := by
  rw [tokenText, List.flatMap_cons, Template.fill_append]
  rfl

theorem tokenText_append (ts us : List Token) :
    tokenText b (ts ++ us) = tokenText b ts ++ tokenText b us := by
  rw [tokenText, List.flatMap_append, Template.fill_append]
  rfl

theorem tokenText_join (c : Connective) (texts : List (List Token)) :
    tokenText b (joinTokens c.token texts) =
      String.intercalate c.word (texts.map (tokenText b)) := by
  induction texts with
  | nil => rfl
  | cons ts rest ih =>
    cases rest with
    | nil => simp [joinTokens]
    | cons us more =>
      simp only [joinTokens, tokenText_append, tokenText_cons, ih, c.token_sql, Template.fill_text]
      simp [String.append_assoc]

theorem tokenText_group (c : Connective) (texts : List (List Token)) :
    tokenText b (groupTokens c.token c.unit texts) = groupText c (texts.map (tokenText b)) := by
  have left : Template.fill b Token.leftParen.sql = "(" := Template.fill_text "("
  have right : tokenText b [.rightParen] = ")" := Template.fill_text ")"
  cases texts with
  | nil => exact Template.fill_text (truthSql c.unit)
  | cons ts rest =>
    rw [groupTokens, if_neg (by simp), tokenText_cons, tokenText_append, tokenText_join, left,
      right, groupText, if_neg (by simp), String.append_assoc]

theorem text_eq_nested (f : Filter) : f.text s t b = tokenText b <$> nestedTokens s t f := by
  rw [text, sql, tokens_eq_nested]
  cases nestedTokens s t f <;> rfl

theorem text_parts (c : Connective) (parts : List Filter) :
    (c.group parts).text s t b = groupText c <$> (canonicalOrder parts).mapM (text s t b) := by
  have nested : nestedTokens s t (c.group parts) =
      groupTokens c.token c.unit <$> (canonicalOrder parts).mapM (nestedTokens s t) := by
    cases c with
    | and => exact nestedTokens_all parts
    | or => exact nestedTokens_any parts
  have each : (canonicalOrder parts).mapM (text s t b) =
      List.map (tokenText b) <$> (canonicalOrder parts).mapM (nestedTokens s t) := by
    rw [← mapM_map_result]
    exact mapM_congr fun f _ => text_eq_nested f
  rw [text_eq_nested, nested, each]
  cases (canonicalOrder parts).mapM (nestedTokens s t) with
  | error e => rfl
  | ok texts => exact congrArg Except.ok (tokenText_group c texts)

theorem text_group (c : Connective) {parts : List Filter} (some_part : parts ≠ []) :
    (c.group parts).text s t b =
      (fun texts => "(" ++ String.intercalate c.word texts ++ ")") <$>
        (canonicalOrder parts).mapM (text s t b) := by
  rw [text_parts]
  cases made : (canonicalOrder parts).mapM (text s t b) with
  | error e => rfl
  | ok texts =>
    have some_text : texts ≠ [] := by
      rintro rfl
      have none := mapM_eq_ok.mp made
      have same := canonicalOrder_perm parts
      rw [List.forall₂_nil_right_iff.mp none] at same
      exact some_part same.nil_eq.symm
    exact congrArg Except.ok (if_neg (by simpa using some_text))

theorem text_not (f : Filter) : (Filter.not f).text s t b = ("NOT " ++ ·) <$> f.text s t b := by
  have word : Template.fill b Token.not.sql = "NOT " := Template.fill_text "NOT "
  rw [text_eq_nested, text_eq_nested, nestedTokens]
  cases nestedTokens s t f with
  | error e => rfl
  | ok ts =>
    refine congrArg Except.ok ?_
    rw [tokenText_cons, word]

theorem text_leaf (c : Condition) :
    (Filter.leaf c).text s t b = (fun l => Template.fill b l.sql) <$> c.leaf s t := by
  rw [text_eq_nested, nestedTokens]
  cases c.leaf s t with
  | error e => rfl
  | ok l =>
    refine congrArg Except.ok ?_
    rw [tokenText, List.flatMap_singleton]
    rfl

end Text

end Filter

end Lateral
