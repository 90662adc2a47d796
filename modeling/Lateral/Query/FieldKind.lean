import Lateral.Request
import Lateral.Schema.Table

/-!
What a requested name stands for: a column, an aggregate of one, a search result, or nothing known.
A list of allowed columns hides a name by the column that it reads.
-/

namespace Lateral

inductive Aggregate where
  | count
  | sum
  | avg
  | max
  | min
  | stddev
  | stddevPop
  | stddevSamp
  | variance
  | varPop
  | varSamp
  deriving DecidableEq, Repr, Inhabited

namespace Aggregate

def name : Aggregate → String
  | .count => "count"
  | .sum => "sum"
  | .avg => "avg"
  | .max => "max"
  | .min => "min"
  | .stddev => "stddev"
  | .stddevPop => "stddev_pop"
  | .stddevSamp => "stddev_samp"
  | .variance => "variance"
  | .varPop => "var_pop"
  | .varSamp => "var_samp"

/-- What stands in front of a column. A longer text comes before one that it starts with. -/
def openings : List (String × Aggregate) := [
  ("stddev_samp_", .stddevSamp),
  ("stddev_pop_", .stddevPop),
  ("variance_", .variance),
  ("var_samp_", .varSamp),
  ("var_pop_", .varPop),
  ("stddev_", .stddev),
  ("count_", .count),
  ("sum_", .sum),
  ("avg_", .avg),
  ("max_", .max),
  ("min_", .min)]

def argument? (opening name : String) : Option String :=
  match opening.toList.isPrefixOf? name.toList with
  | some (c :: rest) => some (String.ofList (c :: rest))
  | _ => none

/-- Splits a name such as count_price into a function and the name of a column. -/
def split? (name : String) : Option (Aggregate × String) :=
  openings.findSome? fun entry => (argument? entry.1 name).map fun column => (entry.2, column)

end Aggregate

inductive FieldKind where
  | plain (column : Column)
  | aggregate (function : Aggregate) (column : Column)
  /-- The rank of a row in the search, by the searched column. -/
  | searchRank (column : Column)
  /-- A column with the words of the search marked. -/
  | searchHeadline (column : Column)
  /-- A name that says nothing; its value is a text that says so. -/
  | undefined
  deriving DecidableEq, Repr

namespace FieldKind

def isAggregate : FieldKind → Bool
  | .aggregate _ _ => true
  | _ => false

def rankName : String := "search_rank"

def headlineStart : String := "search_headline_"

def gated (s : Selection) (column : Column) (kind : FieldKind) : Option FieldKind :=
  if s.allows column.name then some kind else none

def ofColumn? (s : Selection) (column : Option Column) (kind : Column → FieldKind) :
    Option FieldKind :=
  match column with
  | some c => gated s c (kind c)
  | none => some .undefined

def ofSearch? (s : Selection) (t : Table) (name : String) : Option (Option FieldKind) :=
  if s.search.isNone then none
  else if name = rankName then some (ofColumn? s t.searchColumn? .searchRank)
  else (headlineStart.toList.isPrefixOf? name.toList).map fun rest =>
    ofColumn? s (t.column? (String.ofList rest)) .searchHeadline

/-- The kind of a requested name, or nothing if it is hidden. A column comes before any other
meaning. -/
def classify (s : Selection) (t : Table) (name : String) : Option FieldKind :=
  match t.column? name with
  | some c => gated s c (.plain c)
  | none => match ofSearch? s t name with
    | some kind => kind
    | none => match Aggregate.split? name with
      | some (f, column) => ofColumn? s (t.column? column) (.aggregate f)
      | none => some .undefined

end FieldKind

end Lateral
