import Lateral.Json.Fault

/-!
Everything that the schema and the compilers can refuse, by cause, with one text for each cause. A
refused request never yields a part of a statement.
-/

namespace Lateral

inductive EdgeMisuse where
  | remoteFilter
  | selfFilter
  | remoteWrite
  | remoteLink
  deriving DecidableEq, Repr

def EdgeMisuse.message : EdgeMisuse → String
  | .remoteFilter => "remote relationships cannot be filtered on"
  | .selfFilter => "self-referencing relationships cannot be filtered on"
  | .remoteWrite => "remote relationships cannot be mutated"
  | .remoteLink => "remote relationships cannot be linked"

inductive PayloadFault where
  | bulkItem
  | scalar (found : String)
  | rootLink
  | mixedLinks (path : String)
  | disconnectOnInsert (table : String)
  | bulkUpdate (field : String)
  | nothingToInsert (table : String)
  deriving DecidableEq, Repr

def PayloadFault.message : PayloadFault → String
  | .bulkItem => "bulk payload items must be objects"
  | .scalar found => s!"expected an object or an array, found {found}"
  | .rootLink => "connect and disconnect apply to related tables only"
  | .mixedLinks path => s!"'{path}' mixes connect or disconnect with other fields"
  | .disconnectOnInsert table => s!"cannot disconnect '{table}' while inserting"
  | .bulkUpdate field => s!"nested update of '{field}' expects an object"
  | .nothingToInsert table => s!"nothing to insert into '{table}'"

inductive FilterFault where
  | tooDeep
  | notObject (found : String)
  | notGroup (key : String)
  | empty
  | emptyList (column : String)
  | nestedList
  | searchOperand (found : String)
  deriving DecidableEq, Repr

def FilterFault.message : FilterFault → String
  | .tooDeep => "filter is nested too deeply"
  | .notObject found => s!"expected an object, found {found}"
  | .notGroup key => s!"'{key}' expects an object or a list"
  | .empty => "empty filter"
  | .emptyList column => s!"'{column}' cannot be compared with an empty list"
  | .nestedList => "lists cannot be nested"
  | .searchOperand found => s!"full-text search expects text, found {found}"

inductive Error where
  | unknownTable (name : String)
  | unknownColumnId (table : String) (id : Int)
  | unknownEdge (child parent : String)
  | unusableEdge (child parent : String) (misuse : EdgeMisuse)
  | emptyQuery
  | unknownSelection (id : Nat)
  | misplacedSelection (position id : Nat)
  | missingVariable (name : String)
  | emptyVariable (name : String)
  | missingPayloadVariable
  | missingPrimaryKey (table field : String)
  | missingSearchColumn (table : String)
  | missingFilter (operation table : String)
  | nestedBulkWrite
  | invalidPayload (fault : PayloadFault)
  | readOnlyTable (name : String)
  | duplicateWrite (table : String)
  | unskippable (id : Nat)
  | unknownOperator (code : String)
  | unknownColumn (table column : String)
  | invalidFilter (fault : FilterFault)
  | unreadable (fault : ReadFault)
  /-- A selection lies inside itself, so no statement is long enough. -/
  | endlessSelection (id : Nat)
  deriving DecidableEq, Repr

def Error.message : Error → String
  | .unknownTable name => s!"unknown table '{name}'"
  | .unknownColumnId table id => s!"unknown column id '{id}' for table '{table}'"
  | .unknownEdge child parent => s!"unknown relationship '{child}' -> '{parent}'"
  | .unusableEdge child parent misuse =>
    s!"relationship '{child}' -> '{parent}' cannot be used here: {misuse.message}"
  | .emptyQuery => "query has no root selections"
  | .unknownSelection id => s!"selection {id} does not exist"
  | .misplacedSelection position id => s!"selection at position {position} carries id {id}"
  | .missingVariable name => s!"variable '{name}' not defined"
  | .emptyVariable name => s!"variable '{name}' is empty"
  | .missingPayloadVariable => "mutation has no payload variable"
  | .missingPrimaryKey table field =>
    s!"no primary key column defined for '{table}' (selection '{field}')"
  | .missingSearchColumn table => s!"no full-text search column defined for '{table}'"
  | .missingFilter operation table => s!"{operation} on '{table}' requires a filter"
  | .nestedBulkWrite => "nested mutations are not supported on a bulk payload"
  | .invalidPayload fault => s!"invalid mutation payload: {fault.message}"
  | .readOnlyTable name => s!"'{name}' is a view and cannot be mutated"
  | .duplicateWrite table => s!"table '{table}' is mutated more than once in a single request"
  | .unskippable id =>
    s!"selection {id} cannot be skipped, only the first 64 selections fit the skip mask"
  | .unknownOperator code => s!"unknown operator '{code}'"
  | .unknownColumn table column => s!"no column '{column}' found on table '{table}'"
  | .invalidFilter fault => s!"invalid filter: {fault.message}"
  | .unreadable fault => fault.message
  | .endlessSelection id => s!"selection {id} contains itself"

end Lateral
