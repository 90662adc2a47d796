import Lateral.Bindings
import Lateral.Catalog
import Lateral.Catalog.Codec
import Lateral.Compiler
import Lateral.Decimal.Double
import Lateral.Decimal.Shortest
import Lateral.Dict
import Lateral.Error
import Lateral.Filter
import Lateral.Filter.Codec
import Lateral.Filter.FromJson
import Lateral.Filter.Predicate
import Lateral.Filter.Tokens
import Lateral.Filter.Writer
import Lateral.Inflection
import Lateral.Inflection.Rules
import Lateral.Inflector
import Lateral.Json
import Lateral.Json.Decode
import Lateral.Json.Fault
import Lateral.Json.Reader
import Lateral.Mutation.Chain
import Lateral.Mutation.Command
import Lateral.Mutation.Payload
import Lateral.Mutation.Source
import Lateral.Mutation.Step
import Lateral.Mutation.Write
import Lateral.Mutation.Writer
import Lateral.Pattern
import Lateral.Proofs.AbsorbedRoot
import Lateral.Proofs.AcceptedFilters
import Lateral.Proofs.AggregateNames
import Lateral.Proofs.Agreement
import Lateral.Proofs.AllowedColumns
import Lateral.Proofs.Assignments
import Lateral.Proofs.BulkPayloads
import Lateral.Proofs.CarriedKeys
import Lateral.Proofs.ColumnPositions
import Lateral.Proofs.CommandNames
import Lateral.Proofs.CommandPhrases
import Lateral.Proofs.Commands
import Lateral.Proofs.CompiledTemplates
import Lateral.Proofs.CompiledWrite
import Lateral.Proofs.CursorPages
import Lateral.Proofs.EdgeColumns
import Lateral.Proofs.EmptyLists
import Lateral.Proofs.Expansion
import Lateral.Proofs.FilledMutations
import Lateral.Proofs.FilledQueries
import Lateral.Proofs.FilledTemplates
import Lateral.Proofs.FilterCauses
import Lateral.Proofs.FilterLines
import Lateral.Proofs.FilterMeaning
import Lateral.Proofs.FilterPlaces
import Lateral.Proofs.FilterRecursion
import Lateral.Proofs.FilterScopes
import Lateral.Proofs.FilterTexts
import Lateral.Proofs.FirstPlace
import Lateral.Proofs.GroupedSelections
import Lateral.Proofs.JsonRoundTrip
import Lateral.Proofs.JunctionWrites
import Lateral.Proofs.KeyOrder
import Lateral.Proofs.LinkOwners
import Lateral.Proofs.LiteralReading
import Lateral.Proofs.Literals
import Lateral.Proofs.MergedRows
import Lateral.Proofs.MirroredEdges
import Lateral.Proofs.NameForms
import Lateral.Proofs.Nodes
import Lateral.Proofs.Numbering
import Lateral.Proofs.OpenNames
import Lateral.Proofs.Outcome
import Lateral.Proofs.PayloadIndifference
import Lateral.Proofs.PayloadNames
import Lateral.Proofs.PayloadShape
import Lateral.Proofs.Phrases
import Lateral.Proofs.Placement
import Lateral.Proofs.Presets
import Lateral.Proofs.QueryForest
import Lateral.Proofs.QueryLoop
import Lateral.Proofs.QueryOutline
import Lateral.Proofs.QueryRecursion
import Lateral.Proofs.Refusals
import Lateral.Proofs.Registration
import Lateral.Proofs.RelationshipGraph
import Lateral.Proofs.RemoteEdges
import Lateral.Proofs.RenderedSelections
import Lateral.Proofs.RepeatedRelating
import Lateral.Proofs.SchemaLookups
import Lateral.Proofs.SchemaRuns
import Lateral.Proofs.ScopedWrites
import Lateral.Proofs.SelectionForest
import Lateral.Proofs.SelectionPhrases
import Lateral.Proofs.ShuffledKeys
import Lateral.Proofs.ShuffledOperands
import Lateral.Proofs.SkippedSelections
import Lateral.Proofs.StableSort
import Lateral.Proofs.StepTour
import Lateral.Proofs.SuppliedColumns
import Lateral.Proofs.UpdateRecords
import Lateral.Proofs.UpsertConflicts
import Lateral.Proofs.Worklist
import Lateral.Proofs.WorklistTree
import Lateral.Proofs.WriteOrder
import Lateral.Proofs.WriteOrigins
import Lateral.Proofs.WriteTargets
import Lateral.Proofs.WrittenFilters
import Lateral.Query.FieldKind
import Lateral.Query.Node
import Lateral.Query.Printer
import Lateral.Query.Walk
import Lateral.Query.Writer
import Lateral.Request
import Lateral.Request.Codec
import Lateral.Schema
import Lateral.Schema.Edge
import Lateral.Schema.ForeignKeys
import Lateral.Schema.Table
import Lateral.Settings
import Lateral.Settings.Text
import Lateral.SkipMask
import Lateral.Sorted
import Lateral.Sql.Name
import Lateral.Sql.Template
import Lateral.Sql.Value
import Lateral.Text.Case
import Lateral.Text.CaseMap
import Lateral.Text.Cased
import Lateral.Text.Printable
import Lateral.Text.Quoted
import Lateral.Text.Runs
import Lateral.Text.Word
