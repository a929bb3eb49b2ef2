import TableSearch.Text.CodePoints
import TableSearch.Text.UpperCase
import TableSearch.Text.Literal
import TableSearch.Number.Shortest
import TableSearch.Number.Numeral
import TableSearch.Text.Encoding
import TableSearch.Value.Display
import TableSearch.Value.Conversion
import TableSearch.Json.Reader
import TableSearch.Json.Writer
import TableSearch.Decoder
import TableSearch.Binding
import TableSearch.Vector
import TableSearch.Filter.Reader
import TableSearch.Filter.Predicate
import TableSearch.Query.Basic
import TableSearch.ErrorKind
import TableSearch.Failure
import TableSearch.Query.Shape
import TableSearch.Sql.Statement
import TableSearch.Query.Search
import TableSearch.Session.Log
import TableSearch.Index.Handle
import TableSearch.Index.Page
import TableSearch.Index.Registry
import TableSearch.Session.Script
import TableSearch.Yaml.Reader
import TableSearch.Settings.Basic
import TableSearch.Proofs.Sql.Fragment
import TableSearch.Proofs.Results
import TableSearch.Proofs.Filter.Reading
import TableSearch.Proofs.Query.Reading
import TableSearch.Proofs.Sql.Placeholders
import TableSearch.Proofs.Filter.Mapping
import TableSearch.Proofs.Filter.Writing
import TableSearch.Proofs.Filter.Numbering
import TableSearch.Proofs.Query.Numbering
import TableSearch.Proofs.Sql.Arithmetic
import TableSearch.Proofs.Query.Scoring
import TableSearch.Proofs.Query.Likeness
import TableSearch.Proofs.Sql.Condition
import TableSearch.Proofs.Filter.Meaning
import TableSearch.Proofs.Sql.Skeleton
import TableSearch.Proofs.Session.Progress
import TableSearch.Proofs.Index.Calls
import TableSearch.Proofs.Index.Steps
import TableSearch.Proofs.Index.Sending
import TableSearch.Proofs.Number.Rounding
import TableSearch.Proofs.Number.Shortest
import TableSearch.Proofs.Number.Digits
import TableSearch.Proofs.Json.Numbers
import TableSearch.Proofs.Json.Texts
import TableSearch.Proofs.Json.Spelling
import TableSearch.Proofs.Json.RoundTrip
import TableSearch.Proofs.Value.Same
import TableSearch.Proofs.Index.Likeness
import TableSearch.Proofs.Text.Encoding
import TableSearch.Proofs.Json.Documents
import TableSearch.Proofs.Index.Storing
import TableSearch.Proofs.Index.Projection
import TableSearch.Proofs.Filter.Grammar
import TableSearch.Proofs.Index.Creation
import TableSearch.Proofs.Index.RoundTrip
import TableSearch.Proofs.Session.Answers
import TableSearch.Proofs.Session.Lockstep
import TableSearch.Proofs.Index.OwnColumns
import TableSearch.Proofs.Index.Following
import TableSearch.Proofs.Index.Plans
import TableSearch.Proofs.Index.Assignments
import TableSearch.Proofs.Index.Patching
import TableSearch.Proofs.Index.Deletion
import TableSearch.Proofs.Index.Provisioning
import TableSearch.Proofs.Index.Secrecy
import TableSearch.Proofs.Index.Changes
import TableSearch.Proofs.Index.Refinement
import TableSearch.Proofs.Index.StoredForm
import TableSearch.Proofs.Index.Reloading
import TableSearch.Proofs.Index.BindingTable
import TableSearch.Proofs.Index.Durability
import TableSearch.Proofs.Index.VectorIndexes
import TableSearch.Proofs.Index.Preparation
import TableSearch.Proofs.Index.Retrying
import TableSearch.Proofs.Index.FirstUse
import TableSearch.Proofs.Index.Agreement
import TableSearch.Proofs.Index.Tasks
import TableSearch.Proofs.Index.Callers
import TableSearch.Proofs.Index.Attempts
import TableSearch.Proofs.Index.Contention
import TableSearch.Proofs.Index.Interleaving
import TableSearch.Proofs.Index.Listing
import TableSearch.Proofs.Index.Walking
import TableSearch.Proofs.Filter.Disjunction
import TableSearch.Proofs.Sql.Writes
import TableSearch.Proofs.Index.Upserting
import TableSearch.Proofs.Index.PatchLists
import TableSearch.Proofs.Query.Answering
import TableSearch.Proofs.Index.Refusing
import TableSearch.Proofs.Sql.Pattern
import TableSearch.Proofs.Filter.TextOperators
import TableSearch.Proofs.Query.Shapes
import TableSearch.Proofs.Query.Vectors
import TableSearch.Proofs.Index.StoredText
import TableSearch.Proofs.Index.BareRows
import TableSearch.Proofs.Query.ScoreColumn
import TableSearch.Proofs.Filter.Operands
import TableSearch.Proofs.Filter.OperatorOrder
import TableSearch.Proofs.Index.LastPages
import TableSearch.Proofs.Index.RelationNames
import TableSearch.Proofs.Sql.QuotedNames
import TableSearch.Proofs.Index.FieldKinds
