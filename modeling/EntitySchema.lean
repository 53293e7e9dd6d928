import EntitySchema.Text.Split
import EntitySchema.Text.Quoted
import EntitySchema.Schema.OfModel
import EntitySchema.Json.Printer
import EntitySchema.Sql.Script
import EntitySchema.Schema.Json
import EntitySchema.Model.Document
import EntitySchema.Mapping.Model
import EntitySchema.Main
import EntitySchema.Proofs.NameMap
import EntitySchema.Proofs.Text.Separator
import EntitySchema.Proofs.Identifier.Claims
import EntitySchema.Proofs.Identifier.Characters
import EntitySchema.Proofs.Model.Keyed
import EntitySchema.Proofs.Model.Reflection
import EntitySchema.Proofs.Model.WellFormed
import EntitySchema.Proofs.RowType.Keys
import EntitySchema.Proofs.RowType.Sharing
import EntitySchema.Proofs.RowType.Transparency
import EntitySchema.Proofs.Schema.Emission
import EntitySchema.Proofs.Schema.Relations
import EntitySchema.Proofs.Schema.Resolution
import EntitySchema.Proofs.Schema.Faults
import EntitySchema.Proofs.Schema.TableNames
import EntitySchema.Proofs.Schema.ColumnNames
import EntitySchema.Proofs.Schema.Integrity
import EntitySchema.Proofs.Mapping.Findings
import EntitySchema.Proofs.Mapping.Recording
import EntitySchema.Proofs.Mapping.WellFormed
import EntitySchema.Proofs.Sql.Splitting
import EntitySchema.Proofs.Sql.Written
import EntitySchema.Proofs.Sql.Statements
import EntitySchema.Proofs.Sql.Subject
import EntitySchema.Proofs.Sql.Script
import EntitySchema.Proofs.Sql.Rendering
import EntitySchema.Proofs.Sql.Order
import EntitySchema.Proofs.Sql.Expression.Token
import EntitySchema.Proofs.Sql.Expression.Reader
import EntitySchema.Proofs.Sql.Expression.Value
import EntitySchema.Proofs.RowType.Serving
import EntitySchema.Proofs.Schema.Inconsistency
import EntitySchema.Proofs.Schema.Acceptance
import EntitySchema.Proofs.Schema.Triggers
import EntitySchema.Proofs.Schema.Modularity
import EntitySchema.Proofs.Identifier.Endings
import EntitySchema.Proofs.Schema.TriggerNames
import EntitySchema.Proofs.RowType.Identity
import EntitySchema.Proofs.Schema.ColumnTypes
import EntitySchema.Proofs.Sql.Lexeme
import EntitySchema.Proofs.Sql.Legible
import EntitySchema.Proofs.Sql.Naming
import EntitySchema.Proofs.Sql.Spelling
import EntitySchema.Proofs.Sql.Routine
import EntitySchema.Proofs.Files.Path
import EntitySchema.Proofs.Files.Saving
import EntitySchema.Proofs.Generation
import EntitySchema.Proofs.Model.Editing
import EntitySchema.Proofs.Json.Escape
import EntitySchema.Proofs.Json.Layout
import EntitySchema.Proofs.Json.Reading
import EntitySchema.Proofs.Schema.Text
import EntitySchema.Proofs.Model.Document
import EntitySchema.Proofs.Files.Directory
import EntitySchema.Proofs.Generation.Beside
import EntitySchema.Proofs.Schema.Relationships
import EntitySchema.Proofs.Model.Closure
import EntitySchema.Proofs.Model.Relating
import EntitySchema.Proofs.Model.Merging
import EntitySchema.Proofs.Model.Widening
import EntitySchema.Proofs.Mapping.Nodes
import EntitySchema.Proofs.Mapping.Columns
import EntitySchema.Proofs.ExternalId.Separation
import EntitySchema.Proofs.Json.Sorting
import EntitySchema.Proofs.Mapping.Grammar
import EntitySchema.Proofs.Mapping.Entities
import EntitySchema.Proofs.Mapping.SourceOrder
import EntitySchema.Proofs.Text.Cutting
import EntitySchema.Proofs.Text.Trimming
import EntitySchema.Proofs.Text.Lowercase
import EntitySchema.Proofs.Identifier.Bounds
import EntitySchema.Proofs.Identifier.NormalForm
import EntitySchema.Proofs.Identifier.Rederivation
import EntitySchema.Proofs.Identifier.ParentMark
import EntitySchema.Proofs.Identifier.Limits
import EntitySchema.Proofs.Identifier.Normalizing
import EntitySchema.Proofs.Identifier.Registration
import EntitySchema.Proofs.Schema.Mirroring
import EntitySchema.Proofs.Schema.Lengths
import EntitySchema.Proofs.Schema.SelfRelations
