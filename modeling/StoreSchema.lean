import StoreSchema.Data.Basic
import StoreSchema.Number.Binary64
import StoreSchema.Number.Numeral
import StoreSchema.Text.Encoding
import StoreSchema.Text.Characters
import StoreSchema.Text.LowerCase
import StoreSchema.Text.LineBreak
import StoreSchema.Text.Emoji
import StoreSchema.Text.Markup
import StoreSchema.Text.CodePoints
import StoreSchema.Fault
import StoreSchema.Json.Reader
import StoreSchema.Json.Writer
import StoreSchema.Yaml.ScalarText
import StoreSchema.Yaml.Node
import StoreSchema.Yaml.Reader
import StoreSchema.Yaml.ScalarValue
import StoreSchema.Yaml.Refusal
import StoreSchema.Yaml.Token
import StoreSchema.Yaml.Writer
import StoreSchema.Storage.CollectionRule
import StoreSchema.Storage.Facet
import StoreSchema.Storage.FieldType
import StoreSchema.Storage.IndexForm
import StoreSchema.Storage.Value
import StoreSchema.Settings.Basic
import StoreSchema.Settings.Environment
import StoreSchema.Settings.Variables
import StoreSchema.Definition.Shape
import StoreSchema.Definition.Extension
import StoreSchema.Files.Documents
import StoreSchema.Files.Tree
import StoreSchema.Validators.FieldCheck
import StoreSchema.Validators.Library
import StoreSchema.Document.Intake
import StoreSchema.Session
import StoreSchema.Compile.Context
import StoreSchema.Compile.Definition
import StoreSchema.Store.Basic
import StoreSchema.CommandLine.Run
import StoreSchema.Main
import StoreSchema.Proofs.Outcome
import StoreSchema.Proofs.Keys
import StoreSchema.Proofs.NormalForm
import StoreSchema.Proofs.Meaning
import StoreSchema.Proofs.CycleGuard
import StoreSchema.Proofs.Shapes
import StoreSchema.Proofs.Settling
import StoreSchema.Proofs.Totality
import StoreSchema.Proofs.Expansion
import StoreSchema.Proofs.Intake
import StoreSchema.Proofs.Reentry
import StoreSchema.Proofs.Normalization
import StoreSchema.Proofs.InheritedRequired
import StoreSchema.Proofs.CompiledForm
import StoreSchema.Proofs.RuleMeaning
import StoreSchema.Proofs.Locality
import StoreSchema.Proofs.Registry
import StoreSchema.Proofs.Exclusion
import StoreSchema.Proofs.Precedence
import StoreSchema.Proofs.Embedding
import StoreSchema.Proofs.FieldNames
import StoreSchema.Proofs.Sugar
import StoreSchema.Proofs.ArrayDepth
import StoreSchema.Proofs.Inactive
import StoreSchema.Proofs.InlinedProperty
import StoreSchema.Proofs.Isolation
import StoreSchema.Proofs.Overrides
import StoreSchema.Proofs.AdditionalFields
import StoreSchema.Proofs.FacetBlocks
import StoreSchema.Proofs.DatabaseRuns
import StoreSchema.Proofs.Versions
import StoreSchema.Proofs.Numerals
import StoreSchema.Proofs.Heredity
import StoreSchema.Proofs.Assembly
import StoreSchema.Proofs.Rendering
import StoreSchema.Proofs.JsonNumbers
import StoreSchema.Proofs.JsonStrings
import StoreSchema.Proofs.JsonReading
import StoreSchema.Proofs.Utf8
import StoreSchema.Proofs.Admission
import StoreSchema.Proofs.TypeGrammar
import StoreSchema.Proofs.Pointers
