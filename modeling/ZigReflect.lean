import ZigReflect.Checksum
import ZigReflect.Command.Options
import ZigReflect.Command.Run
import ZigReflect.Decimal.Double
import ZigReflect.Decimal.Shortest
import ZigReflect.Digest
import ZigReflect.Document.Basic
import ZigReflect.Document.Fuzzy
import ZigReflect.Document.Pair
import ZigReflect.Drift.Compact
import ZigReflect.Drift.Lines
import ZigReflect.Drift.Report
import ZigReflect.Drift.Script
import ZigReflect.Drift.Unified
import ZigReflect.Emission
import ZigReflect.Emitted
import ZigReflect.Failure
import ZigReflect.Files.Error
import ZigReflect.Files.Path
import ZigReflect.Files.Tree
import ZigReflect.Filter
import ZigReflect.Formatter
import ZigReflect.Json.Parse
import ZigReflect.Json.Read
import ZigReflect.Json.Record
import ZigReflect.Json.Token
import ZigReflect.Json.Value
import ZigReflect.Keyed
import ZigReflect.Load
import ZigReflect.Lowering.Basic
import ZigReflect.Lowering.DeclarationRules
import ZigReflect.Lowering.Doc
import ZigReflect.Lowering.TypeRules
import ZigReflect.Machine
import ZigReflect.Main
import ZigReflect.Notice
import ZigReflect.Output
import ZigReflect.Pattern.Automaton
import ZigReflect.Pattern.Bracket
import ZigReflect.Pattern.Bytes
import ZigReflect.Pattern.CharSet
import ZigReflect.Pattern.Escape
import ZigReflect.Pattern.Match
import ZigReflect.Pattern.Parse
import ZigReflect.Pattern.Property
import ZigReflect.Pattern.Property.Category
import ZigReflect.Pattern.Property.Coded
import ZigReflect.Pattern.Property.Script
import ZigReflect.Pattern.Property.Trait
import ZigReflect.Pattern.Regex
import ZigReflect.Pattern.Source
import ZigReflect.Preamble
import ZigReflect.Proofs.Assignments
import ZigReflect.Proofs.Balance
import ZigReflect.Proofs.ByteOrder
import ZigReflect.Proofs.CallDepth
import ZigReflect.Proofs.CaseLabels
import ZigReflect.Proofs.CheckAfterWrite
import ZigReflect.Proofs.ChildOrder
import ZigReflect.Proofs.Contents
import ZigReflect.Proofs.DocComments
import ZigReflect.Proofs.DriftVerdict
import ZigReflect.Proofs.EditScripts
import ZigReflect.Proofs.EnvironmentLayer
import ZigReflect.Proofs.Faults
import ZigReflect.Proofs.FieldNames
import ZigReflect.Proofs.FileChange
import ZigReflect.Proofs.FileTree
import ZigReflect.Proofs.FirstWriter
import ZigReflect.Proofs.Flattening
import ZigReflect.Proofs.Frame
import ZigReflect.Proofs.Inclusion
import ZigReflect.Proofs.Initializers
import ZigReflect.Proofs.Inlining
import ZigReflect.Proofs.Keywords
import ZigReflect.Proofs.Lookup
import ZigReflect.Proofs.NameResolution
import ZigReflect.Proofs.NodeTags
import ZigReflect.Proofs.Nullability
import ZigReflect.Proofs.NumericNamespaces
import ZigReflect.Proofs.OptionalFields
import ZigReflect.Proofs.OutputFile
import ZigReflect.Proofs.Parts
import ZigReflect.Proofs.Ranking
import ZigReflect.Proofs.RecordReading
import ZigReflect.Proofs.Reexports
import ZigReflect.Proofs.Reordering
import ZigReflect.Proofs.Representation
import ZigReflect.Proofs.Roles
import ZigReflect.Proofs.SavedSettings
import ZigReflect.Proofs.Scan
import ZigReflect.Proofs.ScratchFile
import ZigReflect.Proofs.SettingsFiles
import ZigReflect.Proofs.SettingsLayers
import ZigReflect.Proofs.Skipped
import ZigReflect.Proofs.Spelling
import ZigReflect.Proofs.Splitting
import ZigReflect.Proofs.StepRelation
import ZigReflect.Proofs.StringTokens
import ZigReflect.Proofs.StringValues
import ZigReflect.Proofs.Suggestions
import ZigReflect.Proofs.SummaryUnions
import ZigReflect.Proofs.Superseded
import ZigReflect.Proofs.TreeSearch
import ZigReflect.Proofs.TypePositions
import ZigReflect.Proofs.UnionMembers
import ZigReflect.Proofs.UniqueNames
import ZigReflect.Proofs.WrittenFlag
import ZigReflect.Proofs.WrittenStrings
import ZigReflect.Proofs.WrittenTables
import ZigReflect.Proofs.WrittenText
import ZigReflect.Reflection.Basic
import ZigReflect.Reflection.Read
import ZigReflect.Settings.Basic
import ZigReflect.Settings.Coerce
import ZigReflect.Settings.Environment
import ZigReflect.Settings.Error
import ZigReflect.Settings.Formats
import ZigReflect.Settings.Load
import ZigReflect.Settings.Read
import ZigReflect.Settings.Save
import ZigReflect.Text.Blank
import ZigReflect.Text.CaseFold
import ZigReflect.Text.Concealed
import ZigReflect.Text.Digit
import ZigReflect.Text.Find
import ZigReflect.Text.Letter
import ZigReflect.Text.Lossy
import ZigReflect.Text.Quoted
import ZigReflect.Text.Ranges
import ZigReflect.Text.Word
import ZigReflect.Toml.Merge
import ZigReflect.Toml.Parse
import ZigReflect.Toml.Scalar
import ZigReflect.Toml.Table
import ZigReflect.Toml.Value
import ZigReflect.Toml.Write
import ZigReflect.Tool.Basic
import ZigReflect.Tool.Edit
import ZigReflect.Tool.Editor
import ZigReflect.Tool.Format
import ZigReflect.Tool.LinePattern
import ZigReflect.Tool.Parse
import ZigReflect.Tool.Script
import ZigReflect.Tool.Sed
import ZigReflect.Tool.Shell
import ZigReflect.Tool.Sum
import ZigReflect.TopLevel
import ZigReflect.Walk
import ZigReflect.Zig.Initializer
import ZigReflect.Zig.Literal
import ZigReflect.Zig.Name
