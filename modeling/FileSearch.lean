import FileSearch.Config.Basic
import FileSearch.Config.Coerce
import FileSearch.Config.Decode
import FileSearch.Config.Error
import FileSearch.Config.Json
import FileSearch.Config.KeyPath
import FileSearch.Config.Layer
import FileSearch.Config.Load
import FileSearch.Config.Value
import FileSearch.Content.Binary
import FileSearch.Engine.Basic
import FileSearch.Engine.Demand
import FileSearch.Engine.History
import FileSearch.Engine.Host
import FileSearch.Engine.Slot
import FileSearch.Error
import FileSearch.Files.FileSystem
import FileSearch.Files.IoError
import FileSearch.Files.Path
import FileSearch.IgnoreFile.Glob
import FileSearch.IgnoreFile.Lines
import FileSearch.Json.Read
import FileSearch.Json.Value
import FileSearch.Number.Binary64
import FileSearch.Number.Word
import FileSearch.Pattern
import FileSearch.Proofs.Pattern.Literal
import FileSearch.Proofs.Pattern.Local
import FileSearch.Proofs.Pool.Ledger
import FileSearch.Proofs.Pool.Move
import FileSearch.Proofs.Pool.Outcome
import FileSearch.Proofs.Scan.Leftmost
import FileSearch.Proofs.Scan.Local
import FileSearch.Proofs.Scan.Walk
import FileSearch.Proofs.Scan.Window
import FileSearch.Regex.Compile
import FileSearch.Regex.Error
import FileSearch.Regex.Expr
import FileSearch.Regex.Footprint
import FileSearch.Regex.Look
import FileSearch.Regex.Meaning
import FileSearch.Regex.Program
import FileSearch.Regex.Read
import FileSearch.Regex.Read.Bracket
import FileSearch.Regex.Read.Cursor
import FileSearch.Regex.Read.Escape
import FileSearch.Regex.Read.Group
import FileSearch.Regex.Read.Repetition
import FileSearch.Regex.Search
import FileSearch.Regex.Tree
import FileSearch.Request
import FileSearch.Result.Collection
import FileSearch.Result.FileResult
import FileSearch.Result.Flags
import FileSearch.Result.Output
import FileSearch.Result.Stats
import FileSearch.Rules.IgnoreRules
import FileSearch.Rules.Wildcard
import FileSearch.Scan.Finder
import FileSearch.Scan.Leftmost
import FileSearch.Scan.Stream
import FileSearch.Search.Examiner
import FileSearch.Search.Pool
import FileSearch.Text.Bytes
import FileSearch.Text.Quoted
import FileSearch.Text.Span
import FileSearch.Text.Trim
import FileSearch.Text.Utf8
import FileSearch.Time.Duration
import FileSearch.Time.Read
import FileSearch.Unicode.CaseOrbit
import FileSearch.Unicode.IntervalSet
import FileSearch.Unicode.Lowercase
import FileSearch.Unicode.Named
import FileSearch.Unicode.Property
import FileSearch.Unicode.Table.CaseOrbit
import FileSearch.Unicode.Table.Category
import FileSearch.Unicode.Table.Property
import FileSearch.Unicode.Table.Script
import FileSearch.Walk.Error
import FileSearch.Walk.Listing
import FileSearch.Walk.Options
import FileSearch.Walk.Scope
import FileSearch.Walk.Selection
import FileSearch.Walk.Walker
import FileSearch.Yaml.Cursor
import FileSearch.Yaml.Document
import FileSearch.Yaml.Error
import FileSearch.Yaml.Node
import FileSearch.Yaml.Property
import FileSearch.Yaml.Scalar
import FileSearch.Yaml.Token
import FileSearch.Proofs.Pattern.Bounds
import FileSearch.Proofs.Scan.Order
import FileSearch.Proofs.Scan.Reads
import FileSearch.Proofs.Search.Matches
import FileSearch.Proofs.Pool.Determinism
import FileSearch.Proofs.Pool.Counters
import FileSearch.Proofs.Walk.Path
import FileSearch.Proofs.Walk.Selected
import FileSearch.Proofs.Files.Resolve
import FileSearch.Proofs.Walk.Roots
import FileSearch.Proofs.Engine.Change
import FileSearch.Proofs.Engine.Coherent
import FileSearch.Proofs.Engine.History
import FileSearch.Proofs.Engine.Slot
import FileSearch.Proofs.Config.Json
import FileSearch.Proofs.Regex.Literal
import FileSearch.Proofs.Pattern.AsRegex
import FileSearch.Proofs.Pool.Progress
import FileSearch.Proofs.Search.Report
import FileSearch.Proofs.Json.Read
import FileSearch.Proofs.Result.Wire
import FileSearch.Proofs.Pattern.Short
import FileSearch.Proofs.Pattern.Succession
import FileSearch.Proofs.Scan.Limit
import FileSearch.Proofs.Scan.Cover
import FileSearch.Proofs.Pattern.Cut
import FileSearch.Proofs.Regex.Steps
import FileSearch.Proofs.Unicode.CaseOrbit
import FileSearch.Proofs.Regex.Folded
import FileSearch.Proofs.Pattern.Folded
import FileSearch.Proofs.Text.Front
import FileSearch.Proofs.Text.Decoding
import FileSearch.Proofs.Content.Binary
import FileSearch.Proofs.Rules.Matching
import FileSearch.Proofs.Rules.Spelling
import FileSearch.Proofs.Rules.LastMatch
import FileSearch.Proofs.Rules.Components
import FileSearch.Proofs.Rules.Scope
import FileSearch.Proofs.Rules.Plain
import FileSearch.Proofs.Scan.Taken
import FileSearch.Proofs.Search.Size
import FileSearch.Proofs.Engine.Demand
import FileSearch.Proofs.Config.Merge
import FileSearch.Proofs.Config.Fits
import FileSearch.Proofs.Config.Layer
import FileSearch.Proofs.Config.Load
import FileSearch.Proofs.Scan.Bounded
import FileSearch.Proofs.Pattern.Windows
