import Cyclomatic.Analysis.Document
import Cyclomatic.Analysis.Engine
import Cyclomatic.Analysis.Scan
import Cyclomatic.Cli.Args
import Cyclomatic.Cli.Run
import Cyclomatic.Config.File
import Cyclomatic.Config.Scale
import Cyclomatic.Config.Settings
import Cyclomatic.Config.Store
import Cyclomatic.Files.Disk
import Cyclomatic.Files.Path
import Cyclomatic.Files.Pattern
import Cyclomatic.Language
import Cyclomatic.Main
import Cyclomatic.Number.Binary64
import Cyclomatic.Number.Decimal
import Cyclomatic.Number.Num
import Cyclomatic.Number.Reading
import Cyclomatic.Outline.Basic
import Cyclomatic.Outline.Score
import Cyclomatic.Proofs.Preorder
import Cyclomatic.Report.Document
import Cyclomatic.Report.Scan
import Cyclomatic.Syntax.Class
import Cyclomatic.Syntax.Expression
import Cyclomatic.Syntax.Grammar
import Cyclomatic.Syntax.Lexeme
import Cyclomatic.Syntax.Markup
import Cyclomatic.Syntax.Merge
import Cyclomatic.Syntax.Pattern
import Cyclomatic.Syntax.Reader
import Cyclomatic.Syntax.Recovery
import Cyclomatic.Syntax.Versions
import Cyclomatic.Syntax.Rule
import Cyclomatic.Syntax.Source
import Cyclomatic.Syntax.Statement
import Cyclomatic.Syntax.Terminal
import Cyclomatic.Syntax.Tree
import Cyclomatic.Syntax.Typing
import Cyclomatic.Text.Base64
import Cyclomatic.Text.CharData
import Cyclomatic.Text.Unicode
import Cyclomatic.Text.Offsets
import Cyclomatic.Text.Utf8
import Cyclomatic.Tint
import Cyclomatic.Value.Basic
import Cyclomatic.Value.Json
import Cyclomatic.Value.JsonProblem
import Cyclomatic.Value.Notation
import Cyclomatic.Yaml.Dump
import Cyclomatic.Yaml.Load
import Cyclomatic.Yaml.Node
import Cyclomatic.Yaml.Problem
import Cyclomatic.Yaml.Resolve
import Cyclomatic.Yaml.Token
import Cyclomatic.Proofs.DocumentOutline
import Cyclomatic.Proofs.OffsetLookup
import Cyclomatic.Proofs.DocumentOrder
import Cyclomatic.Proofs.ScaleSettings
import Cyclomatic.Proofs.Subtrees
import Cyclomatic.Proofs.StoreReload
import Cyclomatic.Proofs.CharacterOffsets
import Cyclomatic.Proofs.Rounding
import Cyclomatic.Proofs.FloatArithmetic
import Cyclomatic.Proofs.TintScale
import Cyclomatic.Proofs.FirstError
import Cyclomatic.Proofs.Utf8RoundTrip
import Cyclomatic.Proofs.NodeText
import Cyclomatic.Proofs.ScaleValidation
import Cyclomatic.Proofs.SettingsRoundTrip
import Cyclomatic.Proofs.DiskLookup
import Cyclomatic.Proofs.FileDiscovery
import Cyclomatic.Proofs.WalkDepth
import Cyclomatic.Proofs.ScanReports
import Cyclomatic.Proofs.StackWalk
import Cyclomatic.Proofs.SettingsSearch
