import ArithExpr.CommandLine
import ArithExpr.Document.Json
import ArithExpr.Document.Yaml
import ArithExpr.Log
import ArithExpr.Main
import ArithExpr.Number.Layout
import ArithExpr.Number.Numeral
import ArithExpr.Processing
import ArithExpr.Proofs.CommandLine.Arguments
import ArithExpr.Proofs.CommandLine.Verdict
import ArithExpr.Proofs.Formats.Documents
import ArithExpr.Proofs.Formats.Drawing
import ArithExpr.Proofs.Formats.Equivalence
import ArithExpr.Proofs.Formats.Lines
import ArithExpr.Proofs.Formats.Numbers
import ArithExpr.Proofs.Formats.Writing
import ArithExpr.Proofs.Number.DigitRun
import ArithExpr.Proofs.Number.Distinct
import ArithExpr.Proofs.Number.ReadBack
import ArithExpr.Proofs.Processing.Alternation
import ArithExpr.Proofs.Processing.Composition
import ArithExpr.Proofs.Processing.Gate
import ArithExpr.Proofs.Processing.Language
import ArithExpr.Proofs.Processing.Limit
import ArithExpr.Proofs.Processing.NormalForm
import ArithExpr.Proofs.Processing.Rejections
import ArithExpr.Proofs.Processing.Requests
import ArithExpr.Proofs.Processing.Spacing
import ArithExpr.Proofs.Processing.Stages
import ArithExpr.Proofs.Results
import ArithExpr.Proofs.Settings.Layers
import ArithExpr.Proofs.Settings.Places
import ArithExpr.Proofs.Token.Border
import ArithExpr.Proofs.Token.Concatenation
import ArithExpr.Proofs.Token.Partition
import ArithExpr.Proofs.Token.Partition.Unique
import ArithExpr.Proofs.Token.Places
import ArithExpr.Proofs.Token.Scanned
import ArithExpr.Proofs.Token.Words
import ArithExpr.Proofs.Tree.Agreement
import ArithExpr.Proofs.Tree.Brackets
import ArithExpr.Proofs.Tree.Enumeration
import ArithExpr.Proofs.Tree.Kinds
import ArithExpr.Proofs.Tree.Marks
import ArithExpr.Proofs.Tree.Offence
import ArithExpr.Proofs.Tree.Paths
import ArithExpr.Proofs.Tree.Rendering
import ArithExpr.Proofs.Tree.Residue
import ArithExpr.Proofs.Tree.RoundTrip
import ArithExpr.Proofs.Tree.Spelling
import ArithExpr.Proofs.Tree.Steps
import ArithExpr.Proofs.Tree.Traversal
import ArithExpr.Proofs.Validity.Balance
import ArithExpr.Proofs.Validity.Grammar
import ArithExpr.Proofs.Validity.History
import ArithExpr.Proofs.Validity.Rules
import ArithExpr.Proofs.Validity.Scans
import ArithExpr.Settings.Files
import ArithExpr.Settings.KeyPath
import ArithExpr.Settings.LoadError
import ArithExpr.Settings.Loader
import ArithExpr.Settings.Typed
import ArithExpr.Settings.Value
import ArithExpr.Text.Digits
import ArithExpr.Text.Quoted
import ArithExpr.Token.Scan
import ArithExpr.Token.Symbols
import ArithExpr.Toml.Date
import ArithExpr.Toml.Document
import ArithExpr.Toml.Entries
import ArithExpr.Toml.MarkedDate
import ArithExpr.Toml.Number
import ArithExpr.Toml.Reader
import ArithExpr.Toml.Text
import ArithExpr.Toml.Value
import ArithExpr.Tree.Document
import ArithExpr.Tree.Drawing
import ArithExpr.Tree.Parse
import ArithExpr.Tree.Resolution
import ArithExpr.Tree.Text
import ArithExpr.Validity.Checker
