import LexTree.Channel
import LexTree.Command.Arguments
import LexTree.Command.Help
import LexTree.Command.Report
import LexTree.Command.Run
import LexTree.Consumer
import LexTree.Consumer.Script
import LexTree.Event
import LexTree.Files
import LexTree.Files.Directory
import LexTree.Format
import LexTree.Format.Document
import LexTree.Format.Json
import LexTree.Format.Yaml
import LexTree.Format.Yaml.Resolve
import LexTree.Format.Yaml.Scalar
import LexTree.Lexer
import LexTree.Log.Line
import LexTree.Log.Verbosity
import LexTree.Main
import LexTree.Number.Binary64
import LexTree.Number.Shortest
import LexTree.Outlet
import LexTree.Parser
import LexTree.Parser.Diagnostic
import LexTree.Parser.Factory
import LexTree.Pattern.Anchored
import LexTree.Pattern.Ast
import LexTree.Pattern.Expr
import LexTree.Pattern.Machine
import LexTree.Pattern.Machine.Piece
import LexTree.Pattern.Machine.RuneClass
import LexTree.Pattern.Machine.Trie
import LexTree.Pattern.Matching
import LexTree.Pattern.Meaning
import LexTree.Pattern.Parser
import LexTree.Pattern.Regex
import LexTree.Pattern.Utf8
import LexTree.Printer
import LexTree.Reader
import LexTree.Settings
import LexTree.Settings.KeyPath
import LexTree.Settings.Loader
import LexTree.Settings.Value
import LexTree.Sexp
import LexTree.Text.Blank
import LexTree.Text.Digits
import LexTree.Text.Hex
import LexTree.Text.Quoted
import LexTree.Text.RangeTable
import LexTree.Text.RuneClass
import LexTree.Text.RuneSet
import LexTree.Text.Trim
import LexTree.Token
import LexTree.Toml.Document
import LexTree.Toml.Key
import LexTree.Toml.Moment
import LexTree.Toml.Moment.Clock
import LexTree.Toml.Moment.Reading
import LexTree.Toml.Number
import LexTree.Toml.Quoted
import LexTree.Toml.Section
import LexTree.Toml.Spacing
import LexTree.Toml.Stamp
import LexTree.Toml.Value
import LexTree.Tree
import LexTree.Tree.Dump
import LexTree.Tree.Snapshot
import LexTree.Tree.Stream
import LexTree.Unicode.Age
import LexTree.Unicode.Break
import LexTree.Unicode.Break.Table
import LexTree.Unicode.CaseFold
import LexTree.Unicode.Category
import LexTree.Unicode.Category.Table
import LexTree.Unicode.Latest
import LexTree.Unicode.Letter
import LexTree.Unicode.Lowercase
import LexTree.Unicode.Printable
import LexTree.Unicode.Property
import LexTree.Unicode.Property.Table
import LexTree.Unicode.Query
import LexTree.Unicode.Script
import LexTree.Unicode.Script.Shared
import LexTree.Unicode.Script.Table
import LexTree.Proofs.Consumer.Builtin
import LexTree.Proofs.Lexer.Isolated
import LexTree.Proofs.Consumer.Script
import LexTree.Proofs.Lexer.Progress
import LexTree.Proofs.Pattern.Places
import LexTree.Proofs.Pattern.Words
import LexTree.Proofs.Sexp.Numeral
import LexTree.Proofs.Lexer.Lexeme
import LexTree.Proofs.Sexp.Scanner
import LexTree.Proofs.Tree.Preorder
import LexTree.Proofs.Tree.Subtree
import LexTree.Proofs.Tree.Attach
import LexTree.Proofs.Parser.Step
import LexTree.Proofs.Sexp.Listing
import LexTree.Proofs.Consumer.Value
import LexTree.Proofs.Lexer.Tiling
import LexTree.Proofs.Sexp.Form
import LexTree.Proofs.Sexp.RoundTrip
import LexTree.Proofs.Channel.Write
import LexTree.Proofs.Channel.Outlet
import LexTree.Proofs.Tree.Dump
import LexTree.Proofs.Printer.Write
import LexTree.Proofs.Parser.Run
import LexTree.Proofs.Parser.Skip
import LexTree.Proofs.Sexp.Split
import LexTree.Proofs.Lexer.Batch
import LexTree.Proofs.Json.Reader
import LexTree.Proofs.Json.Pretty
import LexTree.Proofs.Json.ReadBack
import LexTree.Proofs.Json.Nesting
import LexTree.Proofs.Format.Limit
import LexTree.Proofs.Sexp.Reprint
import LexTree.Proofs.Sexp.Lines
import LexTree.Proofs.Lexer.Attempts
import LexTree.Proofs.Lexer.Suffix
import LexTree.Proofs.Files.Directory
import LexTree.Proofs.Command.Verdict
import LexTree.Proofs.Consumer.Quoted
import LexTree.Proofs.Consumer.Shortest
import LexTree.Proofs.Consumer.Longest
import LexTree.Proofs.Consumer.Escaped
import LexTree.Proofs.Consumer.Advance
import LexTree.Proofs.Pattern.Closing
import LexTree.Proofs.Pattern.ClosingClass
import LexTree.Proofs.Pattern.Enclosed
import LexTree.Proofs.Pattern.Row
import LexTree.Proofs.Pattern.Counts
import LexTree.Proofs.Pattern.WholeText
import LexTree.Proofs.Reader.Speculation
import LexTree.Proofs.Printer.Plain
import LexTree.Proofs.Log.Replay
import LexTree.Proofs.Settings.Resolution
