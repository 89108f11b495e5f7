import Highlighter.Catalog
import Highlighter.CommandLine
import Highlighter.Config
import Highlighter.Definition
import Highlighter.Dictionary
import Highlighter.Document
import Highlighter.Error
import Highlighter.FileTree
import Highlighter.Grammar
import Highlighter.Grammar.BuiltIn
import Highlighter.Grammar.Registry
import Highlighter.Host
import Highlighter.Interval
import Highlighter.Main
import Highlighter.Path
import Highlighter.Pattern.Assertion
import Highlighter.Pattern.Bracket
import Highlighter.Pattern.Escape
import Highlighter.Pattern.Expr
import Highlighter.Pattern.Flags
import Highlighter.Pattern.Iteration
import Highlighter.Pattern.Lexeme
import Highlighter.Pattern.Machine
import Highlighter.Pattern.Search
import Highlighter.Program
import Highlighter.Proofs.Catalog.History
import Highlighter.Proofs.Catalog.Reapplication
import Highlighter.Proofs.CommandLine.Reading
import Highlighter.Proofs.CommandLine.Units
import Highlighter.Proofs.Config.Acceptance
import Highlighter.Proofs.Config.Detection
import Highlighter.Proofs.Config.FirstFault
import Highlighter.Proofs.Config.Grammars
import Highlighter.Proofs.Config.Loading
import Highlighter.Proofs.Config.Themes
import Highlighter.Proofs.Dictionary
import Highlighter.Proofs.Document.Independence
import Highlighter.Proofs.Document.RoundTrip
import Highlighter.Proofs.Document.Segmentation
import Highlighter.Proofs.Grammar.BuiltIn
import Highlighter.Proofs.Grammar.Classification
import Highlighter.Proofs.Grammar.Comments
import Highlighter.Proofs.Grammar.Detection
import Highlighter.Proofs.Grammar.Exchange
import Highlighter.Proofs.Grammar.History
import Highlighter.Proofs.Grammar.LastComment
import Highlighter.Proofs.Grammar.LastDeclaration
import Highlighter.Proofs.Grammar.Literals
import Highlighter.Proofs.Grammar.Signs
import Highlighter.Proofs.Grammar.Symbols
import Highlighter.Proofs.Grammar.Words
import Highlighter.Proofs.Grammar.Wrapping
import Highlighter.Proofs.Pattern.Closing
import Highlighter.Proofs.Pattern.Extent
import Highlighter.Proofs.Pattern.Grouping
import Highlighter.Proofs.Pattern.Marks
import Highlighter.Proofs.Pattern.Outcomes
import Highlighter.Proofs.Pattern.Reading
import Highlighter.Proofs.Pattern.Run
import Highlighter.Proofs.Pattern.Scan
import Highlighter.Proofs.Pattern.TokenGroup
import Highlighter.Proofs.Pattern.Way
import Highlighter.Proofs.Pattern.Word
import Highlighter.Proofs.Program.GrammarChoice
import Highlighter.Proofs.Program.Listing
import Highlighter.Proofs.Program.Requests
import Highlighter.Proofs.Program.Stages
import Highlighter.Proofs.Session.Harmless
import Highlighter.Proofs.Span.ByteMarks
import Highlighter.Proofs.Span.Contiguous
import Highlighter.Proofs.Span.Division
import Highlighter.Proofs.Span.IdleRules
import Highlighter.Proofs.Span.Kinds
import Highlighter.Proofs.Span.LaterRules
import Highlighter.Proofs.Span.Origin
import Highlighter.Proofs.Span.Partition
import Highlighter.Proofs.Span.Precedence
import Highlighter.Proofs.Span.Reordering
import Highlighter.Proofs.Span.Taken
import Highlighter.Proofs.Terminal.Listing
import Highlighter.Proofs.Terminal.Screen
import Highlighter.Proofs.Text.ByteOrder
import Highlighter.Proofs.Text.Bytes
import Highlighter.Proofs.Text.Digits
import Highlighter.Proofs.Text.JoinedLines
import Highlighter.Proofs.Text.Lines
import Highlighter.Proofs.Text.Quoted
import Highlighter.Proofs.Text.Runs
import Highlighter.Proofs.Text.Separated
import Highlighter.Proofs.Unicode.Case
import Highlighter.Proofs.Unicode.CodeRanges
import Highlighter.Proofs.Unicode.Comparison
import Highlighter.Proofs.Unicode.Words
import Highlighter.Readers
import Highlighter.Rule
import Highlighter.Session
import Highlighter.Span
import Highlighter.Span.ByteMarks
import Highlighter.Terminal.Color
import Highlighter.Terminal.ColorBytes
import Highlighter.Terminal.Dump
import Highlighter.Terminal.Render
import Highlighter.Text.Digits
import Highlighter.Text.Label
import Highlighter.Text.Lines
import Highlighter.Text.Padded
import Highlighter.Text.Quoted
import Highlighter.Theme
import Highlighter.Theme.BuiltIn
import Highlighter.TokenKind
import Highlighter.Toml.Document
import Highlighter.Toml.Quote
import Highlighter.Toml.Scalar
import Highlighter.Toml.Statement
import Highlighter.Toml.Value
import Highlighter.Unicode.BinaryProperty
import Highlighter.Unicode.Case
import Highlighter.Unicode.CharClass
import Highlighter.Unicode.Comparison
import Highlighter.Unicode.CodeRanges
import Highlighter.Unicode.GeneralCategory
import Highlighter.Unicode.Property
import Highlighter.Unicode.Script
import Highlighter.Unicode.Segment
import Highlighter.Unicode.Table.Age
import Highlighter.Unicode.Table.CaseChange
import Highlighter.Unicode.Table.CaseMap
import Highlighter.Unicode.Table.Category
import Highlighter.Unicode.Table.Letter
import Highlighter.Unicode.Table.Property
import Highlighter.Unicode.Table.Script
import Highlighter.Unicode.Table.ScriptExtension
import Highlighter.Unicode.Table.Segment
import Highlighter.Proofs.Terminal.Channels
import Highlighter.Proofs.Terminal.Shades
import Highlighter.Proofs.Config.Naming
import Highlighter.Proofs.Pattern.Iteration
import Highlighter.Proofs.Span.RuleRanges
