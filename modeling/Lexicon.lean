import Lexicon.CharSet
import Lexicon.CommandLine.Command
import Lexicon.CommandLine.Files
import Lexicon.CommandLine.Report
import Lexicon.CommandLine.Run
import Lexicon.CommandLine.Switch
import Lexicon.Decimal.Binary64
import Lexicon.Decimal.Shortest
import Lexicon.Dictionary.Basic
import Lexicon.Dictionary.Document
import Lexicon.Dictionary.Store
import Lexicon.Display.Listing
import Lexicon.Display.Results
import Lexicon.Display.Segment
import Lexicon.Entry.Basic
import Lexicon.Entry.Layout
import Lexicon.Entry.Location
import Lexicon.Json.Decode
import Lexicon.Json.Failure
import Lexicon.Json.Layout
import Lexicon.Json.Lexical
import Lexicon.Json.Printer
import Lexicon.Json.Shape
import Lexicon.Json.Skip
import Lexicon.Json.Tree
import Lexicon.Main
import Lexicon.Pattern.Ast
import Lexicon.Pattern.Basic
import Lexicon.Pattern.Brackets
import Lexicon.Pattern.Classes
import Lexicon.Pattern.Compile
import Lexicon.Pattern.Compose
import Lexicon.Pattern.Cursor
import Lexicon.Pattern.Diagram
import Lexicon.Pattern.Escape
import Lexicon.Pattern.Fault
import Lexicon.Pattern.Flags
import Lexicon.Pattern.Machine
import Lexicon.Pattern.Matching
import Lexicon.Pattern.Meaning
import Lexicon.Pattern.Place
import Lexicon.Pattern.Reading
import Lexicon.Pattern.SetMachine
import Lexicon.Pattern.Size
import Lexicon.Pattern.WordTree
import Lexicon.Proofs.Composition
import Lexicon.Proofs.Decoding
import Lexicon.Proofs.Documents
import Lexicon.Proofs.Exclusion
import Lexicon.Proofs.Grammar
import Lexicon.Proofs.HostConsent
import Lexicon.Proofs.Identity
import Lexicon.Proofs.Lexing
import Lexicon.Proofs.LoadMessages
import Lexicon.Proofs.Loading
import Lexicon.Proofs.Meaning
import Lexicon.Proofs.Nesting
import Lexicon.Proofs.Notation
import Lexicon.Proofs.Outcomes
import Lexicon.Proofs.Parsing
import Lexicon.Proofs.Ranking
import Lexicon.Proofs.Reading
import Lexicon.Proofs.ScriptedQuery
import Lexicon.Proofs.SessionRuns
import Lexicon.Proofs.StoreRuns
import Lexicon.Proofs.Texts
import Lexicon.Script.CompileError
import Lexicon.Script.Expr
import Lexicon.Script.Field
import Lexicon.Script.Filter
import Lexicon.Script.Lexer
import Lexicon.Script.Parser
import Lexicon.Script.Token
import Lexicon.Search.Field
import Lexicon.Search.Outcome
import Lexicon.Search.Predicate
import Lexicon.Search.Query
import Lexicon.Search.QueryError
import Lexicon.Search.TextTest
import Lexicon.Session.Basic
import Lexicon.Session.Mode
import Lexicon.Session.Settings
import Lexicon.Text.Case
import Lexicon.Text.Lines
import Lexicon.Text.Quoted
import Lexicon.Text.Utf8
import Lexicon.Text.Utf8Range
import Lexicon.Unicode.Addition
import Lexicon.Unicode.Age
import Lexicon.Unicode.Alphabetic
import Lexicon.Unicode.Blank
import Lexicon.Unicode.CaseFold
import Lexicon.Unicode.CaseOrbit
import Lexicon.Unicode.Category
import Lexicon.Unicode.Class
import Lexicon.Unicode.Lookup
import Lexicon.Unicode.NamedSet
import Lexicon.Unicode.Number
import Lexicon.Unicode.Property
import Lexicon.Unicode.Script
import Lexicon.Unicode.ScriptExtension
import Lexicon.Unicode.Segmentation
import Lexicon.Unicode.Word
import Lexicon.Proofs.Arrival
import Lexicon.Proofs.Spelling
import Lexicon.Proofs.Arguments
import Lexicon.Proofs.CommandRuns
import Lexicon.Proofs.OutputModes
import Lexicon.Proofs.SkippedFiles
import Lexicon.Proofs.Tiling
import Lexicon.Proofs.Refusal
import Lexicon.Proofs.EarliestErrors
import Lexicon.Proofs.Pointing
import Lexicon.Proofs.NumberLiterals
import Lexicon.Proofs.HeadwordIds
import Lexicon.Proofs.ByteSearch
import Lexicon.Proofs.TestScripts
import Lexicon.Proofs.FieldTests
import Lexicon.Proofs.Narrowing
import Lexicon.Proofs.Letters
import Lexicon.Proofs.NumberTokens
import Lexicon.Proofs.Nodes
import Lexicon.Proofs.Interpretation
import Lexicon.Proofs.MemberChanges
import Lexicon.Proofs.AcceptedTokens
import Lexicon.Proofs.Accepted
import Lexicon.Proofs.KnownMembers
import Lexicon.Proofs.Verdicts
import Lexicon.Proofs.Colors
import Lexicon.Proofs.LevelCounter
import Lexicon.Proofs.TreeHeights
