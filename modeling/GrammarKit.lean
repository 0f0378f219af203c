import GrammarKit.Arithmetic.Basic
import GrammarKit.Arithmetic.Tour
import GrammarKit.Binary.Basic
import GrammarKit.Binary.Shortest
import GrammarKit.Catalogue
import GrammarKit.CharClass.Basic
import GrammarKit.CharClass.RangeTree
import GrammarKit.CharClass.Reader
import GrammarKit.CharClass.Scan
import GrammarKit.Copies
import GrammarKit.Cursor
import GrammarKit.Cursor.Items
import GrammarKit.Cursor.Walk
import GrammarKit.Diagnostic.Basic
import GrammarKit.Diagnostic.Draft
import GrammarKit.Diagnostic.Naming
import GrammarKit.Diagnostic.Span
import GrammarKit.Engine
import GrammarKit.Entries
import GrammarKit.Event
import GrammarKit.Fault
import GrammarKit.Formatter.Basic
import GrammarKit.Formatter.Operators
import GrammarKit.Formatter.Recipe
import GrammarKit.Formatter.Shape
import GrammarKit.Matcher.Basic
import GrammarKit.Matcher.Combinators
import GrammarKit.Parser
import GrammarKit.Parser.Items
import GrammarKit.Proofs.Adequacy
import GrammarKit.Proofs.Agreement
import GrammarKit.Proofs.Ahead
import GrammarKit.Proofs.Arithmetic.Evaluation
import GrammarKit.Proofs.Arithmetic.Formatting
import GrammarKit.Proofs.Bindings
import GrammarKit.Proofs.Branching
import GrammarKit.Proofs.CharClass.Brackets
import GrammarKit.Proofs.CharClass.Written
import GrammarKit.Proofs.Coordinates
import GrammarKit.Proofs.Derivation
import GrammarKit.Proofs.Evolution
import GrammarKit.Proofs.Faults
import GrammarKit.Proofs.GrammarHistory
import GrammarKit.Proofs.Grouping
import GrammarKit.Proofs.Inlining
import GrammarKit.Proofs.LeftCalls
import GrammarKit.Proofs.LeftRecursion
import GrammarKit.Proofs.Limits
import GrammarKit.Proofs.MaximalRun
import GrammarKit.Proofs.Memory
import GrammarKit.Proofs.MissingNames
import GrammarKit.Proofs.Nesting
import GrammarKit.Proofs.Progress
import GrammarKit.Proofs.Reach
import GrammarKit.Proofs.Sessions
import GrammarKit.Proofs.Termination
import GrammarKit.Proofs.Transcript
import GrammarKit.Proofs.UnboundCheck
import GrammarKit.Proofs.Unrolling
import GrammarKit.Registry.Basic
import GrammarKit.Registry.Grammar
import GrammarKit.Registry.Operation
import GrammarKit.Registry.Table
import GrammarKit.Store.Basic
import GrammarKit.Store.View
import GrammarKit.Text.Blank
import GrammarKit.Text.Decimal
import GrammarKit.Text.Digit
import GrammarKit.Text.Grouped
import GrammarKit.Text.Indexed
import GrammarKit.Text.Numeral
import GrammarKit.Text.Place
import GrammarKit.Text.Printable
import GrammarKit.Text.Quoted
import GrammarKit.Text.RangeTable
import GrammarKit.Text.Word
import GrammarKit.Value.Basic
import GrammarKit.Value.Equality
import GrammarKit.Value.Number
import GrammarKit.Value.Printer
import GrammarKit.Workspace.Basic
import GrammarKit.Workspace.Blueprint
import GrammarKit.Workspace.Request
import GrammarKit.Workspace.Session
