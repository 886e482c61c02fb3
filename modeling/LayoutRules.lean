import LayoutRules.Basis
import LayoutRules.Binary64.Basic
import LayoutRules.Binary64.Nearest
import LayoutRules.Category
import LayoutRules.Command.Arguments
import LayoutRules.Command.Check
import LayoutRules.Command.Error
import LayoutRules.Command.Program
import LayoutRules.Content
import LayoutRules.Decimal.Basic
import LayoutRules.Decimal.Shortest
import LayoutRules.Decimal.Style
import LayoutRules.Json.Basic
import LayoutRules.Json.Printer
import LayoutRules.Literal
import LayoutRules.Main
import LayoutRules.Operator
import LayoutRules.Queue
import LayoutRules.Rule.Error
import LayoutRules.Rule.Event
import LayoutRules.Rule.Reader
import LayoutRules.Scanner
import LayoutRules.Source
import LayoutRules.Text.Blank
import LayoutRules.Text.Combining
import LayoutRules.Text.DecimalDigit
import LayoutRules.Text.Ignorable
import LayoutRules.Text.Outline
import LayoutRules.Text.Quoted
import LayoutRules.Text.Ranges
import LayoutRules.Text.Unprintable
import LayoutRules.Token
import LayoutRules.Tree.Basic
import LayoutRules.Tree.Document
import LayoutRules.Tree.Outline
import LayoutRules.Tree.Shape
import LayoutRules.Proofs.Binary64.Rounding
import LayoutRules.Proofs.Decimal.Value
import LayoutRules.Proofs.Literal.Numeral
import LayoutRules.Proofs.Literal.Spelling
import LayoutRules.Proofs.Scanner.Lexeme
import LayoutRules.Proofs.Scanner.Tiling
import LayoutRules.Proofs.Rule.Course
import LayoutRules.Proofs.Rule.Verdict
import LayoutRules.Proofs.Rule.Phrase
import LayoutRules.Proofs.Literal.Amount
import LayoutRules.Proofs.Tree.Built
import LayoutRules.Proofs.Tree.Canonical
import LayoutRules.Proofs.Rule.Requests
import LayoutRules.Proofs.Rule.History
import LayoutRules.Proofs.Tree.Anatomy
import LayoutRules.Proofs.Rule.Account
import LayoutRules.Proofs.Source.Agreement
import LayoutRules.Proofs.Rule.Agreement
import LayoutRules.Proofs.Source.Dwindling
import LayoutRules.Proofs.Rule.Settling
import LayoutRules.Proofs.Json.Grammar
import LayoutRules.Proofs.Json.Unambiguous
import LayoutRules.Proofs.Json.Number
import LayoutRules.Proofs.Json.Written
import LayoutRules.Proofs.Tree.Restored
import LayoutRules.Proofs.Command.Listing
import LayoutRules.Proofs.Scanner.Surroundings
import LayoutRules.Proofs.Rule.Surroundings
import LayoutRules.Proofs.Command.Routes
import LayoutRules.Proofs.Rule.Tracing
import LayoutRules.Proofs.Scanner.Concatenation
import LayoutRules.Proofs.Scanner.Classification
import LayoutRules.Proofs.Scanner.Printed
import LayoutRules.Proofs.Scanner.Settling
import LayoutRules.Proofs.Source.Account
import LayoutRules.Proofs.Scanner.Components
import LayoutRules.Proofs.Tree.Creation
import LayoutRules.Proofs.Json.Blanks
import LayoutRules.Proofs.Tree.Layouts
import LayoutRules.Proofs.Tree.Alike
import LayoutRules.Proofs.Tree.Outlines
import LayoutRules.Proofs.Tree.Histories
import LayoutRules.Proofs.Tree.Slots
import LayoutRules.Proofs.Rule.Refusals
