import SqlExpr.Config.File
import SqlExpr.Config.Shared
import SqlExpr.Json.Printer
import SqlExpr.Json.Reader
import SqlExpr.Node.Outline
import SqlExpr.Query.Dates
import SqlExpr.Render.Basic
import SqlExpr.Schema.Derivation
import SqlExpr.Proofs.Lexis.Reading
import SqlExpr.Proofs.Lexis.Names
import SqlExpr.Proofs.Lexis.Nesting
import SqlExpr.Proofs.Node.Subnodes
import SqlExpr.Proofs.Output.Part
import SqlExpr.Proofs.Output.Atom
import SqlExpr.Proofs.Output.Phrase
import SqlExpr.Proofs.Output.NodePhrase
import SqlExpr.Proofs.Node.Texts
import SqlExpr.Proofs.Output.TextData
import SqlExpr.Proofs.Node.TypeName
import SqlExpr.Proofs.Lexis.TypeText
import SqlExpr.Proofs.Output.Closed
import SqlExpr.Proofs.Grammar.Table
import SqlExpr.Proofs.Grammar.Term
import SqlExpr.Proofs.Grammar.Reader
import SqlExpr.Proofs.Grammar.Reading
import SqlExpr.Proofs.Grammar.Tree
import SqlExpr.Proofs.Grammar.Written
import SqlExpr.Proofs.Grammar.Normal
import SqlExpr.Proofs.Grammar.Grouping
import SqlExpr.Proofs.Grammar.RoundTrip
import SqlExpr.Proofs.Grammar.Value
import SqlExpr.Proofs.Grammar.Arithmetic
import SqlExpr.Proofs.Config.Steps
import SqlExpr.Proofs.Config.Agreement
import SqlExpr.Proofs.Name.Quoting
import SqlExpr.Proofs.Output.Rendering
import SqlExpr.Proofs.Query.Subquery
import SqlExpr.Proofs.Json.Printer
import SqlExpr.Proofs.Node.Checks
import SqlExpr.Proofs.Output.Failure
import SqlExpr.Proofs.Output.Sign
import SqlExpr.Proofs.Output.Spelling
import SqlExpr.Proofs.Config.Outcome
import SqlExpr.Proofs.Config.Settlement
import SqlExpr.Proofs.Grammar.Truth
import SqlExpr.Proofs.Grammar.Condition
import SqlExpr.Proofs.Query.Cursor
import SqlExpr.Proofs.Calendar.DayNumber
import SqlExpr.Proofs.Calendar.TimestampText
import SqlExpr.Proofs.Calendar.Instant
import SqlExpr.Proofs.Query.Periods
import SqlExpr.Proofs.Grammar.Infix
import SqlExpr.Proofs.Grammar.Membership
import SqlExpr.Proofs.Calendar.DayText
import SqlExpr.Proofs.Query.Day
import SqlExpr.Proofs.Node.Nesting
import SqlExpr.Proofs.Output.Array
import SqlExpr.Proofs.Node.Places
import SqlExpr.Proofs.Output.ArrayItems
import SqlExpr.Proofs.Output.Path
import SqlExpr.Proofs.Node.Chain
import SqlExpr.Proofs.Output.Chain
import SqlExpr.Proofs.Lexis.Quoted
import SqlExpr.Proofs.Value.Text
import SqlExpr.Proofs.Name.Reading
import SqlExpr.Proofs.Node.TypeGrammar
import SqlExpr.Proofs.Calendar.DayGrammar
import SqlExpr.Proofs.Value.Timestamp
import SqlExpr.Proofs.Query.DayShape
import SqlExpr.Proofs.Query.ArrayPosition
import SqlExpr.Proofs.Output.Cast
import SqlExpr.Proofs.Calendar.DayCount
import SqlExpr.Proofs.Calendar.Earlier
import SqlExpr.Proofs.Query.Since
import SqlExpr.Proofs.Text.LetterCase
import SqlExpr.Proofs.Text.WordCase
import SqlExpr.Proofs.Schema.Names
import SqlExpr.Proofs.Schema.Declaration
import SqlExpr.Proofs.Schema.Entries
import SqlExpr.Proofs.Schema.Settings
import SqlExpr.Proofs.Schema.Fields
import SqlExpr.Proofs.Schema.Derivation
import SqlExpr.Proofs.Schema.Constants
import SqlExpr.Proofs.Schema.DefaultName
import SqlExpr.Proofs.Query.SelectKeys
