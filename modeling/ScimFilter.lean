import ScimFilter.Text.Ranges
import ScimFilter.Token
import ScimFilter.Lexer.Scan
import ScimFilter.Lexer.ScanFacts
import ScimFilter.Lexer.Scim
import ScimFilter.Decimal.Shortest
import ScimFilter.Decimal.Notation
import ScimFilter.Decimal.Read
import ScimFilter.Json
import ScimFilter.Timestamp.Calendar
import ScimFilter.Timestamp.Scan
import ScimFilter.Timestamp.Stamp
import ScimFilter.Timestamp.Rfc3339
import ScimFilter.Timestamp.Rfc2822
import ScimFilter.Timestamp.Layout
import ScimFilter.Filter.AttributePath
import ScimFilter.Filter.Operator
import ScimFilter.Filter.Value
import ScimFilter.Filter.Basic
import ScimFilter.Error
import ScimFilter.Filter.Render
import ScimFilter.Filter.Tree
import ScimFilter.Filter.Grammar
import ScimFilter.Filter.Read
import ScimFilter.Filter.CursorGrammar
import ScimFilter.Text.Printable
import ScimFilter.Text.GraphemeExtend
import ScimFilter.Text.WordChar
import ScimFilter.Text.CaseFold
import ScimFilter.Text.GeneralCategory
import ScimFilter.Text.Script
import ScimFilter.Text.ScriptExtension
import ScimFilter.Text.Property.Case
import ScimFilter.Text.Property.Identifier
import ScimFilter.Text.Property.Grapheme
import ScimFilter.Text.Property.Emoji
import ScimFilter.Text.Property.Symbol
import ScimFilter.Text.Property
import ScimFilter.Text.Age
import ScimFilter.Text.Break.Grapheme
import ScimFilter.Text.Break.Word
import ScimFilter.Text.Break.Sentence
import ScimFilter.Text.Alphanumeric
import ScimFilter.Pattern.CharSet
import ScimFilter.Pattern.Basic
import ScimFilter.Pattern.Classes
import ScimFilter.Pattern.Property
import ScimFilter.Pattern.Parse
import ScimFilter.Pattern.Match
import ScimFilter.Pattern.ByteRanges
import ScimFilter.Pattern.Term
import ScimFilter.Pattern.Footprint.Tally
import ScimFilter.Pattern.Footprint.Classes
import ScimFilter.Pattern.Footprint.Literals
import ScimFilter.Pattern.Footprint
import ScimFilter.Lexer.Patterns
import ScimFilter.Cursor
import ScimFilter.Command.Check
import ScimFilter.Command.Similar
import ScimFilter.Command.Spec
import ScimFilter.Command.Line
import ScimFilter.Command.Run
import ScimFilter.Main
import ScimFilter.Proofs.Derivation
import ScimFilter.Proofs.Productions
import ScimFilter.Proofs.Descent
import ScimFilter.Proofs.Reading
import ScimFilter.Proofs.Reads
import ScimFilter.Proofs.Boundaries
import ScimFilter.Proofs.PlainNumbers
import ScimFilter.Proofs.Composition
import ScimFilter.Proofs.Rendering
import ScimFilter.Proofs.Nesting
import ScimFilter.Proofs.Versions
import ScimFilter.Proofs.CursorRuns
import ScimFilter.Proofs.Concatenation
import ScimFilter.Proofs.NumberTokens
import ScimFilter.Proofs.AttributePaths
import ScimFilter.Proofs.Projection
import ScimFilter.Proofs.CallGraph
import ScimFilter.Proofs.SharedCursor
