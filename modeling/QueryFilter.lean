import QueryFilter.CommandLine
import QueryFilter.Composition
import QueryFilter.DateFilter
import QueryFilter.Dialect
import QueryFilter.Evaluator
import QueryFilter.Failure
import QueryFilter.Field
import QueryFilter.Format.Json
import QueryFilter.Format.Settings
import QueryFilter.Format.Yaml
import QueryFilter.Format.Yaml.Layout
import QueryFilter.Format.Yaml.Node
import QueryFilter.Format.Yaml.Place
import QueryFilter.Format.Yaml.Scalar
import QueryFilter.Format.Yaml.Token
import QueryFilter.Grammar.Node
import QueryFilter.Grammar.Operator
import QueryFilter.Grammar.Wrapping
import QueryFilter.Main
import QueryFilter.Numeral.Binary64
import QueryFilter.Numeral.Decimal
import QueryFilter.Numeral.Number
import QueryFilter.Numeral.Shortest
import QueryFilter.Pattern.Bracket
import QueryFilter.Pattern.Cache
import QueryFilter.Pattern.Compile
import QueryFilter.Pattern.Element
import QueryFilter.Pattern.Flags
import QueryFilter.Pattern.Footprint
import QueryFilter.Pattern.Footprint.Basic
import QueryFilter.Pattern.Footprint.OfSet
import QueryFilter.Pattern.Footprint.OfWords
import QueryFilter.Pattern.Normal
import QueryFilter.Pattern.Property.Age
import QueryFilter.Pattern.Property.Ascii
import QueryFilter.Pattern.Property.Category
import QueryFilter.Pattern.Property.Derived
import QueryFilter.Pattern.Property.Folding
import QueryFilter.Pattern.Property.Listed
import QueryFilter.Pattern.Property.Named
import QueryFilter.Pattern.Property.Script
import QueryFilter.Pattern.Property.Segmentation
import QueryFilter.Pattern.Regex
import QueryFilter.Predicate.Clause
import QueryFilter.Predicate.Expr
import QueryFilter.Proofs.Composition.Balance
import QueryFilter.Proofs.Composition.Blanks
import QueryFilter.Proofs.Composition.Depth
import QueryFilter.Proofs.Composition.Failure
import QueryFilter.Proofs.Composition.LeftFold
import QueryFilter.Proofs.Composition.Overrides
import QueryFilter.Proofs.Composition.Terms
import QueryFilter.Proofs.Dialect
import QueryFilter.Proofs.Evaluator
import QueryFilter.Proofs.Except
import QueryFilter.Proofs.Grammar.Bare
import QueryFilter.Proofs.Grammar.Canonical
import QueryFilter.Proofs.Grammar.Extraction
import QueryFilter.Proofs.Grammar.Layers
import QueryFilter.Proofs.Grammar.Literal
import QueryFilter.Proofs.Grammar.Node
import QueryFilter.Proofs.Grammar.Stripping
import QueryFilter.Proofs.Grammar.Supported
import QueryFilter.Proofs.Grammar.Wrapping
import QueryFilter.Proofs.LooseMode
import QueryFilter.Proofs.Numeral.Decimal
import QueryFilter.Proofs.Numeral.Integer
import QueryFilter.Proofs.Numeral.Order
import QueryFilter.Proofs.Numeral.Rendering
import QueryFilter.Proofs.Numeral.Rounding
import QueryFilter.Proofs.Numeral.StrictOrder
import QueryFilter.Proofs.Pattern.Bracket
import QueryFilter.Proofs.Pattern.Closing
import QueryFilter.Proofs.Pattern.Group
import QueryFilter.Proofs.Pattern.Members
import QueryFilter.Proofs.Pattern.Run
import QueryFilter.Proofs.Pattern.Whole
import QueryFilter.Proofs.Predicate.Admitted
import QueryFilter.Proofs.Predicate.Balanced
import QueryFilter.Proofs.Predicate.Comparison
import QueryFilter.Proofs.Predicate.Dates
import QueryFilter.Proofs.Predicate.IgnoreCase
import QueryFilter.Proofs.Predicate.Member
import QueryFilter.Proofs.Predicate.Opposite
import QueryFilter.Proofs.Predicate.Rendering
import QueryFilter.Proofs.Predicate.Selection
import QueryFilter.Proofs.Predicate.Timestamps
import QueryFilter.Proofs.Registry
import QueryFilter.Proofs.Registry.Admitted
import QueryFilter.Proofs.Registry.Blanks
import QueryFilter.Proofs.Registry.Evaluators
import QueryFilter.Proofs.Registry.Stripping
import QueryFilter.Proofs.Request
import QueryFilter.Proofs.Search
import QueryFilter.Proofs.Session
import QueryFilter.Proofs.Staff.HireDates
import QueryFilter.Proofs.Text.Basic
import QueryFilter.Proofs.Text.Blank
import QueryFilter.Proofs.Text.Lowercase
import QueryFilter.Proofs.Text.Quoted
import QueryFilter.Proofs.Text.Slice
import QueryFilter.Proofs.Time.Calendar
import QueryFilter.Proofs.Time.DayNumber
import QueryFilter.Proofs.Time.Rendering
import QueryFilter.Proofs.Time.Timestamp
import QueryFilter.Registry
import QueryFilter.Request
import QueryFilter.Search
import QueryFilter.Session
import QueryFilter.Settings
import QueryFilter.Staff.Directory
import QueryFilter.Staff.Employee
import QueryFilter.Staff.Sample
import QueryFilter.Text.Basic
import QueryFilter.Text.Blank
import QueryFilter.Text.ByteRange
import QueryFilter.Text.FormEncoded
import QueryFilter.Text.Lowercase
import QueryFilter.Text.Quoted
import QueryFilter.Text.Utf8
import QueryFilter.Time.Calendar
import QueryFilter.Time.Timestamp
import QueryFilter.Unicode.Alphanumeric
import QueryFilter.Unicode.Casing
import QueryFilter.Unicode.CharSet
import QueryFilter.Unicode.GraphemeExtend
import QueryFilter.Unicode.Printable
import QueryFilter.Unicode.Table
import QueryFilter.Value
