import PatternMachine.Builtin
import PatternMachine.Builtin.Formal
import PatternMachine.Builtin.List
import PatternMachine.Builtin.Number
import PatternMachine.Builtin.Text
import PatternMachine.Call
import PatternMachine.Code
import PatternMachine.Command
import PatternMachine.Command.Flag
import PatternMachine.Command.Invocation
import PatternMachine.Configuration
import PatternMachine.Conformance.Run
import PatternMachine.Conformance.Suite
import PatternMachine.Conformance.Verdict
import PatternMachine.Digest.Blake2b
import PatternMachine.Digest.Block
import PatternMachine.Digest.Hexadecimal
import PatternMachine.Digest.Md5
import PatternMachine.Digest.Ripemd160
import PatternMachine.Digest.Sha1
import PatternMachine.Digest.Sha256
import PatternMachine.Digest.Sha512
import PatternMachine.Document.Base64
import PatternMachine.Document.Composition
import PatternMachine.Document.Decode
import PatternMachine.Document.Node
import PatternMachine.Document.Record
import PatternMachine.Document.Scalar
import PatternMachine.Document.Timestamp
import PatternMachine.Document.Token
import PatternMachine.Document.Token.Block
import PatternMachine.Document.Token.Cursor
import PatternMachine.Document.Token.Flow
import PatternMachine.Document.Token.Lexer
import PatternMachine.Document.Token.Property
import PatternMachine.Document.Value
import PatternMachine.Evaluator
import PatternMachine.Exception
import PatternMachine.Files
import PatternMachine.Indexing
import PatternMachine.Interpreter
import PatternMachine.Kind
import PatternMachine.Machine
import PatternMachine.Main
import PatternMachine.Match
import PatternMachine.Number
import PatternMachine.Number.Binary64
import PatternMachine.Number.Literal
import PatternMachine.Number.RealFormat
import PatternMachine.Number.Shortest
import PatternMachine.Operator
import PatternMachine.Program
import PatternMachine.Program.Problem
import PatternMachine.Program.Reading
import PatternMachine.Program.Run
import PatternMachine.Program.Source
import PatternMachine.Program.Statement
import PatternMachine.Proofs.Tree
import PatternMachine.Proofs.Action
import PatternMachine.Proofs.Evolution
import PatternMachine.Proofs.Scope
import PatternMachine.Proofs.Framing
import PatternMachine.Proofs.Store
import PatternMachine.Regex
import PatternMachine.Regex.Class
import PatternMachine.Regex.Reader
import PatternMachine.Regex.Syntax
import PatternMachine.Report
import PatternMachine.Scope
import PatternMachine.Store
import PatternMachine.Term
import PatternMachine.Text.Blank
import PatternMachine.Text.CharacterClass
import PatternMachine.Text.Difference
import PatternMachine.Text.Difference.Edit
import PatternMachine.Text.Difference.Meeting
import PatternMachine.Text.Difference.Readable
import PatternMachine.Text.Difference.Script
import PatternMachine.Text.EditDistance
import PatternMachine.Text.Glob
import PatternMachine.Text.Grapheme
import PatternMachine.Text.Grapheme.Table
import PatternMachine.Text.LetterCase
import PatternMachine.Text.Printable
import PatternMachine.Text.Quoted
import PatternMachine.Text.RangeTable
import PatternMachine.Text.Search
import PatternMachine.Text.Utf8
import PatternMachine.Trace
import PatternMachine.Tree
import PatternMachine.Verbosity
import PatternMachine.Version
import PatternMachine.Version.Range
import PatternMachine.Walk
import PatternMachine.Proofs.Lawful
import PatternMachine.Proofs.Lawful.Builtin
import PatternMachine.Proofs.Lawful.Access
import PatternMachine.Proofs.Lawful.Match
import PatternMachine.Proofs.Lawful.Call
import PatternMachine.Proofs.Lawful.Walk
import PatternMachine.Proofs.Operation
import PatternMachine.Proofs.Reading
import PatternMachine.Proofs.Reading.Program
import PatternMachine.Proofs.Isolation
import PatternMachine.Proofs.Reachable
import PatternMachine.Proofs.Pattern.Outline
import PatternMachine.Proofs.Pattern.Acceptance
import PatternMachine.Proofs.Pattern.Value
import PatternMachine.Proofs.Pattern.Matching
import PatternMachine.Proofs.Pattern.Coverage
import PatternMachine.Proofs.Pattern.Comparison
import PatternMachine.Proofs.Pattern.Redundancy
import PatternMachine.Proofs.Lockstep
import PatternMachine.Proofs.Careful
import PatternMachine.Proofs.Careful.Access
import PatternMachine.Proofs.Careful.Builtin
import PatternMachine.Proofs.Careful.Call
import PatternMachine.Proofs.Careful.Walk
import PatternMachine.Proofs.Ledger.Loading
import PatternMachine.Proofs.Lockstep.Access
import PatternMachine.Proofs.Lockstep.Builtin
import PatternMachine.Proofs.Lockstep.Call
import PatternMachine.Proofs.Lockstep.Walk
import PatternMachine.Proofs.ProgramRun
import PatternMachine.Proofs.StaticScoping
import PatternMachine.Proofs.Values
import PatternMachine.Proofs.ProgramText
import PatternMachine.Proofs.Sparing
import PatternMachine.Proofs.Sparing.Match
import PatternMachine.Proofs.Inspection
import PatternMachine.Proofs.Congruence
import PatternMachine.Proofs.Congruence.Builtin
import PatternMachine.Proofs.Congruence.Evaluation
import PatternMachine.Proofs.ErrorPosition
import PatternMachine.Proofs.Layout
import PatternMachine.Proofs.Ownership
import PatternMachine.Proofs.Inspection.Covering
import PatternMachine.Proofs.Calling
import PatternMachine.Proofs.Relaxation
import PatternMachine.Proofs.Linearity
import PatternMachine.Proofs.DepthLimit
import PatternMachine.Proofs.Bracketing
import PatternMachine.Proofs.Assignment
import PatternMachine.Proofs.Likeness
import PatternMachine.Proofs.Pattern.Ground
import PatternMachine.Proofs.Pattern.Binders
import PatternMachine.Proofs.Pattern.Success
import PatternMachine.Proofs.Pattern.Rebuilding
import PatternMachine.Proofs.Pattern.Watching
import PatternMachine.Proofs.Pattern.Naming
import PatternMachine.Proofs.Quoting
import PatternMachine.Proofs.Range
import PatternMachine.Proofs.Equality
import PatternMachine.Proofs.IndexAssignment
import PatternMachine.Proofs.Pattern.Construction
import PatternMachine.Proofs.Regex.Matching
import PatternMachine.Proofs.Regex.Closing
import PatternMachine.Proofs.Regex.Enclosure
import PatternMachine.Proofs.Regex.Anchoring
import PatternMachine.Proofs.Pattern.RegularExpression
import PatternMachine.Proofs.Builtin.Call
import PatternMachine.Proofs.Builtin.Install
import PatternMachine.Proofs.Builtin.Comparison
import PatternMachine.Proofs.Number.Fields
import PatternMachine.Proofs.Number.Nearest
import PatternMachine.Proofs.Number.Numeral
import PatternMachine.Proofs.Builtin.Extremum
import PatternMachine.Proofs.Builtin.Conversion
import PatternMachine.Proofs.Stability
import PatternMachine.Proofs.Builtin.Sort
import PatternMachine.Proofs.Showing
import PatternMachine.Proofs.Builtin.Membership
import PatternMachine.Proofs.Text.Search
import PatternMachine.Proofs.Text.Grapheme
import PatternMachine.Proofs.Builtin.Occurrence
import PatternMachine.Proofs.Builtin.Splitting
import PatternMachine.Proofs.Pattern.TypeName
import PatternMachine.Proofs.Division
import PatternMachine.Proofs.Display
import PatternMachine.Proofs.ScopeOperation
import PatternMachine.Proofs.Reading.Alias
import PatternMachine.Proofs.Text.ByteOrder
import PatternMachine.Proofs.Suggestion
import PatternMachine.Proofs.Reading.Statement
import PatternMachine.Proofs.Pattern.Descent
