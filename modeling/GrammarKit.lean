import GrammarKit.Catalog
import GrammarKit.Document
import GrammarKit.Document.Entries
import GrammarKit.Document.Moment
import GrammarKit.Document.Toml
import GrammarKit.Document.Toml.Quoted
import GrammarKit.Document.Toml.Reader
import GrammarKit.Document.Toml.Scalar
import GrammarKit.Document.Toml.Tree
import GrammarKit.Document.Yaml
import GrammarKit.Document.Yaml.Block
import GrammarKit.Document.Yaml.Cursor
import GrammarKit.Document.Yaml.Flowing
import GrammarKit.Document.Yaml.Label
import GrammarKit.Document.Yaml.Meaning
import GrammarKit.Document.Yaml.Node
import GrammarKit.Document.Yaml.Reader
import GrammarKit.Document.Yaml.Scalar
import GrammarKit.Document.Yaml.Token
import GrammarKit.Document.Yaml.Token.Stream
import GrammarKit.Env
import GrammarKit.Evaluator.Basic
import GrammarKit.Evaluator.Context
import GrammarKit.Evaluator.Extension
import GrammarKit.Evaluator.Function
import GrammarKit.Evaluator.Run
import GrammarKit.Expr
import GrammarKit.Grammar.Action
import GrammarKit.Grammar.Term
import GrammarKit.Host
import GrammarKit.Input
import GrammarKit.Journal
import GrammarKit.Moment
import GrammarKit.Number.Binary
import GrammarKit.Number.FloatText
import GrammarKit.Number.Integer
import GrammarKit.Number.Numeral
import GrammarKit.Number.Shortest
import GrammarKit.Parser.Basic
import GrammarKit.Parser.Primitive
import GrammarKit.Parser.Repeat
import GrammarKit.Pattern
import GrammarKit.Session.Answer
import GrammarKit.Session.Basic
import GrammarKit.Session.Catalog
import GrammarKit.Session.Command
import GrammarKit.Session.Decoding
import GrammarKit.Session.Env
import GrammarKit.Session.Evaluator
import GrammarKit.Session.Input
import GrammarKit.Session.Request
import GrammarKit.Session.Settings
import GrammarKit.Settings
import GrammarKit.Template.Basic
import GrammarKit.Template.Directive
import GrammarKit.Template.Form
import GrammarKit.Template.Writing
import GrammarKit.Text.Base64
import GrammarKit.Text.Blank
import GrammarKit.Text.CodePoint
import GrammarKit.Text.Letter
import GrammarKit.Text.Printable
import GrammarKit.Text.Quoted
import GrammarKit.Text.Utf8
import GrammarKit.Value
import GrammarKit.Proofs.Input
import GrammarKit.Proofs.Term
import GrammarKit.Proofs.Verdict
import GrammarKit.Proofs.Simulation
import GrammarKit.Proofs.ErrorPolicy
import GrammarKit.Proofs.Decoration
import GrammarKit.Proofs.Position
import GrammarKit.Proofs.Depth
import GrammarKit.Proofs.Recognition
import GrammarKit.Proofs.Repetition
import GrammarKit.Proofs.Peg
import GrammarKit.Proofs.LeftRecursion
import GrammarKit.Proofs.Termination
import GrammarKit.Proofs.Locality
import GrammarKit.Proofs.Env
import GrammarKit.Proofs.Expr
import GrammarKit.Proofs.Pattern
import GrammarKit.Proofs.Matching
import GrammarKit.Proofs.Equality
import GrammarKit.Proofs.Indistinguishable
import GrammarKit.Proofs.Correspondence
import GrammarKit.Proofs.Run
import GrammarKit.Proofs.Substitution
import GrammarKit.Proofs.Oblivious
import GrammarKit.Proofs.Feed
import GrammarKit.Proofs.Value
import GrammarKit.Proofs.Watched
import GrammarKit.Proofs.Invariant
import GrammarKit.Proofs.ShortCircuit
import GrammarKit.Proofs.ExceptionFree
import GrammarKit.Proofs.Progress
import GrammarKit.Proofs.Nesting
import GrammarKit.Proofs.Leaves
import GrammarKit.Proofs.Settings
import GrammarKit.Proofs.SettingsCommand
import GrammarKit.Proofs.Overlay
import GrammarKit.Proofs.LaidOver
import GrammarKit.Proofs.Collecting
import GrammarKit.Proofs.Choice
import GrammarKit.Proofs.FreeNames
import GrammarKit.Proofs.Irrelevance
import GrammarKit.Proofs.Block
import GrammarKit.Proofs.Meaning
import GrammarKit.Proofs.MonadLaws
import GrammarKit.Proofs.Comprehension
import GrammarKit.Proofs.Digits
import GrammarKit.Proofs.Chronicle
import GrammarKit.Proofs.Trace
import GrammarKit.Proofs.Instrumented
import GrammarKit.Proofs.Production
import GrammarKit.Proofs.Tree
import GrammarKit.Proofs.Likeness
import GrammarKit.Proofs.Equivalence
import GrammarKit.Proofs.Sequence
import GrammarKit.Proofs.Literal
import GrammarKit.Proofs.Simultaneous
import GrammarKit.Proofs.EvaluationTrace
import GrammarKit.Proofs.Arithmetic
import GrammarKit.Proofs.LabelTree
import GrammarKit.Proofs.RunCount
import GrammarKit.Proofs.Recency
