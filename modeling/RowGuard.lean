import RowGuard.Comparison
import RowGuard.Compilation.Basic
import RowGuard.Compilation.Scope
import RowGuard.Config
import RowGuard.Context.ActorPath
import RowGuard.Context.Provider
import RowGuard.Context.ProviderMap
import RowGuard.Diagnostic
import RowGuard.Expr.Basic
import RowGuard.Expr.Parser
import RowGuard.Expr.Printer
import RowGuard.Log
import RowGuard.Named
import RowGuard.Number.Binary
import RowGuard.Number.Decimal
import RowGuard.Number.Undefined
import RowGuard.Operation
import RowGuard.Policy.Access
import RowGuard.Policy.Basic
import RowGuard.Policy.Build
import RowGuard.Policy.Explanation
import RowGuard.Policy.Registry
import RowGuard.Predicate.Basic
import RowGuard.Predicate.Compile
import RowGuard.Predicate.Eval
import RowGuard.Predicate.Printer
import RowGuard.Proofs.Agreement
import RowGuard.Proofs.Compilation
import RowGuard.Proofs.Expr.Grammar
import RowGuard.Proofs.Expr.Walk
import RowGuard.Proofs.Folding
import RowGuard.Proofs.Policy.Access
import RowGuard.Proofs.Policy.Build
import RowGuard.Proofs.Policy.Combination
import RowGuard.Proofs.Policy.Permission
import RowGuard.Proofs.Policy.Registry
import RowGuard.Proofs.Policy.Spelling
import RowGuard.Proofs.Predicate.Compilation
import RowGuard.Proofs.Predicate.Fragment
import RowGuard.Proofs.Predicate.Granting
import RowGuard.Proofs.Predicate.Laws
import RowGuard.Proofs.Predicate.Negation
import RowGuard.Proofs.Predicate.NullSafety
import RowGuard.Proofs.Predicate.RowTruth
import RowGuard.Proofs.Predicate.Truth
import RowGuard.Proofs.RowFilter.Access
import RowGuard.Proofs.RowFilter.Binding
import RowGuard.Proofs.RowFilter.Expressible
import RowGuard.Proofs.RowFilter.Failures
import RowGuard.Proofs.RowFilter.Laws
import RowGuard.Proofs.RowFilter.Lowering
import RowGuard.Proofs.RowFilter.Meaning
import RowGuard.Proofs.RowFilter.Shape
import RowGuard.Proofs.RowFilter.Tests
import RowGuard.Proofs.RowFilter.Truth
import RowGuard.Proofs.Traced
import RowGuard.Proofs.Truth
import RowGuard.Proofs.Value.Definedness
import RowGuard.Proofs.Value.Order
import RowGuard.RowFilter.Basic
import RowGuard.RowFilter.Bind
import RowGuard.RowFilter.Eval
import RowGuard.RowFilter.Lower
import RowGuard.RowFilter.Printer
import RowGuard.Schema.Entity
import RowGuard.Schema.Graph
import RowGuard.Schema.Location
import RowGuard.Schema.Model
import RowGuard.Session
import RowGuard.Sql.Clause
import RowGuard.Sql.Literal
import RowGuard.Sql.Name
import RowGuard.Sql.Render
import RowGuard.Text.CaseRanges
import RowGuard.Text.CharClass
import RowGuard.Text.CharRanges
import RowGuard.Text.LetterCase
import RowGuard.Text.Pattern
import RowGuard.Text.Quoted
import RowGuard.Token.Basic
import RowGuard.Token.Scan
import RowGuard.Traced
import RowGuard.Truth
import RowGuard.Unsupported
import RowGuard.Value.Attribute
import RowGuard.Value.Basic
import RowGuard.Value.Order
import RowGuard.Value.Printer
import RowGuard.Value.Read
import RowGuard.Proofs.Binding
import RowGuard.Proofs.Predicate.Defaults
import RowGuard.Proofs.FailClosed
import RowGuard.Proofs.Predicate.Findings
import RowGuard.Proofs.RowFilter.Findings
import RowGuard.Proofs.Findings
import RowGuard.Proofs.Policy.Isolation
import RowGuard.Proofs.Text.CharClass
import RowGuard.Proofs.Number.Rounding
import RowGuard.Proofs.Token.Lexical
import RowGuard.Proofs.Token.TypeName
import RowGuard.Proofs.Token.Closing
import RowGuard.Proofs.Token.Walk
import RowGuard.Proofs.Token.Number
import RowGuard.Proofs.Expr.Derivation
import RowGuard.Proofs.Expr.Soundness
import RowGuard.Proofs.Expr.Completeness
import RowGuard.Proofs.Expr.Capture
import RowGuard.Proofs.Expr.Lifting
import RowGuard.Proofs.Expr.Embedding
import RowGuard.Proofs.Expr.Reading
import RowGuard.Proofs.Expr.Connectives
import RowGuard.Proofs.Expr.Lexemes
import RowGuard.Proofs.Expr.Phrases
import RowGuard.Proofs.Expr.Printing
import RowGuard.Proofs.Expr.Recapture
import RowGuard.Proofs.Expr.RoundTrip
import RowGuard.Proofs.Expr.Restoration
import RowGuard.Proofs.Predicate.Layout
import RowGuard.Proofs.RowFilter.Stability
import RowGuard.Proofs.RowFilter.Normal
import RowGuard.Proofs.Strictness
import RowGuard.Proofs.Normalisation
import RowGuard.Proofs.RowFilter.Progress
import RowGuard.Proofs.Enforcement
import RowGuard.Proofs.Schema.Models
import RowGuard.Proofs.RowFilter.Layout
import RowGuard.Proofs.Sql.Rendering
import RowGuard.Proofs.Predicate.Stalling
import RowGuard.Proofs.FirstMatch
import RowGuard.Proofs.RoleGrant
import RowGuard.Proofs.Schema.Location
import RowGuard.Proofs.Schema.KeyMembers
import RowGuard.Proofs.Token.Faults
import RowGuard.Proofs.Token.Cast
import RowGuard.Proofs.Expr.Faults
import RowGuard.Proofs.Policy.Unreadable
import RowGuard.Proofs.Policy.Blame
import RowGuard.Proofs.Context.Resolution
import RowGuard.Proofs.Predicate.Faults
import RowGuard.Proofs.Predicate.Lists
import RowGuard.Proofs.LoadingModes
import RowGuard.Proofs.Rebinding
import RowGuard.Proofs.Policy.Diagnostics
import RowGuard.Proofs.Value.Loading
import RowGuard.Proofs.Loading
import RowGuard.Proofs.Predicate.Related
import RowGuard.Proofs.Splits
import RowGuard.Proofs.Holes
import RowGuard.Proofs.Number.Exactness
import RowGuard.Proofs.Expr.Negative
import RowGuard.Proofs.Remapping
import RowGuard.Proofs.Text.Pattern
import RowGuard.Proofs.Text.Tag
import RowGuard.Proofs.Dependence
import RowGuard.Proofs.Text.LetterCase
import RowGuard.Proofs.Text.Dotted
import RowGuard.Proofs.Named
import RowGuard.Proofs.Context.Table
import RowGuard.Proofs.Context.Layering
import RowGuard.Proofs.Context.Editing
import RowGuard.Proofs.Token.Spans
import RowGuard.Proofs.Expr.Confinement
import RowGuard.Proofs.Expr.Pointing
import RowGuard.Proofs.Expr.Positions
import RowGuard.Proofs.ShortCircuit
import RowGuard.Proofs.Predicate.Orientation
import RowGuard.Proofs.Schema.KeyOrder
