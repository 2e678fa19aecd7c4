import Narrowing.Access.Accessor
import Narrowing.Access.Rewrite
import Narrowing.Access.Table
import Narrowing.Access.Walk
import Narrowing.Arithmetic
import Narrowing.Assertion
import Narrowing.Bits
import Narrowing.Branches.Coverage
import Narrowing.Branches.Simplify
import Narrowing.Class
import Narrowing.Code.Binding
import Narrowing.Code.Declarations
import Narrowing.Code.Expression
import Narrowing.Code.Grammar
import Narrowing.Code.Margin
import Narrowing.Code.Node
import Narrowing.Code.Parser
import Narrowing.Code.Printer
import Narrowing.Code.Rules
import Narrowing.Code.Schema
import Narrowing.Code.Scope
import Narrowing.Code.Signature
import Narrowing.Code.Token
import Narrowing.Decimal.Binary
import Narrowing.Decimal.Layout
import Narrowing.Decimal.Limit
import Narrowing.Decimal.Read
import Narrowing.Decimal.Rounded
import Narrowing.Decimal.Shortest
import Narrowing.Decimal.Styled
import Narrowing.Descriptor
import Narrowing.Dispatch.Generate
import Narrowing.Dispatch.Specialize
import Narrowing.Dispatch.Umbrella
import Narrowing.Error
import Narrowing.Logged
import Narrowing.Note
import Narrowing.Number
import Narrowing.Oracle
import Narrowing.Oracle.Classes
import Narrowing.Oracle.Hierarchy
import Narrowing.Oracle.Levels
import Narrowing.Oracle.Recall
import Narrowing.Oracle.Relation
import Narrowing.Predicate
import Narrowing.Proofs.Access.Complete
import Narrowing.Proofs.Access.Copy
import Narrowing.Proofs.Access.Element
import Narrowing.Proofs.Access.Listed
import Narrowing.Proofs.Access.Mentions
import Narrowing.Proofs.Access.OneShot
import Narrowing.Proofs.Access.Remains
import Narrowing.Proofs.Access.Rewrite
import Narrowing.Proofs.Access.Scope
import Narrowing.Proofs.Access.Specific
import Narrowing.Proofs.Access.Starred
import Narrowing.Proofs.Access.Table
import Narrowing.Proofs.Access.Walk
import Narrowing.Proofs.Branches
import Narrowing.Proofs.Branches.Acceptance
import Narrowing.Proofs.Branches.Coverage
import Narrowing.Proofs.Branches.Cycle
import Narrowing.Proofs.Branches.Distinct
import Narrowing.Proofs.Branches.Order
import Narrowing.Proofs.Branches.Permuted
import Narrowing.Proofs.Branches.Preorder
import Narrowing.Proofs.Branches.Simplified
import Narrowing.Proofs.Branches.Stability
import Narrowing.Proofs.Branches.WellKnown
import Narrowing.Proofs.Class
import Narrowing.Proofs.Code.Binders
import Narrowing.Proofs.Code.BlankLines
import Narrowing.Proofs.Code.Cutting
import Narrowing.Proofs.Code.Declarations
import Narrowing.Proofs.Code.FirstLine
import Narrowing.Proofs.Code.Grammar
import Narrowing.Proofs.Code.Hoisting
import Narrowing.Proofs.Code.Parser
import Narrowing.Proofs.Code.Part
import Narrowing.Proofs.Code.Place
import Narrowing.Proofs.Code.Reads
import Narrowing.Proofs.Code.Scope
import Narrowing.Proofs.Code.Signature
import Narrowing.Proofs.Code.Thin
import Narrowing.Proofs.Code.Tidying
import Narrowing.Proofs.Code.Unindented
import Narrowing.Proofs.Descriptor
import Narrowing.Proofs.Dispatch.Accessor
import Narrowing.Proofs.Dispatch.Arguments
import Narrowing.Proofs.Dispatch.Chain
import Narrowing.Proofs.Dispatch.Counters
import Narrowing.Proofs.Dispatch.Exhaustive
import Narrowing.Proofs.Dispatch.Frames
import Narrowing.Proofs.Dispatch.Hygiene
import Narrowing.Proofs.Dispatch.Matchers
import Narrowing.Proofs.Dispatch.Names
import Narrowing.Proofs.Dispatch.Rebinding
import Narrowing.Proofs.Dispatch.Run
import Narrowing.Proofs.Dispatch.Simulation
import Narrowing.Proofs.Dispatch.Specialize
import Narrowing.Proofs.Dispatch.Template
import Narrowing.Proofs.Dispatch.Warning
import Narrowing.Proofs.Equality
import Narrowing.Proofs.Oracle.Ancestors
import Narrowing.Proofs.Oracle.Asking
import Narrowing.Proofs.Oracle.Below
import Narrowing.Proofs.Oracle.Classes
import Narrowing.Proofs.Oracle.Expansion
import Narrowing.Proofs.Oracle.Join
import Narrowing.Proofs.Oracle.LeastUpper
import Narrowing.Proofs.Oracle.Levels
import Narrowing.Proofs.Oracle.Nominal
import Narrowing.Proofs.Oracle.Preorder
import Narrowing.Proofs.Oracle.Recall
import Narrowing.Proofs.Oracle.Search
import Narrowing.Proofs.Oracle.Spellings
import Narrowing.Proofs.Oracle.Termination
import Narrowing.Proofs.Oracle.Tests
import Narrowing.Proofs.Oracle.Valuation
import Narrowing.Proofs.Run.Answer
import Narrowing.Proofs.Run.Following
import Narrowing.Proofs.Run.Function
import Narrowing.Proofs.Run.Hoisting
import Narrowing.Proofs.Run.Meaning
import Narrowing.Proofs.Run.Names
import Narrowing.Proofs.Run.Recovery
import Narrowing.Proofs.Run.Session
import Narrowing.Proofs.Spelling
import Narrowing.Proofs.Value.Membership
import Narrowing.Report
import Narrowing.Run.Callback
import Narrowing.Run.Calls
import Narrowing.Run.Constant
import Narrowing.Run.Definition
import Narrowing.Run.Meaning
import Narrowing.Run.Module
import Narrowing.Run.Names
import Narrowing.RuntimeTest
import Narrowing.Spelling
import Narrowing.Text.Case
import Narrowing.Text.CaseTable
import Narrowing.Text.CharacterName
import Narrowing.Text.CharacterSet
import Narrowing.Text.Decomposition
import Narrowing.Text.Encoding
import Narrowing.Text.Identifier
import Narrowing.Text.Letter
import Narrowing.Text.NormalForm
import Narrowing.Text.Numeral
import Narrowing.Text.Quoted
import Narrowing.Text.Unprintable
import Narrowing.Value.Arithmetic
import Narrowing.Value.Array
import Narrowing.Value.ArrayText
import Narrowing.Value.Assertion
import Narrowing.Value.Attribute
import Narrowing.Value.Builtin
import Narrowing.Value.Compare
import Narrowing.Value.Construct
import Narrowing.Value.Convert
import Narrowing.Value.Documentation
import Narrowing.Value.Element
import Narrowing.Value.ErrorClass
import Narrowing.Value.ErrorValue
import Narrowing.Value.Failure
import Narrowing.Value.Format
import Narrowing.Value.Hash
import Narrowing.Value.Hexadecimal
import Narrowing.Value.Items
import Narrowing.Value.Iterator
import Narrowing.Value.Kind
import Narrowing.Value.Machine
import Narrowing.Value.Member
import Narrowing.Value.Membership
import Narrowing.Value.Method
import Narrowing.Value.Method.Activation
import Narrowing.Value.Method.Error
import Narrowing.Value.Method.Keyed
import Narrowing.Value.Method.Number
import Narrowing.Value.Method.Sequence
import Narrowing.Value.Method.Text
import Narrowing.Value.Method.Translate
import Narrowing.Value.Method.Vector
import Narrowing.Value.MethodName
import Narrowing.Value.Reduction
import Narrowing.Value.Sorting
import Narrowing.Value.Specification
import Narrowing.Value.Store
import Narrowing.Value.Template
import Narrowing.Value.Text
import Narrowing.Value.Vector
import Narrowing.Word
