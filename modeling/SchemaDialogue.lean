import SchemaDialogue.Address.Basic
import SchemaDialogue.Address.Escape
import SchemaDialogue.Address.Host
import SchemaDialogue.Address.Path
import SchemaDialogue.Address.Read
import SchemaDialogue.Binary64.Basic
import SchemaDialogue.Binary64.Shortest
import SchemaDialogue.Command.Arguments
import SchemaDialogue.Command.ConversationLog
import SchemaDialogue.Command.FieldPattern
import SchemaDialogue.Command.Log
import SchemaDialogue.Command.LogFilter
import SchemaDialogue.Command.Paint
import SchemaDialogue.Command.Run
import SchemaDialogue.Command.Stage
import SchemaDialogue.Command.Usage
import SchemaDialogue.Conform.Check
import SchemaDialogue.Conform.Finding
import SchemaDialogue.Conform.Scope
import SchemaDialogue.Conform.Shape
import SchemaDialogue.Conform.Union
import SchemaDialogue.Conform.Validate
import SchemaDialogue.Describe.Ancestry
import SchemaDialogue.Describe.Definition
import SchemaDialogue.Describe.Encode
import SchemaDialogue.Describe.Form
import SchemaDialogue.Describe.Host
import SchemaDialogue.Describe.Registry
import SchemaDialogue.Describe.Show
import SchemaDialogue.Describe.TypeExpr
import SchemaDialogue.Dialogue.ModelError
import SchemaDialogue.Dialogue.Options
import SchemaDialogue.Dialogue.Retry
import SchemaDialogue.Dialogue.Script
import SchemaDialogue.Dialogue.Section
import SchemaDialogue.Dialogue.Translate
import SchemaDialogue.Dialogue.Wording
import SchemaDialogue.Domain.Ascii
import SchemaDialogue.Domain.Composition
import SchemaDialogue.Domain.Label
import SchemaDialogue.Domain.Mapping
import SchemaDialogue.Domain.Marks
import SchemaDialogue.Domain.Punycode
import SchemaDialogue.Domain.Traits
import SchemaDialogue.Domain.Variants
import SchemaDialogue.Endpoint.Config
import SchemaDialogue.Endpoint.Exchange
import SchemaDialogue.Endpoint.Reason
import SchemaDialogue.Entries
import SchemaDialogue.Files.Pattern
import SchemaDialogue.Files.Search
import SchemaDialogue.Files.System
import SchemaDialogue.Files.Tree
import SchemaDialogue.Interface.Convert
import SchemaDialogue.Interface.Graph
import SchemaDialogue.Interface.Node
import SchemaDialogue.Interface.Render
import SchemaDialogue.Json.Basic
import SchemaDialogue.Json.Draft
import SchemaDialogue.Json.Fault
import SchemaDialogue.Json.Number
import SchemaDialogue.Json.Numeral
import SchemaDialogue.Json.Parse
import SchemaDialogue.Json.Pointer
import SchemaDialogue.Json.Print
import SchemaDialogue.Json.Scan
import SchemaDialogue.Json.Strip
import SchemaDialogue.Json.Token
import SchemaDialogue.Main
import SchemaDialogue.Measure
import SchemaDialogue.Power
import SchemaDialogue.Proofs.Agreement
import SchemaDialogue.Proofs.Arises
import SchemaDialogue.Proofs.Attempts
import SchemaDialogue.Proofs.Backoff
import SchemaDialogue.Proofs.Blame
import SchemaDialogue.Proofs.CheckEquations
import SchemaDialogue.Proofs.CheckPlan
import SchemaDialogue.Proofs.CheckViews
import SchemaDialogue.Proofs.Choices
import SchemaDialogue.Proofs.ClosedContexts
import SchemaDialogue.Proofs.Confinement
import SchemaDialogue.Proofs.Conformance
import SchemaDialogue.Proofs.Contexts
import SchemaDialogue.Proofs.Conversation
import SchemaDialogue.Proofs.Decimal
import SchemaDialogue.Proofs.DeclarationText
import SchemaDialogue.Proofs.Documentation
import SchemaDialogue.Proofs.Entries
import SchemaDialogue.Proofs.Enumeration
import SchemaDialogue.Proofs.ErrorFree
import SchemaDialogue.Proofs.ExactIntegers
import SchemaDialogue.Proofs.Expansion
import SchemaDialogue.Proofs.Exploration
import SchemaDialogue.Proofs.Extents
import SchemaDialogue.Proofs.Extraction
import SchemaDialogue.Proofs.Formats
import SchemaDialogue.Proofs.Generics
import SchemaDialogue.Proofs.Grammar
import SchemaDialogue.Proofs.Heritage
import SchemaDialogue.Proofs.HostValues
import SchemaDialogue.Proofs.Inhabitation
import SchemaDialogue.Proofs.Inheritance
import SchemaDialogue.Proofs.Instantiate
import SchemaDialogue.Proofs.IntegerLiterals
import SchemaDialogue.Proofs.IntegerNames
import SchemaDialogue.Proofs.Isolation
import SchemaDialogue.Proofs.Journal
import SchemaDialogue.Proofs.JsonText
import SchemaDialogue.Proofs.Linearization
import SchemaDialogue.Proofs.LocalCheck
import SchemaDialogue.Proofs.Locality
import SchemaDialogue.Proofs.Lowering
import SchemaDialogue.Proofs.MapKeys
import SchemaDialogue.Proofs.Members
import SchemaDialogue.Proofs.Mentions
import SchemaDialogue.Proofs.Naming
import SchemaDialogue.Proofs.NormalForm
import SchemaDialogue.Proofs.OptionalNulls
import SchemaDialogue.Proofs.Parts
import SchemaDialogue.Proofs.ReadBack
import SchemaDialogue.Proofs.Reading
import SchemaDialogue.Proofs.Rearrangement
import SchemaDialogue.Proofs.Redeclared
import SchemaDialogue.Proofs.Registration
import SchemaDialogue.Proofs.Renaming
import SchemaDialogue.Proofs.Reordering
import SchemaDialogue.Proofs.RequestBudget
import SchemaDialogue.Proofs.RoundTrip
import SchemaDialogue.Proofs.Scanning
import SchemaDialogue.Proofs.Simulation
import SchemaDialogue.Proofs.Slots
import SchemaDialogue.Proofs.Spelling
import SchemaDialogue.Proofs.Stripping
import SchemaDialogue.Proofs.Termination
import SchemaDialogue.Proofs.Terms
import SchemaDialogue.Proofs.Trailing
import SchemaDialogue.Proofs.TypeText
import SchemaDialogue.Proofs.UnionFindings
import SchemaDialogue.Proofs.UnionText
import SchemaDialogue.Proofs.Utf8
import SchemaDialogue.Proofs.Verdict
import SchemaDialogue.Proofs.Walk
import SchemaDialogue.Proofs.Widening
import SchemaDialogue.Proofs.Words
import SchemaDialogue.Read.Basic
import SchemaDialogue.Read.Choice
import SchemaDialogue.Read.Failure
import SchemaDialogue.Read.Mismatch
import SchemaDialogue.Read.Record
import SchemaDialogue.Sample.Orders
import SchemaDialogue.Sample.Plain
import SchemaDialogue.Sample.Wordings
import SchemaDialogue.Schema
import SchemaDialogue.Text.Alphanumeric
import SchemaDialogue.Text.Blank
import SchemaDialogue.Text.Digits
import SchemaDialogue.Text.Duration
import SchemaDialogue.Text.Place
import SchemaDialogue.Text.Quoted
import SchemaDialogue.Text.Ranges
import SchemaDialogue.Text.Symbol
import SchemaDialogue.Text.Visible
