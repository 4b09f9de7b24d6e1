import InterfaceGen.Artifact
import InterfaceGen.Client.Module
import InterfaceGen.Command.Arguments
import InterfaceGen.Command.Plan
import InterfaceGen.Command.Run
import InterfaceGen.Command.Workspace
import InterfaceGen.Config.Basic
import InterfaceGen.Config.Load
import InterfaceGen.Config.Toml
import InterfaceGen.Error
import InterfaceGen.Form.Control
import InterfaceGen.Form.Default
import InterfaceGen.Form.Element
import InterfaceGen.Form.Helper
import InterfaceGen.Form.Module
import InterfaceGen.Form.Usage
import InterfaceGen.Json.Basic
import InterfaceGen.Json.Numeral
import InterfaceGen.Json.Printer
import InterfaceGen.Json.Quoted
import InterfaceGen.Json.Reader
import InterfaceGen.Main
import InterfaceGen.Naming.Kebab
import InterfaceGen.Naming.Plural
import InterfaceGen.Naming.Resource
import InterfaceGen.Proofs.Command.Check
import InterfaceGen.Proofs.Command.Run
import InterfaceGen.Proofs.Config.Addresses
import InterfaceGen.Proofs.Config.Literals
import InterfaceGen.Proofs.Form.Bindings
import InterfaceGen.Proofs.Form.Casts
import InterfaceGen.Proofs.Form.Closure
import InterfaceGen.Proofs.Form.Controls
import InterfaceGen.Proofs.Form.Defaults
import InterfaceGen.Proofs.Form.Jsx
import InterfaceGen.Proofs.Form.Names
import InterfaceGen.Proofs.Form.Outline
import InterfaceGen.Proofs.Form.PathImport
import InterfaceGen.Proofs.Form.ReadBack
import InterfaceGen.Proofs.Form.Reader
import InterfaceGen.Proofs.Form.Recovery
import InterfaceGen.Proofs.Form.Submission
import InterfaceGen.Proofs.Json.Quoted
import InterfaceGen.Proofs.Json.ReadBack
import InterfaceGen.Proofs.Naming.Cuts
import InterfaceGen.Proofs.Naming.Kebab
import InterfaceGen.Proofs.Naming.Plural
import InterfaceGen.Proofs.Naming.Resource
import InterfaceGen.Proofs.Schema.Chains
import InterfaceGen.Proofs.Schema.Cursor
import InterfaceGen.Proofs.Schema.Dump
import InterfaceGen.Proofs.Schema.Fronts
import InterfaceGen.Proofs.Schema.Layout
import InterfaceGen.Proofs.Schema.Levels
import InterfaceGen.Proofs.Schema.LineEdges
import InterfaceGen.Proofs.Schema.LineEndings
import InterfaceGen.Proofs.Schema.NormalForm
import InterfaceGen.Proofs.Schema.Pieces
import InterfaceGen.Proofs.Schema.Placement
import InterfaceGen.Proofs.Schema.Preorder
import InterfaceGen.Proofs.Schema.Printed
import InterfaceGen.Proofs.Schema.ReadBack
import InterfaceGen.Proofs.Schema.Repairs
import InterfaceGen.Proofs.Schema.Strict
import InterfaceGen.Proofs.Schema.Surroundings
import InterfaceGen.Proofs.Schema.TypeText
import InterfaceGen.Proofs.Session
import InterfaceGen.Proofs.Source.Balance
import InterfaceGen.Proofs.Source.Bytes
import InterfaceGen.Proofs.Source.Header
import InterfaceGen.Proofs.Source.LineEndings
import InterfaceGen.Proofs.Source.Location
import InterfaceGen.Proofs.Source.Matching
import InterfaceGen.Proofs.Source.Nesting
import InterfaceGen.Proofs.Source.Offsets
import InterfaceGen.Proofs.Source.Repairs
import InterfaceGen.Proofs.Source.Surroundings
import InterfaceGen.Proofs.Text.Blanks
import InterfaceGen.Proofs.Text.Case
import InterfaceGen.Proofs.Text.LineEndings
import InterfaceGen.Proofs.Text.Lines
import InterfaceGen.Proofs.Text.Lowering
import InterfaceGen.Proofs.Text.PositionOrder
import InterfaceGen.Proofs.Text.Positions
import InterfaceGen.Proofs.Text.Reads
import InterfaceGen.Proofs.Text.Slices
import InterfaceGen.Proofs.Text.WholeLines
import InterfaceGen.Proofs.TypeScript.Imports
import InterfaceGen.Proofs.TypeScript.Tokens
import InterfaceGen.Proofs.TypeScript.TopLevel
import InterfaceGen.Proofs.Validation.Edits
import InterfaceGen.Proofs.Validation.Places
import InterfaceGen.Proofs.Validation.Reports
import InterfaceGen.Proofs.Validation.Weakening
import InterfaceGen.Proofs.Zod.Acceptance
import InterfaceGen.Proofs.Zod.Outline
import InterfaceGen.Proofs.Zod.ReadBack
import InterfaceGen.Proofs.Zod.Reader
import InterfaceGen.Proofs.Zod.Recovery
import InterfaceGen.Sample
import InterfaceGen.Schema.Basic
import InterfaceGen.Schema.Body
import InterfaceGen.Schema.OfSource
import InterfaceGen.Schema.Path
import InterfaceGen.Schema.Walk
import InterfaceGen.Schema.Wire
import InterfaceGen.Session
import InterfaceGen.Source.Braces
import InterfaceGen.Source.Declaration
import InterfaceGen.Text.Blank
import InterfaceGen.Text.Case
import InterfaceGen.Text.CodePoints
import InterfaceGen.Text.Escaped
import InterfaceGen.Text.Lines
import InterfaceGen.Text.Name
import InterfaceGen.Text.Position
import InterfaceGen.Text.Printable
import InterfaceGen.Text.Reader
import InterfaceGen.Text.Word
import InterfaceGen.TypeScript.Import
import InterfaceGen.TypeScript.Literal
import InterfaceGen.Validation
import InterfaceGen.Zod.Expr
import InterfaceGen.Zod.Module
