import SearchRules.Binary64
import SearchRules.OrderedMap
import SearchRules.Json.Numeral
import SearchRules.Json.StringLiteral
import SearchRules.Json.RoundTrip
import SearchRules.Text
import SearchRules.Json.Decode
import SearchRules.Config
import SearchRules.Document
import SearchRules.RuleError
import SearchRules.Draft
import SearchRules.Request
import SearchRules.Compiler.Basic
import SearchRules.Proofs.Draft.Edit
import SearchRules.Proofs.Rule.Edit
import SearchRules.Proofs.Document.Fragments
import SearchRules.Proofs.Document.Changes
import SearchRules.Proofs.Draft.Rendering
import SearchRules.Proofs.Compiler.Outcome
import SearchRules.Proofs.Compiler.ClosedForm
import SearchRules.Proofs.Json.Equality
import SearchRules.Proofs.Json.Decode
import SearchRules.Proofs.Rule.Named
import SearchRules.Proofs.Request.Builder
import SearchRules.Proofs.Request.Text
import SearchRules.Proofs.Fragment.Alike
import SearchRules.Proofs.Draft.Alike
import SearchRules.Proofs.Rule.Alike
import SearchRules.Proofs.Compiler.Congruence
import SearchRules.Proofs.Compiler.Refusal
import SearchRules.Proofs.Fragment.Shape
import SearchRules.Proofs.Fragment.Body
import SearchRules.Proofs.Draft.Layout
import SearchRules.Proofs.Compiler.Reordering
import SearchRules.Proofs.Compiler.Script
import SearchRules.Proofs.Compiler.Skipped
import SearchRules.Proofs.Compiler.Account
import SearchRules.Proofs.Compiler.Shadowing
import SearchRules.Proofs.Json.Grammar
import SearchRules.Proofs.Request.Forms
import SearchRules.Proofs.Rule.Forms
import SearchRules.Proofs.Rule.Grammar
import SearchRules.Proofs.Rule.Part
import SearchRules.Proofs.Rule.Fault
import SearchRules.Proofs.Rule.FirstFault
import SearchRules.Proofs.Rule.Range
import SearchRules.Proofs.Rule.Calls
import SearchRules.Proofs.Json.Portable
import SearchRules.Proofs.Document.Text
import SearchRules.Proofs.Document.Codec
import SearchRules.Proofs.Rule.Values
import SearchRules.Proofs.Compiler.ReadBack
import SearchRules.Proofs.Compiler.Repetition
import SearchRules.Proofs.Compiler.Registration
import SearchRules.Proofs.Text.Setting
import SearchRules.Proofs.Config.Limit
import SearchRules.Proofs.Config.Environment
