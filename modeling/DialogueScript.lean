import DialogueScript.Text.Basic
import DialogueScript.Value
import DialogueScript.Alphabet.Classes
import DialogueScript.Alphabet.CaseFold
import DialogueScript.Name
import DialogueScript.Text.Escape
import DialogueScript.Expr.Fault
import DialogueScript.Expr.Eval
import DialogueScript.Pattern
import DialogueScript.Alphabet.Lookup
import DialogueScript.Table
import DialogueScript.Script.Compile
import DialogueScript.Script.Inspect
import DialogueScript.Template
import DialogueScript.Host
import DialogueScript.Script.Json
import DialogueScript.Json.Value
import DialogueScript.Json.Reader
import DialogueScript.Engine.Create
import DialogueScript.Session.LineMode
import DialogueScript.Chat.Window
import DialogueScript.Scenario.Run
import DialogueScript.CommandLine.Answer
import DialogueScript.Main
import DialogueScript.Proofs.Engine.Turn
import DialogueScript.Proofs.Engine.Run
import DialogueScript.Proofs.Engine.Reachable
import DialogueScript.Proofs.Engine.Deferral
import DialogueScript.Proofs.Template.Braces
import DialogueScript.Proofs.Template.Replacement
import DialogueScript.Proofs.Template.BottomUp
import DialogueScript.Proofs.Expr.Reading
import DialogueScript.Proofs.Expr.Printing
import DialogueScript.Proofs.Expr.Climbing
import DialogueScript.Proofs.Expr.Descent
import DialogueScript.Proofs.Expr.Spelling
import DialogueScript.Proofs.Expr.Soundness
import DialogueScript.Proofs.Expr.RoundTrip
import DialogueScript.Proofs.Expr.Kinding
import DialogueScript.Proofs.Expr.Derivation
import DialogueScript.Proofs.Expr.Height
import DialogueScript.Proofs.Script.Inspection
import DialogueScript.Proofs.Script.Exploration
import DialogueScript.Proofs.Engine.Inspected
import DialogueScript.Proofs.Expr.Arrow
import DialogueScript.Proofs.Script.Layout
import DialogueScript.Proofs.Script.Recompile
import DialogueScript.Proofs.Engine.Protocol
import DialogueScript.Proofs.Engine.Bindings
import DialogueScript.Proofs.Expr.Filled
import DialogueScript.Proofs.Expr.Lookahead
import DialogueScript.Proofs.Template.Substitution
import DialogueScript.Proofs.Template.Evaluation
import DialogueScript.Proofs.Engine.Kinds
import DialogueScript.Proofs.Engine.Presentation
import DialogueScript.Proofs.Engine.Answers
import DialogueScript.Proofs.Scenario.Prepared
import DialogueScript.Proofs.Session.Conversation
import DialogueScript.Proofs.Session.FrontEnds
import DialogueScript.Proofs.Engine.Diagnostics
import DialogueScript.Proofs.Engine.Surfacing
import DialogueScript.Proofs.Engine.Resolution
import DialogueScript.Proofs.Engine.Retry
import DialogueScript.Proofs.Engine.Atomicity
import DialogueScript.Proofs.Session.Flags
import DialogueScript.Proofs.Script.Written
import DialogueScript.Proofs.Script.LastBlock
import DialogueScript.Proofs.Script.Validated
import DialogueScript.Proofs.Expr.Strictness
import DialogueScript.Proofs.Expr.Exactness
import DialogueScript.Proofs.Expr.Integrality
import DialogueScript.Proofs.Engine.ReadBack
import DialogueScript.Proofs.Text.Unescaping
import DialogueScript.Proofs.Alphabet.Inclusion
import DialogueScript.Proofs.Expr.Apart
import DialogueScript.Proofs.Expr.Assignable
import DialogueScript.Proofs.Template.Deletion
import DialogueScript.Proofs.Script.Faults
import DialogueScript.Proofs.Script.Spacing
import DialogueScript.Proofs.Script.Joining
import DialogueScript.Proofs.Engine.Registration
import DialogueScript.Proofs.Pattern.Wildcard
import DialogueScript.Proofs.Json.RoundTrip
import DialogueScript.Proofs.Script.Reload
import DialogueScript.Proofs.CommandLine.LineProtocol
import DialogueScript.Proofs.Chat.Window
import DialogueScript.Proofs.Expr.Balance
