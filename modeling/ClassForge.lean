import ClassForge.Main
import ClassForge.Proofs.Construction.Standard
import ClassForge.Proofs.Construction.Binding
import ClassForge.Proofs.Construction.Body
import ClassForge.Proofs.Construction.Result
import ClassForge.Proofs.Inheritance.History
import ClassForge.Proofs.Registry.Chain
import ClassForge.Proofs.Registry.Direct
import ClassForge.Proofs.Registry.Classes
import ClassForge.Proofs.Registry.Blame
import ClassForge.Proofs.Registry.Success
import ClassForge.Proofs.Check.Accepts
import ClassForge.Proofs.Registry.Checked
import ClassForge.Proofs.Builder.Changes
import ClassForge.Proofs.Inheritance.Substitution
import ClassForge.Proofs.Builder.Text
import ClassForge.Proofs.Inheritance.Coherence
import ClassForge.Proofs.Construction.Agreement
import ClassForge.Proofs.Construction.Hidden
import ClassForge.Proofs.Signature.Interleaving
import ClassForge.Proofs.Check.Cycles
import ClassForge.Proofs.Check.Validity
import ClassForge.Proofs.Registry.Recursion
import ClassForge.Proofs.Text.Separation
import ClassForge.Proofs.Signature.Formals
import ClassForge.Proofs.Builder.Faithful
import ClassForge.Proofs.Builder.Idle
import ClassForge.Proofs.Signature.Acceptance
import ClassForge.Proofs.Value.Equality
import ClassForge.Proofs.Value.Equivalence
import ClassForge.Proofs.Json.Reader
import ClassForge.Proofs.Json.Sorted
import ClassForge.Proofs.Value.Readings
import ClassForge.Proofs.Binary64.Magnitude
import ClassForge.Proofs.Text.Numeral
import ClassForge.Proofs.Capability.Coercion
import ClassForge.Proofs.Binary64.Rounding
import ClassForge.Proofs.Decimal.Shortest
import ClassForge.Proofs.Json.Finite
import ClassForge.Proofs.Json.Literal
import ClassForge.Proofs.Json.Written
import ClassForge.Proofs.Json.RoundTrip
import ClassForge.Proofs.Value.RoundTrip
import ClassForge.Proofs.Command.Arguments
import ClassForge.Proofs.Check.ClassHeader
import ClassForge.Proofs.Capability.Idempotence
import ClassForge.Proofs.Code.Nesting
import ClassForge.Proofs.Check.HeaderRange
