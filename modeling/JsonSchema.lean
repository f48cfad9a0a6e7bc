import JsonSchema.Main
import JsonSchema.Text.Quoted
import JsonSchema.Proofs.Additional
import JsonSchema.Proofs.Address
import JsonSchema.Proofs.Alias
import JsonSchema.Proofs.Chain
import JsonSchema.Proofs.Check
import JsonSchema.Proofs.Closed
import JsonSchema.Proofs.Constraint
import JsonSchema.Proofs.Culprit
import JsonSchema.Proofs.Declared
import JsonSchema.Proofs.Diagnostics
import JsonSchema.Proofs.Divisor
import JsonSchema.Proofs.Equality
import JsonSchema.Proofs.Evaluation
import JsonSchema.Proofs.Local
import JsonSchema.Proofs.Located
import JsonSchema.Proofs.Paths
import JsonSchema.Proofs.Validity
import JsonSchema.Proofs.Vocabulary
import JsonSchema.Proofs.Interchange
import JsonSchema.Proofs.Isolation
import JsonSchema.Proofs.Lookups
import JsonSchema.Proofs.Meaning
import JsonSchema.Proofs.Messages
import JsonSchema.Proofs.Parts
import JsonSchema.Proofs.Places
import JsonSchema.Proofs.Pointed
import JsonSchema.Proofs.Preorder
import JsonSchema.Proofs.Rebound
import JsonSchema.Proofs.Remainder
import JsonSchema.Proofs.Reordered.Validation
import JsonSchema.Proofs.Represented
import JsonSchema.Proofs.Scope
import JsonSchema.Proofs.Termination
import JsonSchema.Proofs.Totals
import JsonSchema.Proofs.Tracking
import JsonSchema.Proofs.Archive
import JsonSchema.Proofs.Lint
