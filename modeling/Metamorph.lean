import Metamorph.Main
import Metamorph.Proofs.Generate.Equivalence
import Metamorph.Proofs.Generate.Success
import Metamorph.Proofs.Guest.Rendering
import Metamorph.Proofs.Generate.Range
import Metamorph.Proofs.Campaign.Acceptance
import Metamorph.Proofs.Bundle.Binary
import Metamorph.Proofs.Json.Tokens
import Metamorph.Proofs.Json.RoundTrip
import Metamorph.Proofs.Json.Record
import Metamorph.Proofs.Bundle.Json
import Metamorph.Proofs.Report.RoundTrip
import Metamorph.Proofs.Campaign.Durability
import Metamorph.Proofs.Campaign.Accounting
import Metamorph.Proofs.Checkout.Installation
import Metamorph.Proofs.Generate.Comparison
import Metamorph.Proofs.Generate.Scopes
import Metamorph.Proofs.Rewrite.Application
import Metamorph.Proofs.Rewrite.Perturbation
import Metamorph.Proofs.Circuit.Evaluation
import Metamorph.Proofs.Generate.Seeds
import Metamorph.Proofs.Report.Attribution
import Metamorph.Proofs.Report.Verdicts
import Metamorph.Proofs.Target.Timeouts
import Metamorph.Proofs.Report.Fingerprint
import Metamorph.Proofs.Report.Streams
import Metamorph.Proofs.Random.Selection
import Metamorph.Proofs.Expr.Replacement
import Metamorph.Proofs.Target.Selection
