import AccessPolicy.Main
import AccessPolicy.Service.Message
import AccessPolicy.Proofs.Policy.RoundTrip
import AccessPolicy.Proofs.Policy.Trace
import AccessPolicy.Proofs.Policy.Stopping
import AccessPolicy.Proofs.Policy.Reachable
import AccessPolicy.Proofs.Service.Failing
import AccessPolicy.Proofs.Service.Serial
import AccessPolicy.Proofs.Service.Replacing
import AccessPolicy.Proofs.Number.Integer
import AccessPolicy.Proofs.Policy.Grammar
import AccessPolicy.Proofs.Policy.Meaning
import AccessPolicy.Proofs.Text.Order
import AccessPolicy.Proofs.Policy.CanonicalForm
import AccessPolicy.Proofs.Service.Retrying
import AccessPolicy.Proofs.Service.Conditions
import AccessPolicy.Proofs.Policy.Malformed
import AccessPolicy.Proofs.CommandLine.Exporting
import AccessPolicy.Proofs.Service.Repeating
import AccessPolicy.Proofs.Identity.Correspondence
import AccessPolicy.Proofs.Policy.Equality
import AccessPolicy.Proofs.Policy.Inserting
import AccessPolicy.Proofs.Service.Administrators
import AccessPolicy.Proofs.CommandLine.Validating
import AccessPolicy.Proofs.CommandLine.Showing
