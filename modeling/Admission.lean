import Admission.Main
import Admission.KeySet.Burst
import Admission.Proofs.Application.History
import Admission.Proofs.Bearer
import Admission.Proofs.Bearer.Credentials
import Admission.Proofs.Bytes.Base64
import Admission.Proofs.Bytes.Hex
import Admission.Proofs.Decision
import Admission.Proofs.Gate.Accounting
import Admission.Proofs.Gate.Journey
import Admission.Proofs.Gate.Judging
import Admission.Proofs.Gate.Routes
import Admission.Proofs.Identity.Loading
import Admission.Proofs.KeySet.Amplification
import Admission.Proofs.KeySet.Coalescing
import Admission.Proofs.KeySet.History
import Admission.Proofs.KeySet.Installation
import Admission.Proofs.KeySet.Listing
import Admission.Proofs.KeySet.Outage
import Admission.Proofs.KeySet.Prefetching
import Admission.Proofs.KeySet.Provenance
import Admission.Proofs.KeySet.Rotation
import Admission.Proofs.KeySet.Rush
import Admission.Proofs.KeySet.Window
import Admission.Proofs.Nonce.Ledger
import Admission.Proofs.Nonce.Table
import Admission.Proofs.Outcome
import Admission.Proofs.Role.Canonical
import Admission.Proofs.Role.Membership
import Admission.Proofs.Secret.History
import Admission.Proofs.Secret.Lookup
import Admission.Proofs.Secret.Overlap
import Admission.Proofs.Service.Acceptance
import Admission.Proofs.Service.Issuers
import Admission.Proofs.Settings.Providers
import Admission.Proofs.Settings.Reading
import Admission.Proofs.Settings.Webhooks
import Admission.Proofs.Text.Lowercase
import Admission.Proofs.Text.Splitting
import Admission.Proofs.Token.Interval
import Admission.Proofs.User.Binding
import Admission.Proofs.User.Outage
import Admission.Proofs.User.Roles
import Admission.Proofs.Verifiers.Interval
import Admission.Proofs.Verifiers.Resolution
import Admission.Proofs.Webhook.Acceptance
import Admission.Proofs.Webhook.Decoding
import Admission.Proofs.Webhook.Guarding
import Admission.Proofs.Webhook.History
import Admission.Proofs.Webhook.Influence
import Admission.Proofs.Webhook.Lapsing
import Admission.Proofs.Webhook.Replay
import Admission.Proofs.Webhook.SignedText
import Admission.Proofs.Webhook.Spacing
import Admission.Proofs.Webhook.Timestamps
