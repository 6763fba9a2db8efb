import NetworkPolicy.Access.Platform
import NetworkPolicy.Main
import NetworkPolicy.Proofs.Access.AskedApps
import NetworkPolicy.Proofs.Access.Batches
import NetworkPolicy.Proofs.Access.Decision
import NetworkPolicy.Proofs.Access.FailClosed
import NetworkPolicy.Proofs.Access.Inspections
import NetworkPolicy.Proofs.Access.UnknownApps
import NetworkPolicy.Proofs.Access.Verdict
import NetworkPolicy.Proofs.Access.Visibility
import NetworkPolicy.Proofs.Http.BodyReader
import NetworkPolicy.Proofs.Http.Joining
import NetworkPolicy.Proofs.Http.Query
import NetworkPolicy.Proofs.Server.Accesses
import NetworkPolicy.Proofs.Server.Chunks
import NetworkPolicy.Proofs.Server.Conservation
import NetworkPolicy.Proofs.Server.Handlers
import NetworkPolicy.Proofs.Server.Interleaving
import NetworkPolicy.Proofs.Server.Linearizability
import NetworkPolicy.Proofs.Server.Listing
import NetworkPolicy.Proofs.Server.Provenance
import NetworkPolicy.Proofs.Server.Reached
import NetworkPolicy.Proofs.Server.Replay
import NetworkPolicy.Proofs.Server.Resubmission
import NetworkPolicy.Proofs.Server.Retry
import NetworkPolicy.Proofs.Server.Scopes
import NetworkPolicy.Proofs.Server.Stages
import NetworkPolicy.Proofs.Server.TagIdentity
import NetworkPolicy.Proofs.Settings.Duration
import NetworkPolicy.Proofs.Store.Batching
import NetworkPolicy.Proofs.Store.Independence
import NetworkPolicy.Proofs.Store.Meaning
import NetworkPolicy.Proofs.Store.TagTexts
import NetworkPolicy.Proofs.Wire.Reconciliation
import NetworkPolicy.Proofs.Wire.RoundTrip
import NetworkPolicy.Proofs.Wire.Texts
