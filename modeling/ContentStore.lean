import ContentStore.Main
import ContentStore.Proofs.FailedUpdates
import ContentStore.Proofs.QuotaLaw
import ContentStore.Proofs.Revocation
import ContentStore.Token.Verify
import ContentStore.Wire.Plan
import ContentStore.Proofs.Identity
import ContentStore.Proofs.Links
import ContentStore.Proofs.Uploads
import ContentStore.Proofs.Alike
import ContentStore.Proofs.TwoRuns
import ContentStore.Proofs.Requests
import ContentStore.Proofs.Privacy
import ContentStore.Proofs.Isolation
import ContentStore.Proofs.Overflow
import ContentStore.Proofs.Encodings
import ContentStore.Proofs.JsonReading
import ContentStore.Proofs.Paging
import ContentStore.Proofs.Tokens
import ContentStore.Proofs.Failures
import ContentStore.Proofs.Completion
import ContentStore.Proofs.Deletion
import ContentStore.Proofs.Shrinking
import ContentStore.Proofs.Convergence
import ContentStore.Proofs.Precedence
import ContentStore.Proofs.LostLookups
import ContentStore.Proofs.ReturnTrip
import ContentStore.Proofs.Registration
import ContentStore.Proofs.Downloads
import ContentStore.Proofs.Filters
import ContentStore.Proofs.RawTokens
import ContentStore.Proofs.Lifetimes
import ContentStore.Proofs.Digests
import ContentStore.Proofs.Sizes
import ContentStore.Proofs.Keepers
import ContentStore.Proofs.Overriding
import ContentStore.Proofs.OldestFirst
import ContentStore.Proofs.Separation
