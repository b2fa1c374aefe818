import GuestBoundary.Arena
import GuestBoundary.Event.Host
import GuestBoundary.Proofs.Codec.RawBytes
import GuestBoundary.Proofs.Codec.RoundTrip
import GuestBoundary.Proofs.Codec.Sizes
import GuestBoundary.Proofs.Event.Answers
import GuestBoundary.Proofs.Event.Cascade
import GuestBoundary.Proofs.Event.Closing
import GuestBoundary.Proofs.Event.Conservation
import GuestBoundary.Proofs.Event.Dismantling
import GuestBoundary.Proofs.Event.Duplication
import GuestBoundary.Proofs.Event.Failures
import GuestBoundary.Proofs.Event.Fields
import GuestBoundary.Proofs.Event.Getting
import GuestBoundary.Proofs.Event.Resolution
import GuestBoundary.Proofs.Event.Returns
import GuestBoundary.Proofs.Event.Setting
import GuestBoundary.Proofs.Event.Unopened
import GuestBoundary.Proofs.Guest.Agreement
import GuestBoundary.Proofs.Guest.Reaching
import GuestBoundary.Proofs.Memory.Words
import GuestBoundary.Proofs.Resource.Destructions
import GuestBoundary.Proofs.Slab.Cancellation
import GuestBoundary.Proofs.Slab.Growth
import GuestBoundary.Proofs.Slab.Stopping
import GuestBoundary.Slab
