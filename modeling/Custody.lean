import Custody.Cursor
import Custody.Inspect
import Custody.Proofs.Buffers.Construction
import Custody.Proofs.ByteLists.Agreement
import Custody.Proofs.Cursors.Decoding
import Custody.Proofs.Cursors.Sharing
import Custody.Proofs.Deferral.Warnings
import Custody.Proofs.Delivery.Outcomes
import Custody.Proofs.Delivery.Routing
import Custody.Proofs.Delivery.Termination
import Custody.Proofs.Delivery.Uninterrupted
import Custody.Proofs.Errors.Numbering
import Custody.Proofs.Hosting.FailedSends
import Custody.Proofs.Hosting.Frees
import Custody.Proofs.Hosting.NullHandles
import Custody.Proofs.Ownership.ExactlyOnce
import Custody.Proofs.Ownership.HandleLife
import Custody.Proofs.Reading.FailedReads
import Custody.Proofs.Reading.Isolation
import Custody.Proofs.References.Conservation
import Custody.Proofs.RoundTrip.ByteArrays
import Custody.Proofs.RoundTrip.Integers
import Custody.Proofs.RoundTrip.Signatures
import Custody.Proofs.Settings.Grammar
import Custody.Proofs.Writing.Arrival
import Custody.Proofs.Writing.BufferWrites
import Custody.Proofs.Writing.Sequences
import Custody.Text.Hex
import Custody.Text.Utf8.Lossy
import Custody.Proofs.Delivery.Answers
