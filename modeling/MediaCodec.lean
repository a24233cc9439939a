import MediaCodec.Boundary
import MediaCodec.Logging
import MediaCodec.Native.Loader
import MediaCodec.Proofs.Frame
import MediaCodec.Proofs.Streaming
import MediaCodec.Service.Request
import MediaCodec.Settings.Document
import MediaCodec.Proofs.Closing
import MediaCodec.Proofs.Opening
import MediaCodec.Proofs.Serving
import MediaCodec.Proofs.Atomicity
import MediaCodec.Proofs.Process
import MediaCodec.Proofs.WriteOnce
import MediaCodec.Proofs.Refinement
import MediaCodec.Proofs.Starting
import MediaCodec.Proofs.Shutdown
import MediaCodec.Proofs.Lifecycle
import MediaCodec.Proofs.Marshalling
import MediaCodec.Proofs.Causes
import MediaCodec.Service.Background
import MediaCodec.Proofs.Background
import MediaCodec.Proofs.Parallel
import MediaCodec.Proofs.Splitting
import MediaCodec.Proofs.Limit
import MediaCodec.Proofs.Policy
import MediaCodec.Proofs.Kept
import MediaCodec.Proofs.Speaking
import MediaCodec.Proofs.Listening
import MediaCodec.Proofs.Single
import MediaCodec.Proofs.Voice
import MediaCodec.Proofs.Lengths
import MediaCodec.Proofs.Settling
import MediaCodec.Proofs.Disclosure
import MediaCodec.Proofs.Grammar
import MediaCodec.Proofs.Variables
import MediaCodec.Proofs.Numerals
import MediaCodec.Proofs.Lookup
import MediaCodec.Proofs.Carrying
import MediaCodec.Proofs.Numbering
import MediaCodec.Proofs.Paths
import MediaCodec.Proofs.Placement
import MediaCodec.Proofs.FirstStart
import MediaCodec.Proofs.Containment
import MediaCodec.Proofs.Canonical
import MediaCodec.Proofs.Classification
import MediaCodec.Proofs.FileNames
import MediaCodec.Proofs.PlayingTime
import MediaCodec.Proofs.Building
import MediaCodec.Proofs.Remarks
import MediaCodec.Proofs.Telling
