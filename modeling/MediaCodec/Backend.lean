/-
Backends — codecs as the rest of the library sees them.

A backend answers calls.  What it answers may depend on every call made before, and on
nothing else, so it is a function of the calls so far and the present input.  An answer says
what was handed over, what was logged meanwhile, and how the call ended: with a status, or in
a panic.  A chunk is the content that was handed over; what the backend does to its memory
after that is no concern of the receiver, who has a copy.

A loader makes backends out of paths.
-/

import MediaCodec.Errors
import MediaCodec.Journal
import MediaCodec.Media

namespace MediaCodec

/-- How a call of a backend ends. -/
inductive Ending
  | status (code : Status)
  | panic
  deriving DecidableEq, Repr

/-- What a backend does in a call that hands over chunks. -/
structure Emission where
  chunks : List Bytes := []
  events : List Event := []
  ending : Ending := .status Status.ok

/-- What a backend does when it is asked for metadata: the fields that it writes. -/
structure Probe where
  width : Option UInt32 := none
  height : Option UInt32 := none
  duration : Option UInt64 := none
  events : List Event := []
  ending : Ending := .status Status.ok

/-- The metadata that a probe leaves in a fresh record. -/
def Probe.metadata (p : Probe) : VideoMetadata :=
  ⟨p.width.getD 0, p.height.getD 0, p.duration.getD 0⟩

/-- What a backend does when it is released.  Most backends do nothing. -/
structure Release where
  /-- Whether code of the host runs. -/
  told : Bool := false
  events : List Event := []

/-- A codec that can be called. -/
structure Backend where
  /-- What the backend is, for people. -/
  description : String := "codec backend"
  stream : Streaming → List Call → Bytes → Emission
  /-- Hands over the first frame of a video. -/
  firstFrame : List Call → Bytes → Emission
  /-- Writes the metadata of a video. -/
  getSize : List Call → Bytes → Probe
  release : Release := {}

/-- How an attempt to load a backend went. -/
structure Loading where
  events : List Event := []
  result : Except HostError Backend

/-- Makes backends out of paths. -/
structure Loader where
  /-- Whether loading runs code of the host. -/
  told : Bool
  load : List Call → Path → Loading

/-- What a machine says of itself. -/
structure Host where
  os : String
  arch : String
  deriving DecidableEq, Repr

end MediaCodec
