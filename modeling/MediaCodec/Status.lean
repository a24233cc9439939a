/-
Statuses — how a call across a C boundary says how it went.

Zero is success.  The sixteen lowest numbers are kept for failures found on this side of the
boundary; a codec's own failures are any other numbers and pass through unchanged.
-/

namespace MediaCodec

/-- A status: a C `int`. -/
abbrev Status := Int32

namespace Status

def ok : Status := 0

/-- The lowest status; it starts the reserved range. -/
def reservedBase : Status := Int32.minValue

/-- The input does not fit a C `int`. -/
def inputTooLarge : Status := reservedBase

/-- The receiver of chunks panicked during a native call. -/
def sinkPanicked : Status := reservedBase + 1

/-- The input was refused, or a required pointer was null. -/
def invalidInput : Status := reservedBase + 2

/-- No codec is built for this machine. -/
def unsupportedPlatform : Status := reservedBase + 3

/-- The codec library could not be loaded. -/
def backendLoad : Status := reservedBase + 4

/-- The codec reported success with an unusable result. -/
def malformedResult : Status := reservedBase + 5

/-- The codec was closed. -/
def backendClosed : Status := reservedBase + 6

/-- A panic was caught, or the configuration is bad. -/
def internal : Status := reservedBase + 7

/-- Whether a status is kept for failures found on this side. -/
def isReserved (s : Status) : Bool := s.toInt < reservedBase.toInt + 16

/-- The text of a status for people. -/
def message (s : Status) : String :=
  if s = ok then "Success"
  else if s = invalidInput then "Invalid input"
  else if s = unsupportedPlatform then "Unsupported platform"
  else if s = backendLoad then "Codec library could not be loaded"
  else if s = malformedResult then "Malformed codec result"
  else if s = backendClosed then "Codec backend closed"
  else if s = internal then "Internal error"
  else if s = inputTooLarge then "Input too large for the codec library"
  else if s = sinkPanicked then "Chunk consumer panicked"
  else "Codec backend error"

/-- The largest C `int`. -/
def maxLength : Nat := 2147483647

end Status

end MediaCodec
