/-
Operations — what a codec can be asked for.

Five entry points, each known by the symbol it is exported under.  Three of them stream: they
hand over their output in chunks.  The streaming ones form a type of their own, so that code
that runs a stream need not say what it would do with the others.
-/

namespace MediaCodec

/-- An entry point of a codec. -/
inductive Operation
  | audioToPcm
  | silkDecode
  | silkEncode
  | videoFirstFrame
  | videoGetSize
  deriving DecidableEq, Repr

/-- An entry point that hands over its output in chunks. -/
inductive Streaming
  | audioToPcm
  | silkDecode
  | silkEncode
  deriving DecidableEq, Repr

namespace Operation

def all : List Operation := [audioToPcm, silkDecode, silkEncode, videoFirstFrame, videoGetSize]

/-- The exported symbol, which is also the public name. -/
def symbol : Operation → String
  | audioToPcm => "audio_to_pcm"
  | silkDecode => "silk_decode"
  | silkEncode => "silk_encode"
  | videoFirstFrame => "video_first_frame"
  | videoGetSize => "video_get_size"

/-- The operation as a streaming one, if it streams. -/
def streaming? : Operation → Option Streaming
  | audioToPcm => some .audioToPcm
  | silkDecode => some .silkDecode
  | silkEncode => some .silkEncode
  | videoFirstFrame | videoGetSize => none

/-- Whether the operation hands over its output in chunks. -/
def isStreaming (op : Operation) : Bool := op.streaming?.isSome

end Operation

/-- The entry point of a streaming operation. -/
def Streaming.operation : Streaming → Operation
  | .audioToPcm => .audioToPcm
  | .silkDecode => .silkDecode
  | .silkEncode => .silkEncode

@[simp] theorem Streaming.streaming?_operation (s : Streaming) : s.operation.streaming? = some s := by
  cases s <;> rfl

end MediaCodec
