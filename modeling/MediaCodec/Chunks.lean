/-
Chunks — inputs as callers announce them, and outputs as they arrive.

An input is a buffer with the length its caller claims for it; callers behind a foreign
boundary pass the two apart, and a difference is a fault.  An output arrives chunk by chunk:
a collector copies each chunk as it comes, and ends as a stream, whose chunks stand in the
order of arrival with the empty ones among them.
-/

import MediaCodec.Bytes

namespace MediaCodec

/-- The input of one call. -/
structure MediaBuffer where
  data : Buffer
  /-- The length the caller claims. -/
  declaredLength : Nat

namespace MediaBuffer

/-- An input whose caller claims the length it has. -/
def ofBuffer (b : Buffer) : MediaBuffer := ⟨b, b.length⟩

def length (m : MediaBuffer) : Nat := m.data.length

def isEmpty (m : MediaBuffer) : Bool := m.data.isEmpty

end MediaBuffer

/-- Chunks in the order in which they arrived. -/
structure ChunkStream where
  chunks : List Bytes
  deriving DecidableEq, Repr

namespace ChunkStream

def length (s : ChunkStream) : Nat := s.chunks.length

def isEmpty (s : ChunkStream) : Bool := s.chunks.isEmpty

/-- The sum of the chunks' lengths. -/
def totalBytes (s : ChunkStream) : Nat := s.chunks.foldr (fun b n => b.length + n) 0

/-- The chunks joined in order; a single chunk is handed on as it is. -/
def concat (s : ChunkStream) : Bytes :=
  match s.chunks with
  | [] => []
  | [single] => single
  | chunks => chunks.flatten

def single (b : Bytes) : ChunkStream := ⟨[b]⟩

theorem concat_eq_flatten (s : ChunkStream) : s.concat = s.chunks.flatten := by
  obtain ⟨cs⟩ := s
  match cs with
  | [] => rfl
  | [c] => simp [concat]
  | _ :: _ :: _ => rfl

end ChunkStream

/-- A stream in the making. -/
structure ChunkCollector where
  chunks : Array Bytes := #[]
  totalBytes : Nat := 0
  deriving Repr

namespace ChunkCollector

def push (c : ChunkCollector) (chunk : Bytes) : ChunkCollector :=
  ⟨c.chunks.push chunk, c.totalBytes + chunk.length⟩

/-- The number of chunks so far. -/
def length (c : ChunkCollector) : Nat := c.chunks.size

def isEmpty (c : ChunkCollector) : Bool := c.chunks.isEmpty

def toList (c : ChunkCollector) : List Bytes := c.chunks.toList

/-- The stream of the chunks so far. -/
def toStream (c : ChunkCollector) : ChunkStream := ⟨c.toList⟩

/-- Takes in chunks in order, beginning with none. -/
def ofList (chunks : List Bytes) : ChunkCollector := chunks.foldl push {}

@[simp] theorem toList_push (c : ChunkCollector) (chunk : Bytes) :
    (c.push chunk).toList = c.toList ++ [chunk] := by
  simp [push, toList]

theorem toList_foldl_push (chunks : List Bytes) (c : ChunkCollector) :
    (chunks.foldl push c).toList = c.toList ++ chunks := by
  induction chunks generalizing c with
  | nil => simp
  | cons chunk rest ih => simp [ih]

@[simp] theorem toList_ofList (chunks : List Bytes) : (ofList chunks).toList = chunks := by
  rw [ofList, toList_foldl_push]; rfl

end ChunkCollector

end MediaCodec
