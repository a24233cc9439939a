/-
Bytes — byte strings, and memory that belongs to a caller.

Everything the codec hands around after it has read it is a plain list of bytes.  What a
caller hands *in* is different: its length is known before its content is looked at, and an
input that is too long is refused on its length alone.  `Buffer` keeps the two apart, so a
refusal costs nothing, however long the input is.  The proof field ties the announced length
to the content; two buffers with the same content are equal (`Buffer.ext_read`), so nothing
is lost by thinking of a buffer as its bytes.
-/

namespace MediaCodec

/-- A byte string. -/
abbrev Bytes := List UInt8

/-- Memory of a caller: its length is known before its content is read. -/
structure Buffer where
  length : Nat
  /-- Reads the content. -/
  read : Unit → Bytes
  /-- The announced length is the length of the content. -/
  length_read : (read ()).length = length

namespace Buffer

/-- The buffer that holds the given bytes. -/
def ofBytes (b : Bytes) : Buffer := ⟨b.length, fun _ => b, rfl⟩

/-- A buffer of `n` equal bytes. -/
def fill (n : Nat) (b : UInt8) : Buffer :=
  ⟨n, fun _ => List.replicate n b, List.length_replicate⟩

def toBytes (b : Buffer) : Bytes := b.read ()

/-- The first `n` bytes, or the whole buffer where it is shorter. -/
def take (n : Nat) (b : Buffer) : Buffer :=
  ⟨min n b.length, fun _ => (b.read ()).take n, by simp [b.length_read]⟩

def empty : Buffer := ofBytes []

def isEmpty (b : Buffer) : Bool := b.length == 0

@[simp] theorem toBytes_ofBytes (b : Bytes) : (ofBytes b).toBytes = b := rfl

@[simp] theorem length_ofBytes (b : Bytes) : (ofBytes b).length = b.length := rfl

@[simp] theorem length_toBytes (b : Buffer) : b.toBytes.length = b.length := b.length_read

@[simp] theorem toBytes_take (n : Nat) (b : Buffer) : (b.take n).toBytes = b.toBytes.take n := rfl

@[simp] theorem toBytes_fill (n : Nat) (b : UInt8) : (fill n b).toBytes = List.replicate n b := rfl

theorem ext_read {a b : Buffer} (h : a.toBytes = b.toBytes) : a = b := by
  obtain ⟨n, f, hf⟩ := a
  obtain ⟨m, g, hg⟩ := b
  have hfg : f = g := funext fun _ => h
  subst hfg
  subst hf hg
  rfl

@[simp] theorem ofBytes_toBytes (b : Buffer) : ofBytes b.toBytes = b := ext_read rfl

end Buffer

end MediaCodec
