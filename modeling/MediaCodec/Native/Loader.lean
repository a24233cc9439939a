/-
Loading native libraries from files.

A library is loaded from a regular file and from nothing else.  The dynamic linker may refuse
the file; a library that it accepts still has to have every export, and the first missing one
is told, in the fixed order of the operations.
-/

import MediaCodec.Native.Files

namespace MediaCodec

namespace SymbolTable

/-- What is exported under the symbol of an operation; the operation is told where nothing is. -/
def find (look : String → Option α) (op : Operation) : Except Operation α :=
  match look op.symbol with
  | some e => .ok e
  | none => .error op

/-- The entry points of all operations, or the first operation that has none. -/
def resolve (t : SymbolTable) : Except Operation Exports := do
  let audioToPcm ← find t.stream .audioToPcm
  let silkDecode ← find t.stream .silkDecode
  let silkEncode ← find t.stream .silkEncode
  let videoFirstFrame ← find t.frame .videoFirstFrame
  let videoGetSize ← find t.size .videoGetSize
  return { audioToPcm, silkDecode, silkEncode, videoFirstFrame, videoGetSize }

end SymbolTable

namespace NativeLibrary

/-- What is said about a symbol that is not there. -/
def missingSymbol (op : Operation) (reason : String) : Event :=
  .say nativeTarget .debug ("symbol " ++ op.symbol ++ " lookup failed: " ++ reason) []

/-- What is said about a library that was loaded. -/
def loaded (path : Path) : Event := .say nativeTarget .info ("Loaded lagrangecodec from " ++ path) []

/-- Links the file at a path. -/
def link (path : Path) : Image → List Event × Except HostError NativeLibrary
  | .refused reason => ([], .error (.libraryLoad (.refused path reason)))
  | .library symbols reason =>
    match symbols.resolve with
    | .error op => ([missingSymbol op reason], .error (.missingSymbol op.symbol path))
    | .ok exports => ([loaded path], .ok ⟨path, exports⟩)

/-- Loads the library at a path. -/
def load (files : FileSystem) (path : Path) : List Event × Except HostError NativeLibrary :=
  match files path with
  | .file image => link path image
  | _ => ([], .error (.libraryLoad (.notFound path)))

/-- The loader for the files of a machine. -/
def loader (files : FileSystem) : Loader where
  told := false
  load _ path :=
    let (events, result) := load files path
    { events, result := result.map backend }

end NativeLibrary

end MediaCodec
