/-
File systems — what is at each path of a machine.

A file system is given by the files in it; every directory on the way to one is there too.
A path is followed part by part: a step leads on from a directory and from nothing else, so a
slash after the name of a file, or a step back out of a file, leads nowhere.  A path that is
too long for the system is not followed at all, wherever it would lead.
-/

import MediaCodec.Native.Library

namespace MediaCodec

/-- What a library exports under each name, by the shape in which it is called. -/
structure SymbolTable where
  stream : String → Option StreamExport
  frame : String → Option FrameExport
  size : String → Option SizeExport

/-- What the dynamic linker makes of a file. -/
inductive Image
  /-- It refuses the file. -/
  | refused (reason : String)
  /-- It accepts the file; a look-up of a name that is not there fails for a reason. -/
  | library (symbols : SymbolTable) (reason : String)

/-- What is at a path. -/
inductive FileEntry
  | absent
  | directory
  | file (image : Image)

/-- What there is at each path. -/
def FileSystem := Path → FileEntry

namespace FileSystem

/-- A file and the parts of its absolute path. -/
abbrev Located := List (List Char) × FileEntry

/-- What is at the parts of an absolute path. -/
def entry (known : List Located) (place : List (List Char)) : FileEntry :=
  match known.lookup place with
  | some e => e
  | none => if known.any fun k => place.isPrefixOf k.1 then .directory else .absent

/-- Follows the pieces of a path from a place. -/
def follow (known : List Located) (place : List (List Char)) : List (List Char) → FileEntry
  | [] => entry known place
  | piece :: rest =>
    match entry known place with
    | .directory =>
      if piece.isEmpty || piece == ['.'] then follow known place rest
      else if piece == ['.', '.'] then follow known place.dropLast rest
      else follow known (place ++ [piece]) rest
    | _ => .absent

/-- The length in bytes of the longest path that the system follows. -/
def longestPath : Nat := 4095

/-- Whether the system follows a path at all. -/
def follows (path : Path) : Bool := !path.isEmpty && path.utf8ByteSize ≤ longestPath

/-- The file system with the given files, seen from a directory. -/
def ofFiles (cwd : Path) (files : List (Path × FileEntry)) : FileSystem := fun path =>
  let known := files.map fun f => (Path.parts f.1.toList, f.2)
  if follows path then follow known [] (Path.pieces (Path.join cwd path).toList) else .absent

end FileSystem

end MediaCodec
