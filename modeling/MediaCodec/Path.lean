/-
Paths — file paths with a slash between their parts.

A path is its text.  `join` puts a path under a directory; a path that starts with a slash
stands for itself.  `absolute` makes a path start at the root without looking at any file: it
leaves out repeated slashes and the part `.`, keeps the part `..` (it may lead elsewhere than
up once links are followed), keeps a leading double slash (whose meaning is left open by the
standard for such paths) but not a triple one, and keeps a trailing slash.
-/

namespace MediaCodec

abbrev Path := String

namespace Path

/-- The pieces between slashes, at least one. -/
def pieces : List Char → List (List Char)
  | [] => [[]]
  | '/' :: rest => [] :: pieces rest
  | c :: rest =>
    match pieces rest with
    | [] => [[c]]
    | p :: ps => (c :: p) :: ps

/-- The parts of a path that name something: not empty, and not the place itself. -/
def parts (cs : List Char) : List (List Char) :=
  (pieces cs).filter fun p => !(p.isEmpty || p == ['.'])

/-- Whether a path starts at the root. -/
def isAbsolute : List Char → Bool
  | '/' :: _ => true
  | _ => false

/-- Puts a path under a directory. -/
def joinChars (dir path : List Char) : List Char :=
  if isAbsolute path then path
  else if dir.isEmpty || dir.getLast? == some '/' then dir ++ path
  else dir ++ '/' :: path

/-- Puts a path under a directory. -/
def join (dir path : Path) : Path := String.ofList (joinChars dir.toList path.toList)

/-- Where an absolute form starts: at the root, at a double slash, or at the directory that
relative paths are taken from. -/
def root (cwd : List Char) (cs : List Char) : List Char :=
  match cs with
  | '/' :: '/' :: '/' :: _ => ['/']
  | '/' :: '/' :: _ => ['/', '/']
  | '/' :: _ => ['/']
  | _ => cwd

/-- The absolute form of a path that is not empty. -/
def absoluteChars (cwd cs : List Char) : List Char :=
  let body := (parts cs).foldl joinChars (root cwd cs)
  if cs.getLast? == some '/' then joinChars body [] else body

/-- The absolute form of a path; the empty path has none. -/
def absolute (cwd path : Path) : Option Path :=
  if path.isEmpty then none
  else some (String.ofList (absoluteChars cwd.toList path.toList))

/-- The last part of a path under either kind of separator; it is empty where the path ends
with a separator. -/
def fileName (path : Path) : String :=
  String.ofList
    (path.toList.reverse.takeWhile fun c => !(c == '/' || c == '\\')).reverse

end Path

end MediaCodec
