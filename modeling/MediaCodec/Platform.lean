/-
Platforms — which prebuilt codec serves a machine, and where its library lies.

A machine names its operating system and its architecture in free words.  Both are sorted
into classes by the words they contain, whatever the case of their letters; the first class
in a fixed order wins, so that `Darwin` is Windows (it contains `win`) and `arm64` is not
mistaken for the generic 64-bit class.  A table of class pairs then says which codec is
built for which machine.  Linux has no generic entry: a pair that the table lacks is not
served.

By convention a library directory holds one directory per machine, and in it the library
under its file name for that machine.  An artifact is a codec together with the absolute path
of its library.
-/

import MediaCodec.Errors
import MediaCodec.Path
import MediaCodec.Text.Basic
import MediaCodec.Text.Debug

namespace MediaCodec

/-! ## Machines and codecs -/

/-- A family of operating systems. -/
inductive OsClass
  | windows
  | macos
  | linux
  deriving DecidableEq, Repr

/-- A family of processor architectures. -/
inductive ArchClass
  /-- `arm64` or `aarch64`. -/
  | arm64
  /-- `x86_64` or `amd64`. -/
  | x64
  /-- Any other name that contains `64`. -/
  | generic64
  /-- Everything else. -/
  | generic32
  deriving DecidableEq, Repr

/-- A prebuilt codec, by the machine it is built for. -/
inductive BackendId
  | windowsX86
  | windowsX64
  | macosX64
  | macosArm64
  | linuxX64
  | linuxArm64
  deriving DecidableEq, Repr

/-- Whether a name contains a word, with the letters A to Z in either case. -/
def mentions (name word : String) : Bool := Text.occurs word.toList (Text.lower name.toList)

namespace OsClass

/-- The class of an operating system's name. -/
def classify (name : String) : Option OsClass :=
  if mentions name "win" then some windows
  else if mentions name "mac" then some macos
  else if mentions name "nux" || mentions name "nix" then some linux
  else none

/-- What stands before and after the name of a shared library. -/
def affixes : OsClass → String × String
  | windows => ("", ".dll")
  | macos => ("lib", ".dylib")
  | linux => ("lib", ".so")

/-- The name in diagnostics. -/
def label : OsClass → String
  | windows => "Windows"
  | macos => "Macos"
  | linux => "Linux"

end OsClass

namespace ArchClass

/-- The class of an architecture's name. -/
def classify (name : String) : ArchClass :=
  if mentions name "arm64" || mentions name "aarch64" then arm64
  else if mentions name "x86_64" || mentions name "amd64" then x64
  else if mentions name "64" then generic64
  else generic32

/-- The name in diagnostics. -/
def label : ArchClass → String
  | arm64 => "Arm64"
  | x64 => "X64"
  | generic64 => "Generic64"
  | generic32 => "Generic32"

end ArchClass

namespace BackendId

/-- Every prebuilt codec. -/
def all : List BackendId := [windowsX86, windowsX64, macosX64, macosArm64, linuxX64, linuxArm64]

/-- The public name, which is also the directory that holds the library. -/
def name : BackendId → String
  | windowsX86 => "windows-x86"
  | windowsX64 => "windows-x64"
  | macosX64 => "macos-x64"
  | macosArm64 => "macos-arm64"
  | linuxX64 => "linux-x64"
  | linuxArm64 => "linux-arm64"

/-- The name in diagnostics. -/
def label : BackendId → String
  | windowsX86 => "WindowsX86"
  | windowsX64 => "WindowsX64"
  | macosX64 => "MacosX64"
  | macosArm64 => "MacosArm64"
  | linuxX64 => "LinuxX64"
  | linuxArm64 => "LinuxArm64"

/-- The family of operating systems it is built for. -/
def osClass : BackendId → OsClass
  | windowsX86 | windowsX64 => .windows
  | macosX64 | macosArm64 => .macos
  | linuxX64 | linuxArm64 => .linux

/-- The name of the library without what stands around it. -/
def libraryName : String := "lagrangecodec"

/-- The file name of the library. -/
def libraryFile (id : BackendId) : String :=
  id.osClass.affixes.1 ++ libraryName ++ id.osClass.affixes.2

end BackendId

namespace Platform

/-- Every pair of classes that a codec is built for. -/
def table : List ((OsClass × ArchClass) × BackendId) :=
  [((.windows, .arm64), .windowsX64),
   ((.windows, .x64), .windowsX64),
   ((.windows, .generic64), .windowsX64),
   ((.windows, .generic32), .windowsX86),
   ((.macos, .arm64), .macosArm64),
   ((.macos, .x64), .macosX64),
   ((.macos, .generic64), .macosX64),
   ((.macos, .generic32), .macosX64),
   ((.linux, .arm64), .linuxArm64),
   ((.linux, .x64), .linuxX64)]

/-- The codec for a pair of classes. -/
def find? (os : OsClass) (arch : ArchClass) : Option BackendId :=
  table.lookup (os, arch)

/-- The codec for a machine that names its system and its architecture. -/
def resolve? (os arch : String) : Option BackendId :=
  (OsClass.classify os).bind fun c => find? c (ArchClass.classify arch)

end Platform

/-! ## Artifacts -/

/-- A prebuilt codec and the absolute path of its library. -/
structure Artifact where
  id : BackendId
  path : Path
  deriving DecidableEq, Repr

namespace Artifact

/-- The conventional path of a library under a library directory. -/
def conventionalPath (id : BackendId) (dir : Path) : Path :=
  (Path.join (Path.join dir id.name) id.libraryFile)

/-- The artifact at an explicit path, taken from the directory `cwd` if it is relative; only the
empty path names none. -/
def withPath (cwd : Path) (id : BackendId) (path : Path) : Except LoadFault Artifact :=
  match Path.absolute cwd path with
  | some p => .ok ⟨id, p⟩
  | none => .error .emptyPath

/-- The artifact at its conventional path. -/
def locate (cwd : Path) (id : BackendId) (dir : Path) : Except LoadFault Artifact :=
  withPath cwd id (conventionalPath id dir)

def debug (a : Artifact) : String :=
  Text.record "BackendArtifact" [("id", a.id.label), ("path", Text.quoted a.path)]

end Artifact

end MediaCodec
