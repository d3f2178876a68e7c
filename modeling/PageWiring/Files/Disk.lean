import PageWiring.Error
import PageWiring.Path
import PageWiring.Text.Utf8

/-!
What an audit does with files, for any way of doing it.

Paths that are given are texts, relative to a working directory or absolute. The names that are
found below them are bytes, and need not be texts.
-/
namespace PageWiring

/-! ### Names and paths -/

/-- The name of an entry of a directory. -/
structure FileName where
  bytes : List UInt8
  deriving DecidableEq, Repr

namespace FileName

def ofText (text : String) : FileName := ⟨Text.encode text.toList⟩

instance : Coe String FileName := ⟨ofText⟩

/-- The text of a name, if it is one. -/
def text? (n : FileName) : Option String := (Text.decode? n.bytes).map String.ofList

/-- A name as it is shown, with U+FFFD for what is no text. -/
def shown (n : FileName) : String := String.ofList (Text.decodeLossy n.bytes)

def dot : UInt8 := 46

/-- What follows the last dot of a name, unless nothing precedes that dot. -/
def extension? (n : FileName) : Option FileName :=
  match n.bytes.reverse.dropWhile (· != dot) with
  | _ :: _ :: _ => some ⟨(n.bytes.reverse.takeWhile (· != dot)).reverse⟩
  | _ => none

end FileName

/-- A path that was given, or one that leads on from there over names that were found. -/
structure DiskPath where
  base : String
  names : List FileName := []
  deriving DecidableEq, Repr

namespace DiskPath

instance : Coe String DiskPath := ⟨fun base => { base := base }⟩

def join (p : DiskPath) (name : FileName) : DiskPath := { p with names := p.names ++ [name] }

/-- The path as it is shown. -/
def shown (p : DiskPath) : String :=
  p.names.foldl (fun path name => Path.join path name.shown) p.base

def fileName? (p : DiskPath) : Option FileName :=
  match p.names.getLast? with
  | some name => some name
  | none => (Path.fileName? p.base).map .ofText

/-- The bytes of the path from its base on. -/
def relative (p : DiskPath) : List UInt8 := [Glob.separator].intercalate (p.names.map (·.bytes))

/-- Paths from one base on are compared name by name, and names by their bytes. -/
def le (a b : DiskPath) : Bool := decide (a.names.map (·.bytes) ≤ b.names.map (·.bytes))

end DiskPath

/-! ### Operations -/

/-- What is below a directory. Links are not followed. -/
inductive Listing where
  | file
  | directory (entries : List (FileName × Listing))
  | other

structure Disk (m : Type → Type) where
  workingDirectory : m String
  /-- Milliseconds of a clock. -/
  now : m Nat
  /-- Links are followed by all of these tests. -/
  isPresent : String → m Bool
  isFile : String → m Bool
  isDirectory : String → m Bool
  read : DiskPath → m (Except FileError (List UInt8))
  /-- Replaces a file, or makes a new one in a directory that is there. -/
  write : String → List UInt8 → m (Except FileError Unit)
  /-- Copies a file over another one, or to a new place. -/
  copy : String → String → m (Except FileError Unit)
  /-- Makes a directory and those above it where they are missing. -/
  makeDirectories : String → m (Except FileError Unit)
  /-- What is below a directory. A part of it whose name fails the test may be missing. -/
  listing : (FileName → Bool) → String → m Listing
  /-- The least number whose path has nothing there. -/
  firstAbsent : (Nat → String) → m Nat

namespace Disk

variable {m : Type → Type} [Monad m]

/-- The text of a file, which has to be well-formed. -/
def readText (d : Disk m) (path : DiskPath) : m (Except FileError (List Char)) := do
  match ← d.read path with
  | .error e => return .error e
  | .ok bytes =>
    match Text.decode? bytes with
    | some cs => return .ok cs
    | none => return .error .notUtf8

def writeText (d : Disk m) (path : String) (text : List Char) : m (Except FileError Unit) :=
  d.write path (Text.encode text)

end Disk

end PageWiring
