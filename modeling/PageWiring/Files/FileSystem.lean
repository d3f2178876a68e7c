import PageWiring.Files.Disk
import PageWiring.Path

/-!
A file system as a value.

Directories hold files, directories and symbolic links. Operations are counted, and any of them may
be made to fail: then a file that was to be written is left alone or left with other content.
-/
namespace PageWiring

inductive FileNode where
  | file (content : List UInt8)
  | directory (entries : List (FileName × FileNode))
  | link (target : String)

namespace FileNode

def isDirectory : FileNode → Bool
  | .directory _ => true
  | _ => false

def isFile : FileNode → Bool
  | .file _ => true
  | _ => false

/-- The node at the end of a path of names. -/
def find? : List FileName → FileNode → Option FileNode
  | [], n => some n
  | name :: rest, .directory entries => (entries.lookup name).bind (find? rest)
  | _ :: _, _ => none

/-- Replaces an entry, or adds it behind the others. -/
def setEntry (name : FileName) (node : FileNode) :
    List (FileName × FileNode) → List (FileName × FileNode)
  | [] => [(name, node)]
  | (k, n) :: rest => if k == name then (k, node) :: rest else (k, n) :: setEntry name node rest

/-- Puts a node in its place, if the directory above it is there. -/
def put (new : FileNode) : List FileName → FileNode → FileNode
  | [], _ => new
  | name :: rest, .directory entries =>
    match entries.lookup name with
    | some n => .directory (setEntry name (put new rest n) entries)
    | none => if rest.isEmpty then .directory (setEntry name new entries) else .directory entries
  | _ :: _, n => n

/-- Takes a node away. -/
def erase : List FileName → FileNode → FileNode
  | [name], .directory entries => .directory (entries.filter (·.1 != name))
  | name :: rest, .directory entries =>
    match entries.lookup name with
    | some n => .directory (setEntry name (erase rest n) entries)
    | none => .directory entries
  | _, n => n

mutual

/-- The number of nodes. -/
def count : FileNode → Nat
  | .file _ => 1
  | .link _ => 1
  | .directory entries => 1 + countAll entries

def countAll : List (FileName × FileNode) → Nat
  | [] => 0
  | (_, n) :: rest => count n + countAll rest

end

mutual

def listing : FileNode → Listing
  | .file _ => .file
  | .link _ => .other
  | .directory entries => .directory (listings entries)

def listings : List (FileName × FileNode) → List (FileName × Listing)
  | [] => []
  | (name, n) :: rest => (name, listing n) :: listings rest

end

end FileNode

/-- An operation that fails although what it needs is there. A file may even be said to be missing
that is there. -/
structure FileFault where
  cause : FileError
  /-- What the file that was to be written holds afterwards, if it was touched. -/
  left : Option (List UInt8) := none
  deriving DecidableEq, Repr

structure FileSystem where
  root : FileNode
  /-- The names on the way to the working directory. -/
  workingDirectory : List FileName := []
  now : Nat := 0
  /-- The milliseconds that have passed before an operation, by its number. -/
  elapsed : Nat → Nat := fun _ => 0
  /-- Which operations fail, by their number. -/
  faults : Nat → Option FileFault := fun _ => none
  /-- How many operations there were. -/
  clock : Nat := 0

namespace FileSystem

/-! ### Finding files -/

def nameLimit : Nat := 255

def pathLimit : Nat := 4096

def linkLimit : Nat := 40

/-- The names between the slashes of a path. -/
def pieces (path : String) : List FileName :=
  (Text.splitAt '/' path.toList).map fun piece => ⟨Text.encode piece⟩

/-- Where a sequence of names leads from a directory. The last name may be that of nothing. A link
is left to `follow`, which gets the names behind it too. -/
def walk (root : FileNode) (followLast : Bool)
    (follow : List FileName → List FileName → Except FileError (List FileName)) :
    List FileName → List FileName → Except FileError (List FileName)
  | here, [] => .ok here
  | here, name :: rest =>
    if name == "" || name == "." then walk root followLast follow here rest
    else if name == ".." then walk root followLast follow here.dropLast rest
    else if nameLimit < name.bytes.length then .error .nameTooLong
    else
      let there := here ++ [name]
      match root.find? there with
      | none => if rest.isEmpty then .ok there else .error .notFound
      | some (.directory _) => walk root followLast follow there rest
      | some (.file _) => if rest.isEmpty then .ok there else .error .notADirectory
      | some (.link target) =>
        if rest.isEmpty && !followLast then .ok there
        else follow (if Path.isAbsolute target then [] else here) (pieces target ++ rest)

/-- The same where a number of links is followed. -/
def walkLinks (root : FileNode) (followLast : Bool) :
    Nat → List FileName → List FileName → Except FileError (List FileName)
  | 0, _, _ => .error .tooManyLinks
  | links + 1, here, names => walk root followLast (walkLinks root followLast links) here names

/-- The names on the way from the root to what a path stands for. -/
def locate (fs : FileSystem) (followLast : Bool) (path : String) :
    Except FileError (List FileName) :=
  if path.toList.contains '\x00' then .error .nulInName
  else if path.isEmpty then .error .notFound
  else if pathLimit ≤ path.utf8ByteSize then .error .nameTooLong
  else
    let start := if Path.isAbsolute path then [] else fs.workingDirectory
    match fs.root.find? start with
    | some (.directory _) => walkLinks fs.root followLast (linkLimit + 1) start (pieces path)
    | _ => .error .notFound

/-- What a path stands for. -/
def node (fs : FileSystem) (path : String) : Except FileError FileNode := do
  let names ← fs.locate true path
  match fs.root.find? names with
  | some n => .ok n
  | none => .error .notFound

def node? (fs : FileSystem) (path : String) : Option FileNode := (fs.node path).toOption

def isPresent (fs : FileSystem) (path : String) : Bool := (fs.node? path).isSome

def isFile (fs : FileSystem) (path : String) : Bool := (fs.node? path).any (·.isFile)

def isDirectory (fs : FileSystem) (path : String) : Bool := (fs.node? path).any (·.isDirectory)

/-! ### Contents -/

/-- What a file holds. Names that were found lead there through directories only. -/
def content (fs : FileSystem) (path : DiskPath) : Except FileError (List UInt8) := do
  match (← fs.node path.base).find? path.names with
  | some (.file bytes) => .ok bytes
  | some _ => .error .isADirectory
  | none => .error .notFound

/-- A path without slashes at its end. -/
def withoutSlashes (path : String) : String :=
  let kept := (path.toList.reverse.dropWhile (· == '/')).reverse
  if kept.isEmpty then path else String.ofList kept

/-- Where a file can be written. A path with a slash at its end stands for a directory. -/
def fileTarget (fs : FileSystem) (path : String) : Except FileError (List FileName) := do
  if path.toList.getLast? == some '/' then
    let _ ← fs.locate false (withoutSlashes path)
    .error .isADirectory
  else fs.locate true path

/-- Replaces the content of a file, or makes a new file. -/
def store (fs : FileSystem) (path : String) (bytes : List UInt8) : Except FileError FileSystem := do
  let names ← fs.fileTarget path
  match fs.root.find? names with
  | some (.directory _) => .error .isADirectory
  | _ => .ok { fs with root := FileNode.put (.file bytes) names fs.root }

/-- Copies a file. A file that is copied over itself is empty afterwards. -/
def duplicate (fs : FileSystem) (source target : String) : Except FileError FileSystem := do
  match ← fs.node source with
  | .file bytes =>
    let isSame := (fs.locate true source).toOption == (fs.locate true target).toOption
    fs.store target (if isSame then [] else bytes)
  | _ => .error .notRegular

/-- Makes one directory. -/
def makeDirectory (fs : FileSystem) (path : String) : Except FileError FileSystem := do
  let names ← fs.locate false path
  match fs.root.find? names with
  | some _ => .error .alreadyExists
  | none => .ok { fs with root := FileNode.put (.directory []) names fs.root }

/-! ### Operations -/

def tick (fs : FileSystem) : FileSystem := { fs with clock := fs.clock + 1 }

/-- The files after a failure that may have touched one of them. -/
def spoil (fs : FileSystem) (target : String) (fault : FileFault) : FileSystem :=
  match fault.left with
  | some bytes => (fs.store target bytes).toOption.getD fs
  | none => fs

/-- An operation that changes files, or fails as planned. -/
def attempt (spoiled : FileSystem → FileFault → FileSystem)
    (change : FileSystem → Except FileError FileSystem) :
    StateM FileSystem (Except FileError Unit) := fun fs =>
  match fs.faults fs.clock with
  | some fault => (.error fault.cause, (spoiled fs fault).tick)
  | none =>
    match change fs with
    | .ok changed => (.ok (), changed.tick)
    | .error e => (.error e, fs.tick)

/-- Makes a directory unless it is there. -/
def ensureDirectory (path : String) : StateM FileSystem (Except FileError Unit) := do
  if path.isEmpty then return .ok ()
  else
    match ← attempt (fun fs _ => fs) (·.makeDirectory (withoutSlashes path)) with
    | .ok _ => return .ok ()
    | .error e => if (← get).isDirectory path then return .ok () else return .error e

/-- Makes a directory, where those above it may be missing: their paths follow, the nearest first.
Those that are made stay when another cannot be made. -/
def makeDirectories (path : String) : List String → StateM FileSystem (Except FileError Unit)
  | [] => ensureDirectory path
  | parent :: rest => do
    match ← ensureDirectory path with
    | .error .notFound =>
      match ← makeDirectories parent rest with
      | .ok _ => ensureDirectory path
      | .error e => return .error e
    | other => return other

/-- The files with a directory and those above it, unless they cannot be made. -/
def makePath (fs : FileSystem) (path : String) (parents : List String) :
    Except FileError FileSystem :=
  match (makeDirectories path parents).run fs with
  | (.ok _, made) => .ok made
  | (.error e, _) => .error e

def readFile (path : DiskPath) : StateM FileSystem (Except FileError (List UInt8)) := fun fs =>
  match fs.faults fs.clock with
  | some fault => (.error fault.cause, fs.tick)
  | none => (fs.content path, fs.tick)

/-- The least number from `n` on whose path has nothing there, if it is among the next `limit`. -/
def searchAbsent (fs : FileSystem) (path : Nat → String) : Nat → Nat → Nat
  | 0, n => n
  | limit + 1, n => if fs.isPresent (path n) then fs.searchAbsent path limit (n + 1) else n

/-- The text of the working directory's path. -/
def workingPath (fs : FileSystem) : String :=
  if fs.workingDirectory.isEmpty then "/"
  else String.join (fs.workingDirectory.map ("/" ++ ·.shown))

def disk : Disk (StateM FileSystem) where
  workingDirectory := do return (← get).workingPath
  now := do
    let fs ← get
    return fs.now + fs.elapsed fs.clock
  isPresent path := do return (← get).isPresent path
  isFile path := do return (← get).isFile path
  isDirectory path := do return (← get).isDirectory path
  read := readFile
  write path bytes := attempt (·.spoil path) (·.store path bytes)
  copy source target := attempt (·.spoil target) (·.duplicate source target)
  makeDirectories path := makeDirectories path (Path.parents path)
  listing _ path := do return (((← get).node? path).map (·.listing)).getD .other
  firstAbsent path := do
    let fs ← get
    return fs.searchAbsent path (fs.root.count + 1) 0

end FileSystem

end PageWiring
