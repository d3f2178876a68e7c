import PageWiring.Config
import PageWiring.Files.Disk
import PageWiring.Sorting
import PageWiring.Text.Blank
import PageWiring.Text.Letter

/-!
Finding scripts below a directory.
-/
namespace PageWiring

/-- Directories that are never entered, besides hidden ones. -/
def skippedDirectories : List String := ["node_modules", "dist", "build", "coverage"]

/-- Is a directory left out? One whose name is no text is entered, also when it is hidden. -/
def isSkippedDirectory (name : FileName) : Bool :=
  name.text?.any fun text => text.toList.head? == some '.' || skippedDirectories.contains text

/-- How patterns are read: a pattern becomes the test of the paths that it matches. -/
abbrev PatternReader := String → Except GlobFault (List UInt8 → Bool)

structure Discovery where
  extensions : List String := Config.extensions {}
  exclude : List (List UInt8 → Bool) := []

namespace Discovery

/-- Blank patterns do not count. -/
def patterns (reader : PatternReader) :
    List String → Except ConfigError (List (List UInt8 → Bool))
  | [] => .ok []
  | p :: ps =>
    if (Text.trim p.toList).isEmpty then patterns reader ps
    else
      match reader p with
      | .error fault => .error (.badGlob p fault)
      | .ok isMatch => (patterns reader ps).map (isMatch :: ·)

def ofSettings (reader : PatternReader) (extensions exclude : List String) :
    Except ConfigError Discovery :=
  (patterns reader exclude).map fun tests => {
    extensions := extensions.map Text.lowercaseString
    exclude := tests }

def ofConfig (config : Config) : Except ConfigError Discovery :=
  ofSettings Glob.reader config.extensions config.exclude

/-- Has a file one of the extensions, regardless of ASCII case? -/
def supports (d : Discovery) (path : DiskPath) : Bool :=
  ((path.fileName?.bind FileName.extension?).bind FileName.text?).any fun e =>
    d.extensions.any fun known => Text.asciiLowerString known == Text.asciiLowerString e

/-- Is a file left out, by its path from the root of the search on? -/
def excludes (d : Discovery) (path : DiskPath) : Bool := d.exclude.any (· path.relative)

mutual

/-- The scripts among the entries of a directory. -/
def filesBelow (d : Discovery) (path : DiskPath) : List (FileName × Listing) → List DiskPath
  | [] => []
  | entry :: rest => d.filesOfEntry path entry ++ d.filesBelow path rest

def filesOfEntry (d : Discovery) (path : DiskPath) : FileName × Listing → List DiskPath
  | (name, listing) => d.filesAt (path.join name) name listing

/-- The scripts at or below a path that ends with a name. -/
def filesAt (d : Discovery) (path : DiskPath) (name : FileName) : Listing → List DiskPath
  | .file => if d.supports path && !d.excludes path then [path] else []
  | .directory entries => if isSkippedDirectory name then [] else d.filesBelow path entries
  | .other => []

end

variable {m : Type → Type} [Monad m]

/-- The scripts at or below a path, in the order of their paths. -/
def discover (d : Discovery) (disk : Disk m) (root : String) :
    m (Except AuditError (List DiskPath)) := do
  unless ← disk.isPresent root do return .error (.inputNotFound root)
  if ← disk.isFile root then return .ok (if d.supports root then [root] else [])
  match ← disk.listing (fun name => !isSkippedDirectory name) root with
  | .directory entries => return .ok (sortBy DiskPath.le (d.filesBelow root entries))
  | _ => return .ok []

end Discovery

end PageWiring
