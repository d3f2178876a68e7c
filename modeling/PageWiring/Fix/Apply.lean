import PageWiring.Files.Disk
import PageWiring.Fix.Edit
import PageWiring.Path
import PageWiring.Sorting

/-!
Writing fixes to files.

A file is copied into the backup directory before it is changed, and a failed write is answered by
copying it back. All fixes of a file are applied together, from the last line up. A failure keeps
no other fix from being tried, but a cut inside a character ends the run: there is no outcome then,
although files may have been written.
-/
namespace PageWiring

/-- Why something could not be written. -/
inductive FixFault where
  | unreadable (cause : FileError)
  | edit (fault : EditFault)
  | backupDirectory (directory : String) (cause : FileError)
  | noBackup (path : String) (cause : FileError)
  /-- The file could not be written, and perhaps not be restored either. -/
  | unwritable (cause : FileError) (second : Option FileError)
  | unrestorable (backup : String) (cause : FileError)
  deriving DecidableEq, Repr

def FixFault.message : FixFault → String
  | .unreadable cause => "read failed: " ++ cause.message
  | .edit fault => fault.message
  | .backupDirectory directory cause =>
    s!"cannot create backup directory {directory}: " ++ cause.message
  | .noBackup path cause => s!"backup of {path} failed: " ++ cause.message
  | .unwritable cause none => "write failed: " ++ cause.message
  | .unwritable cause (some second) =>
    "write failed: " ++ cause.message ++ "; restore failed: " ++ second.message
  | .unrestorable backup cause => s!"restore from {backup} failed: " ++ cause.message

structure FixFailure where
  path : String
  fault : FixFault
  fix : Option Fix := none
  deriving DecidableEq, Repr

structure Backup where
  file : String
  backup : String
  deriving DecidableEq, Repr

structure FixOutcome where
  applied : List Fix := []
  failed : List FixFailure := []
  backups : List Backup := []
  deriving DecidableEq, Repr

def FixOutcome.append (a b : FixOutcome) : FixOutcome :=
  ⟨a.applied ++ b.applied, a.failed ++ b.failed, a.backups ++ b.backups⟩

/-- A fix that ends the run, and the stretch that it would have cut out. -/
structure FixCrash where
  fix : Fix
  stretch : Script.Span
  deriving DecidableEq, Repr

structure FixSettings where
  backupDirectory : String
  safeOnly : Bool := true
  deriving DecidableEq, Repr

namespace FixSettings

/-- Backups below a directory. -/
def under (root : String) (safeOnly : Bool) : FixSettings :=
  ⟨Path.join root ".wirecheck-backups", safeOnly⟩

def allows (s : FixSettings) (fix : Fix) : Bool := fix.safe || !s.safeOnly

end FixSettings

namespace Fix

/-- A text with the fixes that fit it, those fixes, and the failures of the others. -/
structure Edited where
  text : List Char
  applied : List Fix := []
  failed : List FixFailure := []
  deriving DecidableEq, Repr

def editStep (path : String) (e : Edited) (fix : Fix) : Except FixCrash Edited :=
  match fix.edit e.text with
  | .ok text => .ok { e with text := text, applied := e.applied ++ [fix] }
  | .error (.unfit fault) =>
    .ok { e with failed := e.failed ++ [⟨path, .edit fault, some fix⟩] }
  | .error (.torn stretch) => .error ⟨fix, stretch⟩

def editAll (path : String) (text : List Char) (fixes : List Fix) : Except FixCrash Edited :=
  fixes.foldlM (editStep path) { text := text }

/-- The same failure of several fixes. -/
def failAll (path : String) (fault : FixFault) (fixes : List Fix) : List FixFailure :=
  fixes.map fun fix => ⟨path, fault, some fix⟩

variable {m : Type → Type} [Monad m]

/-- The name of a backup. Those of one millisecond are numbered, but for the first. -/
def backupName (name : String) (time n : Nat) : String :=
  let mark := if n = 0 then s!"{time}" else s!"{time}-{n}"
  s!"{name}.{mark}.backup"

/-- A path in the backup directory with nothing there, for a copy of a file. -/
def backupPath (d : Disk m) (directory path : String) : m String := do
  let name := (Path.fileName? path).getD "file"
  let time ← d.now
  let candidate (n : Nat) : String := Path.join directory (backupName name time n)
  return candidate (← d.firstAbsent candidate)

/-- Copies a file to a new place in the backup directory. -/
def backUp (d : Disk m) (directory path : String) : m (Except FixFault Backup) := do
  match ← d.makeDirectories directory with
  | .error e => return .error (.backupDirectory directory e)
  | .ok _ =>
    let target ← backupPath d directory path
    match ← d.copy path target with
    | .error e => return .error (.noBackup path e)
    | .ok _ => return .ok ⟨path, target⟩

/-- Copies the backup of a file over it, if there is one; gives why that fails. -/
def restore (d : Disk m) (path : String) : Option Backup → m (Option FileError)
  | none => return none
  | some backup => do
    match ← d.copy backup.backup path with
    | .ok _ => return none
    | .error e => return some e

/-- Writes an edited text, and restores the file when that fails. -/
def replace (d : Disk m) (path : String) (edited : Edited) (backup : Option Backup) :
    m FixOutcome := do
  match ← d.writeText path edited.text with
  | .ok _ => return ⟨edited.applied, edited.failed, backup.toList⟩
  | .error e =>
    let second ← restore d path backup
    let failed := edited.failed ++ failAll path (.unwritable e second) edited.applied
    return ⟨[], failed, backup.toList⟩

/-- Writes an edited text to a file, which is backed up before if it is there. -/
def commit (d : Disk m) (directory path : String) (edited : Edited) : m FixOutcome := do
  if ← d.isPresent path then
    match ← backUp d directory path with
    | .error fault => return { failed := edited.failed ++ failAll path fault edited.applied }
    | .ok backup => replace d path edited (some backup)
  else replace d path edited none

/-- The text that is edited, by what reading the file gives. A missing file counts as an empty one
when there are only functions to add. -/
def startText (fixes : List Fix) : Except FileError (List Char) → Except FileError (List Char)
  | .error .notFound =>
    if fixes.all (·.kind == .addFunctionStub) then .ok [] else .error .notFound
  | read => read

/-- Applies the fixes of one file, sorted already. A file that would not change is not touched. -/
def applyTo (d : Disk m) (directory path : String) (fixes : List Fix) :
    m (Except FixCrash FixOutcome) := do
  match startText fixes (← d.readText path) with
  | .error e => return .ok { failed := failAll path (.unreadable e) fixes }
  | .ok text =>
    match editAll path text fixes with
    | .error crash => return .error crash
    | .ok edited =>
      if edited.applied.isEmpty || edited.text == text then return .ok { failed := edited.failed }
      else return .ok (← commit d directory path edited)

/-- The files of some fixes, each once, in order. -/
def files (fixes : List Fix) : List String :=
  sortBy (fun a b => !decide (b < a)) (fixes.map (·.filePath)).eraseDups

/-- The fixes of one file, the last line first. -/
def ofFile (fixes : List Fix) (file : String) : List Fix :=
  sortBy (fun a b => decide (b.line ≤ a.line)) (fixes.filter (·.filePath == file))

/-- Applies fixes to some of their files, one file after another, and adds what is reported to an
outcome. -/
def applyFiles (d : Disk m) (directory : String) (fixes : List Fix) (outcome : FixOutcome) :
    List String → m (Except FixCrash FixOutcome)
  | [] => return .ok outcome
  | file :: rest => do
    match ← applyTo d directory file (ofFile fixes file) with
    | .error crash => return .error crash
    | .ok more => applyFiles d directory fixes (outcome.append more) rest

/-- Applies the fixes that the settings allow. -/
def applyAll (d : Disk m) (settings : FixSettings) (fixes : List Fix) :
    m (Except FixCrash FixOutcome) :=
  let eligible := fixes.filter settings.allows
  applyFiles d settings.backupDirectory eligible {} (files eligible)

end Fix

section

variable {m : Type → Type} [Monad m]

/-- Copies a backup over its file, and adds the failure to others if that fails. -/
def Backup.undo (d : Disk m) (failures : List FixFailure) (b : Backup) : m (List FixFailure) := do
  match ← d.copy b.backup b.file with
  | .ok _ => return failures
  | .error e => return failures ++ [⟨b.file, .unrestorable b.backup e, none⟩]

/-- Copies every backup over its file, and gives the failures. -/
def FixOutcome.rollback (d : Disk m) (outcome : FixOutcome) : m (List FixFailure) :=
  outcome.backups.foldlM (Backup.undo d) []

end

end PageWiring
