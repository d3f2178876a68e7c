import PageWiring.Proofs.FixCourse

/-!
What has become of the files when fixes were applied.

Any operation may have failed. A file is as it was, or holds what the fixes that were applied make
of it, unless it could not be written and not be restored either; and what was in a file that
changed is in its backup. This is proved for the course of one file, and holds behind the run
because the other files lie elsewhere. It holds too when the run crashes, but then the outcome that
lists the backups is lost.
-/
namespace PageWiring

open FileSystem (disk)

/-- A file could not be written, and was not restored: that failed too, or there was no backup. -/
def FixOutcome.Loses (outcome : FixOutcome) (file : String) : Prop :=
  ∃ failure ∈ outcome.failed, failure.path = file ∧
    ((∃ cause second, failure.fault = .unwritable cause (some second)) ∨
      (∃ cause, failure.fault = .unwritable cause none) ∧
        ∀ backup ∈ outcome.backups, backup.file ≠ file)

/-- A fault before the file was written, or one for which it was restored. -/
def FixFault.Spares : FixFault → Prop
  | .unreadable _ | .backupDirectory .. | .noBackup .. | .unwritable _ none => True
  | .edit _ | .unwritable _ (some _) | .unrestorable .. => False

namespace Fix

/-- What the fixes of a file make of it, tried from the last line up: `done` are those that fit. A
file that is not there has the empty text, and so has one that is overlooked. -/
def Amends (fixes done : List Fix) (file : String) (overlooked : Prop)
    (before now : Option (List UInt8)) : Prop :=
  ∃ text sorted result,
    ((∃ bytes, before = some bytes ∧ Text.decode? bytes = some text) ∨
      text = [] ∧ (before = none ∨ overlooked)) ∧
    sorted.Perm (fixes.filter (·.filePath == file)) ∧
    sorted.Pairwise (fun a b => b.line ≤ a.line) ∧
    Edits text sorted done result ∧ now = some (Text.encode result)

theorem Edits.amends {fixes done : List Fix} {file : String} {text result : List Char}
    {overlooked : Prop} {before : Option (List UInt8)}
    (edits : Edits text (ofFile fixes file) done result)
    (start : (∃ bytes, before = some bytes ∧ Text.decode? bytes = some text) ∨
      text = [] ∧ (before = none ∨ overlooked)) :
    Amends fixes done file overlooked before (some (Text.encode result)) :=
  ⟨text, _, result, start, perm_ofFile fixes file, pairwise_ofFile fixes file, edits, rfl⟩

theorem Amends.imp {fixes done : List Fix} {file : String} {p q : Prop}
    {before now : Option (List UInt8)} (amends : Amends fixes done file p before now)
    (weaker : p → q) : Amends fixes done file q before now := by
  obtain ⟨text, sorted, result, start, rest⟩ := amends
  exact ⟨text, sorted, result, start.imp_right (And.imp_right (Or.imp_right weaker)), rest⟩

/-! ### One file -/

theorem Misfits.not_spares {path : String} {failed : List FixFailure}
    (misfits : Misfits path failed) : ∀ failure ∈ failed, ¬ failure.fault.Spares := by
  intro failure member
  obtain ⟨fault, fix, rfl⟩ := misfits failure member
  exact id

theorem exists_mem_failAll (path : String) (fault : FixFault) {fixes : List Fix}
    (filled : fixes ≠ []) : ∃ failure ∈ failAll path fault fixes,
      failure.path = path ∧ failure.fault = fault := by
  obtain ⟨fix, rest, rfl⟩ := List.exists_cons_of_ne_nil filled
  exact ⟨_, List.mem_cons_self, rfl, rfl⟩

/-- The file that was backed up is the one that the path stands for. -/
theorem Backed.own {directory path : String} {a b after : FileSystem} {backup : Backup}
    {origin target place : List FileName} {old now bytes : List UInt8}
    (backed : Backed directory path a b backup origin target old now) (grown : b.Grows after)
    (denotes : after.Denotes path place) (held : a.fileAt? place = some bytes) :
    origin = place ∧ old = bytes := by
  obtain rfl := denotes.unique ((backed.grows.trans grown).denotes backed.denotes)
  rw [backed.held] at held
  exact ⟨rfl, Option.some.inj held⟩

namespace Course

variable {directory file : String} {fixes : List Fix} {before behind after : FileSystem}
  {outcome : FixOutcome} {place : List FileName}

/-- A file that is there is left as it was, or it is backed up; and then it holds what the fixes
make of it, or it is lost. -/
theorem held_cases (course : Course directory file (ofFile fixes file) before outcome behind)
    (grown : behind.Grows after) (denotes : after.Denotes file place) {bytes : List UInt8}
    (held : before.fileAt? place = some bytes) :
    (outcome.applied = [] ∧ behind.fileAt? place = some bytes) ∨
      ∃ backup target now, outcome.backups = [backup] ∧
        Backed directory file before behind backup place target bytes now ∧
        (∀ failure ∈ outcome.failed, ¬ failure.fault.Spares) ∧
        (outcome.Loses file ∨
          Amends fixes outcome.applied file before.Overlooks (some bytes) (some now)) := by
  have wider := course.grows.trans grown
  -- The path stands for a file that is there, so the file is not taken for missing.
  have found {target : List FileName} (aim : before.Denotes file target) :
      before.isPresent file := by
    obtain rfl := denotes.unique (wider.denotes aim)
    exact FileSystem.isPresent_of_fileAt? aim held
  cases course with
  | unreadable keeps => exact .inl ⟨rfl, (keeps.content place).trans held⟩
  | unfit tried nothing keeps => exact .inl ⟨rfl, (keeps.content place).trans held⟩
  | unchanged tried read same keeps => exact .inl ⟨rfl, (keeps.content place).trans held⟩
  | unbacked tried filled kind strays =>
    rcases strays.content place with same | ⟨free, -⟩
    · exact .inl ⟨rfl, same.trans held⟩
    · rw [free] at held
      cases held
  | rewritten tried filled start backed =>
    obtain ⟨rfl, rfl⟩ := backed.own grown denotes held
    obtain ⟨edits, -, misfits⟩ := editAll_spec tried
    refine .inr ⟨_, _, _, rfl, backed, misfits.not_spares, .inr (edits.amends ?_)⟩
    exact start.imp (fun decoded => ⟨_, rfl, decoded⟩) (And.imp_right .inr)
  | restored tried filled backed =>
    obtain ⟨rfl, rfl⟩ := backed.own grown denotes held
    exact .inl ⟨rfl, backed.current⟩
  | lost tried filled backed =>
    rename_i text edited backup origin target old now cause second
    obtain ⟨rfl, rfl⟩ := backed.own grown denotes held
    refine .inr ⟨_, _, _, rfl, backed, ?_, .inl ?_⟩
    · intro failure member
      rcases List.mem_append.mp member with member | member
      · exact (editAll_spec tried).2.2.not_spares failure member
      · obtain ⟨fix, -, rfl⟩ := exists_of_mem_failAll member
        exact id
    · obtain ⟨failure, member, path, fault⟩ :=
        exists_mem_failAll file (.unwritable cause (some second)) filled
      exact ⟨failure, List.mem_append_right _ member, path, .inl ⟨cause, second, fault⟩⟩
  | created tried filled absent aim => exact absurd (found aim) absent
  | uncreated tried filled absent spoils =>
    rcases spoils with keeps | ⟨target, left, aim, -⟩
    · exact .inl ⟨rfl, (keeps.content place).trans held⟩
    · exact absurd (found aim) absent

/-- Where no file is there is none afterwards, or the fixes have made it, or it is lost. -/
theorem absent_cases (course : Course directory file (ofFile fixes file) before outcome behind)
    (grown : behind.Grows after) (denotes : after.Denotes file place)
    (outside : ¬ behind.Inside directory place) (free : before.fileAt? place = none) :
    behind.fileAt? place = none ∨ outcome.Loses file ∨
      Amends fixes outcome.applied file before.Overlooks none (behind.fileAt? place) := by
  have wider := course.grows.trans grown
  have unbacked {backup : Backup} {origin target : List FileName} {old now : List UInt8}
      (backed : Backed directory file before behind backup origin target old now) : False := by
    obtain rfl := denotes.unique (wider.denotes backed.denotes)
    have held := backed.held
    rw [free] at held
    cases held
  cases course with
  | unreadable keeps => exact .inl ((keeps.content place).trans free)
  | unfit tried nothing keeps => exact .inl ((keeps.content place).trans free)
  | unchanged tried read same keeps => exact .inl ((keeps.content place).trans free)
  | unbacked tried filled kind strays =>
    rcases strays.content place with same | ⟨-, inside⟩
    · exact .inl (same.trans free)
    · exact absurd inside outside
  | rewritten tried filled start backed => exact (unbacked backed).elim
  | restored tried filled backed => exact (unbacked backed).elim
  | lost tried filled backed => exact (unbacked backed).elim
  | created tried filled absent aim writes =>
    obtain rfl := denotes.unique (wider.denotes aim)
    rw [writes.self]
    exact .inr (.inr ((editAll_spec tried).1.amends (.inr ⟨rfl, .inl rfl⟩)))
  | uncreated tried filled absent spoils =>
    rename_i edited cause
    obtain ⟨failure, member, path, fault⟩ :=
      exists_mem_failAll file (.unwritable cause none) filled
    exact .inr (.inl ⟨failure, List.mem_append_right _ member, path,
      .inr ⟨⟨cause, fault⟩, by simp⟩⟩)

/-- All that is reported is reported for the file. -/
theorem filter_reported (course : Course directory file (ofFile fixes file) before outcome behind) :
    outcome.applied.filter (·.filePath == file) = outcome.applied ∧
      outcome.failed.filter (·.path == file) = outcome.failed ∧
      outcome.backups.filter (·.file == file) = outcome.backups := by
  simp only [List.filter_eq_self, beq_iff_eq]
  refine ⟨fun fix member => ?_, fun failure member => ?_, fun backup member => ?_⟩
  · exact filePath_of_mem_ofFile (course.applied_sublist.subset member)
  · exact (course.exists_of_mem_failed member).1
  · rcases course.backups_cases with ⟨unsaved, -⟩ | ⟨own, origin, target, bytes, now, one, backed⟩
    · rw [unsaved] at member
      cases member
    · obtain rfl : backup = own := by simpa [one] using member
      exact backed.file

end Course

/-- The paths stand for different files, none of them in the backup directory. -/
structure Apart (fs : FileSystem) (directory : String) (files : List String) : Prop where
  distinct : ∀ file ∈ files, ∀ other ∈ files, other ≠ file →
    ∀ place, fs.Denotes file place → ¬ fs.Denotes other place
  outside : ∀ file ∈ files, ∀ place, fs.Denotes file place → ¬ fs.Inside directory place

/-! ### One file among the others -/

namespace Run

variable {directory : String} {fixes : List Fix} {files : List String} {fs after : FileSystem}
  {outcome : FixOutcome} {place : List FileName}

/-- A file that none of the paths stands for is as it was. -/
theorem content_of_held (run : Run directory fixes files fs outcome after) {bytes : List UInt8}
    (held : fs.fileAt? place = some bytes) (other : ∀ file ∈ files, ¬ after.Denotes file place) :
    after.fileAt? place = some bytes := by
  rcases run.content place with same | ⟨file, member, denotes⟩ | ⟨free, -⟩
  · exact same.trans held
  · exact absurd denotes (other file member)
  · rw [free] at held
    cases held

theorem content_of_outside (run : Run directory fixes files fs outcome after)
    (other : ∀ file ∈ files, ¬ after.Denotes file place)
    (outside : ¬ after.Inside directory place) :
    after.fileAt? place = fs.fileAt? place := by
  rcases run.content place with same | ⟨file, member, denotes⟩ | ⟨-, inside⟩
  · exact same
  · exact absurd denotes (other file member)
  · exact absurd inside outside

/-- What is reported for a file that is not among the files. -/
theorem silent_of_not_mem (run : Run directory fixes files fs outcome after) {file : String}
    (unlisted : file ∉ files) :
    outcome.applied.filter (·.filePath == file) = [] ∧
      outcome.failed.filter (·.path == file) = [] ∧
      outcome.backups.filter (·.file == file) = [] := by
  simp only [List.filter_eq_nil_iff, beq_iff_eq]
  refine ⟨fun fix member same => ?_, fun failure member same => ?_, fun backup member same => ?_⟩
  · exact unlisted (same ▸ run.applied_of_file member)
  · exact unlisted (same ▸ (run.failed_of_file member).1)
  · exact unlisted (same ▸ (run.backups_of_file member).1)

/-- The course of one file, when the others lie elsewhere: it starts behind the run of the files
before it, it starts and ends with what this file holds before and after the run, all that is
reported for the file is reported by it, and the files that it leaves in the backup directory
stay. -/
theorem isolate (run : Run directory fixes files fs outcome after) (nodup : files.Nodup)
    (apart : Apart after directory files) {file : String} (member : file ∈ files) :
    ∃ before behind own, Course directory file (ofFile fixes file) before own behind ∧
      (∃ earlier later front, files = earlier ++ file :: later ∧
        Run directory fixes earlier fs front before) ∧
      behind.Grows after ∧
      (outcome.applied.filter (·.filePath == file) = own.applied ∧
        outcome.failed.filter (·.path == file) = own.failed ∧
        outcome.backups.filter (·.file == file) = own.backups) ∧
      (∀ place, after.Denotes file place →
        before.fileAt? place = fs.fileAt? place ∧ after.fileAt? place = behind.fileAt? place) ∧
      ∀ place bytes, behind.fileAt? place = some bytes → after.Inside directory place →
        after.fileAt? place = some bytes := by
  obtain ⟨earlier, later, before, behind, first, own, last, rfl, front, course, tail, rfl⟩ :=
    run.split member
  have grown := tail.grows
  have unlisted : file ∉ earlier ∧ file ∉ later := by
    simp only [List.nodup_append, List.nodup_cons] at nodup
    exact ⟨fun there => nodup.2.2 file there file List.mem_cons_self rfl, nodup.2.1.1⟩
  have inEarlier {other : String} (there : other ∈ earlier) : other ∈ earlier ++ file :: later :=
    List.mem_append_left _ there
  have inLater {other : String} (there : other ∈ later) : other ∈ earlier ++ file :: later :=
    List.mem_append_right _ (List.mem_cons_of_mem _ there)
  refine ⟨before, behind, own, course, ⟨earlier, later, first, rfl, front⟩, grown, ?_, ?_, ?_⟩
  · obtain ⟨noneApplied, noneFailed, noneSaved⟩ := front.silent_of_not_mem unlisted.1
    obtain ⟨noneApplied', noneFailed', noneSaved'⟩ := tail.silent_of_not_mem unlisted.2
    obtain ⟨allApplied, allFailed, allSaved⟩ := course.filter_reported
    simp only [FixOutcome.append, List.filter_append, noneApplied, noneFailed, noneSaved,
      noneApplied', noneFailed', noneSaved', allApplied, allFailed, allSaved, List.nil_append,
      List.append_nil, and_self]
  · intro place denotes
    have outside := apart.outside file member place denotes
    have wider := course.grows.trans grown
    refine ⟨front.content_of_outside (fun other there aims => ?_) fun inside => ?_,
      tail.content_of_outside (fun other there => ?_) outside⟩
    · have different : other ≠ file := fun same => unlisted.1 (same ▸ there)
      exact apart.distinct file member other (inEarlier there) different place denotes
        (wider.denotes aims)
    · obtain ⟨name, named, entry⟩ := inside
      exact outside ⟨name, named, wider.denotes entry⟩
    · have different : other ≠ file := fun same => unlisted.2 (same ▸ there)
      exact apart.distinct file member other (inLater there) different place denotes
  · intro place bytes held inside
    exact tail.content_of_held held fun other there aims =>
      apart.outside other (inLater there) place aims inside

end Run

/-! ### All files -/

/-- A file is reported as missing when its turn comes, whether it is missing or not. -/
def IsOverlooked (directory : String) (fixes : List Fix) (fs : FileSystem) (files : List String)
    (file : String) : Prop :=
  ∃ earlier later front before, files = earlier ++ file :: later ∧
    Run directory fixes earlier fs front before ∧ before.Overlooks

/-- What holds of the files of some fixes, and of all other files, when the fixes were applied. -/
structure Upholds (directory : String) (fixes : List Fix) (fs : FileSystem) (outcome : FixOutcome)
    (after : FileSystem) : Prop where
  /-- A file is as it was, or is what the fixes that were applied make of it, unless it is lost. -/
  amended : ∀ file ∈ files fixes, ∀ place, after.Denotes file place → ¬ outcome.Loses file →
    after.fileAt? place = fs.fileAt? place ∨
      Amends fixes (outcome.applied.filter (·.filePath == file)) file
        (IsOverlooked directory fixes fs (files fixes) file) (fs.fileAt? place)
        (after.fileAt? place)
  /-- A file is as it was when it could not be read or backed up, or was restored. -/
  spared : ∀ file ∈ files fixes, ∀ place bytes, after.Denotes file place →
    fs.fileAt? place = some bytes →
    (∃ failure ∈ outcome.failed, failure.path = file ∧ failure.fault.Spares) →
    after.fileAt? place = some bytes
  /-- A file that was rewritten has one backup, with what the file held. -/
  saved : ∀ file ∈ files fixes, ∀ place bytes, after.Denotes file place →
    fs.fileAt? place = some bytes →
    (∃ fix ∈ outcome.applied, fix.filePath = file) ∨ after.fileAt? place ≠ some bytes →
    ∃ backup, outcome.backups.filter (·.file == file) = [backup] ∧
      after.content backup.backup = .ok bytes
  nodup_backups : (outcome.backups.map (·.backup)).Nodup
  absent_backups : ∀ backup ∈ outcome.backups, fs.isPresent backup.backup = false
  others : ∀ place bytes, fs.fileAt? place = some bytes →
    (∀ file ∈ files fixes, ¬ after.Denotes file place) → after.fileAt? place = some bytes

/-- Only reading happens between two states that differ in the number of operations. -/
theorem Upholds.tick {directory : String} {fixes : List Fix} {fs after : FileSystem}
    {outcome : FixOutcome} (upholds : Upholds directory fixes fs outcome after) :
    Upholds directory fixes fs outcome after.tick :=
  ⟨upholds.amended, upholds.spared, upholds.saved, upholds.nodup_backups, upholds.absent_backups,
    upholds.others⟩

section

variable {directory : String} {fixes : List Fix} {listed rest : List String}
  {fs after : FileSystem} {outcome : FixOutcome} {file : String} {place : List FileName}

theorem Run.amended (run : Run directory fixes listed fs outcome after) (nodup : listed.Nodup)
    (apart : Apart after directory listed) (member : file ∈ listed)
    (denotes : after.Denotes file place) (kept : ¬ outcome.Loses file) :
    after.fileAt? place = fs.fileAt? place ∨
      Amends fixes (outcome.applied.filter (·.filePath == file)) file
        (IsOverlooked directory fixes fs listed file) (fs.fileAt? place)
        (after.fileAt? place) := by
  obtain ⟨before, behind, own, course, ⟨earlier, later, front, split, past⟩, grown,
    ⟨applied, failed, backups⟩, frame, -⟩ := run.isolate nodup apart member
  obtain ⟨start, finish⟩ := frame place denotes
  have kept : ¬ own.Loses file := by
    rintro ⟨failure, there, path, fault⟩
    rw [← failed] at there
    refine kept ⟨failure, List.mem_of_mem_filter there, path, fault.imp_right ?_⟩
    rintro ⟨kind, unsaved⟩
    refine ⟨kind, fun backup there same => unsaved backup ?_ same⟩
    rw [← backups]
    exact List.mem_filter.mpr ⟨there, by simpa using same⟩
  have overlooked (overlooks : before.Overlooks) : IsOverlooked directory fixes fs listed file :=
    ⟨earlier, later, front, before, split, past, overlooks⟩
  rw [applied, finish, ← start]
  cases held : before.fileAt? place with
  | none =>
    have outside : ¬ behind.Inside directory place := by
      rintro ⟨name, named, entry⟩
      exact apart.outside file member place denotes ⟨name, named, grown.denotes entry⟩
    rcases course.absent_cases grown denotes outside held with absent | lost | amends
    · exact .inl absent
    · exact absurd lost kept
    · exact .inr (amends.imp overlooked)
  | some bytes =>
    rcases course.held_cases grown denotes held with
      ⟨-, same⟩ | ⟨backup, target, now, -, backed, -, lost | amends⟩
    · exact .inl same
    · exact absurd lost kept
    · rw [backed.current]
      exact .inr (amends.imp overlooked)

theorem Run.spared (run : Run directory fixes listed fs outcome after) (nodup : listed.Nodup)
    (apart : Apart after directory listed) (member : file ∈ listed)
    (denotes : after.Denotes file place) {bytes : List UInt8}
    (held : fs.fileAt? place = some bytes)
    (failure : ∃ failure ∈ outcome.failed, failure.path = file ∧ failure.fault.Spares) :
    after.fileAt? place = some bytes := by
  obtain ⟨before, behind, own, course, -, grown, ⟨-, failed, -⟩, frame, -⟩ :=
    run.isolate nodup apart member
  obtain ⟨start, finish⟩ := frame place denotes
  rw [← start] at held
  rcases course.held_cases grown denotes held with
    ⟨-, same⟩ | ⟨backup, target, now, -, -, spares, -⟩
  · exact finish.trans same
  · obtain ⟨failure, there, path, spare⟩ := failure
    have listed : failure ∈ outcome.failed.filter (·.path == file) :=
      List.mem_filter.mpr ⟨there, by simpa using path⟩
    rw [failed] at listed
    exact absurd spare (spares failure listed)

theorem Run.saved (run : Run directory fixes listed fs outcome after) (nodup : listed.Nodup)
    (apart : Apart after directory listed) (member : file ∈ listed)
    (denotes : after.Denotes file place) {bytes : List UInt8}
    (held : fs.fileAt? place = some bytes)
    (rewritten : (∃ fix ∈ outcome.applied, fix.filePath = file) ∨
      after.fileAt? place ≠ some bytes) :
    ∃ backup, outcome.backups.filter (·.file == file) = [backup] ∧
      after.content backup.backup = .ok bytes := by
  obtain ⟨before, behind, own, course, -, grown, ⟨applied, -, backups⟩, frame, stays⟩ :=
    run.isolate nodup apart member
  obtain ⟨start, finish⟩ := frame place denotes
  rw [← start] at held
  rw [backups]
  rcases course.held_cases grown denotes held with
    ⟨unfixed, same⟩ | ⟨backup, target, now, one, backed, -, -⟩
  · rcases rewritten with ⟨fix, there, path⟩ | changed
    · have listed : fix ∈ outcome.applied.filter (·.filePath == file) :=
        List.mem_filter.mpr ⟨there, by simpa using path⟩
      rw [applied, unfixed] at listed
      cases listed
    · exact absurd (finish.trans same) changed
  · have aims := grown.denotes backed.target
    obtain ⟨name, named, entry⟩ := backed.entry
    have stayed := stays target bytes backed.saved ⟨name, named, entry ▸ aims⟩
    exact ⟨backup, one, FileSystem.content_of_fileAt? aims stayed⟩

/-- A run upholds the files when it has dealt with some of them. The others it has left alone. -/
theorem Run.upholds (run : Run directory fixes listed fs outcome after)
    (whole : files fixes = listed ++ rest) (apart : Apart after directory (files fixes)) :
    Upholds directory fixes fs outcome after := by
  have inFiles {file : String} (member : file ∈ listed) : file ∈ files fixes :=
    whole ▸ List.mem_append_left rest member
  have nodup : listed.Nodup := (List.nodup_append.mp (whole ▸ nodup_files fixes)).1
  have fewer : Apart after directory listed :=
    { distinct := fun file member other there =>
        apart.distinct file (inFiles member) other (inFiles there)
      outside := fun file member => apart.outside file (inFiles member) }
  have same {file : String} {place : List FileName} (member : file ∈ files fixes)
      (unlisted : file ∉ listed) (denotes : after.Denotes file place) :
      after.fileAt? place = fs.fileAt? place := by
    refine run.content_of_outside (fun other there => ?_) (apart.outside file member place denotes)
    have different : other ≠ file := fun same => unlisted (same ▸ there)
    exact apart.distinct file member other (inFiles there) different place denotes
  refine ⟨fun file member place denotes kept => ?_,
    fun file member place bytes denotes held failure => ?_,
    fun file member place bytes denotes held rewritten => ?_, run.nodup_backups,
    fun _ saved => by simpa using (run.backups_of_file saved).2,
    fun _ _ held other => run.content_of_held held fun file member => other file (inFiles member)⟩
  · by_cases reached : file ∈ listed
    · refine (run.amended nodup fewer reached denotes kept).imp_right fun amends => amends.imp ?_
      rintro ⟨earlier, later, front, before, split, past⟩
      exact ⟨earlier, later ++ rest, front, before, by simp [whole, split], past⟩
    · exact .inl (same member reached denotes)
  · by_cases reached : file ∈ listed
    · exact run.spared nodup fewer reached denotes held failure
    · exact (same member reached denotes).trans held
  · by_cases reached : file ∈ listed
    · exact run.saved nodup fewer reached denotes held rewritten
    · rcases rewritten with ⟨fix, applied, rfl⟩ | changed
      · exact absurd (run.applied_of_file applied) reached
      · exact absurd ((same member reached denotes).trans held) changed

end

/-- Applying fixes upholds the files, whatever fails, where the paths of the fixes stand for
different files that are not in the backup directory. Paths are read when all is done: one of them
may lead through a directory that was made for backups. When the run crashes, what it upholds is
told by an outcome that is not given. -/
theorem applyAll_upholds (settings : FixSettings) (fixes : List Fix) (fs : FileSystem)
    (apart : Apart ((applyAll disk settings fixes).run fs).2 settings.backupDirectory
      (files (fixes.filter settings.allows))) :
    let eligible := fixes.filter settings.allows
    let ran := (applyAll disk settings fixes).run fs
    (∀ outcome, ran.1 = .ok outcome →
      Upholds settings.backupDirectory eligible fs outcome ran.2) ∧
    ∀ crash, ran.1 = .error crash → ∃ front,
      Crashes settings.backupDirectory eligible (files eligible) fs crash front ran.2 ∧
        Upholds settings.backupDirectory eligible fs front ran.2 := by
  intro eligible ran
  refine ⟨fun outcome given => ?_, fun crash given => ?_⟩
  · exact (run_of_applyAll given).upholds (List.append_nil _).symm apart
  · obtain ⟨front, crashes⟩ := crashes_of_applyAll given
    have site := crashes
    obtain ⟨earlier, file, later, middle, text, split, run, -, -, ends⟩ := site
    have before : Apart middle settings.backupDirectory (files eligible) := by
      have behind : Apart middle.tick settings.backupDirectory (files eligible) := ends ▸ apart
      exact ⟨behind.distinct, behind.outside⟩
    exact ⟨front, crashes, ends ▸ (run.upholds split before).tick⟩

/-- A directory of files only. -/
def holdsFiles : FileNode → Bool
  | .directory entries => entries.all (·.2.isFile)
  | _ => false

/-- Paths are apart when they lead to different places, outside a backup directory that holds files
only. -/
theorem Apart.of_places {fs : FileSystem} {directory : String} {files : List String}
    (place : String → List FileName) {above : List FileName}
    (denotes : ∀ file ∈ files, fs.Denotes file (place file))
    (distinct : ∀ file ∈ files, ∀ other ∈ files, other ≠ file → place file ≠ place other)
    (opens : fs.Opens directory above) (plain : (fs.root.find? above).any holdsFiles)
    (outside : ∀ file ∈ files, (place file).dropLast ≠ above) : Apart fs directory files where
  distinct file member other there different target aims aimed := by
    obtain rfl := aims.unique (denotes file member)
    exact distinct file member other there different (aimed.unique (denotes other there))
  outside file member target aims := by
    rintro ⟨name, named, entry⟩
    obtain rfl := aims.unique (denotes file member)
    obtain ⟨opened, first, ends⟩ := entry.entry named
    obtain rfl := first.unique opens
    rcases ends with there | ⟨target, link⟩
    · refine outside file member ?_
      rw [there, List.dropLast_concat]
    · obtain ⟨entries, listed⟩ := FileNode.exists_entries opens.2
      rw [listed] at plain
      rw [FileNode.shapeAt?, FileNode.find?_append, listed] at link
      cases found : entries.lookup (.ofText name) with
      | none => simp [FileNode.find?, found] at link
      | some node =>
        obtain ⟨front, behind, rfl, -⟩ := List.lookup_eq_some_iff.mp found
        have isFile : node.isFile := List.all_eq_true.mp plain (name, node) (by simp)
        cases node <;> simp [FileNode.find?, FileNode.isFile, FileNode.shape, found] at isFile link

/-- Two files of the same name, and another one. The second file cannot be written: the eighth
operation leaves it empty. The third one cannot be read: the twelfth operation reports it as
missing. -/
def scriptFiles : FileSystem where
  root := .directory
    [("app.js", .file (Text.encode "init();\n".toList)),
      ("lib", .directory [("app.js", .file (Text.encode "load();\n".toList))]),
      ("old.js", .file (Text.encode "send();\n".toList))]
  faults n :=
    if n = 7 then some ⟨.permissionDenied, some []⟩
    else if n = 11 then some ⟨.notFound, none⟩
    else none

/-- A function for each of them, and one for a file that is not there. -/
def scriptStubs : List Fix :=
  [⟨.addFunctionStub, "app.js", 2, "", true, "init", none, none⟩,
    ⟨.addFunctionStub, "lib/app.js", 2, "", true, "load", none, none⟩,
    ⟨.addFunctionStub, "new.js", 1, "", true, "save", none, none⟩,
    ⟨.addFunctionStub, "old.js", 2, "", true, "send", none, none⟩]

def scriptRun : Except FixCrash FixOutcome × FileSystem :=
  (applyAll disk ⟨"backups", true⟩ scriptStubs).run scriptFiles

def scriptOutcome : FixOutcome := scriptRun.1.toOption.getD {}

theorem scriptRun_eq :
    (scriptRun.1 = .ok scriptOutcome ∧
      scriptOutcome.applied.map (·.filePath) = ["app.js", "new.js", "old.js"] ∧
      scriptOutcome.backups.map (·.file) = ["app.js", "lib/app.js", "old.js"] ∧
      scriptRun.2.fileAt? ["old.js"] = some (Text.encode (Edit.stub "send").toList)) ∧
    FileSystem.walkLinks scriptRun.2.root true (FileSystem.linkLimit + 1)
      (scriptRun.2.start "backups") (FileSystem.lead "backups") = .ok ["backups"] ∧
    scriptRun.2.root.shapeAt? ["backups"] = some .directory ∧
    (scriptRun.2.root.find? ["backups"]).any holdsFiles ∧
    (∀ file ∈ files scriptStubs, scriptRun.2.Denotes file (FileSystem.pieces file)) ∧
    (∀ file ∈ files scriptStubs, ∀ other ∈ files scriptStubs, other ≠ file →
      FileSystem.pieces file ≠ FileSystem.pieces other) ∧
    ∀ file ∈ files scriptStubs, (FileSystem.pieces file).dropLast ≠ ["backups"] := by
  decide +kernel

/-- The first file is rewritten, the second one restored, and a new one is made. The file that was
overlooked holds nothing but the function that was added. -/
theorem applyAll_upholds_scriptFiles :
    Apart scriptRun.2 "backups" (files scriptStubs) ∧
      scriptRun.1 = .ok scriptOutcome ∧
      scriptOutcome.applied.map (·.filePath) = ["app.js", "new.js", "old.js"] ∧
      scriptOutcome.backups.map (·.file) = ["app.js", "lib/app.js", "old.js"] ∧
      scriptRun.2.fileAt? ["old.js"] = some (Text.encode (Edit.stub "send").toList) ∧
      Upholds "backups" scriptStubs scriptFiles scriptOutcome scriptRun.2 := by
  obtain ⟨⟨given, applied, backups, left⟩, arrives, directory, plain, denotes, distinct, outside⟩ :=
    scriptRun_eq
  have apart : Apart scriptRun.2 "backups" (files scriptStubs) :=
    Apart.of_places FileSystem.pieces denotes distinct
      ⟨FileSystem.walkLinks_eq_ok_iff.mp arrives, directory⟩ plain outside
  exact ⟨apart, given, applied, backups, left,
    (applyAll_upholds ⟨"backups", true⟩ scriptStubs scriptFiles apart).1 scriptOutcome given⟩

/-- The first file is rewritten. Then the run crashes, so that the backup of this file is listed
nowhere. -/
theorem rewritten_before_crash :
    (markedRun markedRemovals).1 =
        .error ⟨⟨.removeFunction, "b.js", 1, "", true, "b", none, none⟩, ⟨6, 20⟩⟩ ∧
      markedFiles.fileAt? ["a.js"] = some (Text.encode "function a() \x7b\x7d\n".toList) ∧
      (markedRun markedRemovals).2.fileAt? ["a.js"] = some [] ∧
      (markedRun markedRemovals).2.fileAt? ["backups", "a.js.0.backup"] =
        some (Text.encode "function a() \x7b\x7d\n".toList) := by
  obtain ⟨-, crashed, rewritten, saved⟩ := markedRun_eq
  exact ⟨crashed, rfl, rewritten, saved⟩

end Fix

end PageWiring
