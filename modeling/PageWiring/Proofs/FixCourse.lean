import Mathlib.Data.List.Sort
import PageWiring.Proofs.FileOperations

/-!
The course of applying fixes, file by file.

`Course` lists the ways in which the fixes of one file can end, each with what is reported and with
what has become of the files. `Run` puts courses together, and `Crashes` is a run that ends at a
file whose fixes crash. All that is proved about the application of fixes is read off these.
-/
namespace PageWiring

open FileSystem (disk)

/-! ### Sorting -/

theorem sortBy_eq_insertionSort {α : Type} (le : α → α → Bool) (l : List α) :
    sortBy le l = l.insertionSort fun a b => le a b := by
  have insert (a : α) (l : List α) : insertSorted le a l = l.orderedInsert (le · ·) a := by
    induction l with
    | nil => rfl
    | cons b l ih => rw [insertSorted, List.orderedInsert_cons, ih]
  induction l with
  | nil => rfl
  | cons a l ih => rw [sortBy, List.insertionSort_cons, insert, ih]

theorem perm_sortBy {α : Type} (le : α → α → Bool) (l : List α) : (sortBy le l).Perm l := by
  rw [sortBy_eq_insertionSort]
  exact List.perm_insertionSort _ l

theorem nodup_eraseDups {α : Type} [BEq α] [LawfulBEq α] (l : List α) : l.eraseDups.Nodup := by
  induction hn : l.length using Nat.strongRecOn generalizing l with
  | ind n ih =>
    cases l with
    | nil => simp
    | cons a l =>
      rw [List.eraseDups_cons]
      refine List.nodup_cons.mpr ⟨by simp, ih _ ?_ _ rfl⟩
      have shorter := List.length_filter_le (fun b => !b == a) l
      simp only [List.length_cons] at hn
      omega

theorem FixOutcome.append_assoc (a b c : FixOutcome) :
    (a.append b).append c = a.append (b.append c) := by
  simp [append]

namespace Fix

theorem mem_files {fixes : List Fix} {file : String} :
    file ∈ files fixes ↔ ∃ fix ∈ fixes, fix.filePath = file := by
  rw [files, (perm_sortBy _ _).mem_iff, List.mem_eraseDups, List.mem_map]

theorem nodup_files (fixes : List Fix) : (files fixes).Nodup :=
  (perm_sortBy _ _).nodup_iff.mpr (nodup_eraseDups _)

theorem perm_ofFile (fixes : List Fix) (file : String) :
    (ofFile fixes file).Perm (fixes.filter (·.filePath == file)) := perm_sortBy _ _

theorem filePath_of_mem_ofFile {fixes : List Fix} {file : String} {fix : Fix}
    (member : fix ∈ ofFile fixes file) : fix.filePath = file := by
  simpa using (List.mem_filter.mp ((perm_ofFile fixes file).mem_iff.mp member)).2

/-- The fixes of a file are tried from its last line up. -/
theorem pairwise_ofFile (fixes : List Fix) (file : String) :
    (ofFile fixes file).Pairwise fun a b => b.line ≤ a.line := by
  rw [ofFile, sortBy_eq_insertionSort]
  have total : Std.Total fun a b : Fix => decide (b.line ≤ a.line) = true :=
    ⟨fun a b => by simpa using Nat.le_total b.line a.line⟩
  have trans : IsTrans Fix fun a b => decide (b.line ≤ a.line) = true :=
    ⟨fun a b c => by simpa using fun ab bc => Nat.le_trans bc ab⟩
  exact (List.pairwise_insertionSort _ _).imp fun below => of_decide_eq_true below

/-! ### Edits -/

/-- Fixes are tried on a text in their order, and those that fit change it: `done` are these, and
`result` is the text behind them. -/
inductive Edits : (text : List Char) → (fixes done : List Fix) → (result : List Char) → Prop
  | nil {text} : Edits text [] [] text
  | fits {text fix rest edited done result} (fit : fix.edit text = .ok edited)
      (later : Edits edited rest done result) : Edits text (fix :: rest) (fix :: done) result
  | misfits {text fix rest fault done result} (misfit : fix.edit text = .error (.unfit fault))
      (later : Edits text rest done result) : Edits text (fix :: rest) done result

/-- Fixes are tried on a text in their order, up to one that cannot be made or given up. -/
inductive Tears : (text : List Char) → (fixes : List Fix) → FixCrash → Prop
  | here {text fix rest stretch} (torn : fix.edit text = .error (.torn stretch)) :
      Tears text (fix :: rest) ⟨fix, stretch⟩
  | fits {text fix rest edited crash} (fit : fix.edit text = .ok edited)
      (later : Tears edited rest crash) : Tears text (fix :: rest) crash
  | misfits {text fix rest fault crash} (misfit : fix.edit text = .error (.unfit fault))
      (later : Tears text rest crash) : Tears text (fix :: rest) crash

theorem Edits.sublist {text result : List Char} {fixes done : List Fix}
    (edits : Edits text fixes done result) : done.Sublist fixes := by
  induction edits with
  | nil => exact .slnil
  | fits _ _ ih => exact ih.cons_cons _
  | misfits _ _ ih => exact ih.cons _

/-- The failures of fixes that did not fit, each for its own fix. -/
def Misfits (path : String) (failed : List FixFailure) : Prop :=
  ∀ failure ∈ failed, ∃ fault fix, failure = ⟨path, .edit fault, some fix⟩

/-- What trying a fix adds to what was edited before, if it does not crash. -/
theorem editStep_cases (path : String) (e : Edited) (fix : Fix) :
    (∃ text, fix.edit e.text = .ok text ∧
      editStep path e fix = .ok ⟨text, e.applied ++ [fix], e.failed⟩) ∨
    (∃ fault, fix.edit e.text = .error (.unfit fault) ∧
      editStep path e fix =
        .ok ⟨e.text, e.applied, e.failed ++ [⟨path, .edit fault, some fix⟩]⟩) ∨
    ∃ stretch, fix.edit e.text = .error (.torn stretch) ∧
      editStep path e fix = .error ⟨fix, stretch⟩ := by
  unfold editStep
  rcases fix.edit e.text with (fault | stretch) | text
  · exact .inr (.inl ⟨fault, rfl, rfl⟩)
  · exact .inr (.inr ⟨stretch, rfl, rfl⟩)
  · exact .inl ⟨text, rfl, rfl⟩

theorem foldlM_editStep (path : String) {fixes : List Fix} {start edited : Edited}
    (folded : fixes.foldlM (editStep path) start = .ok edited) :
    ∃ done failed, Edits start.text fixes done edited.text ∧
      edited.applied = start.applied ++ done ∧ edited.failed = start.failed ++ failed ∧
      (done ++ failed.filterMap (·.fix)).Perm fixes ∧ Misfits path failed := by
  induction fixes generalizing start with
  | nil =>
    cases folded
    exact ⟨[], [], .nil, by simp, by simp, .refl [], by simp [Misfits]⟩
  | cons fix rest ih =>
    rw [List.foldlM_cons] at folded
    rcases editStep_cases path start fix with
      ⟨text, fit, step⟩ | ⟨fault, misfit, step⟩ | ⟨stretch, torn, step⟩
    · rw [step] at folded
      obtain ⟨done, failed, edits, applied, listed, perm, misfits⟩ := ih folded
      refine ⟨fix :: done, failed, .fits fit edits, ?_, listed, perm.cons fix, misfits⟩
      simp [applied]
    · rw [step] at folded
      obtain ⟨done, failed, edits, applied, listed, perm, misfits⟩ := ih folded
      refine ⟨done, ⟨path, .edit fault, some fix⟩ :: failed, .misfits misfit edits, applied,
        by simp [listed], List.perm_middle.trans (perm.cons fix), ?_⟩
      intro failure member
      rcases List.mem_cons.mp member with rfl | member
      · exact ⟨fault, fix, rfl⟩
      · exact misfits failure member
    · rw [step] at folded
      cases folded

/-- Trying all fixes of a file accounts for each of them once, if none of them crashes. -/
theorem editAll_spec {path : String} {text : List Char} {fixes : List Fix} {edited : Edited}
    (tried : editAll path text fixes = .ok edited) :
    Edits text fixes edited.applied edited.text ∧
      (edited.applied ++ edited.failed.filterMap (·.fix)).Perm fixes ∧
      Misfits path edited.failed := by
  obtain ⟨done, failed, edits, applied, listed, perm, misfits⟩ := foldlM_editStep path tried
  rw [List.nil_append] at applied listed
  rw [applied, listed]
  exact ⟨edits, perm, misfits⟩

theorem foldlM_editStep_eq_error_iff {path : String} {fixes : List Fix} {start : Edited}
    {crash : FixCrash} :
    fixes.foldlM (editStep path) start = .error crash ↔ Tears start.text fixes crash := by
  induction fixes generalizing start with
  | nil =>
    constructor
    · intro folded
      cases folded
    · intro tears
      cases tears
  | cons fix rest ih =>
    rw [List.foldlM_cons]
    rcases editStep_cases path start fix with
      ⟨text, tried, step⟩ | ⟨fault, tried, step⟩ | ⟨stretch, tried, step⟩
    · rw [step]
      refine ih.trans ⟨.fits tried, fun tears => ?_⟩
      cases tears <;> simp_all
    · rw [step]
      refine ih.trans ⟨.misfits tried, fun tears => ?_⟩
      cases tears <;> simp_all
    · rw [step]
      constructor
      · intro folded
        cases folded
        exact .here tried
      · intro tears
        cases tears <;> simp_all [bind, Except.bind]

theorem editAll_eq_error_iff {path : String} {text : List Char} {fixes : List Fix}
    {crash : FixCrash} : editAll path text fixes = .error crash ↔ Tears text fixes crash :=
  foldlM_editStep_eq_error_iff

theorem filterMap_failAll (path : String) (fault : FixFault) (fixes : List Fix) :
    (failAll path fault fixes).filterMap (·.fix) = fixes := by
  simp [failAll, List.filterMap_map]

theorem exists_of_mem_failAll {path : String} {fault : FixFault} {fixes : List Fix}
    {failure : FixFailure} (member : failure ∈ failAll path fault fixes) :
    ∃ fix ∈ fixes, failure = ⟨path, fault, some fix⟩ := by
  obtain ⟨fix, listed, rfl⟩ := List.mem_map.mp member
  exact ⟨fix, listed, rfl⟩

/-! ### Backing a file up -/

/-- The copies that failed may have left files in the backup directory that were not there. -/
structure Strays (directory : String) (a b : FileSystem) : Prop where
  grows : a.Grows b
  content : ∀ place, b.fileAt? place = a.fileAt? place ∨
    a.fileAt? place = none ∧ b.Inside directory place

/-- A file was copied to a new place before anything else was done to it. `bytes` is what it held,
and `now` is what it holds. -/
structure Backed (directory path : String) (a b : FileSystem) (backup : Backup)
    (origin place : List FileName) (bytes now : List UInt8) : Prop where
  file : backup.file = path
  entry : ∃ name, Path.IsName name ∧ backup.backup = Path.join directory name
  absent : ¬ a.isPresent backup.backup
  denotes : a.Denotes path origin
  held : a.fileAt? origin = some bytes
  target : b.Denotes backup.backup place
  free : a.fileAt? place = none
  grows : a.Grows b
  content : ∀ other, b.fileAt? other =
    if other = origin then some now else if other = place then some bytes else a.fileAt? other

namespace Backed

variable {directory path : String} {a b c : FileSystem} {backup : Backup}
  {origin place : List FileName} {bytes now : List UInt8}

theorem ne (backed : Backed directory path a b backup origin place bytes now) :
    place ≠ origin := by
  rintro rfl
  have held := backed.held
  rw [backed.free] at held
  cases held

/-- The backup holds what the file held. -/
theorem saved (backed : Backed directory path a b backup origin place bytes now) :
    b.fileAt? place = some bytes := by
  rw [backed.content, if_neg backed.ne, if_pos rfl]

theorem current (backed : Backed directory path a b backup origin place bytes now) :
    b.fileAt? origin = some now := by
  rw [backed.content, if_pos rfl]

theorem write {new : List UInt8} (backed : Backed directory path a b backup origin place bytes now)
    (writes : b.Writes c origin new) : Backed directory path a c backup origin place bytes new :=
  { backed with
    target := writes.grows.denotes backed.target
    grows := backed.grows.trans writes.grows
    content := by
      intro other
      rw [writes.content, backed.content]
      split <;> rfl }

theorem keep (backed : Backed directory path a b backup origin place bytes now)
    (keeps : b.Keeps c) : Backed directory path a c backup origin place bytes now :=
  { backed with
    target := keeps.grows.denotes backed.target
    grows := backed.grows.trans keeps.grows
    content := fun other => (keeps.content other).trans (backed.content other) }

/-- A write that fails may leave the file with another content, but the backup stays. -/
theorem spoil (backed : Backed directory path a b backup origin place bytes now)
    (spoils : b.Spoils c path) :
    ∃ new, Backed directory path a c backup origin place bytes new := by
  rcases spoils with keeps | ⟨touched, new, denotes, writes⟩
  · exact ⟨now, backed.keep keeps⟩
  · obtain rfl := denotes.unique (backed.grows.denotes backed.denotes)
    exact ⟨new, backed.write writes⟩

/-- Copying the backup over the file brings back what it held. -/
theorem restore (backed : Backed directory path a b backup origin place bytes now)
    {result : Except FileError Unit}
    (ran : (disk.copy backup.backup path).run b = (result, c)) :
    (result = .ok () ∧ Backed directory path a c backup origin place bytes bytes) ∨
      ∃ cause new, result = .error cause ∧
        Backed directory path a c backup origin place bytes new := by
  rcases FileSystem.copy_cases ran with
    ⟨rfl, source, copied, target, denotes, held, aim, writes⟩ | ⟨cause, rfl, spoils⟩
  · obtain rfl := denotes.unique backed.target
    obtain rfl := aim.unique (backed.grows.denotes backed.denotes)
    rw [backed.saved] at held
    cases held
    rw [if_neg backed.ne] at writes
    exact .inl ⟨rfl, backed.write writes⟩
  · obtain ⟨new, backed⟩ := backed.spoil spoils
    exact .inr ⟨cause, new, rfl, backed⟩

end Backed

/-- A fault for which no backup was made. -/
def IsBackupFault (fault : FixFault) : Prop :=
  (∃ directory cause, fault = .backupDirectory directory cause) ∨
    ∃ path cause, fault = .noBackup path cause

/-- A backup is an entry of the backup directory for which there was nothing. -/
theorem backupPath_run {directory path target : String} {fs after : FileSystem}
    (ran : (backupPath disk directory path).run fs = (target, after)) :
    after = fs ∧ ¬ fs.isPresent target ∧
      ∃ name, Path.IsName name ∧ target = Path.join directory name := by
  have plain := slash_not_mem_backedName path
  unfold backupPath at ran
  generalize (Path.fileName? path).getD "file" = base at ran plain
  rw [FileSystem.run_bind
    (rfl : disk.now.run fs = (fs.now + fs.elapsed fs.clock, fs))] at ran
  generalize fs.now + fs.elapsed fs.clock = time at ran
  have named := isName_backupName plain time
  have free := fs.searchAbsent_absent directory (backupName_injective base time) named
  generalize backupName base time = name at ran named free
  dsimp only at ran free
  rw [FileSystem.run_bind
    (rfl : (disk.firstAbsent fun n => Path.join directory (name n)).run fs = (_, fs))] at ran
  generalize fs.searchAbsent (fun n => Path.join directory (name n)) (fs.root.count + 1) 0 = n
    at ran free
  cases ran
  exact ⟨rfl, free, name n, named n, rfl⟩

/-- Backing up what a path stands for in `fs`, when nothing but directories was added since. -/
theorem backUp_cases {directory path : String} {fs start after : FileSystem}
    {result : Except FixFault Backup} {origin : List FileName} (denotes : fs.Denotes path origin)
    (kept : fs.Keeps start) (ran : (backUp disk directory path).run start = (result, after)) :
    (∃ fault, result = .error fault ∧ IsBackupFault fault ∧ Strays directory fs after) ∨
      ∃ backup place bytes, result = .ok backup ∧
        Backed directory path fs after backup origin place bytes bytes := by
  rcases made : (disk.makeDirectories directory).run start with ⟨answer, middle⟩
  have keeps := kept.trans (FileSystem.makeDirectories_keeps made)
  unfold backUp at ran
  rw [FileSystem.run_bind made] at ran
  cases answer with
  | error cause =>
    cases ran
    exact .inl ⟨_, rfl, .inl ⟨directory, cause, rfl⟩, keeps.grows,
      fun place => .inl (keeps.content place)⟩
  | ok done =>
    rcases chosen : (backupPath disk directory path).run middle with ⟨target, same⟩
    obtain ⟨rfl, free, name, named, entry⟩ := backupPath_run chosen
    dsimp only at ran
    rw [FileSystem.run_bind chosen] at ran
    rcases copied : (disk.copy path target).run same with ⟨answer, last⟩
    rw [FileSystem.run_bind copied] at ran
    have vacant {place : List FileName} (aim : same.Denotes target place) :
        fs.fileAt? place = none := by
      rw [← keeps.content, Option.eq_none_iff_forall_ne_some]
      intro bytes held
      exact free (FileSystem.isPresent_of_fileAt? aim held)
    rcases FileSystem.copy_cases copied with
      ⟨rfl, source, bytes, place, aims, held, aim, writes⟩ | ⟨cause, rfl, spoils⟩
    · cases ran
      obtain rfl := aims.unique (keeps.grows.denotes denotes)
      rw [keeps.content] at held
      have other : source ≠ place := by
        rintro rfl
        rw [vacant aim] at held
        cases held
      rw [if_neg other] at writes
      refine .inr ⟨_, place, bytes, rfl, rfl, ⟨name, named, entry⟩,
        fun present => free (keeps.grows.isPresent present), denotes, held,
        writes.grows.denotes aim, vacant aim, keeps.grows.trans writes.grows, ?_⟩
      intro file
      rw [writes.content, keeps.content]
      split_ifs with atPlace atSource
      · exact absurd (atSource.symm.trans atPlace) other
      · rfl
      · rename_i atSource
        rw [atSource, held]
      · rfl
    · cases ran
      refine .inl ⟨_, rfl, .inr ⟨path, cause, rfl⟩, ?_⟩
      rcases spoils with kept | ⟨place, left, aim, writes⟩
      · exact ⟨keeps.grows.trans kept.grows,
          fun place => .inl ((keeps.trans kept).content place)⟩
      · refine ⟨keeps.grows.trans writes.grows, fun other => ?_⟩
        by_cases own : other = place
        · subst own
          exact .inr ⟨vacant aim, name, named, entry ▸ writes.grows.denotes aim⟩
        · exact .inl ((writes.other own).trans (keeps.content other))

/-! ### One file -/

/-- The ways in which the fixes of one file can end, but for a crash. `edited` is what trying them
on the text of the file gives; a file that is missing, or is said to be, has the empty text when
there are only functions to add. -/
inductive Course (directory path : String) (fixes : List Fix) (fs : FileSystem) :
    FixOutcome → FileSystem → Prop
  | unreadable {cause after} (keeps : fs.Keeps after) :
      Course directory path fixes fs { failed := failAll path (.unreadable cause) fixes } after
  /-- No fix fits. -/
  | unfit {text edited after} (tried : editAll path text fixes = .ok edited)
      (nothing : edited.applied = []) (keeps : fs.Keeps after) :
      Course directory path fixes fs { failed := edited.failed } after
  /-- The fixes that fit undo each other. -/
  | unchanged {text edited after} (tried : editAll path text fixes = .ok edited)
      (read : ((disk.readText path).run fs).1 = .ok text) (same : edited.text = text)
      (keeps : fs.Keeps after) :
      Course directory path fixes fs { failed := edited.failed } after
  | unbacked {text edited fault after} (tried : editAll path text fixes = .ok edited)
      (filled : edited.applied ≠ []) (kind : IsBackupFault fault)
      (strays : Strays directory fs after) :
      Course directory path fixes fs
        { failed := edited.failed ++ failAll path fault edited.applied } after
  | rewritten {text edited backup origin place bytes after}
      (tried : editAll path text fixes = .ok edited) (filled : edited.applied ≠ [])
      (start : Text.decode? bytes = some text ∨ text = [] ∧ fs.Overlooks)
      (backed : Backed directory path fs after backup origin place bytes
        (Text.encode edited.text)) :
      Course directory path fixes fs ⟨edited.applied, edited.failed, [backup]⟩ after
  | restored {text edited backup origin place bytes cause after}
      (tried : editAll path text fixes = .ok edited) (filled : edited.applied ≠ [])
      (backed : Backed directory path fs after backup origin place bytes bytes) :
      Course directory path fixes fs
        ⟨[], edited.failed ++ failAll path (.unwritable cause none) edited.applied, [backup]⟩ after
  | lost {text edited backup origin place bytes now cause second after}
      (tried : editAll path text fixes = .ok edited) (filled : edited.applied ≠ [])
      (backed : Backed directory path fs after backup origin place bytes now) :
      Course directory path fixes fs
        ⟨[], edited.failed ++ failAll path (.unwritable cause (some second)) edited.applied,
          [backup]⟩ after
  | created {edited place after} (tried : editAll path [] fixes = .ok edited)
      (filled : edited.applied ≠ []) (absent : ¬ fs.isPresent path)
      (denotes : fs.Denotes path place)
      (writes : fs.Writes after place (Text.encode edited.text)) :
      Course directory path fixes fs ⟨edited.applied, edited.failed, []⟩ after
  | uncreated {edited cause after} (tried : editAll path [] fixes = .ok edited)
      (filled : edited.applied ≠ []) (absent : ¬ fs.isPresent path)
      (spoils : fs.Spoils after path) :
      Course directory path fixes fs
        ⟨[], edited.failed ++ failAll path (.unwritable cause none) edited.applied, []⟩ after

section

variable {directory path : String} {fixes : List Fix} {fs middle after : FileSystem}
  {text : List Char} {edited : Edited} {outcome : FixOutcome}

theorem replace_course_backed {backup : Backup} {origin place : List FileName} {bytes : List UInt8}
    (tried : editAll path text fixes = .ok edited) (filled : edited.applied ≠ [])
    (start : Text.decode? bytes = some text ∨ text = [] ∧ fs.Overlooks)
    (backed : Backed directory path fs middle backup origin place bytes bytes)
    (ran : (replace disk path edited (some backup)).run middle = (outcome, after)) :
    Course directory path fixes fs outcome after := by
  unfold replace at ran
  rcases wrote : (disk.writeText path edited.text).run middle with ⟨answer, written⟩
  rw [FileSystem.run_bind wrote] at ran
  rcases FileSystem.write_cases wrote with ⟨rfl, target, aim, writes⟩ | ⟨cause, rfl, spoils⟩
  · cases ran
    obtain rfl := aim.unique (backed.grows.denotes backed.denotes)
    exact .rewritten tried filled start (backed.write writes)
  · obtain ⟨now, spoilt⟩ := backed.spoil spoils
    rcases copied : (disk.copy backup.backup path).run written with ⟨answer, last⟩
    have again : (restore disk path (some backup)).run written =
        (match answer with | .ok _ => none | .error e => some e, last) := by
      rw [restore, FileSystem.run_bind copied]
      cases answer <;> rfl
    dsimp only at ran
    rw [FileSystem.run_bind again] at ran
    cases ran
    rcases spoilt.restore copied with ⟨rfl, backed⟩ | ⟨second, new, rfl, backed⟩
    · exact .restored tried filled backed
    · exact .lost tried filled backed

theorem replace_course_absent (tried : editAll path [] fixes = .ok edited)
    (filled : edited.applied ≠ []) (absent : ¬ fs.isPresent path)
    (ran : (replace disk path edited none).run fs.tick = (outcome, after)) :
    Course directory path fixes fs outcome after := by
  have keeps := FileSystem.Keeps.tick fs
  unfold replace at ran
  rcases wrote : (disk.writeText path edited.text).run fs.tick with ⟨answer, written⟩
  rw [FileSystem.run_bind wrote] at ran
  rcases FileSystem.write_cases wrote with ⟨rfl, target, aim, writes⟩ | ⟨cause, rfl, spoils⟩
  · cases ran
    exact .created tried filled absent aim (keeps.writes writes)
  · cases ran
    refine .uncreated tried filled absent ?_
    rcases spoils with kept | ⟨target, left, aim, writes⟩
    · exact .inl (keeps.trans kept)
    · exact .inr ⟨target, left, aim, keeps.writes writes⟩

/-- The text that is edited is that of a file which is there, or empty for one which is not, or is
said to be missing. -/
theorem startText_cases {answer : Except FileError (List Char)}
    (read : (disk.readText path).run fs = (answer, after))
    (started : startText fixes answer = .ok text) :
    (answer = .ok text ∧ ∃ place bytes, fs.Denotes path place ∧
      fs.fileAt? place = some bytes ∧ Text.decode? bytes = some text) ∨
      text = [] ∧ (¬ fs.isPresent path ∨ fs.Overlooks) ∧
        ∀ fix ∈ fixes, fix.kind = .addFunctionStub := by
  obtain ⟨-, ⟨place, bytes, found, denotes, held, decoded, rfl⟩ | ⟨cause, rfl, missing⟩⟩ :=
    FileSystem.readText_cases read
  · cases started
    exact .inl ⟨rfl, place, bytes, denotes, held, decoded⟩
  · unfold startText at started
    split at started
    · rename_i failed
      cases failed
      split at started
      · rename_i stubs
        cases started
        exact .inr ⟨rfl, missing rfl, by simpa using stubs⟩
      · cases started
    · cases started

/-- Functions that are added leave no empty text. -/
theorem Edits.result_ne_nil {result : List Char} {done : List Fix}
    (edits : Edits text fixes done result) (stubs : ∀ fix ∈ fixes, fix.kind = .addFunctionStub)
    (filled : text ≠ [] ∨ done ≠ []) : result ≠ [] := by
  induction edits with
  | nil => simpa using filled
  | fits fit later ih =>
    rename_i fix rest edited done result
    have stub := stubs fix List.mem_cons_self
    simp only [Fix.edit, stub, Except.ok.injEq, Edit.appendStub] at fit
    refine ih (fun other member => stubs other (List.mem_cons_of_mem fix member)) (.inl ?_)
    rw [← fit]
    simp [Edit.stub]
  | misfits misfit later ih =>
    exact ih (fun other member => stubs other (List.mem_cons_of_mem _ member)) filled

theorem commit_course (tried : editAll path text fixes = .ok edited)
    (filled : edited.applied ≠ [])
    (known : (∃ place bytes, fs.Denotes path place ∧ fs.fileAt? place = some bytes ∧
      Text.decode? bytes = some text) ∨ text = [] ∧ (¬ fs.isPresent path ∨ fs.Overlooks))
    (ran : (commit disk directory path edited).run fs.tick = (outcome, after)) :
    Course directory path fixes fs outcome after := by
  unfold commit at ran
  rw [FileSystem.run_bind
    (rfl : (disk.isPresent path).run fs.tick = (fs.tick.isPresent path, fs.tick)),
    FileSystem.isPresent_tick] at ran
  by_cases present : fs.isPresent path
  · obtain ⟨origin, denotes, -⟩ := FileSystem.isPresent_iff.mp present
    rw [if_pos present] at ran
    rcases saved : (backUp disk directory path).run fs.tick with ⟨answer, middle⟩
    rw [FileSystem.run_bind saved] at ran
    rcases backUp_cases denotes (.tick fs) saved with
      ⟨fault, rfl, kind, strays⟩ | ⟨backup, target, bytes, rfl, backed⟩
    · cases ran
      exact .unbacked tried filled kind strays
    · refine replace_course_backed tried filled ?_ backed ran
      rcases known with ⟨place, held, aims, here, decoded⟩ | ⟨empty, absent | overlooked⟩
      · obtain rfl := aims.unique denotes
        rw [backed.held] at here
        cases here
        exact .inl decoded
      · exact absurd present absent
      · exact .inr ⟨empty, overlooked⟩
  · rw [if_neg present] at ran
    rcases known with ⟨place, bytes, denotes, held, -⟩ | ⟨rfl, -⟩
    · exact absurd (FileSystem.isPresent_of_fileAt? denotes held) present
    · exact replace_course_absent tried filled present ran

theorem applyTo_course (ran : (applyTo disk directory path fixes).run fs = (.ok outcome, after)) :
    Course directory path fixes fs outcome after := by
  rcases read : (disk.readText path).run fs with ⟨answer, next⟩
  obtain ⟨rfl, -⟩ := FileSystem.readText_cases read
  have keeps := FileSystem.Keeps.tick fs
  unfold applyTo at ran
  rw [FileSystem.run_bind read] at ran
  cases started : startText fixes answer with
  | error cause =>
    rw [started] at ran
    cases ran
    exact .unreadable keeps
  | ok text =>
    rw [started] at ran
    dsimp only at ran
    cases tried : editAll path text fixes with
    | error crash =>
      rw [tried] at ran
      cases ran
    | ok edited =>
      rw [tried] at ran
      dsimp only at ran
      have known := startText_cases read started
      by_cases nothing : edited.applied = []
      · rw [if_pos (by simp [nothing])] at ran
        cases ran
        exact .unfit tried nothing keeps
      by_cases same : edited.text = text
      · rw [if_pos (by simp [same])] at ran
        cases ran
        rcases known with ⟨rfl, -⟩ | ⟨rfl, -, stubs⟩
        · exact .unchanged tried (by rw [read]) same keeps
        · exact absurd same ((editAll_spec tried).1.result_ne_nil stubs (.inr nothing))
      rw [if_neg (by simp [nothing, same])] at ran
      rcases committed : (commit disk directory path edited).run fs.tick with ⟨own, last⟩
      rw [FileSystem.run_bind committed] at ran
      cases ran
      exact commit_course tried nothing
        (known.imp (fun found => found.2) fun missing => ⟨missing.1, missing.2.1⟩) committed

/-- A crash is that of a fix on the text of the file, and nothing is done but to read it. -/
theorem applyTo_run_error_iff {crash : FixCrash} :
    (applyTo disk directory path fixes).run fs = (.error crash, after) ↔
      ∃ text, startText fixes ((disk.readText path).run fs).1 = .ok text ∧
        Tears text fixes crash ∧ after = fs.tick := by
  rcases read : (disk.readText path).run fs with ⟨answer, next⟩
  obtain ⟨rfl, -⟩ := FileSystem.readText_cases read
  unfold applyTo
  rw [FileSystem.run_bind read]
  cases started : startText fixes answer with
  | error cause =>
    constructor
    · intro ran
      cases ran
    · rintro ⟨text, found, -⟩
      cases found
  | ok text =>
    dsimp only
    cases tried : editAll path text fixes with
    | error torn =>
      have tears := editAll_eq_error_iff.mp tried
      constructor
      · intro ran
        cases ran
        exact ⟨text, rfl, tears, rfl⟩
      · rintro ⟨other, found, again, rfl⟩
        cases found
        have same := tried.symm.trans (editAll_eq_error_iff.mpr again)
        cases same
        rfl
    | ok edited =>
      constructor
      · intro ran
        dsimp only at ran
        split at ran
        · cases ran
        · rcases committed : (commit disk directory path edited).run fs.tick with ⟨own, last⟩
          rw [FileSystem.run_bind committed] at ran
          cases ran
      · rintro ⟨other, found, tears, -⟩
        cases found
        have same := tried.symm.trans (editAll_eq_error_iff.mpr tears)
        cases same

end

namespace Course

variable {directory path : String} {fixes : List Fix} {fs after : FileSystem}
  {outcome : FixOutcome}

theorem applied_sublist (course : Course directory path fixes fs outcome after) :
    outcome.applied.Sublist fixes := by
  have done {text : List Char} {edited : Edited} (tried : editAll path text fixes = .ok edited) :
      edited.applied.Sublist fixes := (editAll_spec tried).1.sublist
  cases course with
  | rewritten tried => exact done tried
  | created tried => exact done tried
  | _ => exact List.nil_sublist fixes

/-- Every failure is reported for the file, and for one of its fixes. -/
theorem exists_of_mem_failed (course : Course directory path fixes fs outcome after)
    {failure : FixFailure} (member : failure ∈ outcome.failed) :
    failure.path = path ∧ failure.fix.isSome := by
  have misfit {text : List Char} {edited : Edited} (tried : editAll path text fixes = .ok edited)
      (member : failure ∈ edited.failed) : failure.path = path ∧ failure.fix.isSome := by
    obtain ⟨fault, fix, rfl⟩ := (editAll_spec tried).2.2 failure member
    exact ⟨rfl, rfl⟩
  have shared {fault : FixFault} {some : List Fix} (member : failure ∈ failAll path fault some) :
      failure.path = path ∧ failure.fix.isSome := by
    obtain ⟨fix, -, rfl⟩ := exists_of_mem_failAll member
    exact ⟨rfl, rfl⟩
  cases course with
  | unreadable => exact shared member
  | unfit tried => exact misfit tried member
  | unchanged tried => exact misfit tried member
  | rewritten tried => exact misfit tried member
  | created tried => exact misfit tried member
  | unbacked tried => exact (List.mem_append.mp member).elim (misfit tried) shared
  | restored tried => exact (List.mem_append.mp member).elim (misfit tried) shared
  | lost tried => exact (List.mem_append.mp member).elim (misfit tried) shared
  | uncreated tried => exact (List.mem_append.mp member).elim (misfit tried) shared

/-- A file that was there is backed up before it changes. -/
theorem backups_cases (course : Course directory path fixes fs outcome after) :
    (outcome.backups = [] ∧
      ∀ place bytes, fs.fileAt? place = some bytes → after.fileAt? place = some bytes) ∨
    ∃ backup origin place bytes now, outcome.backups = [backup] ∧
      Backed directory path fs after backup origin place bytes now := by
  -- What is written where nothing was is no file that was there.
  have elsewhere {target place : List FileName} {bytes new : List UInt8}
      (absent : ¬ fs.isPresent path) (denotes : fs.Denotes path target)
      (writes : fs.Writes after target new) (held : fs.fileAt? place = some bytes) :
      after.fileAt? place = some bytes := by
    have different : place ≠ target := by
      rintro rfl
      exact absent (FileSystem.isPresent_of_fileAt? denotes held)
    exact (writes.other different).trans held
  cases course with
  | unreadable keeps => exact .inl ⟨rfl, fun place _ => (keeps.content place).trans⟩
  | unfit tried nothing keeps => exact .inl ⟨rfl, fun place _ => (keeps.content place).trans⟩
  | unchanged tried read same keeps =>
    exact .inl ⟨rfl, fun place _ => (keeps.content place).trans⟩
  | unbacked tried filled kind strays =>
    refine .inl ⟨rfl, fun place bytes held => ?_⟩
    rcases strays.content place with same | ⟨free, -⟩
    · exact same.trans held
    · rw [free] at held
      cases held
  | rewritten tried filled start backed => exact .inr ⟨_, _, _, _, _, rfl, backed⟩
  | restored tried filled backed => exact .inr ⟨_, _, _, _, _, rfl, backed⟩
  | lost tried filled backed => exact .inr ⟨_, _, _, _, _, rfl, backed⟩
  | created tried filled absent denotes writes =>
    exact .inl ⟨rfl, fun _ _ held => elsewhere absent denotes writes held⟩
  | uncreated tried filled absent spoils =>
    refine .inl ⟨rfl, fun place bytes held => ?_⟩
    rcases spoils with keeps | ⟨target, left, denotes, writes⟩
    · exact (keeps.content place).trans held
    · exact elsewhere absent denotes writes held

theorem grows (course : Course directory path fixes fs outcome after) : fs.Grows after := by
  cases course with
  | unreadable keeps => exact keeps.grows
  | unfit tried nothing keeps => exact keeps.grows
  | unchanged tried read same keeps => exact keeps.grows
  | unbacked tried filled kind strays => exact strays.grows
  | rewritten tried filled start backed => exact backed.grows
  | restored tried filled backed => exact backed.grows
  | lost tried filled backed => exact backed.grows
  | created tried filled absent denotes writes => exact writes.grows
  | uncreated tried filled absent spoils =>
    rcases spoils with keeps | ⟨place, bytes, -, writes⟩
    · exact keeps.grows
    · exact writes.grows

/-- What changes is the file itself, or a new file in the backup directory. -/
theorem content (course : Course directory path fixes fs outcome after) (place : List FileName) :
    after.fileAt? place = fs.fileAt? place ∨ after.Denotes path place ∨
      fs.fileAt? place = none ∧ after.Inside directory place := by
  have backed {backup : Backup} {origin target : List FileName} {bytes now : List UInt8}
      (backed : Backed directory path fs after backup origin target bytes now) :
      after.fileAt? place = fs.fileAt? place ∨ after.Denotes path place ∨
        fs.fileAt? place = none ∧ after.Inside directory place := by
    rw [backed.content]
    split_ifs with own new
    · exact .inr (.inl (own ▸ backed.grows.denotes backed.denotes))
    · obtain ⟨name, named, entry⟩ := backed.entry
      exact .inr (.inr (new ▸ ⟨backed.free, name, named, entry ▸ backed.target⟩))
    · exact .inl rfl
  have written {target : List FileName} {bytes : List UInt8} (denotes : fs.Denotes path target)
      (writes : fs.Writes after target bytes) :
      after.fileAt? place = fs.fileAt? place ∨ after.Denotes path place ∨
        fs.fileAt? place = none ∧ after.Inside directory place := by
    by_cases own : place = target
    · exact .inr (.inl (own ▸ writes.grows.denotes denotes))
    · exact .inl (writes.other own)
  cases course with
  | unreadable keeps => exact .inl (keeps.content place)
  | unfit tried nothing keeps => exact .inl (keeps.content place)
  | unchanged tried read same keeps => exact .inl (keeps.content place)
  | unbacked tried filled kind strays => exact (strays.content place).imp_right .inr
  | rewritten tried filled start saved => exact backed saved
  | restored tried filled saved => exact backed saved
  | lost tried filled saved => exact backed saved
  | created tried filled absent denotes writes => exact written denotes writes
  | uncreated tried filled absent spoils =>
    rcases spoils with keeps | ⟨target, bytes, denotes, writes⟩
    · exact .inl (keeps.content place)
    · exact written denotes writes

end Course

/-! ### All files -/

/-- The files are dealt with one after another, and what is reported is put together. -/
inductive Run (directory : String) (fixes : List Fix) :
    List String → FileSystem → FixOutcome → FileSystem → Prop
  | nil {fs} : Run directory fixes [] fs {} fs
  | cons {file rest fs middle after outcome others}
      (first : (applyTo disk directory file (ofFile fixes file)).run fs = (.ok outcome, middle))
      (later : Run directory fixes rest middle others after) :
      Run directory fixes (file :: rest) fs (outcome.append others) after

/-- A run ends at a file whose fixes crash, when the files before it have been dealt with. `front`
is what was to be reported for these. -/
def Crashes (directory : String) (fixes : List Fix) (files : List String) (fs : FileSystem)
    (crash : FixCrash) (front : FixOutcome) (after : FileSystem) : Prop :=
  ∃ earlier file later middle text, files = earlier ++ file :: later ∧
    Run directory fixes earlier fs front middle ∧
    startText (ofFile fixes file) ((disk.readText file).run middle).1 = .ok text ∧
    Tears text (ofFile fixes file) crash ∧ after = middle.tick

section

variable {directory : String} {fixes : List Fix} {files : List String}
  {start outcome : FixOutcome} {fs after : FileSystem}

/-- The application of fixes to files is such a run, whatever was reported before. -/
theorem applyFiles_run_iff_append :
    (applyFiles disk directory fixes start files).run fs = (.ok outcome, after) ↔
      ∃ added, outcome = start.append added ∧ Run directory fixes files fs added after := by
  induction files generalizing start fs with
  | nil =>
    constructor
    · intro ran
      cases ran
      exact ⟨{}, by simp [FixOutcome.append], .nil⟩
    · rintro ⟨added, rfl, run⟩
      cases run
      simp [applyFiles, FixOutcome.append]
      rfl
  | cons file rest ih =>
    rcases first : (applyTo disk directory file (ofFile fixes file)).run fs with ⟨own, middle⟩
    rw [applyFiles, FileSystem.run_bind first]
    cases own with
    | error crash =>
      constructor
      · intro ran
        cases ran
      · rintro ⟨added, rfl, run⟩
        cases run with
        | cons ran later =>
          rw [first] at ran
          cases ran
    | ok own =>
      refine ih.trans ⟨?_, ?_⟩
      · rintro ⟨added, rfl, later⟩
        exact ⟨own.append added, FixOutcome.append_assoc start own added, .cons first later⟩
      · rintro ⟨added, rfl, run⟩
        cases run with
        | cons ran later =>
          rw [first] at ran
          cases ran
          exact ⟨_, (FixOutcome.append_assoc start own _).symm, later⟩

theorem applyFiles_run_iff :
    (applyFiles disk directory fixes {} files).run fs = (.ok outcome, after) ↔
      Run directory fixes files fs outcome after := by
  rw [applyFiles_run_iff_append]
  simp [FixOutcome.append]

theorem applyFiles_run_error_iff {crash : FixCrash} :
    (applyFiles disk directory fixes start files).run fs = (.error crash, after) ↔
      ∃ front, Crashes directory fixes files fs crash front after := by
  induction files generalizing start fs with
  | nil =>
    constructor
    · intro ran
      cases ran
    · rintro ⟨front, earlier, file, later, middle, text, split, -⟩
      simp at split
  | cons file rest ih =>
    rcases first : (applyTo disk directory file (ofFile fixes file)).run fs with ⟨own, middle⟩
    rw [applyFiles, FileSystem.run_bind first]
    cases own with
    | error torn =>
      constructor
      · intro ran
        cases ran
        obtain ⟨text, started, tears, rfl⟩ := applyTo_run_error_iff.mp first
        exact ⟨{}, [], file, rest, fs, text, rfl, .nil, started, tears, rfl⟩
      · rintro ⟨front, earlier, stop, later, before, text, split, run, started, tears, rfl⟩
        cases run with
        | nil =>
          obtain ⟨rfl, rfl⟩ := List.cons.inj split
          have same := first.symm.trans
            (applyTo_run_error_iff.mpr ⟨text, started, tears, rfl⟩)
          cases same
          rfl
        | cons ran others =>
          obtain ⟨rfl, -⟩ := List.cons.inj split
          rw [first] at ran
          cases ran
    | ok own =>
      refine ih.trans ⟨?_, ?_⟩
      · rintro ⟨front, earlier, stop, later, before, text, rfl, run, ends⟩
        exact ⟨own.append front, file :: earlier, stop, later, before, text, rfl,
          .cons first run, ends⟩
      · rintro ⟨front, earlier, stop, later, before, text, split, run, started, tears, rfl⟩
        cases run with
        | nil =>
          obtain ⟨rfl, rfl⟩ := List.cons.inj split
          have same := first.symm.trans
            (applyTo_run_error_iff.mpr ⟨text, started, tears, rfl⟩)
          cases same
        | cons ran others =>
          obtain ⟨rfl, rfl⟩ := List.cons.inj split
          rw [first] at ran
          cases ran
          exact ⟨_, _, stop, later, before, text, rfl, others, started, tears, rfl⟩

end

section

variable {settings : FixSettings} {fixes : List Fix} {fs : FileSystem}

/-- Applying fixes is a run over the files of those that are allowed, -/
theorem run_of_applyAll {outcome : FixOutcome}
    (given : ((applyAll disk settings fixes).run fs).1 = .ok outcome) :
    Run settings.backupDirectory (fixes.filter settings.allows)
      (files (fixes.filter settings.allows)) fs outcome
      ((applyAll disk settings fixes).run fs).2 :=
  applyFiles_run_iff.mp (Prod.ext given rfl)

/-- or crashes at one of these files. -/
theorem crashes_of_applyAll {crash : FixCrash}
    (given : ((applyAll disk settings fixes).run fs).1 = .error crash) :
    ∃ front, Crashes settings.backupDirectory (fixes.filter settings.allows)
      (files (fixes.filter settings.allows)) fs crash front
      ((applyAll disk settings fixes).run fs).2 :=
  applyFiles_run_error_iff.mp (Prod.ext given rfl)

end

namespace Run

variable {directory : String} {fixes : List Fix} {files : List String} {fs after : FileSystem}
  {outcome : FixOutcome}

/-- A run up to a file, the course of this file, and the run behind it. -/
theorem split (run : Run directory fixes files fs outcome after) {file : String}
    (member : file ∈ files) :
    ∃ earlier later before behind first own last, files = earlier ++ file :: later ∧
      Run directory fixes earlier fs first before ∧
      Course directory file (ofFile fixes file) before own behind ∧
      Run directory fixes later behind last after ∧
      outcome = first.append (own.append last) := by
  induction run with
  | nil => cases member
  | cons first later ih =>
    rename_i start rest fs middle after outcome others
    by_cases here : file = start
    · subst here
      exact ⟨[], rest, fs, middle, {}, outcome, others, rfl, .nil, applyTo_course first, later,
        by simp [FixOutcome.append]⟩
    · have further := (List.mem_cons.mp member).resolve_left here
      obtain ⟨earlier, behind, before, next, front, own, last, rfl, run, course, tail, rfl⟩ :=
        ih further
      exact ⟨start :: earlier, behind, before, next, _, own, last, rfl, .cons first run, course,
        tail, (FixOutcome.append_assoc ..).symm⟩

theorem grows (run : Run directory fixes files fs outcome after) : fs.Grows after := by
  induction run with
  | nil => exact .refl _
  | cons first later ih => exact (applyTo_course first).grows.trans ih

/-- What changes is one of the files, or a new file in the backup directory. -/
theorem content (run : Run directory fixes files fs outcome after) (place : List FileName) :
    after.fileAt? place = fs.fileAt? place ∨ (∃ file ∈ files, after.Denotes file place) ∨
      fs.fileAt? place = none ∧ after.Inside directory place := by
  induction run with
  | nil => exact .inl rfl
  | cons first later ih =>
    have course := applyTo_course first
    have grown := later.grows
    rcases ih with same | ⟨file, member, denotes⟩ | ⟨free, inside⟩
    · rw [same]
      rcases course.content place with same | denotes | ⟨free, name, named, entry⟩
      · exact .inl same
      · exact .inr (.inl ⟨_, List.mem_cons_self, grown.denotes denotes⟩)
      · exact .inr (.inr ⟨free, name, named, grown.denotes entry⟩)
    · exact .inr (.inl ⟨file, List.mem_cons_of_mem _ member, denotes⟩)
    · refine .inr (.inr ⟨?_, inside⟩)
      rw [Option.eq_none_iff_forall_ne_some]
      intro bytes held
      obtain ⟨now, still⟩ := course.grows.exists_fileAt? held
      rw [free] at still
      cases still

theorem applied_of_file (run : Run directory fixes files fs outcome after) {fix : Fix}
    (member : fix ∈ outcome.applied) : fix.filePath ∈ files := by
  induction run with
  | nil => cases member
  | cons first later ih =>
    rcases List.mem_append.mp member with member | member
    · rw [filePath_of_mem_ofFile ((applyTo_course first).applied_sublist.subset member)]
      exact List.mem_cons_self
    · exact List.mem_cons_of_mem _ (ih member)

theorem failed_of_file (run : Run directory fixes files fs outcome after) {failure : FixFailure}
    (member : failure ∈ outcome.failed) : failure.path ∈ files ∧ failure.fix.isSome := by
  induction run with
  | nil => cases member
  | cons first later ih =>
    rcases List.mem_append.mp member with member | member
    · obtain ⟨rfl, fixed⟩ := (applyTo_course first).exists_of_mem_failed member
      exact ⟨List.mem_cons_self, fixed⟩
    · exact ⟨List.mem_cons_of_mem _ (ih member).1, (ih member).2⟩

/-- Every backup was made in the course of one of the files. -/
theorem exists_backed (run : Run directory fixes files fs outcome after) {backup : Backup}
    (member : backup ∈ outcome.backups) :
    ∃ file ∈ files, ∃ before behind origin target bytes now,
      Backed directory file before behind backup origin target bytes now ∧
        fs.Grows before ∧ behind.Grows after := by
  induction run with
  | nil => cases member
  | cons first later ih =>
    have course := applyTo_course first
    rcases List.mem_append.mp member with member | member
    · rcases course.backups_cases with
        ⟨unsaved, -⟩ | ⟨own, origin, target, bytes, now, one, backed⟩
      · rw [unsaved] at member
        cases member
      · obtain rfl : backup = own := by simpa [one] using member
        exact ⟨_, List.mem_cons_self, _, _, origin, target, bytes, now, backed, .refl _,
          later.grows⟩
    · obtain ⟨file, listed, before, behind, origin, target, bytes, now, backed, grown, grows⟩ :=
        ih member
      exact ⟨file, List.mem_cons_of_mem _ listed, before, behind, origin, target, bytes, now,
        backed, course.grows.trans grown, grows⟩

/-- A backup is of one of the files, and there was nothing in its place. -/
theorem backups_of_file (run : Run directory fixes files fs outcome after) {backup : Backup}
    (member : backup ∈ outcome.backups) :
    backup.file ∈ files ∧ ¬ fs.isPresent backup.backup := by
  obtain ⟨file, listed, before, behind, origin, target, bytes, now, backed, grown, -⟩ :=
    run.exists_backed member
  exact ⟨backed.file ▸ listed, fun present => backed.absent (grown.isPresent present)⟩

/-- The paths of a file and of its backup lead somewhere. -/
theorem denotes_backups (run : Run directory fixes files fs outcome after) {backup : Backup}
    (member : backup ∈ outcome.backups) :
    ∃ origin target, after.Denotes backup.file origin ∧ after.Denotes backup.backup target := by
  obtain ⟨file, -, before, behind, origin, target, bytes, now, backed, -, grown⟩ :=
    run.exists_backed member
  refine ⟨origin, target, ?_, grown.denotes backed.target⟩
  rw [backed.file]
  exact (backed.grows.trans grown).denotes backed.denotes

/-- No two backups have the same path: the second one would have found the first. -/
theorem nodup_backups (run : Run directory fixes files fs outcome after) :
    (outcome.backups.map (·.backup)).Nodup := by
  induction run with
  | nil => exact .nil
  | cons first later ih =>
    rw [FixOutcome.append, List.map_append, List.nodup_append]
    rcases (applyTo_course first).backups_cases with
      ⟨unsaved, -⟩ | ⟨own, origin, place, bytes, now, one, backed⟩
    · simp [unsaved, ih]
    · refine ⟨by simp [one], ih, ?_⟩
      intro path here other there same
      subst same
      obtain rfl : path = own.backup := by simpa [one] using here
      obtain ⟨backup, member, equal⟩ := List.mem_map.mp there
      refine (later.backups_of_file member).2 ?_
      rw [equal]
      exact FileSystem.isPresent_of_fileAt? backed.target backed.saved

end Run

/-! ### A run that crashes -/

/-- A function in a script of its own, and one behind a byte order mark and a comment. -/
def markedFiles : FileSystem where
  root := .directory
    [("a.js", .file (Text.encode "function a() \x7b\x7d\n".toList)),
      ("b.js", .file (Text.encode "\ufeff/*é*/function b()\x7b\x7d\n".toList))]

def markedRemovals : List Fix :=
  [⟨.removeFunction, "a.js", 1, "", true, "a", none, none⟩,
    ⟨.removeFunction, "b.js", 1, "", true, "b", none, none⟩]

def markedRun (fixes : List Fix) : Except FixCrash FixOutcome × FileSystem :=
  (applyAll disk ⟨"backups", true⟩ fixes).run markedFiles

/-- The first function can be removed. The stretch of the second one starts inside the `é`. -/
theorem markedRun_eq :
    (markedRun (markedRemovals.take 1)).1 =
      .ok ⟨markedRemovals.take 1, [], [⟨"a.js", "backups/a.js.0.backup"⟩]⟩ ∧
    (markedRun markedRemovals).1 =
      .error ⟨⟨.removeFunction, "b.js", 1, "", true, "b", none, none⟩, ⟨6, 20⟩⟩ ∧
    (markedRun markedRemovals).2.fileAt? ["a.js"] = some [] ∧
    (markedRun markedRemovals).2.fileAt? ["backups", "a.js.0.backup"] =
      markedFiles.fileAt? ["a.js"] := by
  decide +kernel

end Fix

end PageWiring
