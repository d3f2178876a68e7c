import PageWiring.Proofs.FixCourse

/-!
Taking fixes back.

Backups are copied over their files in the order in which they were made. So a file ends with what
its last backup holds, while what it held before all fixes is in its first one. The two differ where
one file was fixed under two paths.
-/
namespace PageWiring

open FileSystem (disk)

/-- The backups of the file at a place, by whatever path it was fixed. -/
def FixOutcome.backupsOf (outcome : FixOutcome) (fs : FileSystem) (place : List FileName) :
    List Backup :=
  outcome.backups.filter fun backup => fs.Denotes backup.file place

/-- No file that was backed up is a backup itself. -/
def FixOutcome.Untouched (outcome : FixOutcome) (fs : FileSystem) : Prop :=
  ∀ backup ∈ outcome.backups, ∀ other ∈ outcome.backups, ∀ place,
    fs.Denotes backup.file place → ¬ fs.Denotes other.backup place

namespace Fix

/-! ### What the first backup holds -/

section

variable {directory : String} {fixes : List Fix} {files : List String} {fs after : FileSystem}
  {outcome : FixOutcome} {place : List FileName} {bytes : List UInt8}

/-- The first backup of a file holds what the file held, and a file without one still holds it. -/
theorem Run.head?_backupsOf (run : Run directory fixes files fs outcome after)
    (untouched : outcome.Untouched after) (held : fs.fileAt? place = some bytes) :
    match (outcome.backupsOf after place).head? with
    | none => after.fileAt? place = some bytes
    | some backup => after.content backup.backup = .ok bytes := by
  induction run generalizing place bytes with
  | nil => exact held
  | cons first later ih =>
    rename_i file rest fs middle after own others
    have untouchedLater : others.Untouched after := fun backup member other there =>
      untouched backup (List.mem_append_right _ member) other (List.mem_append_right _ there)
    rcases (applyTo_course first).backups_cases with
      ⟨unsaved, kept⟩ | ⟨backup, origin, target, old, now, one, backed⟩
    · have same : (own.append others).backupsOf after place = others.backupsOf after place := by
        simp [FixOutcome.backupsOf, FixOutcome.append, unsaved]
      rw [same]
      exact ih untouchedLater (kept place bytes held)
    · have member : backup ∈ (own.append others).backups := by simp [FixOutcome.append, one]
      have split : (own.append others).backupsOf after place =
          (if after.Denotes backup.file place then [backup] else []) ++
            others.backupsOf after place := by
        simp only [FixOutcome.backupsOf, FixOutcome.append, one, List.filter_append,
          List.filter_cons, List.filter_nil, decide_eq_true_eq]
      have aims : after.Denotes backup.file origin :=
        backed.file ▸ (backed.grows.trans later.grows).denotes backed.denotes
      rw [split]
      by_cases here : after.Denotes backup.file place
      · obtain rfl := here.unique aims
        rw [if_pos here, List.singleton_append, List.head?_cons]
        rw [backed.held] at held
        cases held
        -- The backup is a file that no later backup is of, so it stays as it was made.
        have entry := later.grows.denotes backed.target
        have unsaved : others.backupsOf after target = [] := by
          refine List.filter_eq_nil_iff.mpr fun other there denotes => ?_
          exact untouched other (List.mem_append_right _ there) backup member target
            (of_decide_eq_true denotes) entry
        have stayed := ih untouchedLater backed.saved
        rw [unsaved] at stayed
        exact FileSystem.content_of_fileAt? entry stayed
      · rw [if_neg here, List.nil_append]
        refine ih untouchedLater ?_
        have notOrigin : place ≠ origin := by
          rintro rfl
          exact here aims
        have notTarget : place ≠ target := by
          rintro rfl
          rw [backed.free] at held
          cases held
        rw [backed.content, if_neg notOrigin, if_neg notTarget, held]

end

/-! ### Copying back -/

/-- Every backup is copied over its file. -/
inductive Restores : List Backup → FileSystem → FileSystem → Prop
  | nil {fs} : Restores [] fs fs
  | cons {backup rest fs middle final}
      (copied : (disk.copy backup.backup backup.file).run fs = (.ok (), middle))
      (later : Restores rest middle final) : Restores (backup :: rest) fs final

/-- Without failures, every backup was copied. -/
theorem restores_of_foldlM {backups : List Backup} {failures : List FixFailure}
    {fs final : FileSystem}
    (ran : (backups.foldlM (Backup.undo disk) failures).run fs = ([], final)) :
    failures = [] ∧ Restores backups fs final := by
  induction backups generalizing failures fs with
  | nil =>
    cases ran
    exact ⟨rfl, .nil⟩
  | cons backup rest ih =>
    rcases copied : (disk.copy backup.backup backup.file).run fs with ⟨answer, middle⟩
    rw [List.foldlM_cons, Backup.undo, bind_assoc, FileSystem.run_bind copied] at ran
    cases answer with
    | ok done =>
      obtain ⟨empty, later⟩ := ih ran
      exact ⟨empty, .cons copied later⟩
    | error cause =>
      obtain ⟨empty, -⟩ := ih ran
      simp at empty

/-- Where each file and each backup is, and that no file is a backup. -/
structure Placed (backups : List Backup) (fs : FileSystem)
    (origin target : Backup → List FileName) : Prop where
  file : ∀ backup ∈ backups, fs.Denotes backup.file (origin backup)
  backup : ∀ backup ∈ backups, fs.Denotes backup.backup (target backup)
  apart : ∀ backup ∈ backups, ∀ other ∈ backups, origin backup ≠ target other

/-- A file ends with what the last of its backups holds, and other files are left alone. -/
theorem Restores.fileAt? {backups : List Backup} {fs final : FileSystem}
    {origin target : Backup → List FileName} (restores : Restores backups fs final)
    (placed : Placed backups fs origin target) (place : List FileName) :
    final.fileAt? place =
      match (backups.filter (origin · = place)).getLast? with
      | none => fs.fileAt? place
      | some backup => fs.fileAt? (target backup) := by
  induction restores with
  | nil => rfl
  | cons copied later ih =>
    rename_i backup rest fs middle final
    have here : backup ∈ backup :: rest := List.mem_cons_self
    obtain ⟨-, source, bytes, aim, denotes, held, aims, writes⟩ :
        _ ∧ ∃ source bytes aim, fs.Denotes backup.backup source ∧
          fs.fileAt? source = some bytes ∧ fs.Denotes backup.file aim ∧
          fs.Writes middle aim (if source = aim then [] else bytes) := by
      rcases FileSystem.copy_cases copied with done | ⟨cause, failed, -⟩
      · exact done
      · cases failed
    obtain rfl := denotes.unique (placed.backup backup here)
    obtain rfl := aims.unique (placed.file backup here)
    rw [if_neg (placed.apart backup here backup here).symm] at writes
    have inRest {other : Backup} (member : other ∈ rest) : other ∈ backup :: rest :=
      List.mem_cons_of_mem _ member
    have placedLater : Placed rest middle origin target :=
      { file := fun other member => writes.grows.denotes (placed.file other (inRest member))
        backup := fun other member => writes.grows.denotes (placed.backup other (inRest member))
        apart := fun other member another there =>
          placed.apart other (inRest member) another (inRest there) }
    rw [ih placedLater]
    cases last : (rest.filter (origin · = place)).getLast? with
    | some other =>
      have member : other ∈ rest := List.mem_of_mem_filter (List.mem_of_getLast? last)
      have kept := writes.other (placed.apart backup here other (inRest member)).symm
      by_cases own : origin backup = place <;>
        simp [own, List.getLast?_cons, last, kept]
    | none =>
      have unsaved := List.getLast?_eq_none_iff.mp last
      by_cases own : origin backup = place
      · subst own
        simp [unsaved, writes.self, held]
      · have kept := writes.other (Ne.symm own)
        simp [own, unsaved, kept]

/-! ### Applying and taking back -/

section

variable {fs after final : FileSystem} {outcome : FixOutcome} {place : List FileName}

/-- The place that a path leads to, if there is one. -/
def placeOf (fs : FileSystem) (path : String) : List FileName :=
  (fs.locate true path).toOption.getD []

theorem placeOf_eq {path : String} (denotes : fs.Denotes path place) :
    placeOf fs path = place := by
  have located : fs.locate true path = .ok place := denotes
  rw [placeOf, located]
  rfl

theorem denotes_iff_placeOf {path : String} {other : List FileName}
    (denotes : fs.Denotes path other) : fs.Denotes path place ↔ placeOf fs path = place := by
  rw [placeOf_eq denotes]
  exact ⟨denotes.unique, fun same => same ▸ denotes⟩

theorem Run.placed {directory : String} {fixes : List Fix} {files : List String}
    (run : Run directory fixes files fs outcome after) (untouched : outcome.Untouched after) :
    Placed outcome.backups after (placeOf after ·.file) (placeOf after ·.backup) where
  file backup member := by
    obtain ⟨origin, target, denotes, -⟩ := run.denotes_backups member
    rwa [placeOf_eq denotes]
  backup backup member := by
    obtain ⟨origin, target, -, denotes⟩ := run.denotes_backups member
    rwa [placeOf_eq denotes]
  apart backup member other there same := by
    obtain ⟨origin, -, denotes, -⟩ := run.denotes_backups member
    obtain ⟨-, target, -, aims⟩ := run.denotes_backups there
    rw [placeOf_eq denotes, placeOf_eq aims] at same
    exact untouched backup member other there origin denotes (same ▸ aims)

/-- When all backups could be copied back, a file holds what it held before the fixes just if its
last backup does, as its first one always does; in particular if it was fixed under one path only.
This is for fixes of files that are not themselves backups of other files. -/
theorem rollback_restores_iff {settings : FixSettings} {fixes : List Fix} {bytes : List UInt8}
    (ran : (applyAll disk settings fixes).run fs = (.ok outcome, after))
    (untouched : outcome.Untouched after)
    (undone : (outcome.rollback disk).run after = ([], final))
    (held : fs.fileAt? place = some bytes) :
    (∀ backup, (outcome.backupsOf after place).head? = some backup →
      after.content backup.backup = .ok bytes) ∧
    (final.fileAt? place = some bytes ↔
      ∀ backup, (outcome.backupsOf after place).getLast? = some backup →
        after.content backup.backup = .ok bytes) ∧
    ((outcome.backupsOf after place).length ≤ 1 → final.fileAt? place = some bytes) := by
  have run := applyFiles_run_iff.mp ran
  have placed := run.placed untouched
  have first := run.head?_backupsOf untouched held
  have last := (restores_of_foldlM undone).2.fileAt? placed place
  have same : outcome.backups.filter (placeOf after ·.file = place) =
      outcome.backupsOf after place := by
    refine List.filter_congr fun backup member => decide_eq_decide.mpr ?_
    exact (denotes_iff_placeOf (placed.file backup member)).symm
  rw [same] at last
  have head (backup : Backup) (found : (outcome.backupsOf after place).head? = some backup) :
      after.content backup.backup = .ok bytes := by
    rw [found] at first
    exact first
  have ends : final.fileAt? place = some bytes ↔
      ∀ backup, (outcome.backupsOf after place).getLast? = some backup →
        after.content backup.backup = .ok bytes := by
    rw [last]
    cases found : (outcome.backupsOf after place).getLast? with
    | none =>
      rw [List.getLast?_eq_none_iff.mp found] at first
      constructor
      · intro _ backup absent
        cases absent
      · intro _
        exact first
    | some backup =>
      have member := List.mem_of_mem_filter (List.mem_of_getLast? found)
      have denotes := placed.backup backup member
      dsimp only
      constructor
      · intro kept other equal
        cases equal
        exact FileSystem.content_of_fileAt? denotes kept
      · intro kept
        obtain ⟨target, aims, kept⟩ := FileSystem.content_eq_ok (kept backup rfl)
        rwa [placeOf_eq aims]
  refine ⟨head, ends, fun few => ends.mpr fun backup found => head backup ?_⟩
  obtain unsaved | ⟨only, one⟩ : outcome.backupsOf after place = [] ∨
      ∃ only, outcome.backupsOf after place = [only] := by
    rcases shape : outcome.backupsOf after place with _ | ⟨only, _ | ⟨another, rest⟩⟩
    · exact .inl rfl
    · exact .inr ⟨only, rfl⟩
    · simp [shape] at few
  · rw [unsaved] at found
    cases found
  · rw [one] at found ⊢
    exact found

end

theorem untouched_of_locate {outcome : FixOutcome} {fs : FileSystem}
    (different : ∀ backup ∈ outcome.backups, ∀ other ∈ outcome.backups,
      fs.locate true backup.file ≠ fs.locate true other.backup) : outcome.Untouched fs :=
  fun backup member other there _ denotes aims =>
    different backup member other there (denotes.trans aims.symm)

/-- A script with two functions that nothing calls. -/
def idleScript : List Char := "function a() {}\nfunction b() {}\nmain();\n".toList

def idleFiles : FileSystem where
  root := .directory [("app.js", .file (Text.encode idleScript))]

/-- A backup that is fixed itself is copied back before it is restored. -/
example :
    let ran := (applyAll disk ⟨"backups", true⟩
      [⟨.addFunctionStub, "app.js", 4, "", true, "main", none, none⟩,
        ⟨.addFunctionStub, "backups/app.js.0.backup", 4, "", true, "main", none, none⟩]).run
      idleFiles
    let back := ((ran.1.toOption.getD {}).rollback disk).run ran.2
    back.1 = [] ∧ back.2.fileAt? ["app.js"] ≠ idleFiles.fileAt? ["app.js"] := by
  decide +kernel

/-- Each of the functions is removed, under another path of the same file. -/
def spelledTwice : List Fix :=
  [⟨.removeFunction, "./app.js", 2, "", true, "b", none, none⟩,
    ⟨.removeFunction, "app.js", 1, "", true, "a", none, none⟩]

def spelledRun : Except FixCrash FixOutcome × FileSystem :=
  (applyAll disk (.under "" true) spelledTwice).run idleFiles

def spelledOutcome : FixOutcome := spelledRun.1.toOption.getD {}

def spelledRollback : List FixFailure × FileSystem :=
  (spelledOutcome.rollback disk).run spelledRun.2

theorem spelledRollback_eq :
    (idleFiles.fileAt? ["app.js"] = some (Text.encode idleScript) ∧
      spelledRun.1 = .ok spelledOutcome ∧ spelledOutcome.failed = [] ∧ spelledRollback.1 = [] ∧
      spelledRollback.2.fileAt? ["app.js"] ≠ some (Text.encode idleScript)) ∧
    ∀ backup ∈ spelledOutcome.backups, ∀ other ∈ spelledOutcome.backups,
      spelledRun.2.locate true backup.file ≠ spelledRun.2.locate true other.backup := by
  decide +kernel

/-- The first backup of the script holds all of it. -/
theorem rollback_restores_iff_spelledTwice :
    spelledRun.1 = .ok spelledOutcome ∧ spelledOutcome.Untouched spelledRun.2 ∧
      spelledRollback.1 = [] ∧
      (∀ backup, (spelledOutcome.backupsOf spelledRun.2 ["app.js"]).head? = some backup →
        spelledRun.2.content backup.backup = .ok (Text.encode idleScript)) ∧
      (spelledRollback.2.fileAt? ["app.js"] = some (Text.encode idleScript) ↔
        ∀ backup, (spelledOutcome.backupsOf spelledRun.2 ["app.js"]).getLast? = some backup →
          spelledRun.2.content backup.backup = .ok (Text.encode idleScript)) ∧
      ((spelledOutcome.backupsOf spelledRun.2 ["app.js"]).length ≤ 1 →
        spelledRollback.2.fileAt? ["app.js"] = some (Text.encode idleScript)) := by
  obtain ⟨⟨held, given, -, undone, -⟩, different⟩ := spelledRollback_eq
  have untouched := untouched_of_locate different
  have pair {α : Type} {p : α × FileSystem} {a : α} (first : p.1 = a) : p = (a, p.2) :=
    Prod.ext first rfl
  have ran : (applyAll disk (.under "" true) spelledTwice).run idleFiles =
      (.ok spelledOutcome, spelledRun.2) := pair given
  have back : (spelledOutcome.rollback disk).run spelledRun.2 = ([], spelledRollback.2) :=
    pair undone
  exact ⟨given, untouched, undone, rollback_restores_iff ran untouched back held⟩

/-- Taking back the fixes of a script under two paths succeeds, but leaves the fix of the first. -/
theorem rollback_leaves_first_fix :
    idleFiles.fileAt? ["app.js"] = some (Text.encode idleScript) ∧
      spelledRun.1 = .ok spelledOutcome ∧ spelledOutcome.failed = [] ∧ spelledRollback.1 = [] ∧
      spelledRollback.2.fileAt? ["app.js"] ≠ some (Text.encode idleScript) :=
  spelledRollback_eq.1

end Fix

end PageWiring
