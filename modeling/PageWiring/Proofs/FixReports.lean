import PageWiring.Proofs.FixCourse
import PageWiring.Proofs.SafeRemovals

/-!
Which fixes are reported.

A fix that the settings allow is applied, or is reported with its failure, and that once. The only
others are those that were tried with success on a file whose text they leave as it was. But nothing
is reported when one of the fixes crashes, also of the files that were written before.
-/
namespace PageWiring.Fix

open FileSystem (disk)

/-- The fixes of the files are the fixes. -/
theorem perm_flatMap_ofFile (fixes : List Fix) :
    ((files fixes).flatMap (ofFile fixes)).Perm fixes := by
  have count (fix : Fix) (listed : List String) (nodup : listed.Nodup) :
      (listed.flatMap (ofFile fixes)).count fix =
        if fix.filePath ∈ listed then fixes.count fix else 0 := by
    induction listed with
    | nil => simp
    | cons file rest ih =>
      obtain ⟨fresh, nodup⟩ := List.nodup_cons.mp nodup
      rw [List.flatMap_cons, List.count_append, (perm_ofFile fixes file).count_eq, ih nodup]
      by_cases own : fix.filePath = file
      · subst own
        rw [List.count_filter (by simp), if_neg fresh, if_pos List.mem_cons_self, Nat.add_zero]
      · have foreign : (fixes.filter (·.filePath == file)).count fix = 0 :=
          List.count_eq_zero.mpr fun member => own (by simpa using (List.mem_filter.mp member).2)
        simp [foreign, own]
  rw [List.perm_iff_count]
  intro fix
  rw [count fix _ (nodup_files fixes)]
  split
  · rfl
  · rename_i unlisted
    refine (List.count_eq_zero.mpr fun member => unlisted ?_).symm
    exact mem_files.mpr ⟨fix, member, rfl⟩

/-- The fixes that an outcome reports. -/
def reported (outcome : FixOutcome) : List Fix :=
  outcome.applied ++ outcome.failed.filterMap (·.fix)

theorem count_reported_append (a b : FixOutcome) (fix : Fix) :
    (reported (a.append b)).count fix = (reported a).count fix + (reported b).count fix := by
  simp only [reported, FixOutcome.append, List.filterMap_append, List.count_append]
  omega

/-- The fixes of one file are all reported, or those that are not leave the text that was read. -/
theorem Course.perm_reported {directory path : String} {fixes : List Fix} {fs after : FileSystem}
    {outcome : FixOutcome} (course : Course directory path fixes fs outcome after) :
    ∃ silent, (reported outcome ++ silent).Perm fixes ∧
      (silent ≠ [] → ∃ text, ((disk.readText path).run fs).1 = .ok text ∧
        Edits text fixes silent text) := by
  have shared {text : List Char} {edited : Edited} (tried : editAll path text fixes = .ok edited)
      (fault : FixFault) (backups : List Backup) :
      (reported ⟨[], edited.failed ++ failAll path fault edited.applied, backups⟩).Perm fixes := by
    simp only [reported, List.nil_append, List.filterMap_append, filterMap_failAll]
    exact List.perm_append_comm.trans (editAll_spec tried).2.1
  have all {outcome : FixOutcome} (perm : (reported outcome).Perm fixes) :
      ∃ silent, (reported outcome ++ silent).Perm fixes ∧
        (silent ≠ [] → ∃ text, ((disk.readText path).run fs).1 = .ok text ∧
          Edits text fixes silent text) :=
    ⟨[], by simpa using perm, by simp⟩
  cases course with
  | unreadable => exact all (by simp [reported, filterMap_failAll])
  | unfit tried nothing keeps =>
    obtain ⟨-, perm, -⟩ := editAll_spec tried
    rw [nothing] at perm
    exact all perm
  | unchanged tried read same =>
    obtain ⟨edits, perm, -⟩ := editAll_spec tried
    rw [same] at edits
    exact ⟨_, by simpa [reported] using List.perm_append_comm.trans perm,
      fun _ => ⟨_, read, edits⟩⟩
  | unbacked tried => exact all (shared tried _ _)
  | rewritten tried => exact all (editAll_spec tried).2.1
  | restored tried => exact all (shared tried _ _)
  | lost tried => exact all (shared tried _ _)
  | created tried => exact all (editAll_spec tried).2.1
  | uncreated tried => exact all (shared tried _ _)

/-- A file whose text was read when the files before it had been dealt with, and a list of its fixes
that leave this text as it was. -/
def IsVain (directory : String) (fixes : List Fix) (fs : FileSystem) (files : List String)
    (file : String) (silent : List Fix) : Prop :=
  ∃ earlier later front middle text, files = earlier ++ file :: later ∧
    Run directory fixes earlier fs front middle ∧
    ((disk.readText file).run middle).1 = .ok text ∧ Edits text (ofFile fixes file) silent text

theorem Run.perm_reported {directory : String} {fixes : List Fix} {files : List String}
    {fs after : FileSystem} {outcome : FixOutcome}
    (run : Run directory fixes files fs outcome after) (nodup : files.Nodup) :
    ∃ silent : String → List Fix,
      (reported outcome ++ files.flatMap silent).Perm (files.flatMap (ofFile fixes)) ∧
      ∀ file ∈ files, silent file ≠ [] → IsVain directory fixes fs files file (silent file) := by
  induction run with
  | nil => exact ⟨fun _ => [], .refl [], by simp⟩
  | cons first later ih =>
    rename_i file rest fs middle after outcome others
    obtain ⟨fresh, nodup⟩ := List.nodup_cons.mp nodup
    obtain ⟨own, perm, vain⟩ := (applyTo_course first).perm_reported
    obtain ⟨silent, perms, vains⟩ := ih nodup
    have elsewhere {other : String} (member : other ∈ rest) : other ≠ file := by
      rintro rfl
      exact fresh member
    refine ⟨Function.update silent file own, ?_, ?_⟩
    · have same : rest.flatMap (Function.update silent file own) = rest.flatMap silent := by
        refine List.flatMap_congr fun other member => ?_
        rw [Function.update_of_ne (elsewhere member)]
      rw [List.flatMap_cons, List.flatMap_cons, Function.update_self, same, List.perm_iff_count]
      intro fix
      have here := perm.count_eq fix
      have there := perms.count_eq fix
      simp only [List.count_append, count_reported_append] at here there ⊢
      omega
    · intro other member filled
      rcases List.mem_cons.mp member with rfl | member
      · rw [Function.update_self] at filled ⊢
        obtain ⟨text, read, edits⟩ := vain filled
        exact ⟨[], rest, {}, fs, text, rfl, .nil, read, edits⟩
      · rw [Function.update_of_ne (elsewhere member)] at filled ⊢
        obtain ⟨earlier, behind, front, before, text, rfl, run, ends⟩ := vains other member filled
        exact ⟨file :: earlier, behind, _, before, text, rfl, .cons first run, ends⟩

/-! ### Crashes -/

/-- The declaration that a fix removes is found in a text, but does not start and end between two
characters there. -/
def Rends (text : List Char) (crash : FixCrash) : Prop :=
  crash.fix.kind = .removeFunction ∧
    ∃ parsed span, Script.Parsed.ofText (.ofFile crash.fix.filePath) text = .ok parsed ∧
      Script.findIn (Script.declares parsed.lineOf crash.fix.functionName crash.fix.line)
        parsed.tree.items = some span ∧
      parsed.range span = crash.stretch ∧
      ¬ ((Text.cut? text crash.stretch.start).isSome ∧
        (Text.cut? text crash.stretch.stop).isSome)

theorem edit_eq_torn_iff {text : List Char} {crash : FixCrash} :
    crash.fix.edit text = .error (.torn crash.stretch) ↔ Rends text crash := by
  rw [Rends, ← Edit.removeFunction_eq_torn_iff, Fix.edit]
  cases kind : crash.fix.kind with
  | removeFunction => simp
  | addFunctionStub => simp
  | removeHandler =>
    simp only [reduceCtorEq, false_and, iff_false]
    intro torn
    cases removed : Edit.removeHandler text crash.fix with
    | ok edited =>
      rw [removed] at torn
      cases torn
    | error fault =>
      rw [removed] at torn
      cases torn

theorem Tears.exists_rends {text : List Char} {fixes : List Fix} {crash : FixCrash}
    (tears : Tears text fixes crash) : crash.fix ∈ fixes ∧ ∃ now, Rends now crash := by
  induction tears with
  | here torn => exact ⟨List.mem_cons_self, _, edit_eq_torn_iff.mp torn⟩
  | fits _ _ ih => exact ⟨List.mem_cons_of_mem _ ih.1, ih.2⟩
  | misfits _ _ ih => exact ⟨List.mem_cons_of_mem _ ih.1, ih.2⟩

/-- What the outcome of applying fixes says. A fix that is not allowed is not reported. The others
are reported as often as they are given, each as applied or with a failure, but for those of a file
whose text they leave as it was read. -/
structure Accounts (settings : FixSettings) (fixes : List Fix) (fs : FileSystem)
    (outcome : FixOutcome) : Prop where
  barred : ∀ fix, settings.allows fix = false →
    fix ∉ outcome.applied ∧ ∀ failure ∈ outcome.failed, failure.fix ≠ some fix
  named : ∀ failure ∈ outcome.failed, failure.fix.isSome
  settled :
    let eligible := fixes.filter settings.allows
    ∃ silent : String → List Fix,
      (outcome.applied ++ outcome.failed.filterMap (·.fix) ++
        (files eligible).flatMap silent).Perm eligible ∧
      ∀ file ∈ files eligible, silent file ≠ [] →
        IsVain settings.backupDirectory eligible fs (files eligible) file (silent file)

theorem Run.accounts {settings : FixSettings} {fixes : List Fix} {fs after : FileSystem}
    {outcome : FixOutcome}
    (run : Run settings.backupDirectory (fixes.filter settings.allows)
      (files (fixes.filter settings.allows)) fs outcome after) :
    Accounts settings fixes fs outcome := by
  obtain ⟨silent, perm, vain⟩ := run.perm_reported (nodup_files _)
  have all := perm.trans (perm_flatMap_ofFile (fixes.filter settings.allows))
  refine ⟨fun fix barred => ?_, fun failure member => (run.failed_of_file member).2, silent, all,
    vain⟩
  have unlisted : fix ∉ reported outcome := by
    intro member
    have listed := all.subset (List.mem_append_left _ member)
    rw [(List.mem_filter.mp listed).2] at barred
    cases barred
  refine ⟨fun member => unlisted (List.mem_append_left _ member), fun failure member same => ?_⟩
  exact unlisted (List.mem_append_right _ (List.mem_filterMap.mpr ⟨failure, member, same⟩))

/-- Applying fixes gives an outcome that accounts for them, or a crash. It crashes just if it comes
to a file on whose text one of the fixes, tried in turn, does: this fix removes a function whose
stretch starts or ends inside a character. -/
theorem applyAll_accounts (settings : FixSettings) (fixes : List Fix) (fs : FileSystem) :
    let eligible := fixes.filter settings.allows
    let ran := (applyAll disk settings fixes).run fs
    (∀ outcome, ran.1 = .ok outcome → Accounts settings fixes fs outcome) ∧
    ∀ crash,
      (ran.1 = .error crash ↔ ∃ front after,
        Crashes settings.backupDirectory eligible (files eligible) fs crash front after) ∧
      (ran.1 = .error crash → crash.fix ∈ eligible ∧ ∃ text, Rends text crash) := by
  intro eligible ran
  refine ⟨fun outcome given => (run_of_applyAll given).accounts,
    fun crash => ⟨⟨fun given => ?_, ?_⟩, fun given => ?_⟩⟩
  · obtain ⟨front, crashes⟩ := crashes_of_applyAll given
    exact ⟨front, _, crashes⟩
  · rintro ⟨front, after, crashes⟩
    exact congrArg Prod.fst (applyFiles_run_error_iff.mpr ⟨front, crashes⟩)
  · obtain ⟨front, earlier, file, later, middle, text, -, -, -, tears, -⟩ :=
      crashes_of_applyAll given
    obtain ⟨member, torn⟩ := tears.exists_rends
    exact ⟨List.mem_of_mem_filter ((perm_ofFile eligible file).mem_iff.mp member), torn⟩

theorem applyAll_accounts_marked :
    (∃ outcome, (markedRun (markedRemovals.take 1)).1 = .ok outcome ∧
      Accounts ⟨"backups", true⟩ (markedRemovals.take 1) markedFiles outcome) ∧
    ∃ crash, (markedRun markedRemovals).1 = .error crash ∧ ∃ text, Rends text crash := by
  obtain ⟨given, crashed, -⟩ := markedRun_eq
  have first := applyAll_accounts ⟨"backups", true⟩ (markedRemovals.take 1) markedFiles
  have both := applyAll_accounts ⟨"backups", true⟩ markedRemovals markedFiles
  exact ⟨⟨_, given, first.1 _ given⟩, _, crashed, ((both.2 _).2 crashed).2⟩

/-- The removal of a function behind a byte order mark crashes. Neither it nor the fix that was made
before is reported: there is no outcome. -/
theorem marked_removal_unreported :
    (∀ fix ∈ markedRemovals, FixSettings.allows ⟨"backups", true⟩ fix) ∧
      (markedRun markedRemovals).2.fileAt? ["a.js"] = some [] ∧
      ∀ outcome, (markedRun markedRemovals).1 ≠ .ok outcome := by
  obtain ⟨-, crashed, rewritten, -⟩ := markedRun_eq
  refine ⟨by decide, rewritten, fun outcome given => ?_⟩
  rw [crashed] at given
  cases given

end PageWiring.Fix
