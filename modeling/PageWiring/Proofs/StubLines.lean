import PageWiring.Fix.Apply
import PageWiring.Proofs.StubTargets

/-!
The line on which a missing function is added.

A function that is added behind a text starts two lines below its last one: a last line that is open
is ended first, and an empty line follows. That is the line announced for a script that is there. A
new file counts as an empty text, so the function starts on its second line; the first one is
announced.
-/
namespace PageWiring

namespace Edit

/-- What is put between a text and the function added behind it. -/
def stubLead (text : List Char) : List Char :=
  if text.isEmpty || text.getLast? == some '\n' then ['\n'] else ['\n', '\n']

theorem eq_break_of_mem_stubLead {text : List Char} {c : Char} (member : c ∈ stubLead text) :
    c = '\n' := by
  unfold stubLead at member
  split at member <;> simpa using member

/-- The text stays in front, and the function follows the lead. -/
theorem exists_appendStub (text : List Char) (name : String) :
    ∃ tail, appendStub text name =
      text ++ (stubLead text ++ ("function " ++ name ++ "()").toList ++ tail) := by
  refine ⟨(" \x7b\n  console.warn('" ++ name ++ " is not implemented yet');\n\x7d\n").toList, ?_⟩
  unfold appendStub stubLead stub
  split <;> simp

/-- Whatever a text ends in, a function added behind it starts two lines below its last line. -/
theorem line_stubLead (text : List Char) :
    1 + (text ++ stubLead text).count '\n' = Text.lineCount text + 2 := by
  unfold stubLead Text.lineCount
  dsimp only
  split
  · rw [List.count_append, List.count_singleton_self]
    omega
  · have two : ['\n', '\n'].count '\n' = 2 := rfl
    rw [List.count_append, two]
    omega

end Edit

namespace Fix

/-- Only a missing file is taken for an empty text. -/
theorem startText_eq_ok {fixes : List Fix} {read : Except FileError (List Char)} {text : List Char}
    (start : startText fixes read = .ok text) :
    read = .ok text ∨ (read = .error .notFound ∧ text = []) := by
  unfold startText at start
  split at start
  · split at start
    · exact .inr ⟨rfl, (Except.ok.inj start).symm⟩
    · cases start
  · exact .inl start

end Fix

namespace StubTarget

variable {σ : Type} {disk : Disk (StateM σ)}

/-- The announced line is that of the function exactly when the target is a script in which
something is defined or looked up, and that script could be read when the line was announced. -/
theorem IsChosen.line_eq_iff {root : String} {paths : List String} {s : σ} {target : StubTarget}
    (chosen : IsChosen disk root paths s target) {fixes : List Fix} {text : List Char}
    (start : Fix.startText fixes ((disk.readText target.filePath).run s).1 = .ok text) :
    Text.lineCount text + 2 = target.line ↔
      paths ≠ [] ∧ ((disk.readText target.filePath).run s).1 = .ok text := by
  by_cases empty : paths = []
  · have line : target.line = 1 := by rw [chosen.new empty]
    refine iff_of_false ?_ fun both => both.1 empty
    omega
  · obtain ⟨-, -, line⟩ := chosen.least empty
    rcases Fix.startText_eq_ok start with read | ⟨missing, rfl⟩
    · rw [line, read]
      exact iff_of_true rfl ⟨empty, rfl⟩
    · rw [line, missing]
      refine iff_of_false ?_ fun both => by cases both.2
      decide

end StubTarget

namespace Audit

variable {σ : Type}

/-- How things are when an audit has read the scripts. -/
def scriptsRead (disk : Disk (StateM σ)) (a : Audit) (s : σ) : σ :=
  match Discovery.ofConfig a.config with
  | .error _ => a.pageRead disk s
  | .ok discovery =>
    match (discovery.discover disk a.scriptRoot).run (a.pageRead disk s) with
    | (.error _, found) => found
    | (.ok files, found) => ((Script.loadAll disk a.config.deadlineMs files).run found).2

theorem Reads.after_eq {disk : Disk (StateM σ)} {a : Audit} {s after : σ} {files : List DiskPath}
    {results : List (Except FileDiagnostic Script.FileModel)}
    (reads : a.Reads disk s files results after) : after = a.scriptsRead disk s := by
  obtain ⟨discovery, found, compiled, searched, read⟩ := reads.steps
  rw [scriptsRead, compiled]
  dsimp only
  rw [searched]
  dsimp only
  rw [read]

/-- A missing function that is the first fix of its file is added behind what the file holds, which
stays as it is, two lines below the last line. This is the announced line exactly when the function
goes into a script in which something is defined or looked up, and not when it goes into a file
for want of such a script. -/
theorem stub_line_iff {disk : Disk (StateM σ)} {a : Audit} {s s' : σ} {report : AuditReport}
    (done : (a.run disk).run s = (.ok report, s')) :
    ∃ files results, a.Reads disk s files results (a.scriptsRead disk s) ∧
      ∀ stub ∈ report.fixes, stub.kind = .addFunctionStub → ∀ others text,
        Fix.startText (stub :: others)
          ((disk.readText stub.filePath).run (a.scriptsRead disk s)).1 = .ok text →
        ∃ lead tail, (∀ c ∈ lead, c = '\n') ∧
          stub.edit text = .ok (text ++
            (lead ++ ("function " ++ stub.functionName ++ "()").toList ++ tail)) ∧
          1 + (text ++ lead).count '\n' = Text.lineCount text + 2 ∧
          (1 + (text ++ lead).count '\n' = stub.line ↔ Script.recordPaths results ≠ [] ∧
            ((disk.readText stub.filePath).run (a.scriptsRead disk s)).1 = .ok text) := by
  obtain ⟨files, results, after, elements, findings, reads, rfl⟩ := exists_reads done
  obtain rfl := reads.after_eq
  refine ⟨files, results, reads, ?_⟩
  intro stub derived adds others text start
  have sound : List.Forall₂ Script.IsResult files results := by
    obtain ⟨discovery, found, -, -, read⟩ := reads.steps
    have loaded := Script.forall₂_loadAll disk a.config.deadlineMs files found
    rwa [read] at loaded
  have chosen := StubTarget.isChosen_choose disk a.scriptRoot (a.scriptsRead disk s) fun _ =>
    Script.mem_recordPaths_iff sound
  obtain ⟨file, line⟩ := Fix.aim_of_mem_derive derived adds
  obtain ⟨tail, added⟩ := Edit.exists_appendStub text stub.functionName
  have edited : stub.edit text = .ok (Edit.appendStub text stub.functionName) := by
    rw [Fix.edit, adds]
  refine ⟨Edit.stubLead text, tail, fun c => Edit.eq_break_of_mem_stubLead, ?_,
    Edit.line_stubLead text, ?_⟩
  · rw [edited, added]
  · rw [file] at start ⊢
    rw [Edit.line_stubLead, line]
    exact chosen.line_eq_iff start

/-- A button that calls a missing function, and what there is in the directory of the scripts. -/
def sendPage (scripts : List (FileName × FileNode)) : FileSystem where
  root := .directory [
    ("index.html", .file (Text.encode "<button id=\"b\" onclick=\"send()\">x</button>\n".toList)),
    ("js", .directory scripts)]

def sendAudit : Audit := { htmlPath := "index.html", scriptRoot := "js" }

/-- What is read of a file when the line is announced, or why it is not read. -/
def sendReading (scripts : List (FileName × FileNode)) (file : String) :
    Option (List Char) × Option FileError :=
  match ((FileSystem.disk.readText file).run
      (sendAudit.scriptsRead FileSystem.disk (sendPage scripts))).1 with
  | .ok text => (some text, none)
  | .error cause => (none, some cause)

/-- The function is to be added to a file, on a line. -/
def announces (report : AuditReport) (file : String) (line : Nat) : Bool :=
  report.fixes.any fun fix => fix.kind == .addFunctionStub && fix.filePath == file &&
    fix.line == line && fix.functionName == "send"

theorem exists_stub_of_run {fs : FileSystem} {file : String} {line : Nat}
    (ran : ((sendAudit.run FileSystem.disk).run fs).1.toOption.any (announces · file line) = true) :
    ∃ report last, (sendAudit.run FileSystem.disk).run fs = (.ok report, last) ∧
      ∃ stub ∈ report.fixes, stub.kind = .addFunctionStub ∧ stub.filePath = file ∧
        stub.line = line ∧ stub.functionName = "send" := by
  rcases result : (sendAudit.run FileSystem.disk).run fs with ⟨answer, last⟩
  rw [result] at ran
  cases answer with
  | error cause => cases ran
  | ok report =>
    obtain ⟨stub, member, found⟩ := List.any_eq_true.mp ran
    simp only [Bool.and_eq_true, beq_iff_eq] at found
    obtain ⟨⟨⟨kind, path⟩, place⟩, name⟩ := found
    exact ⟨report, last, rfl, stub, member, kind, path, place, name⟩

theorem startText_of_sendReading {scripts : List (FileName × FileNode)} {stub : Fix}
    {file : String} (adds : stub.kind = .addFunctionStub) (text : List Char)
    (reading : sendReading scripts file = (some text, none) ∨
      sendReading scripts file = (none, some .notFound) ∧ text = []) :
    Fix.startText [stub] ((FileSystem.disk.readText file).run
      (sendAudit.scriptsRead FileSystem.disk (sendPage scripts))).1 = .ok text := by
  unfold sendReading at reading
  split at reading
  · next held read =>
    obtain rfl : held = text := by simpa using reading
    rw [read]
    rfl
  · next cause read =>
    obtain ⟨rfl, rfl⟩ : cause = .notFound ∧ text = [] := by simpa using reading
    rw [read]
    simp [Fix.startText, adds]

/-- A script whose last line is open. -/
def openScript : List Char := "function init() \x7b\x7d\ninit();".toList

def openScripts : List (FileName × FileNode) := [("app.js", .file (Text.encode openScript))]

theorem stub_line_iff_openScript : ∃ report last stub lead tail,
    (sendAudit.run FileSystem.disk).run (sendPage openScripts) = (.ok report, last) ∧
      stub ∈ report.fixes ∧ stub.kind = .addFunctionStub ∧ stub.filePath = "js/app.js" ∧
      stub.edit openScript = .ok (openScript ++ (lead ++ "function send()".toList ++ tail)) ∧
      1 + (openScript ++ lead).count '\n' = 4 ∧ stub.line = 4 := by
  obtain ⟨report, last, ran, stub, member, adds, file, line, name⟩ :
      ∃ report last, (sendAudit.run FileSystem.disk).run (sendPage openScripts) =
        (.ok report, last) ∧ ∃ stub ∈ report.fixes, stub.kind = .addFunctionStub ∧
          stub.filePath = "js/app.js" ∧ stub.line = 4 ∧ stub.functionName = "send" :=
    exists_stub_of_run (by decide +kernel)
  have held : sendReading openScripts "js/app.js" = (some openScript, none) := by decide +kernel
  have start := startText_of_sendReading adds openScript (.inl held)
  obtain ⟨files, results, -, stubs⟩ := stub_line_iff ran
  rw [← file] at start
  obtain ⟨lead, tail, -, edited, below, -⟩ := stubs stub member adds [] openScript start
  rw [name] at edited
  exact ⟨report, last, stub, lead, tail, ran, member, adds, file, edited, below, line⟩

/-- With no script there, the function is announced on the first line of a new file, and is written
to the second one. -/
theorem new_file_announced_early : ∃ report last stub,
    (sendAudit.run FileSystem.disk).run (sendPage []) = (.ok report, last) ∧
      stub ∈ report.fixes ∧ stub.kind = .addFunctionStub ∧
      stub.filePath = "js/wirecheck-stubs.js" ∧
      (sendPage []).isPresent "js/wirecheck-stubs.js" = false ∧
      Fix.startText [stub] ((FileSystem.disk.readText "js/wirecheck-stubs.js").run
        (sendAudit.scriptsRead FileSystem.disk (sendPage []))).1 = .ok [] ∧
      (∃ tail, stub.edit [] = .ok ('\n' :: ("function send()".toList ++ tail))) ∧
      1 + ['\n'].count '\n' = 2 ∧ stub.line = 1 := by
  obtain ⟨report, last, ran, stub, member, adds, file, line, name⟩ :
      ∃ report last, (sendAudit.run FileSystem.disk).run (sendPage []) = (.ok report, last) ∧
        ∃ stub ∈ report.fixes, stub.kind = .addFunctionStub ∧
          stub.filePath = "js/wirecheck-stubs.js" ∧ stub.line = 1 ∧ stub.functionName = "send" :=
    exists_stub_of_run (by decide +kernel)
  have missing : sendReading [] "js/wirecheck-stubs.js" = (none, some .notFound) := by
    decide +kernel
  have start := startText_of_sendReading adds [] (.inr ⟨missing, rfl⟩)
  obtain ⟨tail, added⟩ := Edit.exists_appendStub [] "send"
  refine ⟨report, last, stub, ran, member, adds, file, by decide +kernel, start, ⟨tail, ?_⟩, rfl,
    line⟩
  rw [Fix.edit, adds, name]
  exact congrArg Except.ok added

end Audit

end PageWiring
