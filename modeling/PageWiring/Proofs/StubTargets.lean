import PageWiring.Audit
import PageWiring.Files.FileSystem
import PageWiring.Proofs.DerivedFixes
import PageWiring.Proofs.SafeRemovals

/-!
Which file missing functions are added to.

All that is learned from a script carries the path of its file. So the scripts in which something
is defined or looked up are known, and the least of their paths, as a text, is taken. Every other
script is passed over, whether it comes first or not, and a new file is proposed when none is left.
-/
namespace PageWiring

theorem stateRun_bind {σ α β : Type} (program : StateM σ α) (next : α → StateM σ β) (s : σ) :
    (program >>= next).run s = (next (program.run s).1).run (program.run s).2 := rfl

namespace Script

/-! ### The file of what is learned -/

/-- A fact says in which file it was learned; the export of a name does not. -/
def Fact.InFile (file : String) : Fact → Prop
  | .define d => d.filePath = file
  | .query q => q.filePath = file
  | .call _ site => site.filePath = file
  | .exported _ => True

variable {s : Scope}

@[simp] theorem Scope.inFile_define (name : String) (span : Span) (kind : FunctionKind)
    (isExported : Bool) : (s.define name span kind isExported).InFile s.filePath := rfl

@[simp] theorem Scope.inFile_call (name : String) (span : Span) (kind : CallKind)
    (viaGlobal : Bool) : (s.call name span kind viaGlobal).InFile s.filePath := rfl

@[simp] theorem Fact.inFile_exported (name file : String) : (Fact.exported name).InFile file :=
  trivial

theorem inFile_queryFacts (method : QueryMethod) (args : List Node) (span : Span) :
    ∀ fact ∈ queryFacts s method args span, fact.InFile s.filePath := by
  cases args with
  | nil => simp [queryFacts]
  | cons arg rest => simp [queryFacts, Fact.InFile]

theorem inFile_calls (callee : Node) (span : Span) (kind : CallKind) :
    ∀ fact ∈ callee.calleeName?.toList.map fun t => s.call t.1 span kind t.2,
      fact.InFile s.filePath := by
  intro fact own
  obtain ⟨t, -, rfl⟩ := List.mem_map.mp own
  exact Scope.inFile_call _ _ _ _

theorem inFile_callFacts (callee : Node) (args : List Node) (span : Span) :
    ∀ fact ∈ callFacts s callee args span, fact.InFile s.filePath := by
  intro fact own
  rcases List.mem_append.mp own with viaMember | called
  · split at viaMember
    · cases viaMember
    · rcases List.mem_append.mp viaMember with queried | bound
      · split at queried
        · exact inFile_queryFacts _ _ _ fact queried
        · cases queried
      · split at bound
        · exact inFile_calls _ span .reference fact bound
        · cases bound
  · exact inFile_calls callee span .call fact called

theorem inFile_variableDefinition (isExported : Bool) (d : Node) :
    ∀ fact ∈ variableDefinition s isExported d, fact.InFile s.filePath := by
  unfold variableDefinition
  split <;> simp

theorem inFile_valueDefinition (name : String) (value : Node) :
    ∀ fact ∈ valueDefinition s name value, fact.InFile s.filePath := by
  unfold valueDefinition
  split <;> simp

theorem inFile_declarators (isExported : Bool) (declarators : List Node) :
    ∀ fact ∈ declarators.flatMap (variableDefinition s isExported), fact.InFile s.filePath := by
  intro fact own
  obtain ⟨d, -, defined⟩ := List.mem_flatMap.mp own
  exact inFile_variableDefinition isExported d fact defined

theorem inFile_assign (span : Span) (plain : Bool) (target value : Node) :
    ∀ fact ∈ (Node.assign span plain target value).ownFacts s, fact.InFile s.filePath := by
  intro fact own
  simp only [Node.ownFacts] at own
  split at own
  · rcases List.mem_append.mp own with named | defined
    · rcases List.mem_cons.mp named with rfl | other
      · trivial
      · obtain ⟨id, -, rfl⟩ := Option.map_eq_some_iff.mp (Option.mem_toList.mp other)
        trivial
    · exact inFile_valueDefinition _ value fact defined
  · obtain ⟨name, -, rfl⟩ := List.mem_map.mp own
    trivial
  · cases own

theorem inFile_ownFacts (n : Node) : ∀ fact ∈ n.ownFacts s, fact.InFile s.filePath := by
  cases n with
  | call span optional callee args => exact inFile_callFacts callee args span
  | construct span callee args => exact inFile_calls callee span .construct
  | assign span plain target value => exact inFile_assign span plain target value
  | vars span declarators => exact inFile_declarators false declarators
  | compound span kind parts =>
    by_cases heads : kind = .forVars
    · subst heads
      exact inFile_declarators false parts
    · simp [Node.ownFacts, heads]
  | exportDecl decl =>
    cases decl with
    | vars span declarators => exact inFile_declarators true declarators
    | _ => simp [Node.ownFacts]
  | classProperty key keyParts value types =>
    rcases value with _ | ⟨single, _ | ⟨second, rest⟩⟩
    · simp [Node.ownFacts]
    · simp only [Node.ownFacts]
      split <;> simp
    · simp [Node.ownFacts]
  | keyValue key keyParts value =>
    simp only [Node.ownFacts]
    split <;> simp
  | classMethod kind key keyParts params body types =>
    simp only [Node.ownFacts]
    split <;> simp
  | _ => simp [Node.ownFacts, Scope.reference]

theorem inFile_learnedFrom (items : List Node) :
    ∀ fact ∈ learnedFrom s items, fact.InFile s.filePath := by
  intro fact learned
  obtain ⟨item, -, inner, node, visits, own⟩ := mem_learnedFrom_iff_visits.mp learned
  rw [← visits.same_file.1]
  exact inFile_ownFacts node fact own

namespace FileModel

/-- What was learned from a script is about its file. -/
structure InFile (m : FileModel) (path : String) : Prop where
  filePath : m.filePath = path
  definitions : ∀ d ∈ m.definitions, d.filePath = path
  queries : ∀ q ∈ m.queries, q.filePath = path

theorem inFile_ofFacts {filePath : String} {faults : List Nat} {facts : List Fact}
    (within : ∀ fact ∈ facts, fact.InFile filePath) :
    (ofFacts filePath faults facts).InFile filePath where
  filePath := rfl
  definitions := by
    intro d recorded
    obtain ⟨written, member, rfl⟩ := List.mem_map.mp recorded
    obtain ⟨fact, learned, found⟩ := List.mem_filterMap.mp member
    cases fact <;> cases found
    exact within _ learned
  queries := by
    intro q recorded
    exact within _ (mem_queriesOf.mp recorded)

theorem inFile_of_ofSource {filePath text : String} {m : FileModel}
    (read : ofSource filePath text = .ok m) : m.InFile filePath := by
  unfold ofSource at read
  split at read
  · cases read
  · cases read
    exact inFile_ofFacts (inFile_learnedFrom _)

/-- Is something defined or looked up in a script? -/
def hasRecords (m : FileModel) : Bool := !m.definitions.isEmpty || !m.queries.isEmpty

theorem hasRecords_iff {m : FileModel} :
    m.hasRecords = true ↔ m.definitions ≠ [] ∨ m.queries ≠ [] := by
  simp [hasRecords]

end FileModel

/-! ### Reading the scripts -/

variable {σ : Type} {disk : Disk (StateM σ)}

theorem inFile_of_load {path : DiskPath} {s : σ} {m : FileModel}
    (read : ((FileModel.load disk path).run s).1 = .ok m) : m.InFile path.shown := by
  unfold FileModel.load at read
  rw [stateRun_bind] at read
  split at read
  · cases read
  · exact FileModel.inFile_of_ofSource read

theorem inFile_of_loadInTime {started : Nat} {deadline : Option Nat} {path : DiskPath} {s : σ}
    {m : FileModel}
    (read : ((FileModel.loadInTime disk started deadline path).run s).1 = .ok m) :
    m.InFile path.shown := by
  unfold FileModel.loadInTime at read
  split at read
  · exact inFile_of_load read
  · rw [stateRun_bind] at read
    split at read
    · cases read
    · exact inFile_of_load read

/-- A result for a path: what was learned, if anything, is about the file there. -/
def IsResult (path : DiskPath) (result : Except FileDiagnostic FileModel) : Prop :=
  ∀ m, result = .ok m → m.InFile path.shown

theorem forall₂_mapM_run {program : DiskPath → StateM σ (Except FileDiagnostic FileModel)}
    (sound : ∀ path s, IsResult path ((program path).run s).1) (paths : List DiskPath) (s : σ) :
    List.Forall₂ IsResult paths ((paths.mapM program).run s).1 := by
  induction paths generalizing s with
  | nil => exact .nil
  | cons path rest ih =>
    rw [List.mapM_cons, stateRun_bind, stateRun_bind]
    exact .cons (sound path s) (ih _)

/-- Reads some files, one after the other, as long as there is time. -/
def loadAll (disk : Disk (StateM σ)) (deadline : Option Nat) (files : List DiskPath) :
    StateM σ (List (Except FileDiagnostic FileModel)) := do
  let started ← disk.now
  files.mapM (FileModel.loadInTime disk started deadline)

theorem forall₂_loadAll (disk : Disk (StateM σ)) (deadline : Option Nat) (files : List DiskPath)
    (s : σ) : List.Forall₂ IsResult files ((loadAll disk deadline files).run s).1 := by
  unfold loadAll
  rw [stateRun_bind]
  exact forall₂_mapM_run (fun path s m read => inFile_of_loadInTime read) files _

theorem exists_of_ofRoot {discovery : Discovery} {deadline : Option Nat} {root : String} {s : σ}
    {scan : Scan} (scanned : ((Scan.ofRoot disk discovery deadline root).run s).1 = .ok scan) :
    ∃ files found results after, (discovery.discover disk root).run s = (.ok files, found) ∧
      (loadAll disk deadline files).run found = (results, after) ∧ scan = .merge results ∧
      ((Scan.ofRoot disk discovery deadline root).run s).2 = after := by
  unfold Scan.ofRoot at scanned ⊢
  rw [stateRun_bind] at scanned ⊢
  rcases searched : (discovery.discover disk root).run s with ⟨answer, found⟩
  rw [searched] at scanned
  cases answer with
  | error cause => cases scanned
  | ok files =>
    cases scanned
    exact ⟨files, found, _, _, rfl, rfl, rfl, rfl⟩

/-- The scripts that could be read. -/
def readable (results : List (Except FileDiagnostic FileModel)) : List FileModel :=
  results.filterMap Except.toOption

theorem sublist_readable {paths : List DiskPath} {results : List (Except FileDiagnostic FileModel)}
    (sound : List.Forall₂ IsResult paths results) :
    ((readable results).map (·.filePath)).Sublist (paths.map (·.shown)) := by
  induction sound with
  | nil => exact .slnil
  | @cons path result paths results first _ ih =>
    cases result with
    | error cause => exact ih.cons path.shown
    | ok m =>
      show (m.filePath :: (readable results).map (·.filePath)).Sublist
        (path.shown :: paths.map (·.shown))
      rw [(first m rfl).filePath]
      exact ih.cons_cons path.shown

theorem inFile_of_mem_readable {paths : List DiskPath}
    {results : List (Except FileDiagnostic FileModel)}
    (sound : List.Forall₂ IsResult paths results) {m : FileModel} (member : m ∈ readable results) :
    m.InFile m.filePath := by
  induction sound with
  | nil => cases member
  | @cons path result paths results first _ ih =>
    cases result with
    | error cause => exact ih member
    | ok other =>
      rcases List.mem_cons.mp member with rfl | later
      · rw [(first m rfl).filePath]
        exact first m rfl
      · exact ih later

/-- The paths of the scripts in which something is defined or looked up. -/
def recordPaths (results : List (Except FileDiagnostic FileModel)) : List String :=
  ((readable results).filter (·.hasRecords)).map (·.filePath)

theorem flatMap_definitionsOf (results : List (Except FileDiagnostic FileModel)) :
    results.flatMap definitionsOf = (readable results).flatMap (·.definitions) := by
  induction results with
  | nil => rfl
  | cons result rest ih =>
    rw [List.flatMap_cons, ih]
    cases result <;> rfl

theorem flatMap_queriesOf (results : List (Except FileDiagnostic FileModel)) :
    results.flatMap queriesOf = (readable results).flatMap (·.queries) := by
  induction results with
  | nil => rfl
  | cons result rest ih =>
    rw [List.flatMap_cons, ih]
    cases result <;> rfl

theorem mem_recordPaths {results : List (Except FileDiagnostic FileModel)} {path : String} :
    path ∈ recordPaths results ↔
      ∃ m ∈ readable results, m.hasRecords = true ∧ m.filePath = path := by
  simp [recordPaths, and_assoc]

/-- Definitions and look-ups lead to the files that have any, and to no other. -/
theorem mem_recordPaths_iff {paths : List DiskPath}
    {results : List (Except FileDiagnostic FileModel)}
    (sound : List.Forall₂ IsResult paths results) {path : String} :
    path ∈ (Scan.merge results).functions.definitions.map (·.filePath) ++
        (Scan.merge results).functions.queries.map (·.filePath) ↔ path ∈ recordPaths results := by
  rw [(Scan.merge_functions results).2.1, Scan.merge_queries, flatMap_definitionsOf,
    flatMap_queriesOf, List.mem_append, mem_recordPaths]
  constructor
  · rintro (defined | queried)
    · obtain ⟨d, listed, rfl⟩ := List.mem_map.mp defined
      obtain ⟨m, member, own⟩ := List.mem_flatMap.mp listed
      have has := FileModel.hasRecords_iff.mpr (.inl (List.ne_nil_of_mem own))
      exact ⟨m, member, has, ((inFile_of_mem_readable sound member).definitions d own).symm⟩
    · obtain ⟨q, listed, rfl⟩ := List.mem_map.mp queried
      obtain ⟨m, member, own⟩ := List.mem_flatMap.mp listed
      have has := FileModel.hasRecords_iff.mpr (.inr (List.ne_nil_of_mem own))
      exact ⟨m, member, has, ((inFile_of_mem_readable sound member).queries q own).symm⟩
  · rintro ⟨m, member, has, rfl⟩
    have within := inFile_of_mem_readable sound member
    rcases FileModel.hasRecords_iff.mp has with defines | queries
    · obtain ⟨d, own⟩ := List.exists_mem_of_ne_nil _ defines
      have listed := List.mem_flatMap.mpr ⟨m, member, own⟩
      exact .inl (List.mem_map.mpr ⟨d, listed, within.definitions d own⟩)
    · obtain ⟨q, own⟩ := List.exists_mem_of_ne_nil _ queries
      have listed := List.mem_flatMap.mpr ⟨m, member, own⟩
      exact .inr (List.mem_map.mpr ⟨q, listed, within.queries q own⟩)

end Script

/-! ### The choice -/

namespace StubTarget

theorem least?_eq_none_iff {texts : List String} : least? texts = none ↔ texts = [] := by
  cases texts with
  | nil => simp [least?]
  | cons text rest =>
    rw [least?]
    split <;> simp

theorem mem_of_least? {texts : List String} {least : String} (found : least? texts = some least) :
    least ∈ texts ∧ ∀ text ∈ texts, ¬ text < least := by
  induction texts generalizing least with
  | nil => cases found
  | cons first rest ih =>
    rw [least?] at found
    split at found
    · rename_i nothing
      cases found
      rw [least?_eq_none_iff.mp nothing]
      refine ⟨List.mem_cons_self, ?_⟩
      intro text listed
      rw [List.mem_singleton.mp listed]
      exact String.lt_irrefl first
    · rename_i other later
      obtain ⟨member, bound⟩ := ih later
      obtain rfl := Option.some.inj found
      by_cases less : other < first
      · rw [if_pos less]
        refine ⟨List.mem_cons_of_mem first member, ?_⟩
        intro text listed
        rcases List.mem_cons.mp listed with rfl | listed
        · exact String.lt_asymm less
        · exact bound text listed
      · rw [if_neg less]
        refine ⟨List.mem_cons_self, ?_⟩
        intro text listed
        rcases List.mem_cons.mp listed with rfl | listed
        · exact String.lt_irrefl text
        · have above := String.not_lt.mp (bound text listed)
          exact String.not_lt.mpr (String.le_trans (String.not_lt.mp less) above)

variable {σ : Type} {disk : Disk (StateM σ)}

/-- The file that is proposed when there is no script to add to. -/
def newFile (disk : Disk (StateM σ)) (root : String) (s : σ) : String :=
  Path.join (if ((disk.isDirectory root).run s).1 then root else (Path.parent? root).getD "")
    "wirecheck-stubs.js"

theorem choose_of_none {functions : Functions} (none : firstFile? functions = none) (root : String)
    (s : σ) : ((choose disk root functions).run s).1 = ⟨newFile disk root s, 1⟩ := by
  unfold choose
  rw [none]
  rfl

theorem choose_of_some {functions : Functions} {file : String}
    (found : firstFile? functions = some file) (root : String) (s : σ) :
    ((choose disk root functions).run s).1 =
      ⟨file, nextLine ((disk.readText file).run s).1⟩ := by
  unfold choose
  rw [found]
  rfl

/-- Where missing functions go, by the paths of the files in which something is defined or looked
up: into the one with the least path, behind its end, or into a new file. -/
structure IsChosen (disk : Disk (StateM σ)) (root : String) (paths : List String) (s : σ)
    (target : StubTarget) : Prop where
  least : paths ≠ [] → target.filePath ∈ paths ∧ (∀ path ∈ paths, ¬ path < target.filePath) ∧
    target.line = nextLine ((disk.readText target.filePath).run s).1
  new : paths = [] → target = ⟨newFile disk root s, 1⟩

theorem isChosen_choose (disk : Disk (StateM σ)) (root : String) (s : σ) {functions : Functions}
    {paths : List String}
    (same : ∀ path, path ∈ functions.definitions.map (·.filePath) ++
      functions.queries.map (·.filePath) ↔ path ∈ paths) :
    IsChosen disk root paths s ((choose disk root functions).run s).1 := by
  cases found : firstFile? functions with
  | none =>
    have empty : paths = [] := by
      rw [firstFile?, least?_eq_none_iff] at found
      rw [found] at same
      apply List.eq_nil_iff_forall_not_mem.mpr
      intro path member
      simpa using (same path).mpr member
    exact ⟨fun filled => absurd empty filled, fun _ => choose_of_none found root s⟩
  | some file =>
    obtain ⟨member, bound⟩ := mem_of_least? found
    have listed := (same file).mp member
    rw [choose_of_some found]
    refine ⟨fun _ => ⟨listed, fun path other => bound path ((same path).mpr other), rfl⟩, ?_⟩
    rintro rfl
    cases listed

/-- A given file is chosen only if it has the least path, or the one of the new file. -/
theorem IsChosen.filePath_eq_iff {root : String} {paths : List String} {s : σ} {target : StubTarget}
    (chosen : IsChosen disk root paths s target) (file : String) :
    target.filePath = file ↔ (file ∈ paths ∧ ∀ path ∈ paths, ¬ path < file) ∨
      (paths = [] ∧ file = newFile disk root s) := by
  constructor
  · rintro rfl
    by_cases empty : paths = []
    · exact .inr ⟨empty, by rw [chosen.new empty]⟩
    · obtain ⟨member, bound, -⟩ := chosen.least empty
      exact .inl ⟨member, bound⟩
  · rintro (⟨member, bound⟩ | ⟨empty, rfl⟩)
    · obtain ⟨listed, least, -⟩ := chosen.least (List.ne_nil_of_mem member)
      exact String.le_antisymm (String.not_lt.mp (least file member))
        (String.not_lt.mp (bound _ listed))
    · rw [chosen.new empty]

end StubTarget

namespace Fix

/-- Every function that is missing gets a stub, the first time that it is missed. -/
theorem exists_addStub (elements : Elements) (htmlPath : String) (target : StubTarget)
    {stubbed : List String} {brokens : List BrokenHandler} {broken : BrokenHandler}
    (member : broken ∈ brokens) (fresh : broken.missingFunction ∉ stubbed) :
    ∃ other ∈ brokens, other.missingFunction = broken.missingFunction ∧
      addStub target other ∈ handlerFixes elements htmlPath target stubbed brokens := by
  induction brokens generalizing stubbed with
  | nil => cases member
  | cons first rest ih =>
    by_cases own : first.missingFunction = broken.missingFunction
    · refine ⟨first, List.mem_cons_self, own, ?_⟩
      rw [← own] at fresh
      simp [handlerFixes, fresh]
    · have later : broken ∈ rest := by
        rcases List.mem_cons.mp member with rfl | later
        · exact absurd rfl own
        · exact later
      unfold handlerFixes
      split
      · obtain ⟨other, listed, same, added⟩ := ih later fresh
        exact ⟨other, List.mem_cons_of_mem first listed, same, List.mem_cons_of_mem _ added⟩
      · have further : broken.missingFunction ∉ first.missingFunction :: stubbed := by
          simpa using ⟨Ne.symm own, fresh⟩
        obtain ⟨other, listed, same, added⟩ := ih later further
        exact ⟨other, List.mem_cons_of_mem first listed, same,
          List.mem_cons_of_mem _ (List.mem_cons_of_mem _ added)⟩

/-- All functions that are added go to one target. -/
theorem aim_of_mem_derive {findings : Findings} {elements : Elements} {functions : Functions}
    {htmlPath : String} {target : StubTarget} {fix : Fix}
    (derived : fix ∈ derive findings elements functions htmlPath target)
    (adds : fix.kind = .addFunctionStub) :
    fix.filePath = target.filePath ∧ fix.line = target.line := by
  obtain ⟨broken, -, -, -, file, line, -⟩ := exists_broken_of_stub derived adds
  exact ⟨file, line⟩

end Fix

namespace Audit

open Script (FileModel)

variable {σ : Type}

/-- How things are when an audit has read the page. -/
def pageRead (disk : Disk (StateM σ)) (a : Audit) (s : σ) : σ :=
  let present := ((disk.isPresent a.htmlPath).run s).2
  ((Elements.load disk a.htmlPath).run ((disk.isPresent a.scriptRoot).run present).2).2

/-- What an audit reads of the scripts: the files that it finds, in their order, and what comes of
each of them. -/
structure Reads (disk : Disk (StateM σ)) (a : Audit) (s : σ) (files : List DiskPath)
    (results : List (Except FileDiagnostic FileModel)) (after : σ) : Prop where
  steps : ∃ discovery found, Discovery.ofConfig a.config = .ok discovery ∧
    (discovery.discover disk a.scriptRoot).run (a.pageRead disk s) = (.ok files, found) ∧
    (Script.loadAll disk a.config.deadlineMs files).run found = (results, after)

theorem exists_reads {disk : Disk (StateM σ)} {a : Audit} {s s' : σ} {report : AuditReport}
    (done : (a.run disk).run s = (.ok report, s')) :
    ∃ files results after elements findings, a.Reads disk s files results after ∧
      report = a.report elements (.merge results)
        ((StubTarget.choose disk a.scriptRoot (Script.Scan.merge results).functions).run after).1
        findings := by
  unfold Audit.run at done
  rw [stateRun_bind] at done
  split at done
  · rw [stateRun_bind] at done
    split at done
    · split at done
      · cases done
      · rename_i discovery compiled
        rw [stateRun_bind] at done
        split at done
        · cases done
        · rename_i elements loaded
          rw [stateRun_bind] at done
          split at done
          · cases done
          · rename_i scan scanned
            split at done
            · cases done
            · rename_i findings analyzed
              obtain ⟨files, found, results, after, searched, read, rfl, rfl⟩ :=
                Script.exists_of_ofRoot scanned
              rw [stateRun_bind] at done
              exact ⟨files, results, _, elements, findings,
                ⟨discovery, found, compiled, searched, read⟩,
                (Except.ok.inj (congrArg Prod.fst done)).symm⟩
    · cases done
  · cases done

/-- Missing functions go into the file with the least path of those in which something is defined or
looked up. When there is no such file, a new one is proposed, however many scripts could be read.
So they go into the first script that could be read only if it has such a path, or the new one. -/
theorem stubs_of_run {disk : Disk (StateM σ)} {a : Audit} {s s' : σ} {report : AuditReport}
    (done : (a.run disk).run s = (.ok report, s')) :
    ∃ files results after target, a.Reads disk s files results after ∧
      ((Script.readable results).map (·.filePath)).Sublist (files.map (·.shown)) ∧
      StubTarget.IsChosen disk a.scriptRoot (Script.recordPaths results) after target ∧
      (∀ fix ∈ report.fixes, fix.kind = .addFunctionStub →
        fix.filePath = target.filePath ∧ fix.line = target.line) ∧
      (∀ broken ∈ report.findings.brokenHandlers, ∃ fix ∈ report.fixes,
        fix.kind = .addFunctionStub ∧ fix.functionName = broken.missingFunction) ∧
      ∀ first ∈ (Script.readable results).head?, target.filePath = first.filePath ↔
        (first.filePath ∈ Script.recordPaths results ∧
          ∀ path ∈ Script.recordPaths results, ¬ path < first.filePath) ∨
        (Script.recordPaths results = [] ∧
          first.filePath = StubTarget.newFile disk a.scriptRoot after) := by
  obtain ⟨files, results, after, elements, findings, reads, rfl⟩ := exists_reads done
  have sound : List.Forall₂ Script.IsResult files results := by
    obtain ⟨discovery, found, -, -, read⟩ := reads.steps
    have loaded := Script.forall₂_loadAll disk a.config.deadlineMs files found
    rwa [read] at loaded
  have chosen := StubTarget.isChosen_choose disk a.scriptRoot after fun _ =>
    Script.mem_recordPaths_iff sound
  refine ⟨files, results, after, _, reads, Script.sublist_readable sound, chosen, ?_, ?_, ?_⟩
  · exact fun fix derived adds => Fix.aim_of_mem_derive derived adds
  · intro broken reported
    obtain ⟨other, -, same, added⟩ := Fix.exists_addStub elements a.htmlPath _ reported
      List.not_mem_nil
    exact ⟨_, List.mem_append_right _ added, rfl, same⟩
  · intro first _
    exact chosen.filePath_eq_iff first.filePath

/-- A button that calls a missing function, and a script that only calls one. -/
def callsOnly : FileSystem where
  root := .directory [
    ("index.html", .file (Text.encode "<button id=\"b\" onclick=\"send()\">x</button>\n".toList)),
    ("js", .directory [("app.js", .file (Text.encode "init();\n".toList))])]

def callsOnlyAudit : Audit := { htmlPath := "index.html", scriptRoot := "js" }

/-- The script is found and read, and yet the missing function goes into a new file. -/
theorem exists_run_callsOnly :
    ((Discovery.discover {} FileSystem.disk "js").run callsOnly).1.toOption.map
        (·.map (·.shown)) = some ["js/app.js"] ∧
      ∃ report last, (callsOnlyAudit.run FileSystem.disk).run callsOnly = (.ok report, last) ∧
        report.stats.scripts = 1 ∧
        report.fixes.map (fun fix => (fix.kind, fix.filePath, fix.line)) =
          [(.removeHandler, "index.html", 1), (.addFunctionStub, "js/wirecheck-stubs.js", 1)] := by
  have evaluated :
      ((Discovery.discover {} FileSystem.disk "js").run callsOnly).1.toOption.map
        (·.map (·.shown)) = some ["js/app.js"] ∧
      ((callsOnlyAudit.run FileSystem.disk).run callsOnly).1.toOption.map (fun report =>
        (report.stats.scripts, report.fixes.map fun fix => (fix.kind, fix.filePath, fix.line))) =
        some (1, [(.removeHandler, "index.html", 1),
          (.addFunctionStub, "js/wirecheck-stubs.js", 1)]) := by
    decide +kernel
  obtain ⟨found, evaluated⟩ := evaluated
  refine ⟨found, ?_⟩
  rcases ran : (callsOnlyAudit.run FileSystem.disk).run callsOnly with ⟨result, last⟩
  rw [ran] at evaluated
  cases result with
  | error cause => cases evaluated
  | ok report =>
    have both := Prod.mk.inj (Option.some.inj evaluated)
    exact ⟨report, last, rfl, both.1, both.2⟩

theorem exists_stub_callsOnly {report : AuditReport}
    (fixes : report.fixes.map (fun fix => (fix.kind, fix.filePath, fix.line)) =
      [(.removeHandler, "index.html", 1), (.addFunctionStub, "js/wirecheck-stubs.js", 1)]) :
    ∃ fix ∈ report.fixes, fix.kind = .addFunctionStub ∧ fix.filePath = "js/wirecheck-stubs.js" ∧
      fix.line = 1 := by
  have listed : (.addFunctionStub, "js/wirecheck-stubs.js", 1) ∈
      report.fixes.map fun fix => (fix.kind, fix.filePath, fix.line) := by
    rw [fixes]
    simp
  obtain ⟨fix, member, same⟩ := List.mem_map.mp listed
  simp only [Prod.mk.injEq] at same
  exact ⟨fix, member, same⟩

theorem stubs_of_run_callsOnly : ∃ report last files results after target,
    (callsOnlyAudit.run FileSystem.disk).run callsOnly = (.ok report, last) ∧
      callsOnlyAudit.Reads FileSystem.disk callsOnly files results after ∧
      StubTarget.IsChosen FileSystem.disk "js" (Script.recordPaths results) after target ∧
      target.filePath = "js/wirecheck-stubs.js" ∧ target.line = 1 := by
  obtain ⟨-, report, last, ran, -, fixes⟩ := exists_run_callsOnly
  obtain ⟨files, results, after, target, reads, -, chosen, stubs, -⟩ := stubs_of_run ran
  obtain ⟨fix, member, adds, file, line⟩ := exists_stub_callsOnly fixes
  obtain ⟨sameFile, sameLine⟩ := stubs fix member adds
  exact ⟨report, last, files, results, after, target, ran, reads, chosen,
    sameFile.symm.trans file, sameLine.symm.trans line⟩

/-- A script that could be read is not taken when it only calls functions. -/
theorem calling_script_passed_over :
    ((Discovery.discover {} FileSystem.disk "js").run callsOnly).1.toOption.map
        (·.map (·.shown)) = some ["js/app.js"] ∧
      ∃ report last, (callsOnlyAudit.run FileSystem.disk).run callsOnly = (.ok report, last) ∧
        report.stats.scripts = 1 ∧ ∃ fix ∈ report.fixes, fix.kind = .addFunctionStub ∧
          fix.filePath = "js/wirecheck-stubs.js" ∧ fix.filePath ≠ "js/app.js" := by
  obtain ⟨found, report, last, ran, one, fixes⟩ := exists_run_callsOnly
  obtain ⟨fix, member, adds, file, -⟩ := exists_stub_callsOnly fixes
  refine ⟨found, report, last, ran, one, fix, member, adds, file, ?_⟩
  rw [file]
  decide

end Audit

end PageWiring
