import PageWiring.Proofs.EnclosingFunctions
import PageWiring.Proofs.FunctionIndex
import PageWiring.Proofs.HandlerUse
import PageWiring.Proofs.RemovedStatements

/-!
Which functions that are safe to remove can be cut out of their file.

A safe removal is about a function that some statement of the file declares. The function can be cut
out exactly when one such statement declares nothing else: variables that are declared side by side,
in the head of a loop or by `using` are marked safe too, and are not found.
-/
namespace PageWiring

namespace Script

variable {s inner : Scope} {n m : Node}

/-! ### Where a definition that could be cut out comes from -/

theorem Visits.same_file (visits : Visits s n inner m) :
    inner.filePath = s.filePath ∧ inner.lineOf = s.lineOf := by
  have around (s : Scope) (n : Node) :
      (s.around n).filePath = s.filePath ∧ (s.around n).lineOf = s.lineOf := by
    unfold Scope.around
    split <;> exact ⟨rfl, rfl⟩
  induction visits with
  | self => exact ⟨rfl, rfl⟩
  | part _ _ ih => exact ⟨ih.1.trans (around _ _).1, ih.2.trans (around _ _).2⟩
  | inside _ _ _ ih => exact ih

theorem mem_definitions_ofFacts {filePath : String} {faults : List Nat} {facts : List Fact}
    {d : FunctionDef} (recorded : d ∈ (FileModel.ofFacts filePath faults facts).definitions)
    (hidden : d.isExported = false) : Fact.define d ∈ facts := by
  obtain ⟨written, member, rfl⟩ := List.mem_map.mp recorded
  obtain ⟨fact, learned, found⟩ := List.mem_filterMap.mp member
  cases fact <;> cases found
  obtain ⟨own, other⟩ := Bool.or_eq_false_iff.mp hidden
  rwa [other, Bool.or_false]

/-- A recorded definition that stands alone and is not exported is of a function that a node in the
trees declares, by a statement of its own when it is a function declaration. -/
theorem exists_declaredBy {filePath : String} {faults : List Nat} {items : List Node}
    {d : FunctionDef}
    (recorded : d ∈ (FileModel.ofFacts filePath faults (learnedFrom s items)).definitions)
    (standalone : d.kind.isStandalone) (hidden : d.isExported = false) :
    d.filePath = s.filePath ∧ ∃ node, DeclaredBy s.lineOf items d.name d.line node ∧
      (d.kind = .declaration → node.standsAlone) := by
  obtain ⟨item, member, inner, node, visits, own⟩ :=
    mem_learnedFrom_iff_visits.mp (mem_definitions_ofFacts recorded hidden)
  have file := visits.same_file
  -- calls and exports are no definitions, and members and exported functions are excluded
  generalize made : Fact.define d = fact at own
  cases ownFact_of_mem own with
  | use context => subst made; cases context
  | exported name => cases made
  | kept name span keeps =>
    cases made
    simp_all
  | declared id kind listed alone =>
    cases made
    exact ⟨file.1, node, ⟨⟨item, member, visits.within⟩, id, listed, rfl, by rw [← file.2]⟩, alone⟩

theorem exists_declaredBy_ofSource {filePath text : String} {d : FunctionDef}
    (recorded : d ∈ definitionsOf (FileModel.ofSource filePath text))
    (standalone : d.kind.isStandalone) (hidden : d.isExported = false) :
    d.filePath = filePath ∧ ∃ parsed, Parsed.ofText (.ofFile filePath) text.toList = .ok parsed ∧
      ∃ node, DeclaredBy parsed.lineOf parsed.tree.items d.name d.line node := by
  unfold FileModel.ofSource at recorded
  split at recorded
  · cases recorded
  · next parsed read =>
    obtain ⟨file, node, declared, -⟩ := exists_declaredBy recorded standalone hidden
    exact ⟨file, parsed, read, node, declared⟩

end Script

open Script (DeclaredBy FileModel Parsed Scan definitionsOf)

/-! ### What a safe removal is about -/

namespace Fix

theorem exists_unused_of_mem_derive {findings : Findings} {elements : Elements}
    {functions : Functions} {htmlPath : String} {target : StubTarget} {fix : Fix}
    (derived : fix ∈ derive findings elements functions htmlPath target)
    (removes : fix.kind = .removeFunction) :
    ∃ unused ∈ findings.unusedFunctions, fix = removeFunction functions unused := by
  rcases List.mem_append.mp derived with removal | handler
  · obtain ⟨unused, reported, rfl⟩ := List.mem_map.mp removal
    exact ⟨unused, reported, rfl⟩
  · exact absurd removes (kind_ne_of_mem_handlerFixes _ _ handler)

theorem exists_definition_of_safe {functions : Functions} {unused : UnusedFunction}
    (safe : (removeFunction functions unused).safe) :
    ∃ d ∈ functions.definitions, d.name = unused.functionName ∧ d.filePath = unused.filePath ∧
      d.line = unused.line ∧ d.kind.isStandalone ∧ d.isExported = false := by
  simp only [removeFunction, Bool.and_eq_true, Option.any_eq_true] at safe
  obtain ⟨⟨⟨d, found, hidden, standalone⟩, -⟩, -⟩ := safe
  have listed := List.mem_filter.mp (List.mem_of_find?_eq_some found)
  have place := List.find?_some found
  simp only [Bool.and_eq_true, beq_iff_eq] at place
  exact ⟨d, listed.1, beq_iff_eq.mp listed.2, place.1, place.2, standalone, by simpa using hidden⟩

/-- A safe removal is about a file that was read, and a function which a node in it declares. -/
theorem exists_declaredBy_of_safe {files : List (String × String)} {findings : Findings}
    {elements : Elements} {htmlPath : String} {target : StubTarget} {fix : Fix}
    (derived : fix ∈ derive findings elements
      (Scan.merge (files.map fun file => FileModel.ofSource file.1 file.2)).functions htmlPath
      target)
    (removes : fix.kind = .removeFunction) (safe : fix.safe) :
    ∃ text parsed, (fix.filePath, text) ∈ files ∧
      Parsed.ofText (.ofFile fix.filePath) text.toList = .ok parsed ∧
      ∃ node, DeclaredBy parsed.lineOf parsed.tree.items fix.functionName fix.line node := by
  obtain ⟨unused, -, rfl⟩ := exists_unused_of_mem_derive derived removes
  obtain ⟨d, defined, named, file, line, standalone, hidden⟩ := exists_definition_of_safe safe
  -- the definition is one of a single file, and says which
  rw [(Scan.merge_functions _).2.1] at defined
  obtain ⟨result, merged, recorded⟩ := List.mem_flatMap.mp defined
  obtain ⟨⟨path, text⟩, listed, rfl⟩ := List.mem_map.mp merged
  obtain ⟨rfl, parsed, read, node, declared⟩ :=
    Script.exists_declaredBy_ofSource recorded standalone hidden
  rw [named, line] at declared
  rw [file] at listed read
  exact ⟨text, parsed, listed, read, node, declared⟩

end Fix

/-! ### What the removal cuts -/

theorem Text.isSome_cut?_iff {text : List Char} {offset : Nat} :
    (cut? text offset).isSome ↔
      ∃ before after, text = before ++ after ∧ offset = byteLength before := by
  rw [Option.isSome_iff_exists]
  constructor
  · rintro ⟨⟨before, after⟩, cut⟩
    exact ⟨before, after, cut?_eq_some cut⟩
  · rintro ⟨before, after, rfl, rfl⟩
    exact ⟨_, cut?_append before after⟩

namespace Edit

open Script (Span declares findIn)

variable {text : List Char} {r : Span}

/-- Full lines start and end between two characters when the stretch does. -/
theorem isSome_cut?_wholeLines {before tail head after : List Char}
    (starts : text = before ++ tail ∧ r.start = Text.byteLength before)
    (stops : text = head ++ after ∧ r.stop = Text.byteLength head) :
    (Text.cut? text (wholeLines before after r).start).isSome ∧
      (Text.cut? text (wholeLines before after r).stop).isSome := by
  simp only [Text.isSome_cut?_iff]
  obtain ⟨kept, lead, trail, rest, rfl, rfl, -, -, widened, -⟩ := wholeLines_eq before after r
  rw [widened, starts.2, stops.2]
  refine ⟨⟨kept, lead ++ tail, ?_, by simp⟩, head ++ trail, rest, ?_, by simp⟩
  · rw [starts.1, List.append_assoc]
  · rw [stops.1, List.append_assoc]

theorem isSome_cutOut_iff :
    (cutOut text r).isSome ↔ (Text.cut? text r.start).isSome ∧ (Text.cut? text r.stop).isSome := by
  unfold cutOut
  cases Text.cut? text r.start <;> cases Text.cut? text r.stop <;> simp

theorem isSome_removal_bind_cutOut_iff :
    ((removal text r).bind (cutOut text)).isSome ↔
      (Text.cut? text r.start).isSome ∧ (Text.cut? text r.stop).isSome := by
  cases starts : Text.cut? text r.start with
  | none => simp [removal, starts]
  | some parts =>
    cases stops : Text.cut? text r.stop with
    | none => simp [removal, starts, stops]
    | some ends =>
      obtain ⟨before, tail⟩ := parts
      obtain ⟨head, after⟩ := ends
      have start := Text.cut?_eq_some starts
      have stop := Text.cut?_eq_some stops
      simp only [removal, starts, stops, Option.bind_eq_bind, Option.bind_some, Option.isSome_some,
        and_self, iff_true]
      split
      · next rest =>
        have semicolon : text = head ++ [';'] ++ rest ∧
            r.stop + 1 = Text.byteLength (head ++ [';']) :=
          ⟨by simp [stop.1], by rw [Text.byteLength_append, stop.2]; rfl⟩
        exact isSome_cutOut_iff.mpr (isSome_cut?_wholeLines start semicolon)
      · exact isSome_cutOut_iff.mpr (isSome_cut?_wholeLines start stop)

variable {fix : Fix} {parsed : Parsed}

theorem removeFunction_eq_error
    (read : Parsed.ofText (.ofFile fix.filePath) text = .ok parsed)
    (missing : findIn (declares parsed.lineOf fix.functionName fix.line) parsed.tree.items = none) :
    removeFunction text fix = .error (.unfit (.noDeclaration fix.functionName fix.line)) := by
  simp [removeFunction, read, missing]

/-- What is found is cut out when it starts and ends between two characters. -/
theorem removeFunction_eq_ok_iff {span : Span}
    (read : Parsed.ofText (.ofFile fix.filePath) text = .ok parsed)
    (found : findIn (declares parsed.lineOf fix.functionName fix.line) parsed.tree.items =
      some span) :
    (∃ edited, removeFunction text fix = .ok edited) ↔
      (Text.cut? text (parsed.range span).start).isSome ∧
        (Text.cut? text (parsed.range span).stop).isSome := by
  rw [← isSome_removal_bind_cutOut_iff]
  simp only [removeFunction, read, found]
  cases (removal text (parsed.range span)).bind (cutOut text) <;> simp

/-- What is found is torn when it starts or ends inside a character. -/
theorem removeFunction_eq_torn_iff {stretch : Span} :
    removeFunction text fix = .error (.torn stretch) ↔
      ∃ parsed span, Parsed.ofText (.ofFile fix.filePath) text = .ok parsed ∧
        findIn (declares parsed.lineOf fix.functionName fix.line) parsed.tree.items = some span ∧
        parsed.range span = stretch ∧
        ¬ ((Text.cut? text stretch.start).isSome ∧ (Text.cut? text stretch.stop).isSome) := by
  simp only [← isSome_removal_bind_cutOut_iff, Option.not_isSome_iff_eq_none]
  constructor
  · intro torn
    unfold removeFunction at torn
    split at torn
    · cases torn
    · next parsed read =>
      split at torn
      · cases torn
      · next span found =>
        split at torn
        · cases torn
        · next cut =>
          cases torn
          exact ⟨parsed, span, read, found, rfl, cut⟩
  · rintro ⟨parsed, span, read, found, rfl, cut⟩
    simp only [removeFunction, read, found, cut]

end Edit

/-- A function that is recorded as standing alone, and not exported, is declared in its file. It is
found there exactly when it has a statement of its own, as every function declaration has. So a safe
removal is about a function that its file declares: where a statement declares nothing else one is
found, and cut out when it starts and ends between two characters, and otherwise the removal
fails. -/
theorem safe_removal_found_iff (s : Script.Scope) (items : List Script.Node)
    (files : List (String × String)) (findings : Findings) (elements : Elements)
    (htmlPath : String) (target : StubTarget) :
    (∀ (filePath : String) (faults : List Nat) (d : FunctionDef),
      d ∈ (FileModel.ofFacts filePath faults (Script.learnedFrom s items)).definitions →
      d.kind.isStandalone → d.isExported = false →
      let found := Script.findIn (Script.declares s.lineOf d.name d.line) items
      (∃ node, DeclaredBy s.lineOf items d.name d.line node) ∧
      (found.isSome ↔ ∃ node, DeclaredBy s.lineOf items d.name d.line node ∧ node.standsAlone) ∧
      (d.kind = .declaration → found.isSome)) ∧
    ∀ fix ∈ Fix.derive findings elements
        (Scan.merge (files.map fun file => FileModel.ofSource file.1 file.2)).functions
        htmlPath target,
      fix.kind = .removeFunction → fix.safe →
      ∃ text parsed, (fix.filePath, text) ∈ files ∧
        Parsed.ofText (.ofFile fix.filePath) text.toList = .ok parsed ∧
        let declared := DeclaredBy parsed.lineOf parsed.tree.items fix.functionName fix.line
        let found := Script.findIn (Script.declares parsed.lineOf fix.functionName fix.line)
          parsed.tree.items
        (∃ node, declared node) ∧
        ((¬ ∃ node, declared node ∧ node.standsAlone) →
          found = none ∧ Edit.removeFunction text.toList fix =
            .error (.unfit (.noDeclaration fix.functionName fix.line))) ∧
        ((∃ node, declared node ∧ node.standsAlone) →
          ∃ node, declared node ∧ node.standsAlone ∧ found = some node.span ∧
            ((∃ edited, Edit.removeFunction text.toList fix = .ok edited) ↔
              (Text.cut? text.toList (parsed.range node.span).start).isSome ∧
                (Text.cut? text.toList (parsed.range node.span).stop).isSome)) := by
  refine ⟨?_, ?_⟩
  · intro filePath faults d recorded standalone hidden
    obtain ⟨-, node, declared, alone⟩ := Script.exists_declaredBy recorded standalone hidden
    exact ⟨⟨node, declared⟩, Script.isSome_findIn_declares_iff, fun declaration =>
      Script.isSome_findIn_declares_iff.mpr ⟨node, declared, alone declaration⟩⟩
  · intro fix derived removes safe
    obtain ⟨text, parsed, listed, read, declared⟩ :=
      Fix.exists_declaredBy_of_safe derived removes safe
    refine ⟨text, parsed, listed, read, declared, fun shared => ?_, fun own => ?_⟩
    · rw [← Script.isSome_findIn_declares_iff, Option.not_isSome_iff_eq_none] at shared
      exact ⟨shared, Edit.removeFunction_eq_error read shared⟩
    · obtain ⟨span, found⟩ :=
        Option.isSome_iff_exists.mp (Script.isSome_findIn_declares_iff.mpr own)
      obtain ⟨node, declared, alone, rfl⟩ := Script.exists_declaredBy_of_findIn found
      exact ⟨node, declared, alone, found, Edit.removeFunction_eq_ok_iff read found⟩

/-- A function declaration, and two variables side by side. -/
def sideBySide : String := "function a() \x7b\x7d\nconst b = () => \x7b\x7d, c = 1;\n"

def sideBySideUnused : UnusedFunction := ⟨"b", "app.js", 2, 0⟩

def sideBySideFunctions : Functions :=
  (Scan.merge [FileModel.ofSource "app.js" sideBySide]).functions

theorem sideBySide_evaluated :
    (Fix.removeFunction sideBySideFunctions sideBySideUnused).safe ∧
      Edit.removeFunction sideBySide.toList
        (Fix.removeFunction sideBySideFunctions sideBySideUnused) =
          .error (.unfit (.noDeclaration "b" 2)) := by
  decide +kernel

theorem safe_removal_found_iff_sideBySide :
    (Script.findIn (Script.declares (fun _ => 1) "a" 1)
        [.functionDecl default ⟨"a", default⟩ [] [] []]).isSome ∧
      (Fix.removeFunction sideBySideFunctions sideBySideUnused).safe ∧
      ∃ text parsed, ("app.js", text) ∈ [("app.js", sideBySide)] ∧
        Parsed.ofText (.ofFile "app.js") text.toList = .ok parsed ∧
        ∃ node, DeclaredBy parsed.lineOf parsed.tree.items "b" 2 node := by
  obtain ⟨recorded, removed⟩ := safe_removal_found_iff
    { filePath := "app.js", lineOf := fun _ => 1 } [.functionDecl default ⟨"a", default⟩ [] [] []]
    [("app.js", sideBySide)] { unusedFunctions := [sideBySideUnused] } {} "index.html" ⟨"app.js", 3⟩
  obtain ⟨-, -, found⟩ := recorded "app.js" [] ⟨"a", "app.js", 1, false, .declaration⟩
    List.mem_cons_self rfl rfl
  obtain ⟨text, parsed, listed, read, declared, -⟩ := removed
    (Fix.removeFunction sideBySideFunctions sideBySideUnused) List.mem_cons_self rfl
    sideBySide_evaluated.1
  exact ⟨found rfl, sideBySide_evaluated.1, text, parsed, listed, read, declared⟩

/-- A removal that is marked safe and finds nothing to cut out. -/
theorem side_by_side_not_found :
    ∃ fix ∈ Fix.derive { unusedFunctions := [sideBySideUnused] } {} sideBySideFunctions
        "index.html" ⟨"app.js", 3⟩,
      fix.kind = .removeFunction ∧ fix.safe ∧
        Edit.removeFunction sideBySide.toList fix =
          .error (.unfit (.noDeclaration "b" 2)) :=
  ⟨_, List.mem_cons_self, rfl, sideBySide_evaluated⟩

end PageWiring
