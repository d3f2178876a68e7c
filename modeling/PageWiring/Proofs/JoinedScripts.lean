import PageWiring.Proofs.AddedScript

/-!
What joining scripts adds up to.

What is known of a list of scripts is what is known of its parts, one part after the other; where
both parts define a name, the later one counts. So further scripts take nothing away, and they
break no handler: each handler that was broken stays as it is or comes to be answered.
-/
namespace PageWiring

namespace Script

/-- The diagnostics of one file: why it could not be read, or else each mistake that did not stop
the reading. -/
def diagnosticsOf : Except FileDiagnostic FileModel → List FileDiagnostic
  | .ok m => m.recoveredLines.map fun line => ⟨m.filePath, .syntaxError line⟩
  | .error d => [d]

namespace Scan

variable (xs ys results : List (Except FileDiagnostic FileModel))

theorem foldl_add (s : Scan) :
    (results.foldl add s).diagnostics = s.diagnostics ++ results.flatMap diagnosticsOf ∧
      (results.foldl add s).filesScanned = s.filesScanned + results.countP (·.isOk) := by
  induction results generalizing s with
  | nil => simp
  | cons result rest ih =>
    obtain ⟨diagnostics, scanned⟩ := ih (s.add result)
    rw [List.foldl_cons, diagnostics, scanned, List.flatMap_cons, List.countP_cons]
    cases result with
    | error d => simp [add, diagnosticsOf, Except.isOk, Except.toBool]
    | ok m =>
      simp only [add, addModel, diagnosticsOf, List.append_assoc, Except.isOk, Except.toBool,
        if_true, true_and]
      omega

/-- Joined scripts have the diagnostics of each file, in their order. -/
theorem diagnostics_merge : (merge results).diagnostics = results.flatMap diagnosticsOf :=
  (foldl_add results {}).1

/-- The files that could be read are counted. -/
theorem filesScanned_merge : (merge results).filesScanned = results.countP (·.isOk) :=
  (foldl_add results {}).2.trans (Nat.zero_add _)

theorem callSites_merge_append (name : String) :
    (merge (xs ++ ys)).functions.callSites name =
      (merge xs).functions.callSites name ++ (merge ys).functions.callSites name := by
  obtain ⟨-, -, calls⟩ := merge_functions (xs ++ ys)
  obtain ⟨-, -, front⟩ := merge_functions xs
  obtain ⟨-, -, back⟩ := merge_functions ys
  simp only [Functions.callSites, calls, front, back, List.flatMap_append, List.filterMap_append]

theorem definitionsNamed_merge_append (name : String) :
    (merge (xs ++ ys)).functions.definitionsNamed name =
      (merge xs).functions.definitionsNamed name ++ (merge ys).functions.definitionsNamed name := by
  obtain ⟨-, definitions, -⟩ := merge_functions (xs ++ ys)
  obtain ⟨-, front, -⟩ := merge_functions xs
  obtain ⟨-, back, -⟩ := merge_functions ys
  simp only [Functions.definitionsNamed, definitions, front, back, List.flatMap_append,
    List.filter_append]

/-- The latest definition is found from the end, so the later part is asked first. -/
theorem get?_merge_append (name : String) :
    (merge (xs ++ ys)).functions.get? name =
      ((merge ys).functions.get? name).or ((merge xs).functions.get? name) := by
  obtain ⟨whole, definitions, -⟩ := merge_functions (xs ++ ys)
  obtain ⟨first, front, -⟩ := merge_functions xs
  obtain ⟨second, back, -⟩ := merge_functions ys
  rw [whole.get?, first.get?, second.get?, definitions, front, back, List.flatMap_append,
    List.reverse_append, List.find?_append]

/-- A file that could not be read adds its diagnostic and nothing else. -/
theorem merge_error (d : FileDiagnostic) :
    merge (xs ++ .error d :: ys) =
      { merge (xs ++ ys) with
        diagnostics := (merge xs).diagnostics ++ d :: (merge ys).diagnostics } := by
  have functions : (merge (xs ++ .error d :: ys)).functions = (merge (xs ++ ys)).functions := by
    simp only [functions_merge, List.flatMap_append, List.flatMap_cons, entriesOf, List.nil_append]
  have diagnostics : (merge (xs ++ .error d :: ys)).diagnostics =
      (merge xs).diagnostics ++ d :: (merge ys).diagnostics := by
    simp only [diagnostics_merge, List.flatMap_append, List.flatMap_cons, diagnosticsOf,
      List.singleton_append]
  have scanned : (merge (xs ++ .error d :: ys)).filesScanned = (merge (xs ++ ys)).filesScanned := by
    simp [filesScanned_merge, Except.isOk, Except.toBool]
  calc merge (xs ++ .error d :: ys)
      = ⟨(merge (xs ++ .error d :: ys)).functions, (merge (xs ++ .error d :: ys)).diagnostics,
          (merge (xs ++ .error d :: ys)).filesScanned⟩ := rfl
    _ = _ := by rw [functions, diagnostics, scanned]

/-- What is known of two lists of scripts joined is what is known of the one and then of the other,
and where both define a name the second one counts. So further scripts, wherever they are put in,
take no call away. A file that could not be read adds its diagnostic and nothing else, and a file
that was read adds one diagnostic for each mistake that did not stop the reading. -/
theorem merge_append :
    (∀ name,
      (merge (xs ++ ys)).functions.callSites name =
        (merge xs).functions.callSites name ++ (merge ys).functions.callSites name ∧
      (merge (xs ++ ys)).functions.definitionsNamed name =
        (merge xs).functions.definitionsNamed name ++ (merge ys).functions.definitionsNamed name ∧
      (merge (xs ++ ys)).functions.get? name =
        ((merge ys).functions.get? name).or ((merge xs).functions.get? name)) ∧
    (merge (xs ++ ys)).functions.queries =
      (merge xs).functions.queries ++ (merge ys).functions.queries ∧
    (merge (xs ++ ys)).diagnostics = (merge xs).diagnostics ++ (merge ys).diagnostics ∧
    (merge (xs ++ ys)).filesScanned = (merge xs).filesScanned + (merge ys).filesScanned ∧
    (∀ more, xs.Sublist more → ∀ name,
      (merge xs).functions.callCount name ≤ (merge more).functions.callCount name) ∧
    (∀ d, merge (xs ++ .error d :: ys) =
      { merge (xs ++ ys) with
        diagnostics := (merge xs).diagnostics ++ d :: (merge ys).diagnostics }) ∧
    ∀ m : FileModel,
      (merge (xs ++ .ok m :: ys)).diagnostics =
        (merge xs).diagnostics ++
          m.recoveredLines.map (fun line => ⟨m.filePath, .syntaxError line⟩) ++
          (merge ys).diagnostics ∧
      (merge (xs ++ .ok m :: ys)).filesScanned = (merge (xs ++ ys)).filesScanned + 1 := by
  refine ⟨fun name => ⟨callSites_merge_append xs ys name, definitionsNamed_merge_append xs ys name,
    get?_merge_append xs ys name⟩, ?_, ?_, ?_, fun more => callCount_le_of_sublist,
    merge_error xs ys, fun m => ⟨?_, ?_⟩⟩
  · rw [merge_queries, merge_queries, merge_queries, List.flatMap_append]
  · rw [diagnostics_merge, diagnostics_merge, diagnostics_merge, List.flatMap_append]
  · rw [filesScanned_merge, filesScanned_merge, filesScanned_merge, List.countP_append]
  · simp only [diagnostics_merge, List.flatMap_append, List.flatMap_cons, diagnosticsOf,
      List.append_assoc]
  · simp only [filesScanned_merge, List.countP_append, List.countP_cons, Except.isOk,
      Except.toBool, if_true]
    omega

/-- A file that defines and calls a function. -/
def renderFile : Except FileDiagnostic FileModel :=
  .ok {
    filePath := "a.js"
    definitions := [⟨"render", "a.js", 1, false, .declaration⟩]
    calls := [("render", ⟨"a.js", 2, none, .call, false⟩)] }

/-- A file that refers to it twice more. -/
def redrawFile : Except FileDiagnostic FileModel :=
  .ok {
    filePath := "b.js"
    calls := [("render", ⟨"b.js", 1, none, .call, false⟩),
      ("render", ⟨"b.js", 2, some "redraw", .reference, false⟩)] }

theorem merge_append_renderFile :
    [renderFile].Sublist [redrawFile, renderFile] ∧
    (merge [renderFile]).functions.callCount "render" = 1 ∧
    (merge [redrawFile, renderFile]).functions.callCount "render" = 3 ∧
    (merge [renderFile]).functions.callCount "render" ≤
      (merge [redrawFile, renderFile]).functions.callCount "render" := by
  have sublist : [renderFile].Sublist [redrawFile, renderFile] :=
    List.sublist_cons_self redrawFile [renderFile]
  obtain ⟨-, -, -, -, counts, -⟩ := merge_append [renderFile] [redrawFile]
  exact ⟨sublist, rfl, rfl, counts _ sublist "render"⟩

end Scan

end Script

/-! ### Broken handlers -/

namespace Check

open Script (Scan FileModel)

/-- The function that a handler waits for: the first one it calls that is no name of the browser.
Which one it is does not depend on the scripts. -/
def awaited? (record : EventHandler) : Option String :=
  (Handler.callees record.functionCall).find? fun name => !Handler.isBuiltinCallee name

/-- The functions that decide on a handler: the names of the browser that it calls first, and the
function that it waits for. -/
def decisive (record : EventHandler) : List String :=
  (Handler.callees record.functionCall).takeWhile Handler.isBuiltinCallee ++
    (awaited? record).toList

/-- A handler is broken when it waits for a function and none of those that decide on it is
defined. -/
theorem brokenHandler?_eq (functions : Functions) (record : EventHandler) :
    brokenHandler? functions record =
      if (decisive record).any functions.contains then none
      else (awaited? record).map fun name =>
        ⟨record.elementId, record.eventType, name, record.line⟩ := by
  unfold brokenHandler? handlerFunction decisive awaited?
  induction Handler.callees record.functionCall with
  | nil => rfl
  | cons name rest ih =>
    cases builtin : Handler.isBuiltinCallee name with
    | false => cases known : functions.contains name <;> simp [builtin, known]
    | true =>
      cases known : functions.contains name with
      | false => simpa [builtin, known] using ih
      | true => simp [builtin, known]

/-- More functions answer a handler or leave it as it is. -/
theorem brokenHandler?_of_contains {narrow wide : Functions}
    (more : ∀ name, narrow.contains name → wide.contains name) (record : EventHandler) :
    brokenHandler? wide record =
      if (decisive record).any wide.contains then none else brokenHandler? narrow record := by
  rw [brokenHandler?_eq wide, brokenHandler?_eq narrow]
  by_cases answered : (decisive record).any wide.contains
  · rw [if_pos answered, if_pos answered]
  · have unanswered : ¬ (decisive record).any narrow.contains := by
      intro known
      obtain ⟨name, member, found⟩ := List.any_eq_true.mp known
      exact answered (List.any_eq_true.mpr ⟨name, member, more name found⟩)
    rw [if_neg answered, if_neg answered, if_neg unanswered]

theorem brokenHandlers_sublist {narrow wide : Functions}
    (more : ∀ name, narrow.contains name → wide.contains name) (config : Config)
    (elements : Elements) :
    (brokenHandlers (.ofConfig config elements wide)).Sublist
      (brokenHandlers (.ofConfig config elements narrow)) := by
  have kept : brokenHandlers (.ofConfig config elements wide) =
      (elements.handlers.filter fun record => !(decisive record).any wide.contains).filterMap
        (brokenHandler? narrow) := by
    rw [List.filterMap_filter]
    refine List.filterMap_congr fun record _ => ?_
    refine (brokenHandler?_of_contains more record).trans ?_
    cases (decisive record).any wide.contains <;> rfl
  rw [kept]
  exact List.filter_sublist.filterMap (brokenHandler? narrow)

/-- Further scripts, wherever they are put in, break no handler. Each handler is answered, which is
so when one of the functions that decide on it is defined, or else its record stays as it is. So
the broken handlers are some of those before, in the same order and missing the same functions, and
an analysis fails in the same way or reports them so. -/
theorem brokenHandlers_merge_sublist (config : Config) (elements : Elements)
    {results more : List (Except FileDiagnostic FileModel)} (sublist : results.Sublist more) :
    (∀ record, brokenHandler? (Scan.merge more).functions record =
      if (decisive record).any (Scan.merge more).functions.contains then none
      else brokenHandler? (Scan.merge results).functions record) ∧
    (brokenHandlers (.ofConfig config elements (Scan.merge more).functions)).Sublist
      (brokenHandlers (.ofConfig config elements (Scan.merge results).functions)) ∧
    (∀ cause, analyze config elements (Scan.merge more).functions = .error cause ↔
      analyze config elements (Scan.merge results).functions = .error cause) ∧
    ∀ findings, analyze config elements (Scan.merge results).functions = .ok findings →
      ∃ wider, analyze config elements (Scan.merge more).functions = .ok wider ∧
        wider.brokenHandlers.Sublist findings.brokenHandlers := by
  obtain ⟨narrow, -⟩ := Scan.merge_functions results
  obtain ⟨wide, -⟩ := Scan.merge_functions more
  have known (name : String) (found : (Scan.merge results).functions.contains name) :
      (Scan.merge more).functions.contains name := Script.contains_of_sublist sublist found
  have fewer := brokenHandlers_sublist known config elements
  refine ⟨brokenHandler?_of_contains known, fewer, fun cause => ?_, fun findings success => ?_⟩
  · rw [analyze_eq_error_iff wide.validate, analyze_eq_error_iff narrow.validate]
  · obtain ⟨valid, -⟩ := analyze_eq_ok_iff.mp success
    obtain ⟨wider, success'⟩ : ∃ wider,
        analyze config elements (Scan.merge more).functions = .ok wider :=
      ⟨_, analyze_eq_ok_iff.mpr ⟨valid, wide.validate, rfl⟩⟩
    refine ⟨wider, success', ?_⟩
    rw [findings_of_analyze success, findings_of_analyze success']
    exact Registry.select_related (.refl []) fewer _ _

/-- Two buttons that send; the first one closes a dialogue before. -/
def closeAndSend : Elements :=
  (({} : Elements).addHandler ⟨some "b", "onclick", "close(); send()", 1⟩).addHandler
    ⟨some "c", "onclick", "send()", 2⟩

/-- A script that defines `close` answers the first button. -/
theorem brokenHandlers_merge_sublist_closeScript :
    [saveScript].Sublist [closeScript, saveScript] ∧
    analyze {} closeAndSend (Scan.merge [saveScript]).functions =
      .ok {
        brokenHandlers := [⟨some "b", "onclick", "send", 1⟩, ⟨some "c", "onclick", "send", 2⟩]
        unusedFunctions := [⟨"save", "app.js", 1, 0⟩] } ∧
    brokenHandlers (.ofConfig {} closeAndSend (Scan.merge [closeScript, saveScript]).functions) =
      [⟨some "c", "onclick", "send", 2⟩] ∧
    ∃ wider : Findings,
      analyze {} closeAndSend (Scan.merge [closeScript, saveScript]).functions = .ok wider ∧
      wider.brokenHandlers.Sublist
        [⟨some "b", "onclick", "send", 1⟩, ⟨some "c", "onclick", "send", 2⟩] := by
  have sublist : [saveScript].Sublist [closeScript, saveScript] :=
    List.sublist_cons_self closeScript [saveScript]
  have success : analyze {} closeAndSend (Scan.merge [saveScript]).functions =
      .ok {
        brokenHandlers := [⟨some "b", "onclick", "send", 1⟩, ⟨some "c", "onclick", "send", 2⟩]
        unusedFunctions := [⟨"save", "app.js", 1, 0⟩] } := by
    refine analyze_eq_ok_iff.mpr ⟨rfl, (Scan.merge_functions _).1.validate, ?_⟩
    rw [saveScript_closeScript_eq.1]
    decide +kernel
  have answered : brokenHandlers
      (.ofConfig {} closeAndSend (Scan.merge [closeScript, saveScript]).functions) =
        [⟨some "c", "onclick", "send", 2⟩] := by
    rw [saveScript_closeScript_eq.1, saveScript_closeScript_eq.2]
    decide +kernel
  obtain ⟨-, -, -, reported⟩ := brokenHandlers_merge_sublist {} closeAndSend sublist
  exact ⟨sublist, success, answered, reported _ success⟩

end Check

end PageWiring
