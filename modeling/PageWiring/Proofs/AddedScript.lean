import Mathlib.Data.List.Flatten
import PageWiring.Proofs.FunctionIndex
import PageWiring.Proofs.HandlerUse

/-!
What another script does to the functions that are reported as unused, when any file answers a use.

A script adds calls and takes none away. But it may define a function with a name of the browser.
Then a handler that calls this name before another function leads to the new function, and no longer
to the other one, which may come to be reported though the new script says nothing about it.
-/
namespace PageWiring

open Script (Scan FileModel definitionsOf callsOf)

/-- A definition stands for the name that is not exported, and no script calls the name. -/
def Functions.Idle (f : Functions) (name : String) : Prop :=
  ∃ d, f.get? name = some d ∧ d.isExported = false ∧ f.callCount name = 0

/-- The file defines a function of this name. -/
def Script.Defines (result : Except FileDiagnostic FileModel) (name : String) : Prop :=
  ∃ d ∈ definitionsOf result, d.name = name

namespace Check

theorem reports_anyFile_iff {config : Config} {elements : Elements} {functions : Functions}
    {findings : Findings} (mode : config.checks.resolution = .anyFile)
    (indexed : functions.Indexed) (success : analyze config elements functions = .ok findings)
    {name : String} :
    findings.Reports name ↔
      Registry.isEnabled { disabled := config.checks.disabled } unusedFunctionsRule ∧
        functions.Idle name ∧ ∀ record ∈ elements.handlers, ¬ Leads functions record name := by
  have unmentioned : (Context.ofConfig config elements functions).isReferencedByPage name = false ↔
      ∀ record ∈ elements.handlers, ¬ Leads functions record name := by
    rw [← Bool.not_eq_true, isReferencedByPage_iff]
    simp [Context.ofConfig]
  rw [Findings.Reports, unusedFunctions_of_analyze success, ← unmentioned]
  by_cases enabled : Registry.isEnabled { disabled := config.checks.disabled } unusedFunctionsRule
  · have listed : unusedFunctions (Context.ofConfig config elements functions) =
        (functions.functions.filter fun d =>
          isCandidate (Context.ofConfig config elements functions) d &&
            functions.callCount d.name == 0).map unusedFunction := by
      simp only [unusedFunctions, Context.ofConfig, mode]
    rw [if_pos enabled, listed]
    simp only [List.mem_map, List.mem_filter, indexed.mem_functions_iff, isCandidate,
      Bool.and_eq_true, Bool.not_eq_true', beq_iff_eq]
    constructor
    · rintro ⟨unused, ⟨d, ⟨found, ⟨hidden, free⟩, uncalled⟩, rfl⟩, rfl⟩
      exact ⟨enabled, ⟨d, found, hidden, uncalled⟩, free⟩
    · rintro ⟨-, ⟨d, found, hidden, uncalled⟩, free⟩
      have named := indexed.name_of_get? found
      rw [← named] at found uncalled free
      exact ⟨_, ⟨d, ⟨found, ⟨hidden, free⟩, uncalled⟩, rfl⟩, named⟩
  · rw [if_neg enabled]
    simp [enabled]

/-- A handler leads to one function only. -/
theorem Leads.unique {functions : Functions} {record : EventHandler} {a b : String}
    (first : Leads functions record a) (second : Leads functions record b) : a = b :=
  Option.some.inj ((handlerFunction_eq_some_iff.mpr first).symm.trans
    (handlerFunction_eq_some_iff.mpr second))

end Check

/-! ### One more script -/

namespace Script

variable {before after : List (Except FileDiagnostic FileModel)}
  {extra : Except FileDiagnostic FileModel} {name : String}

theorem contains_merge (results : List (Except FileDiagnostic FileModel)) (name : String) :
    (Scan.merge results).functions.contains name ↔ ∃ result ∈ results, Defines result name := by
  obtain ⟨indexed, definitions, -⟩ := Scan.merge_functions results
  rw [indexed.contains, definitions, List.any_flatMap]
  simp [Defines]

theorem contains_of_sublist {results more : List (Except FileDiagnostic FileModel)}
    (sublist : results.Sublist more) (known : (Scan.merge results).functions.contains name) :
    (Scan.merge more).functions.contains name := by
  rw [contains_merge] at known ⊢
  obtain ⟨result, member, defines⟩ := known
  exact ⟨result, sublist.subset member, defines⟩

theorem contains_added_iff :
    (Scan.merge (before ++ extra :: after)).functions.contains name ↔
      (Scan.merge (before ++ after)).functions.contains name ∨ Defines extra name := by
  simp only [contains_merge, List.mem_append, List.mem_cons]
  constructor
  · rintro ⟨result, there | rfl | there, defines⟩
    · exact .inl ⟨result, .inl there, defines⟩
    · exact .inr defines
    · exact .inl ⟨result, .inr there, defines⟩
  · rintro (⟨result, there | there, defines⟩ | defines)
    · exact ⟨result, .inl there, defines⟩
    · exact ⟨result, .inr (.inr there), defines⟩
    · exact ⟨extra, .inr (.inl rfl), defines⟩

/-- A script that does not define a name leaves its definition as it is. -/
theorem get?_added (foreign : ¬ Defines extra name) :
    (Scan.merge (before ++ extra :: after)).functions.get? name =
      (Scan.merge (before ++ after)).functions.get? name := by
  obtain ⟨wide, definitions, -⟩ := Scan.merge_functions (before ++ extra :: after)
  obtain ⟨narrow, fewer, -⟩ := Scan.merge_functions (before ++ after)
  have undefined : (definitionsOf extra).reverse.find? (·.name == name) = none := by
    rw [List.find?_eq_none]
    intro d member named
    exact foreign ⟨d, List.mem_reverse.mp member, by simpa using named⟩
  rw [wide.get?, narrow.get?, definitions, fewer]
  simp only [List.flatMap_append, List.flatMap_cons, List.reverse_append, List.find?_append,
    undefined, Option.or_none]

/-- Further scripts take no call away. -/
theorem callCount_le_of_sublist {results more : List (Except FileDiagnostic FileModel)}
    (sublist : results.Sublist more) (name : String) :
    (Scan.merge results).functions.callCount name ≤ (Scan.merge more).functions.callCount name := by
  obtain ⟨-, -, calls⟩ := Scan.merge_functions results
  obtain ⟨-, -, calls'⟩ := Scan.merge_functions more
  rw [Functions.callCount, Functions.callCount, Functions.callSites, Functions.callSites, calls,
    calls']
  exact ((sublist.flatMap callsOf).filterMap _).length_le

theorem callCount_le_added (before after : List (Except FileDiagnostic FileModel))
    (extra : Except FileDiagnostic FileModel) (name : String) :
    (Scan.merge (before ++ after)).functions.callCount name ≤
      (Scan.merge (before ++ extra :: after)).functions.callCount name :=
  callCount_le_of_sublist ((List.sublist_cons_self extra after).append_left before) name

theorem idle_of_added (foreign : ¬ Defines extra name)
    (idle : (Scan.merge (before ++ extra :: after)).functions.Idle name) :
    (Scan.merge (before ++ after)).functions.Idle name := by
  obtain ⟨d, found, hidden, uncalled⟩ := idle
  refine ⟨d, (get?_added foreign).symm.trans found, hidden, ?_⟩
  have fewer := callCount_le_added before after extra name
  omega

end Script

namespace Check

open Script (Defines contains_added_iff)

variable {before after : List (Except FileDiagnostic FileModel)}
  {extra : Except FileDiagnostic FileModel} {record : EventHandler} {name : String}

/-- A handler goes on to lead to a function, or leads to one of the new script that has a name of
the browser. -/
theorem Leads.added (leads : Leads (Scan.merge (before ++ after)).functions record name) :
    Leads (Scan.merge (before ++ extra :: after)).functions record name ∨
      ∃ other, Leads (Scan.merge (before ++ extra :: after)).functions record other ∧
        Handler.isBuiltinCallee other ∧ Defines extra other := by
  obtain ⟨earlier, later, split, counts, passed⟩ := leads
  let stands (other : String) : Bool :=
    (Scan.merge (before ++ extra :: after)).functions.contains other ||
      !Handler.isBuiltinCallee other
  have first : handlerFunction (Scan.merge (before ++ extra :: after)).functions record =
      (earlier.find? stands).or ((name :: later).find? stands) := by
    rw [handlerFunction, split, List.find?_append]
  cases found : earlier.find? stands with
  | some other =>
    rw [found] at first
    obtain ⟨unknown, builtin⟩ := passed other (List.mem_of_find?_eq_some found)
    refine .inr ⟨other, handlerFunction_eq_some_iff.mp first, builtin, ?_⟩
    have known : (Scan.merge (before ++ extra :: after)).functions.contains other := by
      simpa [stands, builtin] using List.find?_some found
    exact (contains_added_iff.mp known).resolve_left unknown
  | none =>
    have still : stands name = true := by
      rcases counts with known | foreign
      · simp [stands, contains_added_iff.mpr (.inl known)]
      · simp [stands, foreign]
    rw [found, List.find?_cons_of_pos still] at first
    exact .inl (handlerFunction_eq_some_iff.mp first)

/-- No handler comes to lead to a function that the new script does not define. -/
theorem Leads.of_added (foreign : ¬ Defines extra name)
    (leads : Leads (Scan.merge (before ++ extra :: after)).functions record name) :
    Leads (Scan.merge (before ++ after)).functions record name := by
  obtain ⟨earlier, later, split, counts, passed⟩ := leads
  refine ⟨earlier, later, split, counts.imp_left fun known => ?_, fun other member => ?_⟩
  · exact (contains_added_iff.mp known).resolve_right foreign
  · obtain ⟨unknown, builtin⟩ := passed other member
    exact ⟨fun known => unknown (contains_added_iff.mpr (.inl known)), builtin⟩

/-- Every handler that leads to the function leads to a function of the new script instead, which
has a name of the browser. -/
def TakesOver (extra : Except FileDiagnostic FileModel) (narrow wide : Functions)
    (elements : Elements) (name : String) : Prop :=
  ∀ record ∈ elements.handlers, Leads narrow record name →
    ∃ other, Leads wide record other ∧ Handler.isBuiltinCallee other ∧ Defines extra other

theorem unled_added_iff {elements : Elements} (foreign : ¬ Defines extra name) :
    (∀ record ∈ elements.handlers,
      ¬ Leads (Scan.merge (before ++ extra :: after)).functions record name) ↔
    TakesOver extra (Scan.merge (before ++ after)).functions
      (Scan.merge (before ++ extra :: after)).functions elements name := by
  constructor
  · intro unled record member leads
    exact leads.added.resolve_left (unled record member)
  · intro taken record member leads
    obtain ⟨other, instead, -, defines⟩ := taken record member (leads.of_added foreign)
    exact foreign (leads.unique instead ▸ defines)

/-- A function that is not reported comes to be reported for a further script that does not define
it exactly when no script calls it and every handler that led to it, of which there is one, now
leads to a function of the new script that has a name of the browser. The new script takes no call
away, and without such a function it does not make the other one be reported. -/
theorem reported_added_iff {config : Config} {elements : Elements} {findings : Findings}
    (mode : config.checks.resolution = .anyFile)
    (success : analyze config elements (Scan.merge (before ++ after)).functions = .ok findings)
    (unreported : ¬ findings.Reports name) (foreign : ¬ Defines extra name) :
    ∃ wider, analyze config elements (Scan.merge (before ++ extra :: after)).functions = .ok wider ∧
      (wider.Reports name ↔
        Registry.isEnabled { disabled := config.checks.disabled } unusedFunctionsRule ∧
          (Scan.merge (before ++ extra :: after)).functions.Idle name ∧
          (∃ record ∈ elements.handlers,
            Leads (Scan.merge (before ++ after)).functions record name) ∧
          TakesOver extra (Scan.merge (before ++ after)).functions
            (Scan.merge (before ++ extra :: after)).functions elements name) ∧
      (Scan.merge (before ++ after)).functions.callCount name ≤
        (Scan.merge (before ++ extra :: after)).functions.callCount name ∧
      ((∀ other, Handler.isBuiltinCallee other → ¬ Defines extra other) →
        ¬ wider.Reports name) := by
  obtain ⟨narrow, -⟩ := Scan.merge_functions (before ++ after)
  obtain ⟨wide, -⟩ := Scan.merge_functions (before ++ extra :: after)
  obtain ⟨elementsValid, -, -⟩ := analyze_eq_ok_iff.mp success
  obtain ⟨wider, widerSuccess⟩ :
      ∃ wider, analyze config elements (Scan.merge (before ++ extra :: after)).functions =
        .ok wider :=
    ⟨_, analyze_eq_ok_iff.mpr ⟨elementsValid, wide.validate, rfl⟩⟩
  rw [reports_anyFile_iff mode narrow success] at unreported
  -- What was not reported although no script calls it was led to by a handler.
  have led (enabled : Registry.isEnabled { disabled := config.checks.disabled } unusedFunctionsRule)
      (idle : (Scan.merge (before ++ extra :: after)).functions.Idle name) :
      ∃ record ∈ elements.handlers,
        Leads (Scan.merge (before ++ after)).functions record name := by
    by_contra unled
    exact unreported ⟨enabled, Script.idle_of_added foreign idle,
      fun record member leads => unled ⟨record, member, leads⟩⟩
  refine ⟨wider, widerSuccess, ?_, Script.callCount_le_added before after extra name, ?_⟩
  · rw [reports_anyFile_iff mode wide widerSuccess, unled_added_iff foreign]
    constructor
    · rintro ⟨enabled, idle, taken⟩
      exact ⟨enabled, idle, led enabled idle, taken⟩
    · rintro ⟨enabled, idle, -, taken⟩
      exact ⟨enabled, idle, taken⟩
  · rw [reports_anyFile_iff mode wide widerSuccess, unled_added_iff foreign]
    rintro plain ⟨enabled, idle, taken⟩
    obtain ⟨record, member, leads⟩ := led enabled idle
    obtain ⟨other, -, builtin, defines⟩ := taken record member leads
    exact plain other builtin defines

/-- A button that closes a dialogue and then saves. -/
def closeAndSave : Elements :=
  ({} : Elements).addHandler ⟨some "b", "onclick", "close(); save()", 1⟩

def saveScript : Except FileDiagnostic FileModel :=
  FileModel.ofSource "app.js" "function save() {}\n"

def closeScript : Except FileDiagnostic FileModel :=
  FileModel.ofSource "dialog.js" "function close() {}\n"

/-- What is learned from the two scripts, and what is found in the page with them. -/
theorem saveScript_closeScript_evaluated :
    (saveScript = .ok {
      filePath := "app.js", definitions := [⟨"save", "app.js", 1, false, .declaration⟩] } ∧
    closeScript = .ok {
      filePath := "dialog.js"
      definitions := [⟨"close", "dialog.js", 1, false, .declaration⟩] }) ∧
    Registry.runAll {} (.ofConfig {} closeAndSave
      (Scan.merge ([saveScript] ++ [])).functions) = {} ∧
    Registry.runAll {} (.ofConfig {} closeAndSave
      (Scan.merge ([saveScript] ++ closeScript :: [])).functions) =
        { unusedFunctions := [⟨"save", "app.js", 1, 0⟩] } := by
  decide +kernel

theorem saveScript_closeScript_eq :
    saveScript = .ok {
      filePath := "app.js", definitions := [⟨"save", "app.js", 1, false, .declaration⟩] } ∧
    closeScript = .ok {
      filePath := "dialog.js"
      definitions := [⟨"close", "dialog.js", 1, false, .declaration⟩] } :=
  saveScript_closeScript_evaluated.1

theorem analyze_saveScript :
    analyze {} closeAndSave (Scan.merge ([saveScript] ++ [])).functions = .ok {} :=
  analyze_eq_ok_iff.mpr ⟨rfl, (Scan.merge_functions _).1.validate,
    saveScript_closeScript_evaluated.2.1⟩

theorem analyze_closeScript :
    analyze {} closeAndSave (Scan.merge ([saveScript] ++ closeScript :: [])).functions =
      .ok { unusedFunctions := [⟨"save", "app.js", 1, 0⟩] } :=
  analyze_eq_ok_iff.mpr ⟨rfl, (Scan.merge_functions _).1.validate,
    saveScript_closeScript_evaluated.2.2⟩

theorem not_defines_closeScript : ¬ Defines closeScript "save" := by
  unfold Defines
  rw [saveScript_closeScript_eq.2]
  decide

theorem reported_added_iff_closeScript :
    (analyze {} closeAndSave (Scan.merge ([saveScript] ++ [])).functions = .ok {} ∧
      ¬ Findings.Reports {} "save" ∧ ¬ Defines closeScript "save") ∧
    ∃ wider, analyze {} closeAndSave
        (Scan.merge ([saveScript] ++ closeScript :: [])).functions = .ok wider ∧
      (wider.Reports "save" ↔
        Registry.isEnabled {} unusedFunctionsRule ∧
          (Scan.merge ([saveScript] ++ closeScript :: [])).functions.Idle "save" ∧
          (∃ record ∈ closeAndSave.handlers,
            Leads (Scan.merge ([saveScript] ++ [])).functions record "save") ∧
          TakesOver closeScript (Scan.merge ([saveScript] ++ [])).functions
            (Scan.merge ([saveScript] ++ closeScript :: [])).functions closeAndSave "save") ∧
      (Scan.merge ([saveScript] ++ [])).functions.callCount "save" ≤
        (Scan.merge ([saveScript] ++ closeScript :: [])).functions.callCount "save" ∧
      ((∀ other, Handler.isBuiltinCallee other → ¬ Defines closeScript other) →
        ¬ wider.Reports "save") := by
  have unreported : ¬ Findings.Reports {} "save" := by simp [Findings.Reports]
  exact ⟨⟨analyze_saveScript, unreported, not_defines_closeScript⟩,
    reported_added_iff rfl analyze_saveScript unreported not_defines_closeScript⟩

/-- A script that defines a function `close` makes `save` be reported, which a handler calls. -/
theorem save_reported_with_closeScript :
    (∃ findings, analyze {} closeAndSave (Scan.merge [saveScript]).functions = .ok findings ∧
      ¬ findings.Reports "save") ∧
    ¬ Defines closeScript "save" ∧
    ∃ findings, analyze {} closeAndSave (Scan.merge [saveScript, closeScript]).functions =
        .ok findings ∧ findings.Reports "save" :=
  ⟨⟨_, analyze_saveScript, by simp [Findings.Reports]⟩, not_defines_closeScript,
    _, analyze_closeScript, ⟨_, List.mem_singleton_self _, rfl⟩⟩

end Check

end PageWiring
