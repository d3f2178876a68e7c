import Mathlib.Data.List.Perm.Subperm
import PageWiring.Proofs.AddedScript

/-!
What the order of the scripts means for the findings.

The checks ask for the functions by name, for the look-ups of an element, and for the calls of a
function. None of these answers depends on the order in which the scripts were joined. The order
shows in the lists that follow the scripts, and in the definition that stands for a name which
several scripts define.
-/
namespace PageWiring

open Script (Scan FileModel Defines definitionsOf)

namespace Functions

/-- The same definitions, look-ups and calls in another order. -/
structure Shuffled (f g : Functions) : Prop where
  definitions : f.definitions.Perm g.definitions
  queries : f.queries.Perm g.queries
  calls : f.calls.Perm g.calls
  contains : ∀ name, f.contains name = g.contains name

namespace Shuffled

variable {f g : Functions}

theorem queriesElement (shuffled : f.Shuffled g) (id : String) :
    f.queriesElement id = g.queriesElement id :=
  shuffled.queries.any_eq

theorem callSites (shuffled : f.Shuffled g) (name : String) :
    (f.callSites name).Perm (g.callSites name) :=
  shuffled.calls.filterMap _

theorem callCount (shuffled : f.Shuffled g) (name : String) :
    f.callCount name = g.callCount name :=
  (shuffled.callSites name).length_eq

/-- Where the same definition stands for each name, the definitions that stand for some name are
the same. -/
theorem functions (shuffled : f.Shuffled g) (indexed : f.Indexed) (indexed' : g.Indexed)
    (same : ∀ name, f.get? name = g.get? name) : f.functions.Perm g.functions := by
  have names : f.names.Perm g.names := by
    rw [List.perm_ext_iff_of_nodup indexed.nodup indexed'.nodup]
    intro name
    rw [indexed.mem_names_iff, indexed'.mem_names_iff, shuffled.contains]
  rw [Functions.functions, Functions.functions, funext same]
  exact names.filterMap g.get?

end Shuffled

end Functions

namespace Check

/-- The same page and settings with other functions. -/
def Context.withFunctions (ctx : Context) (functions : Functions) : Context :=
  { ctx with functions := functions }

namespace Context

variable {ctx : Context} {other : Functions}

theorem handlerFunction_shuffled (shuffled : ctx.functions.Shuffled other) :
    handlerFunction ctx.functions = handlerFunction other := by
  funext record
  simp only [handlerFunction, shuffled.contains]

theorem isReferencedByPage_shuffled (shuffled : ctx.functions.Shuffled other) (name : String) :
    (ctx.withFunctions other).isReferencedByPage name = ctx.isReferencedByPage name := by
  simp only [isReferencedByPage, pageReferences, handlerFunction_shuffled shuffled, withFunctions]

theorem functionPresent_shuffled (shuffled : ctx.functions.Shuffled other) :
    (ctx.withFunctions other).functionPresent = ctx.functionPresent := by
  funext name
  rw [functionPresent, functionPresent, isReferencedByPage_shuffled shuffled, shuffled.contains]
  rfl

theorem wiredByScript_shuffled (shuffled : ctx.functions.Shuffled other) :
    (ctx.withFunctions other).wiredByScript = ctx.wiredByScript := by
  funext id
  rw [wiredByScript, wiredByScript, shuffled.queriesElement]
  rfl

end Context

/-! ### One check after the other -/

variable {ctx : Context} {other : Functions}

theorem brokenHandlers_shuffled (shuffled : ctx.functions.Shuffled other) :
    brokenHandlers (ctx.withFunctions other) = brokenHandlers ctx := by
  have sameRecord : brokenHandler? other = brokenHandler? ctx.functions := by
    funext record
    simp only [brokenHandler?, Context.handlerFunction_shuffled shuffled, shuffled.contains]
  rw [brokenHandlers, brokenHandlers, ← sameRecord]
  rfl

theorem nonFunctionalElements_shuffled (shuffled : ctx.functions.Shuffled other) :
    nonFunctionalElements (ctx.withFunctions other) = nonFunctionalElements ctx := by
  have sameElement : isNonFunctional (ctx.withFunctions other) = isNonFunctional ctx := by
    funext element
    rw [isNonFunctional, isNonFunctional, Context.wiredByScript_shuffled shuffled]
  rw [nonFunctionalElements, nonFunctionalElements, sameElement]
  rfl

theorem issueForId_shuffled (shuffled : ctx.functions.Shuffled other) :
    issueForId (ctx.withFunctions other) = issueForId ctx := by
  have present := Context.functionPresent_shuffled shuffled
  have wired := Context.wiredByScript_shuffled shuffled
  have asked : (ctx.withFunctions other).functions.queriesElement =
      ctx.functions.queriesElement := funext fun id => (shuffled.queriesElement id).symm
  have anyPresent : anyFunctionPresent (ctx.withFunctions other) = anyFunctionPresent ctx := by
    funext candidates
    rw [anyFunctionPresent, anyFunctionPresent, present]
  have modal : modalIssue (ctx.withFunctions other) = modalIssue ctx := by
    funext id keyword
    simp only [modalIssue, anyPresent, asked]
    rfl
  have tab : tabIssue (ctx.withFunctions other) = tabIssue ctx := by
    funext id keyword
    simp only [tabIssue, anyPresent, wired]
    rfl
  have form : formIssue (ctx.withFunctions other) = formIssue ctx := by
    funext id keyword
    simp only [formIssue, anyPresent, asked]
    rfl
  have navigation : navigationIssue (ctx.withFunctions other) = navigationIssue ctx := by
    funext id
    simp only [navigationIssue, anyPresent, wired]
    rfl
  funext id
  simp only [issueForId, modal, tab, form, navigation]
  rfl

theorem patternIssues_shuffled (shuffled : ctx.functions.Shuffled other) :
    patternIssues (ctx.withFunctions other) = patternIssues ctx := by
  rw [patternIssues, patternIssues, issueForId_shuffled shuffled]
  rfl

theorem orphanedFunctions_shuffled (shuffled : ctx.functions.Shuffled other) :
    (orphanedFunctions ctx).Perm (orphanedFunctions (ctx.withFunctions other)) :=
  shuffled.queries.filterMap (orphanedFunction? ctx)

theorem isCandidate_shuffled (shuffled : ctx.functions.Shuffled other) :
    isCandidate (ctx.withFunctions other) = isCandidate ctx := by
  funext d
  rw [isCandidate, isCandidate, Context.isReferencedByPage_shuffled shuffled]

theorem unusedFunctions_shuffled (shuffled : ctx.functions.Shuffled other)
    (stands : ctx.resolution = .anyFile → ctx.functions.functions.Perm other.functions) :
    (unusedFunctions ctx).Perm (unusedFunctions (ctx.withFunctions other)) := by
  have sameMode : (ctx.withFunctions other).resolution = ctx.resolution := rfl
  unfold unusedFunctions
  rw [sameMode, isCandidate_shuffled shuffled]
  split
  · next mode =>
    simp only [shuffled.callCount]
    exact ((stands mode).filter _).map _
  · have calls (d : FunctionDef) :
        (localCalls (ctx.withFunctions other) d).isEmpty = (localCalls ctx d).isEmpty :=
      ((shuffled.callSites d.name).filter _).symm.isEmpty_eq
    simp only [calls]
    exact (shuffled.definitions.filter _).map _

end Check

/-! ### Scripts that are joined in another order -/

namespace Script

variable {results others : List (Except FileDiagnostic FileModel)}

/-- No name is defined in two different files. Every result is that of one file, and a file whose
result is listed twice counts once. -/
def NamesApart (results : List (Except FileDiagnostic FileModel)) : Prop :=
  ∀ name, ∀ a ∈ results, ∀ b ∈ results, Defines a name → Defines b name → a = b

theorem merge_shuffled (perm : results.Perm others) :
    (Scan.merge results).functions.Shuffled (Scan.merge others).functions := by
  obtain ⟨-, definitions, calls⟩ := Scan.merge_functions results
  obtain ⟨-, definitions', calls'⟩ := Scan.merge_functions others
  refine ⟨?_, ?_, ?_, fun name => ?_⟩
  · rw [definitions, definitions']
    exact perm.flatMap_right _
  · rw [Scan.merge_queries, Scan.merge_queries]
    exact perm.flatMap_right _
  · rw [calls, calls']
    exact perm.flatMap_right _
  · rw [Bool.eq_iff_iff, contains_merge, contains_merge]
    simp only [perm.mem_iff]

/-- The definition that stands for a name is that of the last file which defines the name. -/
theorem get?_merge (results : List (Except FileDiagnostic FileModel)) (name : String) :
    (Scan.merge results).functions.get? name =
      results.reverse.findSome? fun result =>
        (definitionsOf result).reverse.find? (·.name == name) := by
  obtain ⟨indexed, definitions, -⟩ := Scan.merge_functions results
  rw [indexed.get?, definitions, List.reverse_flatMap, List.find?_flatMap]
  rfl

theorem defines_of_find? {result : Except FileDiagnostic FileModel} {name : String}
    {d : FunctionDef} (found : (definitionsOf result).reverse.find? (·.name == name) = some d) :
    Defines result name :=
  ⟨d, List.mem_reverse.mp (List.mem_of_find?_eq_some found), by simpa using List.find?_some found⟩

/-- Where names are apart, a definition that stands for its name in the one order does so in the
other. -/
theorem get?_merge_of_perm (apart : NamesApart results) (perm : results.Perm others)
    {name : String} {d : FunctionDef} (found : (Scan.merge results).functions.get? name = some d) :
    (Scan.merge others).functions.get? name = some d := by
  rw [get?_merge] at found ⊢
  obtain ⟨file, member, own⟩ := List.exists_of_findSome?_eq_some found
  have here : file ∈ results := List.mem_reverse.mp member
  cases there : others.reverse.findSome? fun result =>
      (definitionsOf result).reverse.find? (·.name == name) with
  | none =>
    have absent := List.findSome?_eq_none_iff.mp there file
      (List.mem_reverse.mpr (perm.mem_iff.mp here))
    rw [own] at absent
    cases absent
  | some e =>
    obtain ⟨file', member', own'⟩ := List.exists_of_findSome?_eq_some there
    have here' : file' ∈ results := perm.mem_iff.mpr (List.mem_reverse.mp member')
    obtain rfl := apart name file here file' here' (defines_of_find? own) (defines_of_find? own')
    rw [← own, own']

theorem get?_merge_eq_of_perm (apart : NamesApart results) (perm : results.Perm others)
    (name : String) : (Scan.merge results).functions.get? name =
      (Scan.merge others).functions.get? name := by
  have apart' : NamesApart others := by
    intro name a here b there
    exact apart name a (perm.mem_iff.mpr here) b (perm.mem_iff.mpr there)
  refine Option.ext fun d => ?_
  exact ⟨get?_merge_of_perm apart perm, get?_merge_of_perm apart' perm.symm⟩

end Script

namespace Check

open Script (NamesApart merge_shuffled get?_merge_eq_of_perm)

/-- Whether an analysis succeeds does not depend on the order of the scripts. When it does, only
the functions that look up missing elements and those that are unused may come in another order.
In the mode where a use is answered by any file, which functions are unused may change too, but not
when no name is defined in two different files. -/
theorem analyze_merge_perm (config : Config) (elements : Elements)
    {results others : List (Except FileDiagnostic FileModel)} (perm : results.Perm others) :
    (∀ cause, elements.validate = .error cause →
      analyze config elements (Scan.merge results).functions = .error (.invalidArgument cause) ∧
        analyze config elements (Scan.merge others).functions = .error (.invalidArgument cause)) ∧
    (elements.validate = .ok () → ∃ findings findings',
      analyze config elements (Scan.merge results).functions = .ok findings ∧
      analyze config elements (Scan.merge others).functions = .ok findings' ∧
      findings.brokenHandlers = findings'.brokenHandlers ∧
      findings.nonFunctionalElements = findings'.nonFunctionalElements ∧
      findings.patternIssues = findings'.patternIssues ∧
      findings.duplicateIds = findings'.duplicateIds ∧
      findings.orphanedFunctions.Perm findings'.orphanedFunctions ∧
      (config.checks.resolution = .sameFileOrExported ∨ NamesApart results →
        findings.unusedFunctions.Perm findings'.unusedFunctions)) := by
  obtain ⟨indexed, -⟩ := Scan.merge_functions results
  obtain ⟨indexed', -⟩ := Scan.merge_functions others
  have shuffled := merge_shuffled perm
  refine ⟨fun cause refused => ?_, fun valid => ?_⟩
  · constructor <;> rw [analyze, refused] <;> rfl
  · obtain ⟨findings, success⟩ : ∃ findings,
        analyze config elements (Scan.merge results).functions = .ok findings :=
      ⟨_, analyze_eq_ok_iff.mpr ⟨valid, indexed.validate, rfl⟩⟩
    obtain ⟨findings', success'⟩ : ∃ findings',
        analyze config elements (Scan.merge others).functions = .ok findings' :=
      ⟨_, analyze_eq_ok_iff.mpr ⟨valid, indexed'.validate, rfl⟩⟩
    have ctx : (Context.ofConfig config elements (Scan.merge results).functions).withFunctions
        (Scan.merge others).functions =
          Context.ofConfig config elements (Scan.merge others).functions := rfl
    refine ⟨findings, findings', success, success', ?_⟩
    rw [findings_of_analyze success, findings_of_analyze success', ← ctx]
    dsimp only
    rw [brokenHandlers_shuffled shuffled, nonFunctionalElements_shuffled shuffled,
      patternIssues_shuffled shuffled]
    refine ⟨rfl, rfl, rfl, rfl,
      Registry.select_related .nil (orphanedFunctions_shuffled shuffled) _ _, ?_⟩
    intro unmixed
    refine Registry.select_related .nil (unusedFunctions_shuffled shuffled fun mode => ?_) _ _
    have apart : NamesApart results := by
      refine unmixed.resolve_left fun strict => ?_
      have loose : config.checks.resolution = .anyFile := mode
      rw [loose] at strict
      cases strict
    exact shuffled.functions indexed indexed' (get?_merge_eq_of_perm apart perm)

theorem namesApart_saveScript_closeScript : NamesApart [saveScript, closeScript] := by
  have saves : (definitionsOf saveScript).all (·.name == "save") := by
    rw [saveScript_closeScript_eq.1]
    rfl
  have closes : (definitionsOf closeScript).all (·.name == "close") := by
    rw [saveScript_closeScript_eq.2]
    rfl
  have named {file : Except FileDiagnostic FileModel} {own name : String}
      (all : (definitionsOf file).all (·.name == own)) (defines : Defines file name) :
      name = own := by
    obtain ⟨d, member, rfl⟩ := defines
    exact beq_iff_eq.mp (List.all_eq_true.mp all d member)
  intro name a here b there defines defines'
  rcases List.mem_cons.mp here with first | second <;>
    rcases List.mem_cons.mp there with first' | second'
  · rw [first, first']
  · rw [first] at defines
    rw [List.mem_singleton.mp second'] at defines'
    exact absurd ((named saves defines).symm.trans (named closes defines')) (by decide)
  · rw [List.mem_singleton.mp second] at defines
    rw [first'] at defines'
    exact absurd ((named closes defines).symm.trans (named saves defines')) (by decide)
  · rw [List.mem_singleton.mp second, List.mem_singleton.mp second']

theorem analyze_merge_perm_saveScript_closeScript :
    [saveScript, closeScript].Perm [closeScript, saveScript] ∧
    closeAndSave.validate = .ok () ∧ NamesApart [saveScript, closeScript] ∧
    ∃ findings findings',
      analyze {} closeAndSave (Scan.merge [saveScript, closeScript]).functions = .ok findings ∧
      analyze {} closeAndSave (Scan.merge [closeScript, saveScript]).functions = .ok findings' ∧
      findings.brokenHandlers = findings'.brokenHandlers ∧
      findings.nonFunctionalElements = findings'.nonFunctionalElements ∧
      findings.patternIssues = findings'.patternIssues ∧
      findings.duplicateIds = findings'.duplicateIds ∧
      findings.orphanedFunctions.Perm findings'.orphanedFunctions ∧
      findings.unusedFunctions.Perm findings'.unusedFunctions := by
  have perm : [saveScript, closeScript].Perm [closeScript, saveScript] := .swap _ _ []
  obtain ⟨findings, findings', success, success', broken, idle, issues, repeated, orphaned,
    unused⟩ := (analyze_merge_perm {} closeAndSave perm).2 rfl
  exact ⟨perm, rfl, namesApart_saveScript_closeScript, findings, findings', success, success',
    broken, idle, issues, repeated, orphaned, unused (.inr namesApart_saveScript_closeScript)⟩

end Check

end PageWiring
