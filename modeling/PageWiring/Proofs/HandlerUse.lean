import PageWiring.Fix.Basic
import PageWiring.Proofs.Analysis

/-!
Which functions an inline handler keeps from being reported as unused.

A handler may call several functions, and only one of them counts as used: the first that a script
defines or that is not a name of the browser itself. The functions called after it are judged as if
the page did not mention them.
-/
namespace PageWiring

namespace Check

/-- Nothing that the handler calls before `name` can stand for the handler: each earlier callee is a
name of the browser that no script defines. -/
def Leads (functions : Functions) (record : EventHandler) (name : String) : Prop :=
  ∃ earlier later, Handler.callees record.functionCall = earlier ++ name :: later ∧
    (functions.contains name ∨ ¬ Handler.isBuiltinCallee name) ∧
    ∀ other ∈ earlier, ¬ functions.contains other ∧ Handler.isBuiltinCallee other

theorem handlerFunction_eq_some_iff {functions : Functions} {record : EventHandler}
    {name : String} :
    handlerFunction functions record = some name ↔ Leads functions record name := by
  unfold handlerFunction Leads
  rw [List.find?_eq_some_iff_append]
  constructor
  · rintro ⟨counts, earlier, later, split, passed⟩
    refine ⟨earlier, later, split, by simpa using counts, ?_⟩
    intro other member
    simpa using passed other member
  · rintro ⟨earlier, later, split, counts, passed⟩
    refine ⟨by simpa using counts, earlier, later, split, ?_⟩
    intro other member
    simpa using passed other member

theorem isReferencedByPage_iff {ctx : Context} {name : String} :
    ctx.isReferencedByPage name ↔
      ∃ record ∈ ctx.elements.handlers, Leads ctx.functions record name := by
  simp only [Context.isReferencedByPage, Context.pageReferences, List.contains_iff_mem,
    List.mem_filterMap, handlerFunction_eq_some_iff]

end Check

/-- The same page with every inline handler taken out. -/
def Elements.withoutHandlers (elements : Elements) : Elements := { elements with handlers := [] }

theorem Elements.validate_withoutHandlers {elements : Elements}
    (valid : elements.validate = .ok ()) : elements.withoutHandlers.validate = .ok () := by
  unfold validate at valid ⊢
  cases checked : elements.handlers.forM (checkHandler elements.lineCount) with
  | error cause => simp [checked, bind, Except.bind] at valid
  | ok _ =>
    rw [checked] at valid
    exact valid

namespace Check

/-- The same context for the page without its handlers. -/
def Context.withoutHandlers (ctx : Context) : Context :=
  { ctx with elements := ctx.elements.withoutHandlers }

theorem isCandidate_eq (ctx : Context) (d : FunctionDef) :
    isCandidate ctx d =
      (!ctx.isReferencedByPage d.name && isCandidate ctx.withoutHandlers d) := by
  have unmentioned : ctx.withoutHandlers.isReferencedByPage d.name = false := rfl
  simp only [isCandidate, unmentioned, Bool.not_false, Bool.and_true]
  exact Bool.and_comm _ _

/-- The functions reported on a page are those reported without its handlers, less the ones that
lead a handler. -/
theorem unusedFunctions_eq_filter (ctx : Context) :
    unusedFunctions ctx =
      (unusedFunctions ctx.withoutHandlers).filter
        fun unused => !ctx.isReferencedByPage unused.functionName := by
  have kept (definitions : List FunctionDef) (uncalled : FunctionDef → Bool) :
      (definitions.filter fun d => isCandidate ctx d && uncalled d).map unusedFunction =
        ((definitions.filter fun d => isCandidate ctx.withoutHandlers d && uncalled d).map
          unusedFunction).filter fun unused => !ctx.isReferencedByPage unused.functionName := by
    rw [List.filter_map, List.filter_filter]
    simp only [isCandidate_eq ctx, Bool.and_assoc]
    rfl
  obtain ⟨elements, functions, resolution, counted, patterns⟩ := ctx
  cases resolution with
  | anyFile => exact kept _ _
  | sameFileOrExported => exact kept _ _

theorem analyze_withoutHandlers {config : Config} {elements : Elements} {functions : Functions}
    {findings : Findings} (success : analyze config elements functions = .ok findings) :
    ∃ bare, analyze config elements.withoutHandlers functions = .ok bare ∧
      findings.unusedFunctions = bare.unusedFunctions.filter fun unused =>
        !(Context.ofConfig config elements functions).isReferencedByPage unused.functionName := by
  obtain ⟨elementsValid, functionsValid, -⟩ := analyze_eq_ok_iff.mp success
  obtain ⟨bare, bareSuccess⟩ :
      ∃ bare, analyze config elements.withoutHandlers functions = .ok bare :=
    ⟨_, analyze_eq_ok_iff.mpr
      ⟨Elements.validate_withoutHandlers elementsValid, functionsValid, rfl⟩⟩
  refine ⟨bare, bareSuccess, ?_⟩
  rw [unusedFunctions_of_analyze success, unusedFunctions_of_analyze bareSuccess]
  by_cases enabled : Registry.isEnabled { disabled := config.checks.disabled } unusedFunctionsRule
  · rw [if_pos enabled, if_pos enabled]
    exact unusedFunctions_eq_filter _
  · rw [if_neg enabled, if_neg enabled, List.filter_nil]

end Check

/-- Some definition of the function is reported as unused. -/
def Findings.Reports (findings : Findings) (name : String) : Prop :=
  ∃ unused ∈ findings.unusedFunctions, unused.functionName = name

/-- Some fix removes the function without asking. -/
def Fix.RemovesSafely (fixes : List Fix) (name : String) : Prop :=
  ∃ fix ∈ fixes, fix.kind = .removeFunction ∧ fix.safe = true ∧ fix.functionName = name

namespace Fix

theorem kind_ne_of_mem_handlerFixes {elements : Elements} {htmlPath : String} {target : StubTarget}
    {fix : Fix} (stubbed : List String) (broken : List BrokenHandler)
    (member : fix ∈ handlerFixes elements htmlPath target stubbed broken) :
    fix.kind ≠ .removeFunction := by
  induction broken generalizing stubbed with
  | nil => simp [handlerFixes] at member
  | cons first rest ih =>
    simp only [handlerFixes] at member
    split at member
    · rcases List.mem_cons.mp member with rfl | member
      · simp [removeHandler]
      · exact ih _ member
    · rcases List.mem_cons.mp member with rfl | member
      · simp [removeHandler]
      · rcases List.mem_cons.mp member with rfl | member
        · simp [addStub]
        · exact ih _ member

/-- A function is removed exactly for being reported, and safely when its own removal is. -/
theorem removesSafely_derive_iff {findings : Findings} {elements : Elements}
    {functions : Functions} {htmlPath : String} {target : StubTarget} {name : String} :
    RemovesSafely (derive findings elements functions htmlPath target) name ↔
      ∃ unused ∈ findings.unusedFunctions,
        (removeFunction functions unused).safe = true ∧ unused.functionName = name := by
  constructor
  · rintro ⟨fix, member, removes, safe, named⟩
    rcases List.mem_append.mp member with member | member
    · obtain ⟨unused, reported, rfl⟩ := List.mem_map.mp member
      exact ⟨unused, reported, safe, named⟩
    · exact absurd removes (kind_ne_of_mem_handlerFixes _ _ member)
  · rintro ⟨unused, reported, safe, named⟩
    exact ⟨_, List.mem_append_left _ (List.mem_map_of_mem reported), rfl, safe, named⟩

end Fix

namespace Check

/-- A function is reported, or removed without asking, exactly when it leads no handler and the
same happens on the page without handlers. So a function that handlers call only behind another
that counts is judged as if they did not call it. -/
theorem reported_iff_leads_no_handler {config : Config} {elements : Elements}
    {functions : Functions} {findings : Findings}
    (success : analyze config elements functions = .ok findings)
    (htmlPath : String) (target : StubTarget) (name : String) :
    ∃ bare, analyze config elements.withoutHandlers functions = .ok bare ∧
      (findings.Reports name ↔
        (∀ record ∈ elements.handlers, ¬ Leads functions record name) ∧ bare.Reports name) ∧
      (Fix.RemovesSafely (Fix.derive findings elements functions htmlPath target) name ↔
        (∀ record ∈ elements.handlers, ¬ Leads functions record name) ∧
          Fix.RemovesSafely
            (Fix.derive bare elements.withoutHandlers functions htmlPath target) name) := by
  obtain ⟨bare, bareSuccess, kept⟩ := analyze_withoutHandlers success
  have unmentioned : (Context.ofConfig config elements functions).isReferencedByPage name = false ↔
      ∀ record ∈ elements.handlers, ¬ Leads functions record name := by
    rw [← Bool.not_eq_true, isReferencedByPage_iff]
    simp [Context.ofConfig]
  refine ⟨bare, bareSuccess, ?_, ?_⟩
  · rw [← unmentioned]
    simp only [Findings.Reports, kept, List.mem_filter, Bool.not_eq_true']
    constructor
    · rintro ⟨unused, ⟨reported, free⟩, rfl⟩
      exact ⟨free, unused, reported, rfl⟩
    · rintro ⟨free, unused, reported, rfl⟩
      exact ⟨unused, ⟨reported, free⟩, rfl⟩
  · rw [← unmentioned, Fix.removesSafely_derive_iff, Fix.removesSafely_derive_iff]
    simp only [kept, List.mem_filter, Bool.not_eq_true']
    constructor
    · rintro ⟨unused, ⟨reported, free⟩, safe, rfl⟩
      exact ⟨free, unused, reported, safe, rfl⟩
    · rintro ⟨free, unused, reported, safe, rfl⟩
      exact ⟨unused, ⟨reported, free⟩, safe, rfl⟩

/-- A button that calls two functions. -/
def twoCallElements : Elements :=
  ({} : Elements).addHandler ⟨some "go", "onclick", "a(); b()", 1⟩

/-- A script that defines both, and calls neither. -/
def twoCallFunctions : Functions :=
  (({} : Functions).define ⟨"a", "app.js", 1, false, .declaration⟩).define
    ⟨"b", "app.js", 2, false, .declaration⟩

theorem analyze_twoCall :
    analyze {} twoCallElements twoCallFunctions =
      .ok { unusedFunctions := [⟨"b", "app.js", 2, 0⟩] } :=
  analyze_eq_ok_iff.mpr ⟨rfl, rfl, by decide +kernel⟩

theorem reported_iff_leads_no_handler_twoCall :
    analyze {} twoCallElements twoCallFunctions =
        .ok { unusedFunctions := [⟨"b", "app.js", 2, 0⟩] } ∧
      ∃ bare, analyze {} twoCallElements.withoutHandlers twoCallFunctions = .ok bare ∧
        (Findings.Reports { unusedFunctions := [⟨"b", "app.js", 2, 0⟩] } "b" ↔
          (∀ record ∈ twoCallElements.handlers, ¬ Leads twoCallFunctions record "b") ∧
            bare.Reports "b") ∧
        (Fix.RemovesSafely (Fix.derive { unusedFunctions := [⟨"b", "app.js", 2, 0⟩] }
            twoCallElements twoCallFunctions "index.html" ⟨"app.js", 4⟩) "b" ↔
          (∀ record ∈ twoCallElements.handlers, ¬ Leads twoCallFunctions record "b") ∧
            Fix.RemovesSafely (Fix.derive bare twoCallElements.withoutHandlers twoCallFunctions
              "index.html" ⟨"app.js", 4⟩) "b") :=
  ⟨analyze_twoCall, reported_iff_leads_no_handler analyze_twoCall "index.html" ⟨"app.js", 4⟩ "b"⟩

/-- The second function that a handler calls is reported as unused, and removed without asking. -/
theorem second_callee_reported :
    (∃ record ∈ twoCallElements.handlers, "b" ∈ Handler.callees record.functionCall) ∧
      ∃ findings, analyze {} twoCallElements twoCallFunctions = .ok findings ∧
        findings.Reports "b" ∧
        Fix.RemovesSafely (Fix.derive findings twoCallElements twoCallFunctions "index.html"
          ⟨"app.js", 4⟩) "b" := by
  refine ⟨⟨_, List.mem_singleton_self _, by decide +kernel⟩, _, analyze_twoCall, ?_, ?_⟩
  · exact ⟨_, List.mem_singleton_self _, rfl⟩
  · rw [Fix.removesSafely_derive_iff]
    exact ⟨_, List.mem_singleton_self _, by decide +kernel, rfl⟩

end Check

end PageWiring
