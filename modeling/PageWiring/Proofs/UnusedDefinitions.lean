import Mathlib.Data.List.Nodup
import Mathlib.Data.List.Perm.Subperm
import PageWiring.Proofs.FunctionIndex
import PageWiring.Proofs.HandlerUse

/-!
Definitions that are reported as unused.

No handler leads to a function that is reported, so the handlers lead to the same functions when
some of the reported definitions are taken out, and the same handlers are broken. The mode in which
calls in other files do not count reports whatever the other mode reports.
-/
namespace PageWiring

/-- The second list is the first one without some definitions of which `P` holds. -/
inductive Omits (P : FunctionDef → Prop) : List FunctionDef → List FunctionDef → Prop
  | nil : Omits P [] []
  | keep (d : FunctionDef) {ds kept : List FunctionDef} (rest : Omits P ds kept) :
      Omits P (d :: ds) (d :: kept)
  | drop {d : FunctionDef} (allowed : P d) {ds kept : List FunctionDef} (rest : Omits P ds kept) :
      Omits P (d :: ds) kept

namespace Omits

variable {P : FunctionDef → Prop} {ds kept : List FunctionDef}

theorem sublist (omits : Omits P ds kept) : kept.Sublist ds := by
  induction omits with
  | nil => exact .slnil
  | keep d rest ih => exact ih.cons_cons d
  | drop allowed rest ih => exact ih.cons _

theorem mem_or (omits : Omits P ds kept) {d : FunctionDef} (member : d ∈ ds) : d ∈ kept ∨ P d := by
  induction omits with
  | nil => cases member
  | keep first rest ih =>
    rcases List.mem_cons.mp member with rfl | later
    · exact .inl List.mem_cons_self
    · exact (ih later).imp_left (List.mem_cons_of_mem first)
  | drop allowed rest ih =>
    rcases List.mem_cons.mp member with rfl | later
    · exact .inr allowed
    · exact ih later

end Omits

namespace Check

/-- No handler leads to the name of a definition that is reported. -/
theorem unreferenced_of_reported {ctx : Context} {d : FunctionDef}
    (reported : unusedFunction d ∈ unusedFunctions ctx) :
    ctx.isReferencedByPage d.name = false := by
  have free {definitions : List FunctionDef} {uncalled : FunctionDef → Bool}
      (member : unusedFunction d ∈
        (definitions.filter fun d => isCandidate ctx d && uncalled d).map unusedFunction) :
      ctx.isReferencedByPage d.name = false := by
    obtain ⟨e, kept, same⟩ := List.mem_map.mp member
    have named : e.name = d.name := congrArg UnusedFunction.functionName same
    have candidate := (List.mem_filter.mp kept).2
    simp only [isCandidate, Bool.and_eq_true, Bool.not_eq_true'] at candidate
    exact named ▸ candidate.1.2
  unfold unusedFunctions at reported
  split at reported
  · exact free reported
  · exact free reported

/-! ### Taking reported definitions out -/

section Omitted

variable {ctx : Context} {fewer : Functions}

theorem contains_of_omits {P : FunctionDef → Prop} (indexed : ctx.functions.Indexed)
    (indexed' : fewer.Indexed) (omits : Omits P ctx.functions.definitions fewer.definitions)
    {name : String} (known : fewer.contains name) : ctx.functions.contains name := by
  rw [indexed'.contains] at known
  rw [indexed.contains]
  obtain ⟨d, member, named⟩ := List.any_eq_true.mp known
  exact List.any_eq_true.mpr ⟨d, omits.sublist.subset member, named⟩

/-- A name that a handler leads to keeps all its definitions. -/
theorem contains_of_referenced (indexed : ctx.functions.Indexed) (indexed' : fewer.Indexed)
    (omits : Omits (fun d => unusedFunction d ∈ unusedFunctions ctx) ctx.functions.definitions
      fewer.definitions) {name : String} (referenced : ctx.isReferencedByPage name)
    (known : ctx.functions.contains name) : fewer.contains name := by
  rw [indexed.contains] at known
  rw [indexed'.contains]
  obtain ⟨d, member, named⟩ := List.any_eq_true.mp known
  refine List.any_eq_true.mpr ⟨d, (omits.mem_or member).resolve_right fun reported => ?_, named⟩
  have free := unreferenced_of_reported reported
  rw [beq_iff_eq.mp named, referenced] at free
  cases free

theorem handlerFunction_of_omits (indexed : ctx.functions.Indexed) (indexed' : fewer.Indexed)
    (omits : Omits (fun d => unusedFunction d ∈ unusedFunctions ctx) ctx.functions.definitions
      fewer.definitions) {record : EventHandler} (member : record ∈ ctx.elements.handlers) :
    handlerFunction fewer record = handlerFunction ctx.functions record := by
  have known {name : String} (still : fewer.contains name) : ctx.functions.contains name :=
    contains_of_omits indexed indexed' omits still
  cases found : handlerFunction ctx.functions record with
  | none =>
    -- All callees are names of the browser that no script defines, and none becomes defined.
    rw [handlerFunction, List.find?_eq_none] at found ⊢
    intro name called counts
    refine found name called ?_
    simp only [Bool.or_eq_true] at counts ⊢
    exact counts.imp_left known
  | some name =>
    rw [handlerFunction_eq_some_iff] at found ⊢
    have referenced : ctx.isReferencedByPage name :=
      isReferencedByPage_iff.mpr ⟨record, member, found⟩
    obtain ⟨earlier, later, split, counts, passed⟩ := found
    refine ⟨earlier, later, split, counts.imp_left ?_, fun other before => ?_⟩
    · exact contains_of_referenced indexed indexed' omits referenced
    · obtain ⟨unknown, builtin⟩ := passed other before
      exact ⟨fun still => unknown (known still), builtin⟩

theorem brokenHandlers_of_omits (indexed : ctx.functions.Indexed) (indexed' : fewer.Indexed)
    (omits : Omits (fun d => unusedFunction d ∈ unusedFunctions ctx) ctx.functions.definitions
      fewer.definitions) :
    brokenHandlers { ctx with functions := fewer } = brokenHandlers ctx := by
  refine List.filterMap_congr fun record member => ?_
  have same := handlerFunction_of_omits indexed indexed' omits member
  unfold brokenHandler?
  dsimp only
  rw [same]
  cases found : handlerFunction ctx.functions record with
  | none => rfl
  | some name =>
    have referenced : ctx.isReferencedByPage name :=
      isReferencedByPage_iff.mpr ⟨record, member, handlerFunction_eq_some_iff.mp found⟩
    have sameName : fewer.contains name = ctx.functions.contains name := by
      rw [Bool.eq_iff_iff]
      exact ⟨contains_of_omits indexed indexed' omits,
        contains_of_referenced indexed indexed' omits referenced⟩
    dsimp only
    rw [sameName]

end Omitted

/-- When some of the definitions that are reported as unused are taken out, each handler leads to
the same function as before, and the same handlers are broken. -/
theorem brokenHandlers_without_unused (config : Config) (elements : Elements)
    {entries fewer : List Functions.Entry}
    (omits : Omits
      (fun d => unusedFunction d ∈
        unusedFunctions (.ofConfig config elements (.ofEntries entries)))
      (Functions.ofEntries entries).definitions (Functions.ofEntries fewer).definitions) :
    (∀ record ∈ elements.handlers,
      handlerFunction (.ofEntries fewer) record = handlerFunction (.ofEntries entries) record) ∧
    brokenHandlers (.ofConfig config elements (.ofEntries fewer)) =
      brokenHandlers (.ofConfig config elements (.ofEntries entries)) ∧
    ∀ findings, analyze config elements (.ofEntries entries) = .ok findings →
      ∃ findings', analyze config elements (.ofEntries fewer) = .ok findings' ∧
        findings'.brokenHandlers = findings.brokenHandlers := by
  have indexed : (Context.ofConfig config elements (.ofEntries entries)).functions.Indexed :=
    Functions.indexed_ofEntries entries
  have indexed' := Functions.indexed_ofEntries fewer
  have same := brokenHandlers_of_omits indexed indexed' omits
  refine ⟨fun record member => ?_, same, fun findings success => ?_⟩
  · exact handlerFunction_of_omits indexed indexed' omits member
  · obtain ⟨valid, -⟩ := analyze_eq_ok_iff.mp success
    obtain ⟨findings', success'⟩ : ∃ findings',
        analyze config elements (.ofEntries fewer) = .ok findings' :=
      ⟨_, analyze_eq_ok_iff.mpr ⟨valid, indexed'.validate, rfl⟩⟩
    refine ⟨findings', success', ?_⟩
    rw [findings_of_analyze success, findings_of_analyze success']
    exact congrArg (Registry.select _ brokenHandlersRule) same

/-- The two functions that a handler calls, of which the second one is reported as unused. -/
def twoCallEntries : List Functions.Entry :=
  [.definition ⟨"a", "app.js", 1, false, .declaration⟩,
    .definition ⟨"b", "app.js", 2, false, .declaration⟩]

theorem omits_twoCallEntries :
    Omits
      (fun d => unusedFunction d ∈
        unusedFunctions (.ofConfig {} twoCallElements (.ofEntries twoCallEntries)))
      (Functions.ofEntries twoCallEntries).definitions
      (Functions.ofEntries (twoCallEntries.take 1)).definitions :=
  .keep _ (.drop (by decide +kernel) .nil)

theorem brokenHandlers_without_unused_twoCall :
    Omits
      (fun d => unusedFunction d ∈
        unusedFunctions (.ofConfig {} twoCallElements (.ofEntries twoCallEntries)))
      (Functions.ofEntries twoCallEntries).definitions
      (Functions.ofEntries (twoCallEntries.take 1)).definitions ∧
    (∀ record ∈ twoCallElements.handlers,
      handlerFunction (.ofEntries (twoCallEntries.take 1)) record =
        handlerFunction (.ofEntries twoCallEntries) record) ∧
    brokenHandlers (.ofConfig {} twoCallElements (.ofEntries (twoCallEntries.take 1))) =
      brokenHandlers (.ofConfig {} twoCallElements (.ofEntries twoCallEntries)) ∧
    ∀ findings, analyze {} twoCallElements (.ofEntries twoCallEntries) = .ok findings →
      ∃ findings',
        analyze {} twoCallElements (.ofEntries (twoCallEntries.take 1)) = .ok findings' ∧
          findings'.brokenHandlers = findings.brokenHandlers :=
  ⟨omits_twoCallEntries, brokenHandlers_without_unused {} twoCallElements omits_twoCallEntries⟩

end Check

/-! ### The two modes -/

namespace Functions

/-- The definitions that stand for some name are definitions, no two of them the same. -/
theorem Indexed.functions_subperm {f : Functions} (indexed : f.Indexed) :
    f.functions.Subperm f.definitions := by
  refine List.subperm_of_subset ?_ fun d member => ?_
  · refine indexed.nodup.filterMap fun name name' d found found' => ?_
    exact (indexed.name_of_get? found).symm.trans (indexed.name_of_get? found')
  · have found := indexed.mem_functions_iff.mp member
    rw [indexed.get?] at found
    exact List.mem_reverse.mp (List.mem_of_find?_eq_some found)

end Functions

/-- The same settings with a mode in which uses are matched with definitions. -/
def Config.withResolution (config : Config) (resolution : Resolution) : Config :=
  { config with checks := { config.checks with resolution := resolution } }

namespace Check

/-- A function that no script calls is not called in its own file, nor through a global object. -/
theorem localCalls_isEmpty {ctx : Context} {d : FunctionDef}
    (uncalled : (ctx.functions.callCount d.name == 0) = true) :
    (localCalls ctx d).isEmpty = true := by
  have none : ctx.functions.callSites d.name = [] :=
    List.length_eq_zero_iff.mp (beq_iff_eq.mp uncalled)
  rw [localCalls, none]
  rfl

theorem unusedFunctions_subperm {ctx : Context} (indexed : ctx.functions.Indexed) :
    (unusedFunctions { ctx with resolution := .anyFile }).Subperm
      (unusedFunctions { ctx with resolution := .sameFileOrExported }) := by
  have weaker (d : FunctionDef)
      (judged : (isCandidate ctx d && ctx.functions.callCount d.name == 0) = true) :
      (isCandidate ctx d && (localCalls ctx d).isEmpty) = true := by
    obtain ⟨candidate, uncalled⟩ := Bool.and_eq_true_iff.mp judged
    rw [candidate, localCalls_isEmpty uncalled]
    rfl
  obtain ⟨definitions, perm, sublist⟩ := indexed.functions_subperm.filter
    (fun d => isCandidate ctx d && ctx.functions.callCount d.name == 0)
  have more := sublist.trans (List.monotone_filter_right ctx.functions.definitions weaker)
  exact ⟨definitions.map unusedFunction, perm.map unusedFunction, more.map unusedFunction⟩

/-- What is reported as unused in the mode where any file answers a use is reported in the stricter
mode too, as often. All other findings are the same in both modes. -/
theorem unusedFunctions_anyFile_subperm (config : Config) (elements : Elements)
    (entries : List Functions.Entry) :
    (unusedFunctions (.ofConfig (config.withResolution .anyFile) elements
      (.ofEntries entries))).Subperm
      (unusedFunctions (.ofConfig (config.withResolution .sameFileOrExported) elements
        (.ofEntries entries))) ∧
    ∀ findings,
      analyze (config.withResolution .anyFile) elements (.ofEntries entries) = .ok findings →
      ∃ stricter,
        analyze (config.withResolution .sameFileOrExported) elements (.ofEntries entries) =
          .ok stricter ∧
        findings.unusedFunctions.Subperm stricter.unusedFunctions ∧
        stricter = { findings with unusedFunctions := stricter.unusedFunctions } := by
  have indexed : (Context.ofConfig config elements (.ofEntries entries)).functions.Indexed :=
    Functions.indexed_ofEntries entries
  have more := unusedFunctions_subperm indexed
  refine ⟨more, fun findings success => ?_⟩
  obtain ⟨valid, -⟩ := analyze_eq_ok_iff.mp success
  obtain ⟨stricter, success'⟩ : ∃ stricter,
      analyze (config.withResolution .sameFileOrExported) elements (.ofEntries entries) =
        .ok stricter :=
    ⟨_, analyze_eq_ok_iff.mpr ⟨valid, indexed.validate, rfl⟩⟩
  refine ⟨stricter, success', ?_, ?_⟩
  · rw [findings_of_analyze success, findings_of_analyze success']
    exact Registry.select_related (List.Subperm.refl []) more _ _
  · rw [findings_of_analyze success, findings_of_analyze success']
    rfl

/-- `draw` is defined in two files and called in none; `log` is called where it is defined. -/
def sharedName : List Functions.Entry :=
  [.definition ⟨"log", "a.js", 1, false, .declaration⟩,
    .definition ⟨"draw", "a.js", 2, false, .declaration⟩,
    .definition ⟨"draw", "b.js", 1, false, .declaration⟩,
    .call "log" ⟨"a.js", 3, none, .call, false⟩]

theorem analyze_sharedName :
    analyze (Config.withResolution {} .anyFile) {} (.ofEntries sharedName) =
      .ok { unusedFunctions := [⟨"draw", "b.js", 1, 0⟩] } :=
  analyze_eq_ok_iff.mpr ⟨rfl, (Functions.indexed_ofEntries _).validate, rfl⟩

theorem unusedFunctions_anyFile_subperm_sharedName :
    analyze (Config.withResolution {} .anyFile) {} (.ofEntries sharedName) =
      .ok { unusedFunctions := [⟨"draw", "b.js", 1, 0⟩] } ∧
    ∃ stricter : Findings,
      analyze (Config.withResolution {} .sameFileOrExported) {} (.ofEntries sharedName) =
        .ok stricter ∧
      List.Subperm [⟨"draw", "b.js", 1, 0⟩] stricter.unusedFunctions ∧
      stricter = { unusedFunctions := stricter.unusedFunctions } :=
  ⟨analyze_sharedName, (unusedFunctions_anyFile_subperm {} {} sharedName).2 _ analyze_sharedName⟩

end Check

end PageWiring
