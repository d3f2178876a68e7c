import PageWiring.Check.Registry

/-!
What a successful analysis holds, category by category.

The findings of a category are those of its own check, in the order of that check, or none when the
check is switched off. No other check adds to them.
-/
namespace PageWiring

theorem forM_eq_ok_iff {α ε : Type} {check : α → Except ε Unit} {items : List α} :
    items.forM check = .ok () ↔ ∀ item ∈ items, check item = .ok () := by
  induction items with
  | nil => simp [pure, Except.pure]
  | cons item rest ih =>
    show (check item >>= fun _ => rest.forM check) = .ok () ↔ _
    cases checked : check item with
    | error cause => simp [bind, Except.bind, checked]
    | ok _ => simpa [bind, Except.bind, checked] using ih

theorem exists_of_forM_eq_error {α ε : Type} {check : α → Except ε Unit} {items : List α}
    {cause : ε} (failed : items.forM check = .error cause) :
    ∃ item ∈ items, check item = .error cause := by
  induction items with
  | nil => cases failed
  | cons item rest ih =>
    replace failed : (check item >>= fun _ => rest.forM check) = .error cause := failed
    cases checked : check item with
    | error first =>
      obtain rfl : first = cause := by simpa [checked, bind, Except.bind] using failed
      exact ⟨item, List.mem_cons_self, checked⟩
    | ok _ =>
      obtain ⟨later, member, same⟩ := ih (by simpa [checked, bind, Except.bind] using failed)
      exact ⟨later, List.mem_cons_of_mem item member, same⟩

namespace Findings

/-- A pushed finding is added behind those of its own category and nowhere else. -/
theorem ofCategory_push (findings : Findings) (finding : Finding) (category : Category) :
    (findings.push finding).ofCategory category =
      findings.ofCategory category ++ if finding.category = category then [finding] else [] := by
  cases finding <;> cases category <;> simp [push, ofCategory, Finding.category]

theorem ofCategory_foldl_push (findings : Findings) (added : List Finding) (category : Category) :
    (added.foldl push findings).ofCategory category =
      findings.ofCategory category ++ added.filter (·.category = category) := by
  induction added generalizing findings with
  | nil => simp
  | cons finding rest ih =>
    rw [List.foldl_cons, ih, ofCategory_push]
    by_cases own : finding.category = category
    · simp [own]
    · simp [own]

end Findings

namespace Check

/-- A check finds nothing outside its own category. -/
theorem category_of_mem_run {rule : Rule} (known : rule ∈ defaultRules) {ctx : Context}
    {finding : Finding} (found : finding ∈ rule.run ctx) : finding.category = rule.category := by
  simp only [defaultRules, List.mem_cons, List.not_mem_nil, or_false] at known
  rcases known with rfl | rfl | rfl | rfl | rfl | rfl <;>
    simp only [orphanedFunctionsRule, brokenHandlersRule, unusedFunctionsRule,
      nonFunctionalElementsRule, uiPatternsRule, duplicateIdsRule, List.mem_map] at found ⊢ <;>
    obtain ⟨record, -, rfl⟩ := found <;> rfl

theorem filter_run {rule : Rule} (known : rule ∈ defaultRules) (ctx : Context)
    (category : Category) : (rule.run ctx).filter (·.category = category) =
      if rule.category = category then rule.run ctx else [] := by
  by_cases own : rule.category = category
  · rw [if_pos own, List.filter_eq_self]
    intro finding found
    simpa [own] using category_of_mem_run known found
  · rw [if_neg own, List.filter_eq_nil_iff]
    intro finding found
    simpa [category_of_mem_run known found] using own

theorem ofCategory_foldl_run (ctx : Context) (category : Category) (rules : List Rule)
    (known : ∀ rule ∈ rules, rule ∈ defaultRules) (findings : Findings) :
    (rules.foldl (fun findings rule => (rule.run ctx).foldl Findings.push findings)
        findings).ofCategory category =
      findings.ofCategory category ++
        (rules.filter (·.category = category)).flatMap (·.run ctx) := by
  induction rules generalizing findings with
  | nil => simp
  | cons rule rest ih =>
    have later := ih (fun other member => known other (List.mem_cons_of_mem rule member))
    rw [List.foldl_cons, later, Findings.ofCategory_foldl_push,
      filter_run (known rule List.mem_cons_self)]
    by_cases own : rule.category = category
    · simp [own]
    · simp [own]

theorem filter_defaultRules (category : Category) :
    defaultRules.filter (·.category = category) = [ruleOf category] := by
  cases category <;> rfl

/-- Each category holds exactly what its own check finds, when that check is on. -/
theorem ofCategory_runAll (disabled : List String) (ctx : Context) (category : Category) :
    (Registry.runAll { disabled := disabled } ctx).ofCategory category =
      if Registry.isEnabled { disabled := disabled } (ruleOf category) then
        (ruleOf category).run ctx
      else [] := by
  unfold Registry.runAll
  rw [ofCategory_foldl_run ctx category _ (fun rule member => (List.mem_filter.mp member).1),
    List.filter_filter]
  simp only [Bool.and_comm (decide _)]
  rw [← List.filter_filter, filter_defaultRules]
  have start : Findings.ofCategory {} category = [] := by cases category <;> rfl
  rw [start, List.nil_append]
  by_cases enabled : Registry.isEnabled { disabled := disabled } (ruleOf category)
  · simp [enabled]
  · simp [enabled]

/-- An analysis succeeds exactly when both models pass their own conditions. -/
theorem analyze_eq_ok_iff {config : Config} {elements : Elements} {functions : Functions}
    {findings : Findings} :
    analyze config elements functions = .ok findings ↔
      elements.validate = .ok () ∧ functions.validate = .ok () ∧
        Registry.runAll { disabled := config.checks.disabled }
          (Context.ofConfig config elements functions) = findings := by
  unfold analyze
  cases elements.validate with
  | error cause =>
    constructor
    · intro failed
      cases failed
    · rintro ⟨valid, -⟩
      cases valid
  | ok _ =>
    cases functions.validate with
    | error cause =>
      constructor
      · intro failed
        cases failed
      · rintro ⟨-, valid, -⟩
        cases valid
    | ok _ =>
      constructor
      · intro success
        exact ⟨rfl, rfl, Except.ok.inj success⟩
      · rintro ⟨-, -, rfl⟩
        rfl

/-- Where the functions pass their own check, an analysis fails for the page alone. -/
theorem analyze_eq_error_iff {config : Config} {elements : Elements} {functions : Functions}
    {cause : AuditError} (valid : functions.validate = .ok ()) :
    analyze config elements functions = .error cause ↔
      ∃ refused, elements.validate = .error refused ∧
        AuditError.invalidArgument refused = cause := by
  unfold analyze
  rw [valid]
  cases elements.validate with
  | error refused =>
    constructor
    · intro failed
      exact ⟨refused, rfl, Except.error.inj failed⟩
    · rintro ⟨_, same, rfl⟩
      rw [← Except.error.inj same]
      rfl
  | ok _ =>
    constructor
    · intro failed
      cases failed
    · rintro ⟨_, failed, -⟩
      cases failed

theorem ofCategory_of_analyze {config : Config} {elements : Elements} {functions : Functions}
    {findings : Findings} (success : analyze config elements functions = .ok findings)
    (category : Category) :
    findings.ofCategory category =
      if Registry.isEnabled { disabled := config.checks.disabled } (ruleOf category) then
        (ruleOf category).run (Context.ofConfig config elements functions)
      else [] := by
  obtain ⟨-, -, rfl⟩ := analyze_eq_ok_iff.mp success
  exact ofCategory_runAll _ _ category

namespace Registry

/-- What a check found, as far as the check is on. -/
def select {α : Type} (r : Registry) (rule : Rule) (found : List α) : List α :=
  if r.isEnabled rule then found else []

/-- What relates the findings of a check in two runs relates what is selected of them. -/
theorem select_related {α : Type} {R : List α → List α → Prop} (none : R [] [])
    {found found' : List α} (related : R found found') (r : Registry) (rule : Rule) :
    R (r.select rule found) (r.select rule found') := by
  unfold select
  split
  · exact related
  · exact none

/-- Selecting commutes with the way in which the findings of a check are written. -/
theorem eq_select_of_map {α : Type} {wrap : α → Finding}
    (injective : ∀ a b, wrap a = wrap b → a = b) {r : Registry} {rule : Rule} {own found : List α}
    (held : own.map wrap = if r.isEnabled rule then found.map wrap else []) :
    own = r.select rule found := by
  unfold select
  split at held
  · next enabled =>
    rw [if_pos enabled]
    exact (List.map_inj_right injective).mp held
  · next disabled =>
    rw [if_neg disabled]
    exact List.map_eq_nil_iff.mp held

end Registry

/-- An analysis holds what each check found, and nothing else. -/
theorem findings_of_analyze {config : Config} {elements : Elements} {functions : Functions}
    {findings : Findings} (success : analyze config elements functions = .ok findings) :
    let registry : Registry := { disabled := config.checks.disabled }
    let ctx := Context.ofConfig config elements functions
    findings = {
      orphanedFunctions := registry.select orphanedFunctionsRule (orphanedFunctions ctx)
      brokenHandlers := registry.select brokenHandlersRule (brokenHandlers ctx)
      unusedFunctions := registry.select unusedFunctionsRule (unusedFunctions ctx)
      nonFunctionalElements :=
        registry.select nonFunctionalElementsRule (nonFunctionalElements ctx)
      patternIssues := registry.select uiPatternsRule (patternIssues ctx)
      duplicateIds := registry.select duplicateIdsRule ctx.elements.duplicates } := by
  have held := ofCategory_of_analyze success
  have orphaned := Registry.eq_select_of_map (fun _ _ => Finding.orphanedFunction.inj)
    (held .orphanedFunctions)
  have broken := Registry.eq_select_of_map (fun _ _ => Finding.brokenHandler.inj)
    (held .brokenHandlers)
  have unused := Registry.eq_select_of_map (fun _ _ => Finding.unusedFunction.inj)
    (held .unusedFunctions)
  have idle := Registry.eq_select_of_map (fun _ _ => Finding.nonFunctionalElement.inj)
    (held .nonFunctionalElements)
  have incomplete := Registry.eq_select_of_map (fun _ _ => Finding.patternIssue.inj)
    (held .patternIssues)
  have repeated := Registry.eq_select_of_map (fun _ _ => Finding.duplicateId.inj)
    (held .duplicateIds)
  cases findings
  simp_all only [ruleOf]

theorem unusedFunctions_of_analyze {config : Config} {elements : Elements} {functions : Functions}
    {findings : Findings} (success : analyze config elements functions = .ok findings) :
    findings.unusedFunctions =
      if Registry.isEnabled { disabled := config.checks.disabled } unusedFunctionsRule then
        unusedFunctions (Context.ofConfig config elements functions)
      else [] := by
  rw [findings_of_analyze success]
  rfl

theorem brokenHandlers_of_analyze {config : Config} {elements : Elements} {functions : Functions}
    {findings : Findings} (success : analyze config elements functions = .ok findings) :
    findings.brokenHandlers =
      if Registry.isEnabled { disabled := config.checks.disabled } brokenHandlersRule then
        brokenHandlers (Context.ofConfig config elements functions)
      else [] := by
  rw [findings_of_analyze success]
  rfl

/-- A handler is reported for the function that its record leads to, where no script defines it. -/
theorem brokenHandler?_eq_some_iff {functions : Functions} {record : EventHandler}
    {broken : BrokenHandler} :
    brokenHandler? functions record = some broken ↔
      ∃ name, handlerFunction functions record = some name ∧ functions.contains name = false ∧
        broken = ⟨record.elementId, record.eventType, name, record.line⟩ := by
  unfold brokenHandler?
  constructor
  · intro made
    split at made
    · cases made
    · next name leads =>
      split at made
      · cases made
      · next unknown =>
        exact ⟨name, leads, eq_false_of_ne_true unknown, (Option.some.inj made).symm⟩
  · rintro ⟨name, leads, unknown, rfl⟩
    simp [leads, unknown]

end Check

end PageWiring
