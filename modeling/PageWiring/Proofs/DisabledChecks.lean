import PageWiring.Proofs.Analysis

/-!
Switching checks off.

A check goes by its id and by its name. To switch it off by either empties its own category, and
leaves every other category as it is with all checks on; entries that no check goes by do nothing.
-/
namespace PageWiring.Check

variable {config : Config} {elements : Elements} {functions : Functions} {findings : Findings}

/-- Is the check of a category switched off by its id or by its name? -/
def SwitchedOff (disabled : List String) (category : Category) : Prop :=
  (ruleOf category).id ∈ disabled ∨ (ruleOf category).name ∈ disabled

instance (disabled : List String) (category : Category) :
    Decidable (SwitchedOff disabled category) :=
  inferInstanceAs (Decidable (_ ∨ _))

namespace Registry

theorem isEnabled_ruleOf_iff {disabled : List String} {category : Category} :
    isEnabled { disabled := disabled } (ruleOf category) ↔ ¬ SwitchedOff disabled category := by
  simp [isEnabled, SwitchedOff]

/-- No check goes by the id or the name of another. -/
theorem lookup_ruleOf {disabled : List String} {category : Category} {idOrName : String}
    (goesBy : idOrName = (ruleOf category).id ∨ idOrName = (ruleOf category).name) :
    (ruleById? { disabled := disabled } idOrName).or
      (ruleByName? { disabled := disabled } idOrName) = some (ruleOf category) := by
  rcases goesBy with rfl | rfl <;> cases category <;> rfl

theorem isCheckEnabled_iff {disabled : List String} {category : Category} {idOrName : String}
    (goesBy : idOrName = (ruleOf category).id ∨ idOrName = (ruleOf category).name) :
    isCheckEnabled { disabled := disabled } idOrName ↔ ¬ SwitchedOff disabled category := by
  rw [isCheckEnabled, lookup_ruleOf goesBy, Option.any_some, isEnabled_ruleOf_iff]

end Registry

/-- The same settings with every check on. -/
def allOn (config : Config) : Config :=
  { config with checks := { config.checks with disabled := [] } }

/-- Whether an analysis succeeds does not depend on the checks that are on. -/
theorem exists_analyze_allOn (success : analyze config elements functions = .ok findings) :
    ∃ full, analyze (allOn config) elements functions = .ok full ∧
      ∀ category, full.ofCategory category =
        (ruleOf category).run (Context.ofConfig config elements functions) := by
  obtain ⟨page, scripts, -⟩ := analyze_eq_ok_iff.mp success
  have success' := analyze_eq_ok_iff.mpr ⟨page, scripts,
    (rfl : Registry.runAll { disabled := (allOn config).checks.disabled } _ = _)⟩
  refine ⟨_, success', fun category => ?_⟩
  have on : Registry.isEnabled { disabled := [] } (ruleOf category) := by
    simp [Registry.isEnabled]
  rw [ofCategory_of_analyze success']
  exact if_pos on

/-- Switching checks off empties their own categories and leaves the others as they are with every
check on. Each category has one check, which counts as enabled, by its id or by its name, exactly
when its findings are kept. -/
theorem ofCategory_switchedOff (success : analyze config elements functions = .ok findings) :
    ∃ full, analyze (allOn config) elements functions = .ok full ∧
      ∀ category,
        ({} : Registry).rules.filter (·.category = category) = [ruleOf category] ∧
        (SwitchedOff config.checks.disabled category → findings.ofCategory category = []) ∧
        (¬ SwitchedOff config.checks.disabled category →
          findings.ofCategory category = full.ofCategory category) ∧
        ∀ idOrName, idOrName = (ruleOf category).id ∨ idOrName = (ruleOf category).name →
          ((({} : Registry).configure config.checks).isCheckEnabled idOrName ↔
            ¬ SwitchedOff config.checks.disabled category) := by
  obtain ⟨full, success', held⟩ := exists_analyze_allOn success
  refine ⟨full, success', fun category => ⟨filter_defaultRules category, fun off => ?_,
    fun on => ?_, fun idOrName goesBy => Registry.isCheckEnabled_iff goesBy⟩⟩
  · rw [ofCategory_of_analyze success, if_neg]
    rw [Registry.isEnabled_ruleOf_iff]
    exact not_not_intro off
  · rw [ofCategory_of_analyze success, held, if_pos (Registry.isEnabled_ruleOf_iff.mpr on)]

/-- Two elements with one id, of which the first is a button without a handler. -/
def twiceNamed : Elements :=
  ((({} : Elements).recordId "go" 1).recordId "go" 2).addInteractive
    ⟨some "go", "button", none, false, 1⟩

theorem ofCategory_switchedOff_twiceNamed :
    let config : Config := { checks := { disabled := ["W004", "no such check"] } }
    ∃ findings full, analyze config twiceNamed {} = .ok findings ∧
      analyze (allOn config) twiceNamed {} = .ok full ∧
      findings.ofCategory .nonFunctionalElements = [] ∧
      findings.ofCategory .duplicateIds = full.ofCategory .duplicateIds ∧
      findings.ofCategory .duplicateIds = [.duplicateId ⟨"go", [1, 2]⟩] := by
  intro config
  have success : analyze config twiceNamed {} =
      .ok { duplicateIds := [⟨"go", [1, 2]⟩] } := rfl
  obtain ⟨full, success', held⟩ := ofCategory_switchedOff success
  refine ⟨_, full, success, success', ?_, ?_, rfl⟩
  · exact (held .nonFunctionalElements).2.1 (.inl List.mem_cons_self)
  · exact (held .duplicateIds).2.2.1 (by decide)

end PageWiring.Check
