import Mathlib.Data.Finset.Card
import Mathlib.Data.List.Forall2
import PageWiring.Proofs.SafeRemovals

/-!
What the fixes for a set of findings are for, one after the other.

Every unused function is to be removed, then every broken handler, and behind the first handler that
misses a function stands a stub for it. An analysis never reports a function as unused that it
reports as missing, so none is both removed and added.
-/
namespace PageWiring

namespace Fix

/-- What a fix is for. -/
inductive Purpose where
  | function (unused : UnusedFunction)
  | handler (broken : BrokenHandler)
  | stub (broken : BrokenHandler)

/-- No handler before the position misses the function. -/
def FirstMissed (brokens : List BrokenHandler) (position : Nat) (name : String) : Prop :=
  ∀ earlier ∈ brokens.take position, earlier.missingFunction ≠ name

instance (brokens : List BrokenHandler) (position : Nat) (name : String) :
    Decidable (FirstMissed brokens position name) :=
  inferInstanceAs (Decidable (∀ earlier ∈ brokens.take position, earlier.missingFunction ≠ name))

/-- What is done for the handler at a position: its removal, and a stub if it misses a function that
no handler before it misses. -/
def handlerPurposes (brokens : List BrokenHandler) (place : BrokenHandler × Nat) : List Purpose :=
  .handler place.1 ::
    if FirstMissed brokens place.2 place.1.missingFunction then [.stub place.1] else []

/-- What is done for a set of findings, in order. -/
def plan (findings : Findings) : List Purpose :=
  findings.unusedFunctions.map .function ++
    findings.brokenHandlers.zipIdx.flatMap (handlerPurposes findings.brokenHandlers)

/-- The fix does what it is for, at the place where that is to be done. -/
def Serves (htmlPath : String) (target : StubTarget) (fix : Fix) : Purpose → Prop
  | .function unused =>
    fix.kind = .removeFunction ∧ fix.functionName = unused.functionName ∧
      fix.filePath = unused.filePath ∧ fix.line = unused.line
  | .handler broken =>
    fix.kind = .removeHandler ∧ fix.functionName = broken.missingFunction ∧
      fix.filePath = htmlPath ∧ fix.line = broken.line ∧
      fix.eventType = some broken.eventType ∧ fix.elementId = broken.elementId
  | .stub broken =>
    fix.kind = .addFunctionStub ∧ fix.functionName = broken.missingFunction ∧
      fix.filePath = target.filePath ∧ fix.line = target.line ∧ fix.safe = false

section Plan

variable {findings : Findings} {elements : Elements} {functions : Functions} {htmlPath : String}
  {target : StubTarget}

/-- From any handler on the fixes follow the plan, as long as the names that have a stub are those
which the handlers before it miss. -/
theorem forall₂_handlerFixes (earlier rest : List BrokenHandler) {stubbed : List String}
    (known : ∀ name, name ∈ stubbed ↔ name ∈ earlier.map (·.missingFunction)) :
    List.Forall₂ (Serves htmlPath target) (handlerFixes elements htmlPath target stubbed rest)
      ((rest.zipIdx earlier.length).flatMap (handlerPurposes (earlier ++ rest))) := by
  induction rest generalizing earlier stubbed with
  | nil => exact .nil
  | cons broken rest ih =>
    have first : FirstMissed (earlier ++ broken :: rest) earlier.length broken.missingFunction ↔
        broken.missingFunction ∉ stubbed := by
      rw [FirstMissed, List.take_left, known]
      simp
    have later {stubbed' : List String} (known' : ∀ name, name ∈ stubbed' ↔
          name ∈ (earlier ++ [broken]).map (·.missingFunction)) :
        List.Forall₂ (Serves htmlPath target) (handlerFixes elements htmlPath target stubbed' rest)
          ((rest.zipIdx (earlier.length + 1)).flatMap
            (handlerPurposes (earlier ++ broken :: rest))) := by
      simpa using ih (earlier ++ [broken]) known'
    have grown (name : String) : name ∈ (earlier ++ [broken]).map (·.missingFunction) ↔
        name = broken.missingFunction ∨ name ∈ stubbed := by
      simp [known, or_comm]
    have removal : Serves htmlPath target (removeHandler elements htmlPath broken)
        (.handler broken) := ⟨rfl, rfl, rfl, rfl, rfl, rfl⟩
    rw [List.zipIdx_cons, List.flatMap_cons, handlerPurposes, handlerFixes]
    by_cases present : broken.missingFunction ∈ stubbed
    · rw [if_pos (List.contains_iff_mem.mpr present), if_neg (fun fresh => first.mp fresh present)]
      refine .cons removal (later fun name => ?_)
      rw [grown, or_iff_right_of_imp]
      rintro rfl
      exact present
    · rw [if_neg (fun there => present (List.contains_iff_mem.mp there)),
        if_pos (first.mpr present)]
      refine .cons removal (.cons ⟨rfl, rfl, rfl, rfl, rfl⟩ (later fun name => ?_))
      rw [grown, List.mem_cons]

theorem forall₂_derive (findings : Findings) (elements : Elements) (functions : Functions)
    (htmlPath : String) (target : StubTarget) : List.Forall₂ (Serves htmlPath target)
      (derive findings elements functions htmlPath target) (plan findings) := by
  have removals : List.Forall₂ (Serves htmlPath target)
      (findings.unusedFunctions.map (removeFunction functions))
      (findings.unusedFunctions.map .function) := by
    rw [List.forall₂_map_left_iff, List.forall₂_map_right_iff, List.forall₂_same]
    exact fun _ _ => ⟨rfl, rfl, rfl, rfl⟩
  exact List.rel_append removals (forall₂_handlerFixes [] findings.brokenHandlers (by simp))

theorem exists_purpose {fix : Fix}
    (derived : fix ∈ derive findings elements functions htmlPath target) :
    ∃ purpose ∈ plan findings, Serves htmlPath target fix purpose := by
  have serves := forall₂_derive findings elements functions htmlPath target
  obtain ⟨position, rfl⟩ := List.mem_iff_get.mp derived
  have planned : position < (plan findings).length := serves.length_eq ▸ position.isLt
  exact ⟨_, List.get_mem _ ⟨position, planned⟩, serves.get position.isLt planned⟩

theorem mem_brokenHandlers_of_stub {broken : BrokenHandler}
    (planned : .stub broken ∈ plan findings) : broken ∈ findings.brokenHandlers := by
  rcases List.mem_append.mp planned with removal | handler
  · obtain ⟨unused, -, different⟩ := List.mem_map.mp removal
    cases different
  · obtain ⟨place, listed, member⟩ := List.mem_flatMap.mp handler
    unfold handlerPurposes at member
    split at member
    · obtain rfl : broken = place.1 := by simpa using member
      exact List.fst_mem_of_mem_zipIdx listed
    · simp at member

/-- A stub is for a handler that is reported, is never safe, and goes to the target. -/
theorem exists_broken_of_stub {fix : Fix}
    (derived : fix ∈ derive findings elements functions htmlPath target)
    (adds : fix.kind = .addFunctionStub) :
    ∃ broken ∈ findings.brokenHandlers, Serves htmlPath target fix (.stub broken) := by
  obtain ⟨purpose, planned, serves⟩ := exists_purpose derived
  cases purpose with
  | function unused => cases serves.1.symm.trans adds
  | handler broken => cases serves.1.symm.trans adds
  | stub broken => exact ⟨broken, mem_brokenHandlers_of_stub planned, serves⟩

theorem length_handlerFixes (stubbed : List String) (brokens : List BrokenHandler) :
    (handlerFixes elements htmlPath target stubbed brokens).length =
      brokens.length +
        ((brokens.map (·.missingFunction)).toFinset \ stubbed.toFinset).card := by
  induction brokens generalizing stubbed with
  | nil => simp [handlerFixes]
  | cons broken rest ih =>
    rw [handlerFixes, List.map_cons, List.toFinset_cons]
    by_cases present : broken.missingFunction ∈ stubbed
    · rw [if_pos (List.contains_iff_mem.mpr present), List.length_cons, ih,
        Finset.insert_sdiff_of_mem _ (List.mem_toFinset.mpr present), List.length_cons]
      omega
    · rw [if_neg (fun there => present (List.contains_iff_mem.mp there)), List.length_cons,
        List.length_cons, ih, List.length_cons, List.toFinset_cons]
      -- the name is counted here, and no more behind
      have split : insert broken.missingFunction (rest.map (·.missingFunction)).toFinset \
            stubbed.toFinset =
          insert broken.missingFunction ((rest.map (·.missingFunction)).toFinset \
            insert broken.missingFunction stubbed.toFinset) := by
        ext name
        simp only [Finset.mem_sdiff, Finset.mem_insert, List.mem_toFinset]
        grind
      rw [split, Finset.card_insert_of_notMem (by simp)]
      omega

/-- A safe removal is of a function that nothing calls and no other file defines. -/
theorem alone_of_safe {unused : UnusedFunction} (safe : (removeFunction functions unused).safe) :
    (∀ call ∈ functions.calls, call.1 ≠ unused.functionName) ∧
      ∀ d ∈ functions.definitions, d.name = unused.functionName → d.filePath = unused.filePath := by
  simp only [removeFunction, Bool.and_eq_true] at safe
  obtain ⟨⟨-, alone⟩, uncalled⟩ := safe
  constructor
  · intro call made same
    have none := List.eq_nil_of_length_eq_zero (beq_iff_eq.mp uncalled)
    simpa [same] using List.filterMap_eq_nil_iff.mp none call made
  · intro d defined named
    simp only [Bool.not_eq_true', List.any_eq_false] at alone
    simpa using alone d (List.mem_filter.mpr ⟨defined, beq_iff_eq.mpr named⟩)

end Plan

end Fix

namespace Check

theorem Registry.mem_of_mem_select {α : Type} {r : Registry} {rule : Rule} {found : List α} {a : α}
    (member : a ∈ r.select rule found) : a ∈ found := by
  unfold select at member
  split at member
  · exact member
  · cases member

/-- A handler that is reported leads to the function that it misses. -/
theorem isReferencedByPage_of_broken {ctx : Context} {broken : BrokenHandler}
    (reported : broken ∈ brokenHandlers ctx) : ctx.isReferencedByPage broken.missingFunction := by
  obtain ⟨record, member, found⟩ := List.mem_filterMap.mp reported
  obtain ⟨name, leads, -, rfl⟩ := brokenHandler?_eq_some_iff.mp found
  exact List.contains_iff_mem.mpr (List.mem_filterMap.mpr ⟨record, member, leads⟩)

/-- What an analysis reports as unused it does not report as missing. -/
theorem unused_ne_missing {config : Config} {elements : Elements} {functions : Functions}
    {findings : Findings} (success : analyze config elements functions = .ok findings)
    {unused : UnusedFunction} {broken : BrokenHandler}
    (idle : unused ∈ findings.unusedFunctions) (missed : broken ∈ findings.brokenHandlers) :
    unused.functionName ≠ broken.missingFunction := by
  rw [findings_of_analyze success] at idle missed
  have referenced := isReferencedByPage_of_broken (Registry.mem_of_mem_select missed)
  have reported := Registry.mem_of_mem_select idle
  rw [unusedFunctions_eq_filter] at reported
  intro same
  simpa [same, referenced] using (List.mem_filter.mp reported).2

end Check

namespace Fix

/-- The fixes for a set of findings are one for each purpose of their plan, in its order. So they
are as many as there are unused functions, broken handlers and names that handlers miss. Stubs are
not safe, and a removal is safe only for a function that nothing calls and no other file defines.
After an analysis no function is both removed and added. -/
theorem derive_follows_plan (findings : Findings) (elements : Elements) (functions : Functions)
    (htmlPath : String) (target : StubTarget) :
    let fixes := derive findings elements functions htmlPath target
    List.Forall₂ (Serves htmlPath target) fixes (plan findings) ∧
    fixes.length = findings.unusedFunctions.length + findings.brokenHandlers.length +
      (findings.brokenHandlers.map (·.missingFunction)).toFinset.card ∧
    (∀ fix ∈ fixes, fix.kind = .addFunctionStub → fix.safe = false) ∧
    (∀ fix ∈ fixes, fix.kind = .removeFunction → fix.safe →
      (∃ d ∈ functions.definitions, d.name = fix.functionName ∧ d.filePath = fix.filePath ∧
        d.line = fix.line) ∧
      (∀ d ∈ functions.definitions, d.name = fix.functionName → d.filePath = fix.filePath) ∧
      ∀ call ∈ functions.calls, call.1 ≠ fix.functionName) ∧
    ∀ config, Check.analyze config elements functions = .ok findings →
      ∀ removal ∈ fixes, ∀ stub ∈ fixes, removal.kind = .removeFunction →
        stub.kind = .addFunctionStub → removal.functionName ≠ stub.functionName := by
  intro fixes
  refine ⟨forall₂_derive _ _ _ _ _, ?_, ?_, ?_, ?_⟩
  · show (findings.unusedFunctions.map _ ++ handlerFixes _ _ _ [] _).length = _
    rw [List.length_append, List.length_map, length_handlerFixes, List.toFinset_nil,
      Finset.sdiff_empty, Nat.add_assoc]
  · intro fix derived adds
    obtain ⟨broken, -, -, -, -, -, marked⟩ := exists_broken_of_stub derived adds
    exact marked
  · intro fix derived removes safe
    obtain ⟨unused, -, rfl⟩ := exists_unused_of_mem_derive derived removes
    obtain ⟨d, defined, named, file, line, -⟩ := exists_definition_of_safe safe
    obtain ⟨uncalled, alone⟩ := alone_of_safe safe
    exact ⟨⟨d, defined, named, file, line⟩, alone, uncalled⟩
  · intro config success removal removed stub added removes adds
    obtain ⟨unused, idle, rfl⟩ := exists_unused_of_mem_derive removed removes
    obtain ⟨broken, missed, -, named, -⟩ := exists_broken_of_stub added adds
    rw [named]
    exact Check.unused_ne_missing success idle missed

/-- Two buttons that send. -/
def sendButtons : Elements :=
  (({} : Elements).addHandler ⟨some "a", "onclick", "send()", 1⟩).addHandler
    ⟨some "b", "onclick", "send()", 2⟩

/-- A script that only saves. -/
def saveOnly : Functions := ({} : Functions).define ⟨"save", "app.js", 1, false, .declaration⟩

def sendFindings : Findings where
  brokenHandlers := [⟨some "a", "onclick", "send", 1⟩, ⟨some "b", "onclick", "send", 2⟩]
  unusedFunctions := [⟨"save", "app.js", 1, 0⟩]

theorem analyze_sendButtons : Check.analyze {} sendButtons saveOnly = .ok sendFindings :=
  Check.analyze_eq_ok_iff.mpr ⟨rfl, rfl, by decide +kernel⟩

/-- One function is removed, and one added for both buttons. -/
theorem derive_follows_plan_sendButtons :
    let fixes := derive sendFindings sendButtons saveOnly "index.html" ⟨"app.js", 3⟩
    Check.analyze {} sendButtons saveOnly = .ok sendFindings ∧
    List.Forall₂ (Serves "index.html" ⟨"app.js", 3⟩) fixes (plan sendFindings) ∧
    fixes.length = 1 + 2 + (["send", "send"] : List String).toFinset.card ∧
    ∃ removal ∈ fixes, ∃ stub ∈ fixes,
      removal.kind = .removeFunction ∧ stub.kind = .addFunctionStub ∧
      removal.safe ∧ stub.safe = false ∧
      (∀ d ∈ saveOnly.definitions, d.name = removal.functionName →
        d.filePath = removal.filePath) ∧
      (∀ call ∈ saveOnly.calls, call.1 ≠ removal.functionName) ∧
      removal.functionName ≠ stub.functionName := by
  obtain ⟨serves, length, stubs, removals, apart⟩ :=
    derive_follows_plan sendFindings sendButtons saveOnly "index.html" ⟨"app.js", 3⟩
  have removed : removeFunction saveOnly ⟨"save", "app.js", 1, 0⟩ ∈
      derive sendFindings sendButtons saveOnly "index.html" ⟨"app.js", 3⟩ := List.mem_cons_self
  have added : addStub ⟨"app.js", 3⟩ ⟨some "a", "onclick", "send", 1⟩ ∈
      derive sendFindings sendButtons saveOnly "index.html" ⟨"app.js", 3⟩ :=
    .tail _ (.tail _ (.head _))
  obtain ⟨-, alone, uncalled⟩ := removals _ removed rfl rfl
  exact ⟨analyze_sendButtons, serves, length, _, removed, _, added, rfl, rfl, rfl,
    stubs _ added rfl, alone, uncalled,
    apart {} analyze_sendButtons _ removed _ added rfl rfl⟩

end Fix

end PageWiring
