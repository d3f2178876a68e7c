import Mathlib.Data.List.Nodup
import PageWiring.Proofs.Analysis
import PageWiring.Proofs.EntryOrder

/-!
What widgets lack, part by part.

Whatever kind of widget an id names, an issue lists parts from one vocabulary, in which every part
has a text and a severity of its own. So the severity of an issue can be read off the texts that it
lists.
-/
namespace PageWiring

namespace Severity

theorem rank_max (a b : Severity) : (a.max b).rank = Max.max a.rank b.rank := by
  cases a <;> cases b <;> rfl

theorem eq_critical_iff {s : Severity} : s = .critical ↔ 2 ≤ s.rank := by
  cases s <;> simp [rank]

theorem eq_warning_iff {s : Severity} : s = .warning ↔ ¬ 2 ≤ s.rank ∧ 1 ≤ s.rank := by
  cases s <;> simp [rank]

theorem eq_info_iff {s : Severity} : s = .info ↔ ¬ 1 ≤ s.rank := by
  cases s <;> simp [rank]

/-- The gravest of some severities is one of them, and none of them is graver. -/
theorem foldl_max_spec (first : Severity) (rest : List Severity) :
    rest.foldl Severity.max first ∈ first :: rest ∧
      ∀ severity ∈ first :: rest, severity.rank ≤ (rest.foldl Severity.max first).rank := by
  induction rest generalizing first with
  | nil => simp
  | cons second rest ih =>
    obtain ⟨attained, bound⟩ := ih (first.max second)
    rw [List.foldl_cons]
    constructor
    · rcases List.mem_cons.mp attained with start | later
      · rw [start]
        unfold Severity.max
        split <;> simp
      · simp [later]
    · intro severity member
      have start := bound (first.max second) List.mem_cons_self
      rw [rank_max] at start
      simp only [List.mem_cons] at member
      rcases member with rfl | rfl | later
      · omega
      · omega
      · exact bound severity (List.mem_cons_of_mem _ later)

end Severity

namespace Check

/-! ### Parts -/

/-- What a widget may lack. -/
inductive WidgetPart where
  | opening
  | closing
  | switching
  | panel
  | submission
  /-- The element that a label is for. -/
  | input (target : String)
  | navigation
  deriving DecidableEq, Repr

namespace WidgetPart

def text : WidgetPart → String
  | .opening => "open function"
  | .closing => "close function"
  | .switching => "switch function"
  | .panel => "content panel"
  | .submission => "submit handler"
  | .input target => "input for label '" ++ target ++ "'"
  | .navigation => "navigation function"

def severity : WidgetPart → Severity
  | .closing => .critical
  | .opening | .switching | .submission => .warning
  | .panel | .input _ | .navigation => .info

/-- A part as it is handed to the issue that lists it. -/
def entry (part : WidgetPart) : String × Severity := (part.text, part.severity)

/-- The first two letters of the text, by which the kinds of parts differ. -/
def lead : WidgetPart → List Char
  | .opening => ['o', 'p']
  | .closing => ['c', 'l']
  | .switching => ['s', 'w']
  | .panel => ['c', 'o']
  | .submission => ['s', 'u']
  | .input _ => ['i', 'n']
  | .navigation => ['n', 'a']

theorem take_text (part : WidgetPart) : part.text.toList.take 2 = part.lead := by
  cases part with
  | input target =>
    show ("input for label '" ++ target ++ "'").toList.take 2 = _
    rw [String.toList_append, String.toList_append]
    rfl
  | opening | closing | switching | panel | submission | navigation => rfl

/-- No two parts have the same text, whatever labels are for. -/
theorem text_injective : Function.Injective text := by
  intro a b same
  have lead : a.lead = b.lead := by rw [← take_text, ← take_text, same]
  have inputs (s t : String) (same : (input s).text = (input t).text) : s = t := by
    replace same : "input for label '" ++ s ++ "'" = "input for label '" ++ t ++ "'" := same
    apply (String.append_right_inj _).mp
    exact (String.append_left_inj _).mp same
  cases a <;> cases b <;> first | rfl | exact congrArg input (inputs _ _ same) | cases lead

theorem text_mem_map_iff {part : WidgetPart} {parts : List WidgetPart} :
    part.text ∈ parts.map text ↔ part ∈ parts :=
  List.mem_map_of_injective text_injective

theorem two_le_rank_iff {part : WidgetPart} : 2 ≤ part.severity.rank ↔ part = .closing := by
  cases part <;> simp [severity, Severity.rank]

theorem one_le_rank_iff {part : WidgetPart} : 1 ≤ part.severity.rank ↔
    part = .closing ∨ part = .opening ∨ part = .switching ∨ part = .submission := by
  cases part <;> simp [severity, Severity.rank]

end WidgetPart

/-! ### Issues -/

/-- An issue lists some parts, each once, and is as grave as the gravest of them. -/
structure ListsParts (issue : PatternIssue) (parts : List WidgetPart) : Prop where
  nonempty : parts ≠ []
  nodup : parts.Nodup
  missing : issue.missing = parts.map WidgetPart.text
  attained : ∃ part ∈ parts, part.severity = issue.severity
  gravest : ∀ part ∈ parts, part.severity.rank ≤ issue.severity.rank

namespace ListsParts

variable {issue : PatternIssue} {parts : List WidgetPart}

theorem le_rank_iff (lists : ListsParts issue parts) (n : Nat) :
    n ≤ issue.severity.rank ↔ ∃ part ∈ parts, n ≤ part.severity.rank := by
  constructor
  · intro grave
    obtain ⟨part, member, same⟩ := lists.attained
    exact ⟨part, member, same ▸ grave⟩
  · rintro ⟨part, member, grave⟩
    exact Nat.le_trans grave (lists.gravest part member)

theorem mem_missing_iff (lists : ListsParts issue parts) (part : WidgetPart) :
    part.text ∈ issue.missing ↔ part ∈ parts := by
  rw [lists.missing, WidgetPart.text_mem_map_iff]

theorem two_le_rank_iff (lists : ListsParts issue parts) :
    2 ≤ issue.severity.rank ↔ "close function" ∈ issue.missing := by
  have listed : "close function" ∈ issue.missing ↔ .closing ∈ parts :=
    lists.mem_missing_iff .closing
  simp [lists.le_rank_iff, WidgetPart.two_le_rank_iff, listed]

theorem one_le_rank_iff (lists : ListsParts issue parts) :
    1 ≤ issue.severity.rank ↔ "close function" ∈ issue.missing ∨ "open function" ∈ issue.missing ∨
      "switch function" ∈ issue.missing ∨ "submit handler" ∈ issue.missing := by
  have closing : "close function" ∈ issue.missing ↔ .closing ∈ parts :=
    lists.mem_missing_iff .closing
  have opening : "open function" ∈ issue.missing ↔ .opening ∈ parts :=
    lists.mem_missing_iff .opening
  have switching : "switch function" ∈ issue.missing ↔ .switching ∈ parts :=
    lists.mem_missing_iff .switching
  have submission : "submit handler" ∈ issue.missing ↔ .submission ∈ parts :=
    lists.mem_missing_iff .submission
  rw [lists.le_rank_iff, closing, opening, switching, submission]
  simp only [WidgetPart.one_le_rank_iff]
  grind

end ListsParts

theorem listsParts_of_patternIssue {kind : PatternKind} {id : String} {parts : List WidgetPart}
    {issue : PatternIssue} (nodup : parts.Nodup)
    (found : patternIssue kind id (parts.map WidgetPart.entry) = some issue) :
    issue.elementId = id ∧ ListsParts issue parts := by
  cases parts with
  | nil => cases found
  | cons first rest =>
    have gravest := Severity.foldl_max_spec first.severity (rest.map WidgetPart.severity)
    rw [List.foldl_map, ← List.map_cons] at gravest
    rw [List.map_cons, patternIssue, List.foldl_map] at found
    obtain rfl := Option.some.inj found
    refine ⟨rfl, List.cons_ne_nil _ _, nodup, ?_, ?_, ?_⟩
    · simp [WidgetPart.entry]
    · exact List.mem_map.mp gravest.1
    · intro part member
      exact gravest.2 _ (List.mem_map_of_mem member)

/-! What each kind of widget may lack. -/

section Kinds

variable (ctx : Context) (id : String)

theorem exists_parts_modalIssue (keyword : String) : ∃ parts : List WidgetPart, parts.Nodup ∧
    modalIssue ctx id keyword = patternIssue .modal id (parts.map WidgetPart.entry) := by
  unfold modalIssue
  dsimp only
  split
  · split
    · exact ⟨[.opening, .closing], by decide, rfl⟩
    · exact ⟨[.opening], by decide, rfl⟩
  · split
    · exact ⟨[.closing], by decide, rfl⟩
    · exact ⟨[], by decide, rfl⟩

theorem exists_parts_tabIssue (keyword : String) : ∃ parts : List WidgetPart, parts.Nodup ∧
    tabIssue ctx id keyword = patternIssue .tab id (parts.map WidgetPart.entry) := by
  unfold tabIssue
  dsimp only
  split
  · split
    · exact ⟨[], by decide, rfl⟩
    · exact ⟨[.panel], by decide, rfl⟩
  · split
    · exact ⟨[.switching], by decide, rfl⟩
    · exact ⟨[.switching, .panel], by decide, rfl⟩

/-- Several labels, also of several forms with one id, may be for the same element. -/
theorem nodup_danglingTargets : (danglingTargets ctx id).Nodup := by
  unfold danglingTargets
  generalize List.filter _ _ = targets
  have kept (seen : List String) (nodup : seen.Nodup) :
      (targets.foldl (fun seen t => if seen.contains t then seen else seen ++ [t]) seen).Nodup := by
    induction targets generalizing seen with
    | nil => exact nodup
    | cons target rest ih =>
      rw [List.foldl_cons]
      apply ih
      split
      · exact nodup
      · next fresh =>
        rw [List.contains_iff_mem] at fresh
        exact List.nodup_append.mpr ⟨nodup, List.nodup_singleton target, by grind⟩
  exact kept [] List.nodup_nil

theorem exists_parts_formIssue (keyword : Option String) :
    ∃ parts : List WidgetPart, parts.Nodup ∧
      formIssue ctx id keyword = patternIssue .form id (parts.map WidgetPart.entry) := by
  have inputs : ((danglingTargets ctx id).map WidgetPart.input).Nodup :=
    (nodup_danglingTargets ctx id).map fun _ _ => WidgetPart.input.inj
  unfold formIssue
  dsimp only
  split
  · refine ⟨_, inputs, ?_⟩
    rw [List.map_map]
    rfl
  · refine ⟨.submission :: (danglingTargets ctx id).map WidgetPart.input, ?_, ?_⟩
    · exact List.nodup_cons.mpr ⟨by simp, inputs⟩
    · rw [List.map_cons, List.map_map]
      rfl

theorem exists_parts_navigationIssue : ∃ parts : List WidgetPart, parts.Nodup ∧
    navigationIssue ctx id = patternIssue .navigation id (parts.map WidgetPart.entry) := by
  unfold navigationIssue
  dsimp only
  split
  · exact ⟨[], by decide, rfl⟩
  · exact ⟨[.navigation], by decide, rfl⟩

/-- Whatever an id names, its issue is one about parts. -/
theorem exists_parts_issueForId : ∃ kind, ∃ parts : List WidgetPart, parts.Nodup ∧
    issueForId ctx id = patternIssue kind id (parts.map WidgetPart.entry) := by
  unfold issueForId
  dsimp only
  split
  · exact ⟨_, exists_parts_modalIssue ctx id _⟩
  · exact ⟨_, exists_parts_tabIssue ctx id _⟩
  · split
    · exact ⟨_, exists_parts_formIssue ctx id _⟩
    · split
      · exact ⟨_, exists_parts_navigationIssue ctx id⟩
      · exact ⟨.navigation, [], by decide, rfl⟩

variable {ctx id} {issue : PatternIssue}

theorem exists_listsParts (found : issueForId ctx id = some issue) :
    issue.elementId = id ∧ ∃ parts, ListsParts issue parts := by
  obtain ⟨kind, parts, nodup, same⟩ := exists_parts_issueForId ctx id
  obtain ⟨own, lists⟩ := listsParts_of_patternIssue nodup (same ▸ found)
  exact ⟨own, parts, lists⟩

end Kinds

/-- Ids with an issue keep their order, and each has one. -/
theorem sublist_patternIssues (ctx : Context) :
    ((patternIssues ctx).map (·.elementId)).Sublist ctx.elements.ids := by
  have own (id : String) : (issueForId ctx id).map (·.elementId) =
      Option.guard (fun id => (issueForId ctx id).isSome) id := by
    cases found : issueForId ctx id with
    | none => simp [Option.guard, found]
    | some issue => simp [found, (exists_listsParts found).1]
  unfold patternIssues
  split
  · rw [List.map_filterMap, funext own, List.filterMap_eq_filter]
    exact List.filter_sublist
  · exact List.nil_sublist _

theorem listsParts_of_mem {ctx : Context} {issue : PatternIssue}
    (member : issue ∈ patternIssues ctx) : ∃ parts, ListsParts issue parts := by
  unfold patternIssues at member
  split at member
  · obtain ⟨id, -, found⟩ := List.mem_filterMap.mp member
    exact (exists_listsParts found).2
  · cases member

/-- On a page with any entries, whatever scripts and settings there are, the check of widgets gives
at most one issue for each id, in the order of the ids. An issue lists some texts, each once. It is
critical when it lists that nothing closes a modal; else it is a warning when it lists that nothing
opens a modal, switches to a tab or handles a form, and otherwise it is for information. -/
theorem uiPatterns_ofEntries (entries : List Elements.Entry) (ctx : Context)
    (page : ctx.elements = .ofEntries entries) :
    ∃ issues : List PatternIssue, uiPatternsRule.run ctx = issues.map .patternIssue ∧
      (issues.map (·.elementId)).Sublist ctx.elements.ids ∧
      (issues.map (·.elementId)).Nodup ∧
      ∀ issue ∈ issues, issue.missing ≠ [] ∧ issue.missing.Nodup ∧
        (issue.severity = .critical ↔ "close function" ∈ issue.missing) ∧
        (issue.severity = .warning ↔ "close function" ∉ issue.missing ∧
          ("open function" ∈ issue.missing ∨ "switch function" ∈ issue.missing ∨
            "submit handler" ∈ issue.missing)) ∧
        (issue.severity = .info ↔ "close function" ∉ issue.missing ∧
          "open function" ∉ issue.missing ∧ "switch function" ∉ issue.missing ∧
          "submit handler" ∉ issue.missing) := by
  have sublist := sublist_patternIssues ctx
  have distinct : ctx.elements.ids.Nodup := page ▸ (Elements.recorded_ofEntries entries).ids.nodup
  refine ⟨patternIssues ctx, rfl, sublist, distinct.sublist sublist, fun issue member => ?_⟩
  obtain ⟨parts, lists⟩ := listsParts_of_mem member
  refine ⟨?_, ?_, ?_⟩
  · simpa [lists.missing] using lists.nonempty
  · rw [lists.missing]
    exact lists.nodup.map WidgetPart.text_injective
  · rw [Severity.eq_critical_iff, Severity.eq_warning_iff, Severity.eq_info_iff,
      lists.two_le_rank_iff, lists.one_le_rank_iff]
    tauto

/-- A modal, and two forms with one id whose labels are for the same missing element. -/
def modalAndForms : List Elements.Entry :=
  [.id "settingsModal" 1, .id "signup" 2, .form ⟨some "signup", 2, ["email", "email"], true⟩,
    .id "signup" 5, .form ⟨some "signup", 5, ["email"], false⟩]

theorem uiPatterns_ofEntries_modalAndForms :
    let ctx : Context := { elements := .ofEntries modalAndForms, functions := {} }
    uiPatternsRule.run ctx =
      [.patternIssue ⟨.modal, "settingsModal", ["open function", "close function"], .critical⟩,
        .patternIssue ⟨.form, "signup", ["submit handler", "input for label 'email'"], .warning⟩] ∧
    ∃ issues : List PatternIssue, uiPatternsRule.run ctx = issues.map .patternIssue ∧
      (issues.map (·.elementId)).Nodup ∧
      ∀ issue ∈ issues, issue.missing.Nodup ∧
        (issue.severity = .critical ↔ "close function" ∈ issue.missing) := by
  intro ctx
  obtain ⟨issues, run, -, nodup, each⟩ := uiPatterns_ofEntries modalAndForms ctx rfl
  refine ⟨rfl, issues, run, nodup, fun issue member => ?_⟩
  obtain ⟨-, once, critical, -⟩ := each issue member
  exact ⟨once, critical⟩

end Check

end PageWiring
