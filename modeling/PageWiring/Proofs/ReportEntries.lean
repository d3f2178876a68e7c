import PageWiring.Command
import PageWiring.Files.FileSystem
import PageWiring.Proofs.Analysis

/-!
The entries of a report against its counts and the code with which the command ends.

The severity of a finding is told in two ways: each entry carries its own, and the counts take whole
categories at once. Both agree, so the code of a completed audit can be read off the entries.
-/
namespace PageWiring

/-! ### Counters -/

namespace SeverityCounts

/-- The counter of a severity. -/
def of (counts : SeverityCounts) : Severity → Nat
  | .critical => counts.critical
  | .warning => counts.warning
  | .info => counts.info

theorem of_add (counts : SeverityCounts) (added : Severity) (n : Nat) (severity : Severity) :
    (counts.add added n).of severity = counts.of severity + if added = severity then n else 0 := by
  cases added <;> cases severity <;> rfl

end SeverityCounts

namespace Findings

/-- All findings, in the order in which a report lists them. -/
def listed (findings : Findings) : List Finding := Category.all.flatMap findings.ofCategory

variable (findings : Findings) {category : Category} {finding : Finding} (severity : Severity)

theorem length_ofCategory (category : Category) :
    (findings.ofCategory category).length = findings.count category := by
  cases category <;> simp [ofCategory, count]

theorem category_of_mem_ofCategory {findings : Findings}
    (member : finding ∈ findings.ofCategory category) : finding.category = category := by
  cases category <;> obtain ⟨record, -, rfl⟩ := List.mem_map.mp member <;> rfl

/-- Only pattern issues have a severity of their own. -/
theorem severity_of_mem_ofCategory {findings : Findings}
    (member : finding ∈ findings.ofCategory category) (plain : category ≠ .patternIssues) :
    finding.severity = category.severity := by
  cases category <;> obtain ⟨record, -, rfl⟩ := List.mem_map.mp member <;>
    first | rfl | exact absurd rfl plain

theorem countP_ofCategory (plain : category ≠ .patternIssues) :
    (findings.ofCategory category).countP (·.severity = severity) =
      if category.severity = severity then findings.count category else 0 := by
  split
  · next same =>
    rw [← length_ofCategory, List.countP_eq_length]
    intro finding member
    simp [severity_of_mem_ofCategory member plain, same]
  · next other =>
    rw [List.countP_eq_zero]
    intro finding member
    simp [severity_of_mem_ofCategory member plain, other]

/-- Counting by whole categories counts their findings. -/
theorem of_foldl_categories (categories : List Category)
    (plain : ∀ category ∈ categories, category ≠ .patternIssues) (counts : SeverityCounts) :
    (categories.foldl (fun counts c => counts.add c.severity (findings.count c)) counts).of
        severity =
      counts.of severity +
        (categories.flatMap findings.ofCategory).countP (·.severity = severity) := by
  induction categories generalizing counts with
  | nil => rfl
  | cons category rest ih =>
    have later := ih fun other member => plain other (List.mem_cons_of_mem category member)
    rw [List.foldl_cons, later, SeverityCounts.of_add,
      ← countP_ofCategory findings severity (plain category List.mem_cons_self),
      List.flatMap_cons, List.countP_append, Nat.add_assoc]

theorem of_foldl_issues (issues : List PatternIssue) (counts : SeverityCounts) :
    (issues.foldl (fun counts issue => counts.add issue.severity 1) counts).of severity =
      counts.of severity +
        (issues.map Finding.patternIssue).countP (·.severity = severity) := by
  induction issues generalizing counts with
  | nil => rfl
  | cons issue rest ih =>
    rw [List.foldl_cons, ih, SeverityCounts.of_add, List.map_cons, List.countP_cons]
    by_cases same : issue.severity = severity <;>
      simp [Finding.severity, same, Nat.add_assoc, Nat.add_comm 1]

theorem length_listed : findings.listed.length = findings.total := by
  rw [listed, List.length_flatMap, funext findings.length_ofCategory]
  rfl

/-- The counters are the numbers of findings of each severity. -/
theorem countP_listed :
    findings.listed.countP (·.severity = severity) = findings.severityCounts.of severity := by
  have issuesLast : Category.all = Category.all.filter (· != .patternIssues) ++ [.patternIssues] :=
    rfl
  have plain : ∀ category ∈ Category.all.filter (· != .patternIssues),
      category ≠ .patternIssues := by
    intro category member
    simpa using (List.mem_filter.mp member).2
  have start : ({} : SeverityCounts).of severity = 0 := by cases severity <;> rfl
  rw [severityCounts, of_foldl_issues, of_foldl_categories findings severity _ plain, start,
    Nat.zero_add, listed]
  conv => lhs; rw [issuesLast]
  rw [List.flatMap_append, List.countP_append, List.flatMap_singleton]
  rfl

/-- Every finding has one of three severities. -/
theorem sum_severityCounts :
    findings.severityCounts.critical + findings.severityCounts.warning +
      findings.severityCounts.info = findings.total := by
  have counted := findings.countP_listed
  have total (items : List Finding) : items.countP (·.severity = .critical) +
      items.countP (·.severity = .warning) + items.countP (·.severity = .info) = items.length := by
    induction items with
    | nil => rfl
    | cons finding rest ih => cases same : finding.severity <;> simp [same] <;> omega
  rw [← length_listed, ← total, counted, counted, counted]
  rfl

end Findings

/-! ### Entries -/

/-- The entry that a finding makes by itself, with its own category and severity. -/
def ReportEntry.ofFinding (htmlFile : String) (finding : Finding) : ReportEntry :=
  let (file, line) := finding.place htmlFile
  ⟨finding.category, finding.severity, finding.message, file, line⟩

/-- Every finding is listed under its own category, and has the severity of that category unless it
brings another. -/
theorem ReportEntry.under_eq_ofFinding {findings : Findings} {category : Category}
    {finding : Finding} (member : finding ∈ findings.ofCategory category) (htmlFile : String) :
    ReportEntry.under category htmlFile finding = ReportEntry.ofFinding htmlFile finding := by
  cases category <;> obtain ⟨record, -, rfl⟩ := List.mem_map.mp member <;> rfl

namespace AuditReport

variable (report : AuditReport)

theorem entriesOf_eq (category : Category) :
    report.entriesOf category =
      (report.findings.ofCategory category).map (ReportEntry.ofFinding report.htmlFile) :=
  List.map_congr_left fun _ member => ReportEntry.under_eq_ofFinding member report.htmlFile

theorem entries_eq :
    report.entries = report.findings.listed.map (ReportEntry.ofFinding report.htmlFile) := by
  rw [entries, funext report.entriesOf_eq, Findings.listed, List.map_flatMap]

theorem filter_entriesOf (own category : Category) :
    (report.entriesOf own).filter (·.category = category) =
      if own = category then report.entriesOf category else [] := by
  have category_of_mem {entry : ReportEntry} (member : entry ∈ report.entriesOf own) :
      entry.category = own := by
    rw [entriesOf_eq] at member
    obtain ⟨finding, found, rfl⟩ := List.mem_map.mp member
    exact Findings.category_of_mem_ofCategory found
  split
  · next same =>
    subst same
    exact List.filter_eq_self.mpr fun entry member => decide_eq_true (category_of_mem member)
  · next other =>
    refine List.filter_eq_nil_iff.mpr fun entry member => ?_
    simpa [category_of_mem member] using other

/-- The entries of a category are those of its findings, in their order. -/
theorem filter_entries (category : Category) :
    report.entries.filter (·.category = category) = report.entriesOf category := by
  rw [entries, List.filter_flatMap, funext fun own => report.filter_entriesOf own category]
  cases category <;> simp [Category.all]

theorem countP_entries (severity : Severity) :
    report.entries.countP (·.severity = severity) =
      report.findings.severityCounts.of severity := by
  rw [entries_eq, List.countP_map, ← Findings.countP_listed]
  rfl

theorem hasCritical_iff :
    report.findings.hasCritical ↔ ∃ entry ∈ report.entries, entry.severity = .critical := by
  have counted := report.countP_entries .critical
  rw [Findings.hasCritical, decide_eq_true_iff]
  change 0 < report.findings.severityCounts.of .critical ↔ _
  rw [← counted, List.countP_pos_iff]
  simp

theorem isEmpty_iff : report.findings.isEmpty ↔ ¬ ∃ entry, entry ∈ report.entries := by
  rw [Findings.isEmpty, beq_iff_eq, ← Findings.length_listed, List.length_eq_zero_iff,
    ← List.map_eq_nil_iff, ← entries_eq, List.eq_nil_iff_forall_not_mem, not_exists]

theorem auditCode_eq_one_iff (failOnFindings : Bool) :
    Command.auditCode failOnFindings report.findings = 1 ↔
      (∃ entry ∈ report.entries, entry.severity = .critical) ∨
        failOnFindings ∧ ∃ entry, entry ∈ report.entries := by
  have fails : (report.findings.hasCritical || (failOnFindings && !report.findings.isEmpty)) ↔
      (∃ entry ∈ report.entries, entry.severity = .critical) ∨
        failOnFindings ∧ ∃ entry, entry ∈ report.entries := by
    rw [Bool.or_eq_true, hasCritical_iff, Bool.and_eq_true, Bool.not_eq_true', ← Bool.not_eq_true,
      isEmpty_iff, Classical.not_not]
  rw [← fails, Command.auditCode]
  split
  · next failed => simp [failed]
  · next passed => simp [passed]

end AuditReport

/-! ### The code of the command -/

namespace Command

variable {σ α β : Type} {before after : Transcript × σ}

/-- A part of a command that completes: it gives a value, and leads from what was printed and the
state before it to those behind it. -/
def Completes (part : CommandM (StateM σ) α) (before : Transcript × σ) (value : α)
    (after : Transcript × σ) : Prop :=
  (part.run.run before.1).run before.2 = ((.ok value, after.1), after.2)

/-- What completes in two steps completes the first of them. -/
theorem Completes.of_bind {part : CommandM (StateM σ) α} {next : α → CommandM (StateM σ) β}
    {value : β} (completes : Completes (part >>= next) before value after) :
    ∃ first middle, Completes part before first middle ∧
      Completes (next first) middle value after := by
  unfold Completes at completes ⊢
  rcases ran : (part.run.run before.1).run before.2 with ⟨⟨result, printed⟩, state⟩
  rw [ExceptT.run_bind, StateT.run_bind, StateT.run_bind, ran] at completes
  cases result with
  | error cause => cases completes
  | ok first => exact ⟨first, (printed, state), rfl, completes⟩

theorem Completes.of_pure {given value : α}
    (completes : Completes (pure given) before value after) : given = value :=
  Except.ok.inj (congrArg (fun ran => ran.1.1) completes)

theorem Completes.of_lift {action : StateM σ α} {value : α}
    (completes : Completes (liftM action) before value after) :
    action.run before.2 = (value, after.2) :=
  Prod.ext (Except.ok.inj (congrArg (fun ran => ran.1.1) completes))
    (congrArg (fun ran => ran.2) completes)

theorem Completes.of_attempt {ε : Type} {action : StateM σ (Except ε α)} {wrap : ε → CommandError}
    {value : α} (completes : Completes (attempt action wrap) before value after) :
    action.run before.2 = (.ok value, after.2) := by
  obtain ⟨result, middle, ran, completes⟩ := Completes.of_bind completes
  cases result with
  | error cause => cases (congrArg (fun ran => ran.1.1) completes)
  | ok given =>
    rw [ran.of_lift, completes.of_pure]
    exact congrArg _ (congrArg (fun ran => ran.2) completes)

/-- A completed audit has read its settings, run the audit and printed, and its code is that of the
findings. -/
theorem Completes.of_runAudit {disk : Disk (StateM σ)} {terminal : TerminalSettings}
    {o : AuditOptions} {code : Nat}
    (completes : Completes (runAudit disk terminal o) before code after) :
    ∃ colours config middle report later, Completes (settings disk o colours) before config middle ∧
      (Audit.run disk ⟨o.html, o.scripts, config⟩).run middle.2 = (.ok report, later) ∧
      code = auditCode o.failOnFindings report.findings := by
  unfold runAudit at completes
  obtain ⟨config, middle, set, completes⟩ := completes.of_bind
  obtain ⟨report, later, ran, completes⟩ := completes.of_bind
  -- with or without fixes, the report is printed and the code given
  have given : auditCode o.failOnFindings report.findings = code := by
    dsimp only at completes
    split at completes <;>
    · obtain ⟨outcome, fixed, -, completes⟩ := completes.of_bind
      obtain ⟨-, printed, -, completes⟩ := completes.of_bind
      exact completes.of_pure
  exact ⟨_, config, middle, report, later.2, set, ran.of_attempt, given.symm⟩

/-- What a completed command ends with. -/
theorem run_eq_of_completes {disk : Disk (StateM σ)} {terminal : TerminalSettings}
    {command : Command} {start : σ} {code : Nat}
    (completes : Completes (execute disk terminal command) ({}, start) code after) :
    (run disk terminal command).run start = ({ after.1 with code := code }, after.2) := by
  have ran : ((execute disk terminal command).run.run {}).run start =
      ((.ok code, after.1), after.2) := completes
  rw [run, StateT.run_bind, ran]
  rfl

end Command

/-! ### The summary of a report -/

/-- Every value that a program can give has a property. -/
def Gives {σ α : Type} (P : α → Prop) (program : StateM σ α) : Prop := ∀ s, P (program.run s).1

theorem Gives.bind {σ α β : Type} {P : β → Prop} {program : StateM σ α} {next : α → StateM σ β}
    (later : ∀ a, Gives P (next a)) : Gives P (program >>= next) := fun _ => later _ _

theorem gives_pure {σ α : Type} {P : α → Prop} {a : α} (holds : P a) :
    Gives P (pure a : StateM σ α) := fun _ => holds

/-- A report, if there is one, carries the summary of its findings. -/
def Summarised (result : Except AuditError AuditReport) : Prop :=
  ∀ report, result = .ok report → report.summary = report.findings.summary

theorem Audit.gives_summarised {σ : Type} (disk : Disk (StateM σ)) (a : Audit) :
    Gives Summarised (a.run disk) := by
  have failed (e : AuditError) : Gives Summarised (pure (.error e) : StateM σ _) := by
    refine gives_pure fun report same => ?_
    cases same
  unfold Audit.run
  refine .bind fun page => ?_
  split
  · refine .bind fun scripts => ?_
    split
    · split
      · exact failed _
      · refine .bind fun elements => ?_
        split
        · exact failed _
        · refine .bind fun scan => ?_
          split
          · exact failed _
          · split
            · exact failed _
            · refine .bind fun target => gives_pure fun report same => ?_
              cases same
              rfl
    · exact failed _
  · exact failed _

/-- A report with the summary of its findings has one entry for each finding, category by category
in the order of reports and in list order inside a category. The numbers of its entries, in all and
of each severity, are those of the summary. An audit that completes gives such a report, and ends
with code 1 exactly when some entry is critical, or findings are to count as failure and there is an
entry. -/
theorem entries_agree (report : AuditReport) {σ : Type} (disk : Disk (StateM σ))
    (terminal : TerminalSettings) (o : AuditOptions) (start : σ) :
    (report.summary = report.findings.summary →
      report.entries = (Category.all.flatMap report.findings.ofCategory).map
        (ReportEntry.ofFinding report.htmlFile) ∧
      (∀ category, report.entries.filter (·.category = category) =
        (report.findings.ofCategory category).map (ReportEntry.ofFinding report.htmlFile)) ∧
      report.entries = Category.all.flatMap
        (fun category => report.entries.filter (·.category = category)) ∧
      report.entries.length = report.summary.total ∧
      (∀ severity, report.entries.countP (·.severity = severity) =
        report.summary.bySeverity.of severity) ∧
      report.summary.bySeverity.critical + report.summary.bySeverity.warning +
        report.summary.bySeverity.info = report.summary.total) ∧
    ∀ (code : Nat) (after : Transcript × σ),
      Command.Completes (Command.runAudit disk terminal o) ({}, start) code after →
      (Command.run disk terminal (.audit o)).run start =
        ({ after.1 with code := code }, after.2) ∧
      ∃ colours config middle audited later,
        Command.Completes (Command.settings disk o colours) ({}, start) config middle ∧
        (Audit.run disk ⟨o.html, o.scripts, config⟩).run middle.2 = (.ok audited, later) ∧
        audited.summary = audited.findings.summary ∧ code ≤ 1 ∧
        (code = 1 ↔ (∃ entry ∈ audited.entries, entry.severity = .critical) ∨
          o.failOnFindings ∧ ∃ entry, entry ∈ audited.entries) := by
  refine ⟨fun summarised => ?_, fun code after completes => ?_⟩
  · rw [summarised]
    refine ⟨report.entries_eq, fun category => ?_, ?_, ?_, report.countP_entries,
      report.findings.sum_severityCounts⟩
    · rw [report.filter_entries, report.entriesOf_eq]
    · rw [funext report.filter_entries]
      rfl
    · rw [report.entries_eq, List.length_map, Findings.length_listed]
      rfl
  · obtain ⟨colours, config, middle, audited, later, set, ran, rfl⟩ := completes.of_runAudit
    have summarised := Audit.gives_summarised disk ⟨o.html, o.scripts, config⟩ middle.2 audited
      (by rw [ran])
    refine ⟨Command.run_eq_of_completes completes, colours, config, middle, audited, later, set,
      ran, summarised, ?_, ?_⟩
    · unfold Command.auditCode
      split <;> decide
    · exact audited.auditCode_eq_one_iff o.failOnFindings

/-- A repeated id, and an issue that is as grave. -/
def mixedReport : AuditReport :=
  Audit.report ⟨"index.html", "js", {}⟩ {} {} ⟨"js/wirecheck-stubs.js", 1⟩
    { duplicateIds := [⟨"menu", [1, 2]⟩]
      patternIssues := [⟨.modal, "menu", ["open function"], .warning⟩] }

/-- A link that calls a function which no script defines. -/
def deadLink : FileSystem where
  root := .directory [("js", .directory []),
    ("index.html", .file (Text.encode "<a onclick=\"go()\">x</a>".toList))]

def deadLinkOptions : AuditOptions := { html := "index.html", scripts := "js" }

theorem entries_agree_deadLink :
    (mixedReport.entries.countP (·.severity = .warning) = 2 ∧
      mixedReport.summary.bySeverity.of .warning = 2) ∧
    ∃ after : Transcript × FileSystem,
      Command.Completes (Command.runAudit FileSystem.disk {} deadLinkOptions) ({}, deadLink) 1
        after ∧
      (Command.run FileSystem.disk {} (.audit deadLinkOptions)).run deadLink =
        ({ after.1 with code := 1 }, after.2) := by
  obtain ⟨counts, ends⟩ := entries_agree mixedReport FileSystem.disk {} deadLinkOptions deadLink
  obtain ⟨-, -, -, -, counted, -⟩ := counts rfl
  refine ⟨⟨counted .warning, rfl⟩, ?_⟩
  have ended : (((Command.runAudit FileSystem.disk {} deadLinkOptions).run.run {}).run
      deadLink).1.1.toOption = some 1 := by
    decide +kernel
  rcases ran : ((Command.runAudit FileSystem.disk {} deadLinkOptions).run.run {}).run deadLink with
    ⟨⟨result, printed⟩, state⟩
  rw [ran] at ended
  cases result with
  | error cause => cases ended
  | ok code =>
    obtain rfl : code = 1 := Option.some.inj ended
    exact ⟨(printed, state), ran, (ends 1 (printed, state) ran).1⟩

end PageWiring
