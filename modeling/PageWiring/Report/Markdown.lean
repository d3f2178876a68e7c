import PageWiring.Fix.Apply
import PageWiring.Report.Entry

/-!
Reports as Markdown documents.
-/
namespace PageWiring.AuditReport

private def heading (r : AuditReport) : List String :=
  ["# wirecheck report",
    "",
    s!"- HTML file: `{r.htmlFile}`",
    s!"- JavaScript root: `{r.scriptRoot}`",
    s!"- Scanned: {r.stats.scripts} scripts, {r.stats.functions} functions, " ++
      s!"{r.stats.elementIds} element ids, {r.stats.eventHandlers} inline handlers",
    ""]

private def summaryTable (s : Summary) : List String :=
  ["## Executive Summary",
    "",
    "| Severity | Count |",
    "|----------|-------|",
    s!"| Critical | {s.bySeverity.critical} |",
    s!"| Warning | {s.bySeverity.warning} |",
    s!"| Info | {s.bySeverity.info} |",
    s!"| **Total** | **{s.total}** |",
    ""]

private def entryItem (e : ReportEntry) : String :=
  s!"- **{e.severity.name}** `{e.checkId}` {e.message} (`{e.location}`)"

/-- A category. Duplicate ids are only listed when there are some. -/
private def categoryBlock (r : AuditReport) (c : Category) : List String :=
  let entries := r.entriesOf c
  if entries.isEmpty && c == .duplicateIds then []
  else
    [s!"## {c.title} ({entries.length})", ""] ++
      (if entries.isEmpty then ["_None found._"] else entries.map entryItem) ++ [""]

private def diagnosticsBlock (r : AuditReport) : List String :=
  if r.diagnostics.isEmpty && r.pageDiagnostics.isEmpty then []
  else
    let place (d : FileDiagnostic) : String :=
      match d.line? with
      | some line => s!"{d.filePath}:{line}"
      | none => d.filePath
    ["## Diagnostics", ""] ++
      (r.diagnostics.map fun d => "- `" ++ place d ++ "`: " ++ d.message) ++
      (r.pageDiagnostics.map fun d => s!"- `{r.htmlFile}:{d.line}`: {d.message}") ++ [""]

/-- A text inside a table. -/
private def cell (s : String) : String :=
  String.ofList (s.toList.flatMap fun c => if c == '|' then ['\\', '|'] else [c])

private def fixRow (f : Fix) : String :=
  let safe := if f.safe then "yes" else "no"
  s!"| {f.kind.name} | `{f.filePath}:{f.line}` | " ++ cell f.description ++ s!" | {safe} |"

private def outcomeBlock (o : FixOutcome) : List String :=
  ["## Applied Fixes", "", s!"{o.applied.length} applied, {o.failed.length} failed.", ""] ++
    (o.failed.map fun f => s!"- `{f.path}`: " ++ f.fault.message) ++
    (if o.failed.isEmpty then [] else [""])

/-- The fixes, and what became of them. -/
private def fixesBlock (r : AuditReport) (outcome : Option FixOutcome) : List String :=
  if r.fixes.isEmpty then []
  else
    ["## Suggested Fixes",
      "",
      "| Type | Location | Description | Safe |",
      "|------|----------|-------------|------|"] ++
      r.fixes.map fixRow ++ [""] ++ (outcome.map outcomeBlock).getD []

def markdown (r : AuditReport) (outcome : Option FixOutcome) : String :=
  let lines := r.heading ++ summaryTable r.summary ++ Category.all.flatMap r.categoryBlock ++
    r.diagnosticsBlock ++ r.fixesBlock outcome
  String.join (lines.map (· ++ "\n"))

end PageWiring.AuditReport
