import PageWiring.Fix.Apply
import PageWiring.Report.Entry
import PageWiring.Report.Style

/-!
Reports for terminals.
-/
namespace PageWiring

def Severity.colour : Severity → Colour
  | .critical => .red
  | .warning => .yellow
  | .info => .blue

namespace AuditReport

private def entryText (colours : Bool) (e : ReportEntry) : String :=
  (Style.strong (e.severity.colour)).paint colours e.severity.name ++ "[" ++
    Style.dimmed.paint colours e.checkId ++ "]: " ++ e.message ++ "\n  " ++
    (Style.plain .blue).paint colours "-->" ++ " " ++ e.location ++ "\n\n"

private def diagnosticTexts (colours : Bool) (r : AuditReport) : List String :=
  let mark := (Style.strong .yellow).paint colours
  (r.diagnostics.map fun d => mark "skipped" ++ ": " ++ d.display ++ "\n") ++
    r.pageDiagnostics.map fun d =>
      mark "html" ++ s!": {r.htmlFile}:{d.line}: {d.message}\n"

private def check (colours : Bool) : String := (Style.strong .green).paint colours "✓"

private def cross (colours : Bool) : String := (Style.strong .red).paint colours "✗"

/-- The counts by severity that are not zero. -/
private def countTexts (colours : Bool) (c : SeverityCounts) : List String :=
  let part (n : Nat) (colour : Colour) (noun : String) : List String :=
    if n = 0 then [] else [(Style.plain colour).paint colours s!"{n} {noun}"]
  part c.critical .red "critical" ++
    part c.warning .yellow (if c.warning = 1 then "warning" else "warnings") ++
    part c.info .blue "info"

private def summaryText (colours : Bool) (r : AuditReport) : String :=
  let total := r.summary.total
  if total = 0 then
    check colours ++
      s!" No problems found ({r.stats.scripts} scripts, {r.stats.elementIds} element ids)\n"
  else
    let noun := if total = 1 then "problem" else "problems"
    cross colours ++ s!" {total} {noun} (" ++
      ", ".intercalate (countTexts colours r.summary.bySeverity) ++ ")\n"

private def outcomeText (colours : Bool) (o : FixOutcome) : String :=
  check colours ++ s!" Applied {o.applied.length} fix(es)\n" ++
    (match o.backups with
      | [] => ""
      | b :: _ => "  backups written to " ++ (Path.parent? b.backup).getD b.backup ++ "\n") ++
    (if o.failed.isEmpty then ""
      else cross colours ++ s!" {o.failed.length} fix(es) could not be applied\n")

private def hintText (colours : Bool) (fixes : List Fix) : String :=
  if fixes.isEmpty then ""
  else
    let safe := (fixes.filter (·.safe)).length
    (Style.strong .cyan).paint colours "hint:" ++
      s!" {fixes.length} fix(es) available, {safe} safe. Run with " ++
      Style.bold.paint colours "--fix" ++ " to apply them.\n"

def terminal (r : AuditReport) (outcome : Option FixOutcome) (colours : Bool) : String :=
  String.join (r.entries.map (entryText colours)) ++ String.join (diagnosticTexts colours r) ++
    summaryText colours r ++
    (match outcome with
      | some o => outcomeText colours o
      | none => hintText colours r.fixes)

end AuditReport

end PageWiring
