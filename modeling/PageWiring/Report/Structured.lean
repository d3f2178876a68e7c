import PageWiring.Audit
import PageWiring.Fix.Apply
import PageWiring.Record

/-!
Reports as JSON.
-/
namespace PageWiring

def FixFailure.toJson (f : FixFailure) : Json := .object (
  [("path", .text f.path), ("message", .text f.fault.message)] ++
  Json.field? "fix" (f.fix.map (·.toJson)))

def Backup.toJson (b : Backup) : Json := .object [
  ("original", .text b.file),
  ("backup", .text b.backup)]

def FixOutcome.toJson (o : FixOutcome) : Json := .object [
  ("applied", .array (o.applied.map (·.toJson))),
  ("failed", .array (o.failed.map (·.toJson))),
  ("backups", .array (o.backups.map (·.toJson)))]

def AuditStats.toJson (s : AuditStats) : Json := .object [
  ("htmlLines", .nat s.htmlLines),
  ("elementIds", .nat s.elementIds),
  ("eventHandlers", .nat s.eventHandlers),
  ("interactiveElements", .nat s.interactiveElements),
  ("jsFiles", .nat s.scripts),
  ("functions", .nat s.functions),
  ("domQueries", .nat s.domQueries)]

namespace AuditReport

/-- The fields of a report, with the lists of findings among them. -/
def fields (r : AuditReport) : List (String × Json) :=
  [("htmlFile", .text r.htmlFile), ("jsRoot", .text r.scriptRoot)] ++ r.findings.fields ++
  [("summary", r.summary.toJson),
    ("fixes", .array (r.fixes.map (·.toJson))),
    ("diagnostics", .array (r.diagnostics.map (·.toJson)))] ++
  Json.field? "htmlDiagnostics"
    (if r.pageDiagnostics.isEmpty then none
      else some (.array (r.pageDiagnostics.map (·.toJson)))) ++
  [("stats", r.stats.toJson)]

def formatVersion : String := "1.0"

def programVersion : String := "0.1.0"

/-- The report of a run, with its version on top and the fixes that were applied at the end. -/
def json (r : AuditReport) (outcome : Option FixOutcome) : String :=
  Json.pretty (.object (
    [("version", .text formatVersion), ("wirecheckVersion", .text programVersion)] ++
    r.fields ++
    Json.field? "fixOutcome" (outcome.map (·.toJson))))

end AuditReport

end PageWiring
