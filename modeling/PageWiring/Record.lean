import PageWiring.Config
import PageWiring.Diagnostic
import PageWiring.Fix.Basic
import PageWiring.Json

/-!
The JSON form of elements, functions, findings, fixes and settings.
-/
namespace PageWiring

private def optionalText (s : Option String) : Json := Json.ofOption .text s

def EventHandler.toJson (h : EventHandler) : Json := .object [
  ("elementId", optionalText h.elementId),
  ("eventType", .text h.eventType),
  ("functionCall", .text h.functionCall),
  ("lineNumber", .nat h.line)]

def InteractiveElement.toJson (e : InteractiveElement) : Json := .object (
  [("elementId", optionalText e.elementId), ("tagName", .text e.tagName)] ++
  Json.field? "role" (e.role.map .text) ++
  [("hasEventHandler", .bool e.hasHandler), ("lineNumber", .nat e.line)])

def DuplicateId.toJson (d : DuplicateId) : Json := .object [
  ("elementId", .text d.elementId),
  ("lineNumbers", Json.nats d.lines)]

def Form.toJson (f : Form) : Json := .object [
  ("elementId", optionalText f.elementId),
  ("lineNumber", .nat f.line),
  ("labelTargets", Json.texts f.labelTargets),
  ("hasSubmitControl", .bool f.hasSubmit)]

def PageDiagnostic.toJson (d : PageDiagnostic) : Json := .object [
  ("lineNumber", .nat d.line),
  ("message", .text d.message)]

def FunctionDef.toJson (d : FunctionDef) : Json := .object [
  ("name", .text d.name),
  ("filePath", .text d.filePath),
  ("lineNumber", .nat d.line),
  ("isExported", .bool d.isExported),
  ("kind", .text d.kind.name)]

def DomQuery.toJson (q : DomQuery) : Json := .object [
  ("method", .text q.method.name),
  ("selector", .text q.selector),
  ("filePath", .text q.filePath),
  ("lineNumber", .nat q.line),
  ("functionContext", optionalText q.context)]

def CallSite.toJson (c : CallSite) : Json := .object (
  [("filePath", .text c.filePath),
    ("lineNumber", .nat c.line),
    ("context", optionalText c.context),
    ("kind", .text c.kind.name)] ++
  Json.field? "viaGlobal" (if c.viaGlobal then some (.bool true) else none))

def FileDiagnostic.toJson (d : FileDiagnostic) : Json := .object (
  [("filePath", .text d.filePath), ("kind", .text d.kind), ("message", .text d.message)] ++
  Json.field? "line" (d.line?.map .nat))

def OrphanedFunction.toJson (f : OrphanedFunction) : Json := .object [
  ("functionName", .text f.functionName),
  ("filePath", .text f.filePath),
  ("lineNumber", .nat f.line),
  ("missingElementId", .text f.missingElementId),
  ("queryMethod", .text f.queryMethod.name)]

def BrokenHandler.toJson (f : BrokenHandler) : Json := .object [
  ("elementId", optionalText f.elementId),
  ("eventType", .text f.eventType),
  ("missingFunction", .text f.missingFunction),
  ("htmlLineNumber", .nat f.line)]

def UnusedFunction.toJson (f : UnusedFunction) : Json := .object [
  ("functionName", .text f.functionName),
  ("filePath", .text f.filePath),
  ("lineNumber", .nat f.line),
  ("callCount", .nat f.callCount)]

def NonFunctionalElement.toJson (f : NonFunctionalElement) : Json := .object [
  ("elementId", optionalText f.elementId),
  ("tagName", .text f.tagName),
  ("htmlLineNumber", .nat f.line),
  ("reason", .text f.reason)]

def PatternIssue.toJson (f : PatternIssue) : Json := .object [
  ("pattern", .text f.pattern.name),
  ("elementId", .text f.elementId),
  ("missingComponents", Json.texts f.missing),
  ("severity", .text f.severity.name)]

/-- The lists of findings; duplicate ids are left out when there are none. -/
def Findings.fields (fs : Findings) : List (String × Json) :=
  [("orphanedFunctions", .array (fs.orphanedFunctions.map (·.toJson))),
    ("brokenHandlers", .array (fs.brokenHandlers.map (·.toJson))),
    ("unusedFunctions", .array (fs.unusedFunctions.map (·.toJson))),
    ("nonFunctionalElements", .array (fs.nonFunctionalElements.map (·.toJson))),
    ("patternIssues", .array (fs.patternIssues.map (·.toJson)))] ++
  Json.field? "duplicateIds"
    (if fs.duplicateIds.isEmpty then none else some (.array (fs.duplicateIds.map (·.toJson))))

def Summary.toJson (s : Summary) : Json := .object [
  ("total", .nat s.total),
  ("orphanedFunctions", .nat s.orphanedFunctions),
  ("brokenHandlers", .nat s.brokenHandlers),
  ("unusedFunctions", .nat s.unusedFunctions),
  ("nonFunctionalElements", .nat s.nonFunctionalElements),
  ("patternIssues", .nat s.patternIssues),
  ("duplicateIds", .nat s.duplicateIds),
  ("bySeverity", .object [
    ("critical", .nat s.bySeverity.critical),
    ("warning", .nat s.bySeverity.warning),
    ("info", .nat s.bySeverity.info)])]

def Fix.toJson (f : Fix) : Json := .object (
  [("type", .text f.kind.name),
    ("filePath", .text f.filePath),
    ("lineNumber", .nat f.line),
    ("description", .text f.description),
    ("safe", .bool f.safe),
    ("functionName", .text f.functionName)] ++
  Json.field? "eventType" (f.eventType.map .text) ++
  Json.field? "elementId" (f.elementId.map .text))

def ChecksConfig.toJson (c : ChecksConfig) : Json := .object [
  ("disabled", Json.texts c.disabled),
  ("resolution", .text c.resolution.name),
  ("js_references_count_as_handlers", .bool c.scriptQueriesCountAsHandlers)]

def PatternConfig.toJson (c : PatternConfig) : Json := .object [
  ("enabled", .bool c.enabled),
  ("modal_keywords", Json.texts c.modalKeywords),
  ("tab_keywords", Json.texts c.tabKeywords),
  ("form_keywords", Json.texts c.formKeywords),
  ("navigation_keywords", Json.texts c.navigationKeywords),
  ("component_markers", Json.texts c.componentMarkers)]

def Config.toJson (c : Config) : Json := .object [
  ("exclude", Json.texts c.exclude),
  ("extensions", Json.texts c.extensions),
  ("deadline_ms", Json.ofOption .nat c.deadlineMs),
  ("checks", c.checks.toJson),
  ("patterns", c.patterns.toJson)]

end PageWiring
