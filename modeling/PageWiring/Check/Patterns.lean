import PageWiring.Check.Basic
import PageWiring.Naming

/-!
Composite widgets that lack a collaborating part.

A widget is recognised by the words of an element id. An id with a component marker
(`modalClose`, `tabContent`) names a part of a widget and not the widget. The first pattern that
matches decides, in the order modal, tab, form, navigation.
-/
namespace PageWiring.Check

open PageWiring.Naming

def equalIgnoringAsciiCase (a b : String) : Bool :=
  Text.asciiLower a.toList == Text.asciiLower b.toList

/-- The first keyword that equals one of the words. -/
def matchingKeyword (words keywords : List String) : Option String :=
  keywords.find? fun kw => words.any fun w => equalIgnoringAsciiCase w kw

/-- The conventional names that belong to a widget id. -/
structure WidgetNames where
  id : String
  camel : String
  pascal : String
  base : Option String

def WidgetNames.ofId (id : String) (keyword : Option String) : WidgetNames where
  id := id
  camel := camelCase id
  pascal := pascalCase id
  base := keyword.bind (stripKeyword id)

/-- `{verb}{Id}` and `{verb}{Base}` for every verb, `{id}{Ending}` for every ending, and then the
generic names. -/
def WidgetNames.functions (n : WidgetNames) (verbs endings generic : List String) :
    List String :=
  let basePascal := n.base.map pascalCase
  let ofVerb (verb : String) : List String :=
    (verb ++ n.pascal) :: (basePascal.map (verb ++ ·)).toList
  verbs.flatMap ofVerb ++ endings.map (n.camel ++ ·) ++ generic

def anyFunctionPresent (ctx : Context) (candidates : List String) : Bool :=
  candidates.any ctx.functionPresent

/-- One issue for all missing parts, with the highest severity among them. -/
def patternIssue (pattern : PatternKind) (id : String) :
    List (String × Severity) → Option PatternIssue
  | [] => none
  | part :: parts => some {
      pattern := pattern
      elementId := id
      missing := (part :: parts).map (·.1)
      severity := parts.foldl (fun s p => s.max p.2) part.2 }

/-- An element with a handler that closes the modal, such as `settingsModalClose`. -/
def hasCloseControl (ctx : Context) (n : WidgetNames) : Bool :=
  [n.camel ++ "Close", n.camel ++ "CloseBtn", n.id ++ "-close", n.id ++ "-close-btn",
    "close-" ++ n.id, "close" ++ n.pascal].any ctx.elementHasHandler

/-- A modal needs a way in and a way out. -/
def modalIssue (ctx : Context) (id keyword : String) : Option PatternIssue :=
  let names := WidgetNames.ofId id (some keyword)
  let opens := names.functions ["open", "show", "display"] ["Open", "Show"]
    ["openModal", "showModal", "openDialog", "showDialog"]
  let closes := names.functions ["close", "hide", "dismiss"] ["Close", "Hide"]
    ["closeModal", "hideModal", "closeDialog", "closeAllModals"]
  let missingOpen :=
    if !anyFunctionPresent ctx opens && !ctx.functions.queriesElement id then
      [("open function", Severity.warning)]
    else []
  let missingClose :=
    if !anyFunctionPresent ctx closes && !hasCloseControl ctx names then
      [("close function", Severity.critical)]
    else []
  patternIssue .modal id (missingOpen ++ missingClose)

def panelCandidates (n : WidgetNames) : List String :=
  let ofBase (base : String) : List String :=
    [base, base ++ "Content", base ++ "Panel", base ++ "-content", base ++ "-panel"]
  n.base.toList.flatMap ofBase ++
    [n.camel ++ "Content", n.id ++ "-content", n.camel ++ "Panel", n.id ++ "-panel"]

/-- A tab needs a function that switches to it and a panel with its content. -/
def tabIssue (ctx : Context) (id keyword : String) : Option PatternIssue :=
  let names := WidgetNames.ofId id (some keyword)
  let switched := ctx.elementHasHandler id || ctx.wiredByScript id ||
    anyFunctionPresent ctx (names.functions ["switch", "select", "show", "activate", "open"]
      ["Click", "Select"] ["switchTab", "selectTab", "showTab", "openTab", "activateTab"])
  let hasPanel := (panelCandidates names).any fun panel =>
    panel != id && ctx.elements.containsId panel
  let missingSwitch := if switched then [] else [("switch function", Severity.warning)]
  let missingPanel := if hasPanel then [] else [("content panel", Severity.info)]
  patternIssue .tab id (missingSwitch ++ missingPanel)

def formsWithId (ctx : Context) (id : String) : List Form :=
  ctx.elements.forms.filter fun form => form.elementId == some id

/-- The label targets of a form that no element answers, each once, in order. -/
def danglingTargets (ctx : Context) (id : String) : List String :=
  (((formsWithId ctx id).flatMap (·.labelTargets)).filter (!ctx.elements.containsId ·)).foldl
    (fun seen t => if seen.contains t then seen else seen ++ [t]) []

/-- A form needs something that handles its submission, and an input for each of its labels. -/
def formIssue (ctx : Context) (id : String) (keyword : Option String) : Option PatternIssue :=
  let names := WidgetNames.ofId id keyword
  let candidates := names.functions ["submit", "handle", "save", "send"] ["Submit", "Handler"]
    ["handleSubmit", "submitForm", "onSubmit"] ++
    ["handle" ++ names.pascal ++ "Submit", "on" ++ names.pascal ++ "Submit"]
  let submitted := (ctx.elements.handlersFor id).any (·.eventType == "onsubmit") ||
    ctx.functions.queriesElement id || anyFunctionPresent ctx candidates
  let missingSubmit := if submitted then [] else [("submit handler", Severity.warning)]
  let missingInputs := (danglingTargets ctx id).map fun target =>
    ("input for label '" ++ target ++ "'", Severity.info)
  patternIssue .form id (missingSubmit ++ missingInputs)

def navigationIssue (ctx : Context) (id : String) : Option PatternIssue :=
  let names := WidgetNames.ofId id none
  let wired := ctx.elementHasHandler id || ctx.wiredByScript id ||
    anyFunctionPresent ctx (names.functions ["navigate", "toggle", "handle", "open", "show"]
      ["Navigate", "Toggle", "Click"]
      ["navigate", "navigateTo", "handleNavigation", "showSection", "showPage", "toggleMenu",
        "toggleNav"])
  if wired then none
  else patternIssue .navigation id [("navigation function", .info)]

/-- The issue of the widget that an id names, if it names one and a part is missing. -/
def issueForId (ctx : Context) (id : String) : Option PatternIssue :=
  let words := idWords id
  let isComponent := (matchingKeyword words ctx.patterns.componentMarkers).isSome
  let modal := matchingKeyword words ctx.patterns.modalKeywords
  let tab := matchingKeyword words ctx.patterns.tabKeywords
  let form := matchingKeyword words ctx.patterns.formKeywords
  let navigation := matchingKeyword words ctx.patterns.navigationKeywords
  match isComponent, modal, tab with
  | false, some keyword, _ => modalIssue ctx id keyword
  | false, none, some keyword => tabIssue ctx id keyword
  | _, _, _ =>
    if !(formsWithId ctx id).isEmpty || (!isComponent && form.isSome) then formIssue ctx id form
    else if !isComponent && navigation.isSome then navigationIssue ctx id
    else none

def patternIssues (ctx : Context) : List PatternIssue :=
  if ctx.patterns.enabled then ctx.elements.ids.filterMap (issueForId ctx) else []

end PageWiring.Check
