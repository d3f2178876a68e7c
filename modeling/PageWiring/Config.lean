/-!
The settings of an audit and their defaults.
-/
namespace PageWiring

/-- How a function name that is used in one place is matched with definitions. -/
inductive Resolution where
  /-- A definition in any file answers every use. -/
  | anyFile
  /-- A call counts for a definition only from the same file, for an exported definition, or
  through a global object. -/
  | sameFileOrExported
  deriving DecidableEq, Repr

def Resolution.name : Resolution → String
  | .anyFile => "any-file"
  | .sameFileOrExported => "same-file-or-exported"

def Resolution.ofName? (s : String) : Option Resolution :=
  [Resolution.anyFile, .sameFileOrExported].find? (·.name == s)

structure ChecksConfig where
  /-- Ids or names of the checks that are switched off. -/
  disabled : List String := []
  resolution : Resolution := .anyFile
  scriptQueriesCountAsHandlers : Bool := false
  deriving DecidableEq, Repr

/-- Words by which widgets, and parts of widgets, are recognised in element ids. -/
structure PatternConfig where
  enabled : Bool := true
  modalKeywords : List String := ["modal", "dialog"]
  tabKeywords : List String := ["tab"]
  formKeywords : List String := ["form"]
  navigationKeywords : List String := ["nav", "navbar", "navigation", "menu"]
  componentMarkers : List String :=
    ["btn", "button", "close", "open", "content", "panel", "body", "header", "footer", "title",
      "overlay", "backdrop", "container", "wrapper", "list", "bar", "icon", "label", "text",
      "input", "link", "item", "toggle", "trigger", "error", "message", "status"]
  deriving DecidableEq, Repr

structure Config where
  /-- Glob patterns of scripts that are left out. -/
  exclude : List String := []
  extensions : List String := ["js", "mjs", "cjs", "jsx"]
  deadlineMs : Option Nat := none
  checks : ChecksConfig := {}
  patterns : PatternConfig := {}
  deriving DecidableEq, Repr

namespace Config

def fileName : String := "wirecheck.toml"

private def quotedList (words : List String) : String :=
  ", ".intercalate (words.map fun w => "\"" ++ w ++ "\"")

/-- The text of a new configuration file, which spells out the defaults. -/
def template : String :=
  let config : Config := {}
  let patterns := config.patterns
  "\n".intercalate [
    "# wirecheck configuration",
    "",
    "# Extra glob patterns excluded from JavaScript discovery.",
    "# node_modules, dist, build, coverage and hidden directories are always skipped.",
    "exclude = []",
    "",
    "extensions = [" ++ quotedList config.extensions ++ "]",
    "",
    "# Stop starting new files after this many milliseconds.",
    "# deadline_ms = 30000",
    "",
    "[checks]",
    "disabled = []",
    "resolution = \"any-file\"",
    "js_references_count_as_handlers = false",
    "",
    "[patterns]",
    "enabled = true",
    "modal_keywords = [" ++ quotedList patterns.modalKeywords ++ "]",
    "tab_keywords = [" ++ quotedList patterns.tabKeywords ++ "]",
    "form_keywords = [" ++ quotedList patterns.formKeywords ++ "]",
    "navigation_keywords = [" ++ quotedList patterns.navigationKeywords ++ "]",
    "component_markers = [" ++ quotedList patterns.componentMarkers ++ "]",
    ""]

end Config

end PageWiring
