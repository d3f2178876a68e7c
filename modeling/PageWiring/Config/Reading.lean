import PageWiring.Config
import PageWiring.Error
import PageWiring.Sorting
import PageWiring.Toml.Reading

/-!
Settings from the text of a configuration file.

Missing options keep their defaults. Unknown options are no error, but each gives a warning.
-/
namespace PageWiring

/-- An option that is not known, with the section it stands in. -/
structure UnknownOption where
  table? : Option String
  key : String
  deriving DecidableEq, Repr

def UnknownOption.message (u : UnknownOption) : String :=
  match u.table? with
  | none => s!"Unknown config option: '{u.key}'"
  | some name => s!"Unknown config option in [{name}]: '{u.key}'"

/-- Settings together with the warnings about their file. -/
structure LoadedConfig where
  config : Config := {}
  warnings : List UnknownOption := []
  deriving DecidableEq, Repr

namespace Config

open Toml (Value)

/-! ### Decoding -/

def text? : Value → Option String
  | .text s => some s
  | _ => none

def texts? : Value → Option (List String)
  | .array _ items => items.mapM text?
  | _ => none

def boolean? : Value → Option Bool
  | .boolean b => some b
  | _ => none

def natural? : Value → Option Nat
  | .integer n => if 0 ≤ n then some n.toNat else none
  | _ => none

def isEmptyGroup : Value → Bool
  | .array _ items => items.isEmpty
  | .table _ entries => entries.isEmpty
  | _ => false

/-- A mode is given by its name, or by a table with nothing but that name and an empty group. -/
def resolution? : Value → Option Resolution
  | .text s => Resolution.ofName? s
  | .table _ [(name, v)] => if isEmptyGroup v then Resolution.ofName? name else none
  | _ => none

/-- A section's options. They may also be listed by position, and a date stands for none. -/
def options? (names : List String) : Value → Option (List (String × Value))
  | .table _ entries => some entries
  | .array _ items => some (names.zip items)
  | .moment => some []
  | _ => none

/-- Decodes an option, or keeps the default when it is missing. -/
def option (entries : List (String × Value)) (name : String) (decode : Value → Option α)
    (default : α) : Option α :=
  match entries.lookup name with
  | none => some default
  | some v => decode v

def checksKeys : List String := ["disabled", "resolution", "js_references_count_as_handlers"]

def patternsKeys : List String :=
  ["enabled", "modal_keywords", "tab_keywords", "form_keywords", "navigation_keywords",
    "component_markers"]

def topLevelKeys : List String := ["exclude", "extensions", "deadline_ms", "checks", "patterns"]

def checks? (v : Value) : Option ChecksConfig := do
  let d : ChecksConfig := {}
  let entries ← options? checksKeys v
  return {
    disabled := ← option entries "disabled" texts? d.disabled
    resolution := ← option entries "resolution" resolution? d.resolution
    scriptQueriesCountAsHandlers :=
      ← option entries "js_references_count_as_handlers" boolean? d.scriptQueriesCountAsHandlers }

def patterns? (v : Value) : Option PatternConfig := do
  let d : PatternConfig := {}
  let entries ← options? patternsKeys v
  return {
    enabled := ← option entries "enabled" boolean? d.enabled
    modalKeywords := ← option entries "modal_keywords" texts? d.modalKeywords
    tabKeywords := ← option entries "tab_keywords" texts? d.tabKeywords
    formKeywords := ← option entries "form_keywords" texts? d.formKeywords
    navigationKeywords := ← option entries "navigation_keywords" texts? d.navigationKeywords
    componentMarkers := ← option entries "component_markers" texts? d.componentMarkers }

def ofEntries? (entries : Toml.Entries) : Option Config := do
  let d : Config := {}
  return {
    exclude := ← option entries "exclude" texts? d.exclude
    extensions := ← option entries "extensions" texts? d.extensions
    deadlineMs := ← option entries "deadline_ms" (fun v => (natural? v).map some) d.deadlineMs
    checks := ← option entries "checks" checks? d.checks
    patterns := ← option entries "patterns" patterns? d.patterns }

/-! ### Validation -/

def isBadExtension (extension : String) : Bool :=
  match extension.toList with
  | [] => true
  | c :: _ => c == '.'

/-- Extensions are checked before patterns, and the first fault counts. -/
def validate (config : Config) : Except ConfigError Unit := do
  if config.extensions.isEmpty then .error .noExtensions
  match config.extensions.find? isBadExtension with
  | some extension => .error (.badExtension extension)
  | none =>
    config.exclude.forM fun pattern =>
      match Glob.ofText pattern with
      | .ok _ => .ok ()
      | .error fault => .error (.badGlob pattern fault)

/-! ### Warnings -/

def unknownIn (name : Option String) (known : List String) (entries : Toml.Entries) :
    List UnknownOption :=
  let keys := (entries.map (·.1)).filter (!known.contains ·)
  (sortBy (fun a b => !decide (b < a)) keys).map fun key => ⟨name, key⟩

def sectionUnknowns (name : String) (known : List String) (entries : Toml.Entries) :
    List UnknownOption :=
  match entries.lookup name with
  | some (.table _ inner) => unknownIn (some name) known inner
  | _ => []

/-- The unknown options, sorted by key within each section. -/
def unknownOptions (entries : Toml.Entries) : List UnknownOption :=
  unknownIn none topLevelKeys entries ++ sectionUnknowns "checks" checksKeys entries ++
    sectionUnknowns "patterns" patternsKeys entries

/-- The settings in the text of a file, of which only the name is used. -/
def ofText (path : String) (text : List Char) : Except ConfigError LoadedConfig :=
  match Toml.ofText? text with
  | none => .error (.malformed path)
  | some entries =>
    match ofEntries? entries with
    | none => .error (.malformed path)
    | some config => (validate config).map fun _ => ⟨config, unknownOptions entries⟩

end Config

end PageWiring
