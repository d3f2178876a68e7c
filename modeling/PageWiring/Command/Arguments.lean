import PageWiring.Config
import PageWiring.Text.Basic

/-!
Command lines.

Arguments are read from left to right, and the first one that cannot be used ends the reading. An
option that takes a value has it behind an equals sign, in the same word or in the next argument.
-/
namespace PageWiring

/-- How a report is written. -/
inductive ReportFormat where
  | json | markdown | pretty | both
  deriving DecidableEq, Repr

def ReportFormat.name : ReportFormat → String
  | .json => "json"
  | .markdown => "markdown"
  | .pretty => "pretty"
  | .both => "both"

def ReportFormat.ofName? (s : String) : Option ReportFormat :=
  [ReportFormat.json, .markdown, .pretty, .both].find? (·.name == s)

structure AuditOptions where
  html : String
  scripts : String
  format : ReportFormat := .pretty
  output : Option String := none
  config : Option String := none
  resolution : Option Resolution := none
  disabled : List String := []
  failOnFindings : Bool := false
  fix : Bool := false
  unsafeFixes : Bool := false
  noColour : Bool := false
  deriving DecidableEq, Repr

inductive Command where
  | audit (options : AuditOptions)
  | init (force : Bool)
  | explain (check : String)
  | help
  | version
  deriving DecidableEq, Repr

namespace Arguments

/-- What an option takes. -/
inductive Taking where
  | nothing
  | one (accepts : String → Bool)
  | several
  /-- The option asks for help, or for the version. -/
  | request (command : Command)

structure OptionRule where
  name : String
  letter : Option Char := none
  taking : Taking

/-- Why the reading ended early. -/
inductive Stop where
  | usage
  | answered (command : Command)
  deriving DecidableEq, Repr

/-- What has been read. -/
structure Found where
  flags : List String := []
  /-- Options with their values, in order. -/
  values : List (String × String) := []
  positionals : List String := []
  deriving DecidableEq, Repr

namespace Found

def flag (f : Found) (name : String) : Bool := f.flags.contains name

def value? (f : Found) (name : String) : Option String := f.values.lookup name

def all (f : Found) (name : String) : List String :=
  (f.values.filter (·.1 == name)).map (·.2)

end Found

/-- Records an option without a value. It may be given once. -/
def addFlag (f : Found) (rule : OptionRule) : Except Stop Found :=
  match rule.taking with
  | .nothing =>
    if f.flag rule.name then .error .usage else .ok { f with flags := f.flags ++ [rule.name] }
  | .request command => .error (.answered command)
  | _ => .error .usage

/-- Records an option with its value. Most may be given once. -/
def addValue (f : Found) (rule : OptionRule) (value : String) : Except Stop Found :=
  let added := { f with values := f.values ++ [(rule.name, value)] }
  match rule.taking with
  | .one accepts =>
    if accepts value && (f.value? rule.name).isNone then .ok added else .error .usage
  | .several => .ok added
  | _ => .error .usage

def takesValue (rule : OptionRule) : Bool :=
  match rule.taking with
  | .one _ => true
  | .several => true
  | _ => false

/-- Reads an option by its name, with or without an equals sign. The rule comes back when its value
is still to come. -/
def readNamed (rules : List OptionRule) (f : Found) (body : List Char) :
    Except Stop (Found × Option OptionRule) :=
  let name := body.takeWhile (· != '=')
  match rules.find? (·.name == String.ofList name), body.drop name.length with
  | none, _ => .error .usage
  | some rule, _ :: value => (addValue f rule (String.ofList value)).map (·, none)
  | some rule, [] =>
    if takesValue rule then .ok (f, some rule) else (addFlag f rule).map (·, none)

/-- Reads options by their letters. -/
def readLetters (rules : List OptionRule) (f : Found) :
    List Char → Except Stop (Found × Option OptionRule)
  | [] => .ok (f, none)
  | c :: cs =>
    match rules.find? (·.letter == some c) with
    | none => .error .usage
    | some rule =>
      if takesValue rule then
        match cs with
        | [] => .ok (f, some rule)
        | '=' :: value => (addValue f rule (String.ofList value)).map (·, none)
        | value => (addValue f rule (String.ofList value)).map (·, none)
      else
        match addFlag f rule with
        | .error stop => .error stop
        | .ok f => readLetters rules f cs

/-- Does an argument look like an option? -/
def isOption (arg : String) : Bool :=
  match arg.toList with
  | '-' :: _ :: _ => true
  | _ => false

/-- Reads arguments. `places` are the arguments by position that may come, each with the values it
accepts; without it, the reading stops at the first argument that is no option, and what is left
over starts there. `pending` is the option whose value comes next, and `plain` holds once no more
options follow. -/
def read (rules : List OptionRule) (places : Option (List (String → Bool))) (f : Found)
    (pending : Option OptionRule) (plain : Bool) :
    List String → Except Stop (Found × List String)
  | [] => if pending.isSome then .error .usage else .ok (f, [])
  | arg :: rest =>
    match pending with
    | some rule =>
      if isOption arg then .error .usage
      else
        match addValue f rule arg with
        | .error stop => .error stop
        | .ok f => read rules places f none plain rest
    | none =>
      if !plain && isOption arg then
        match arg.toList with
        | '-' :: '-' :: [] => read rules places f none true rest
        | '-' :: '-' :: body =>
          match readNamed rules f body with
          | .error stop => .error stop
          | .ok (f, pending) => read rules places f pending plain rest
        | letters =>
          match readLetters rules f (letters.drop 1) with
          | .error stop => .error stop
          | .ok (f, pending) => read rules places f pending plain rest
      else
        match places with
        | none => if plain then .error .usage else .ok (f, arg :: rest)
        | some [] => .error .usage
        | some (accepts :: later) =>
          if accepts arg then
            read rules (some later) { f with positionals := f.positionals ++ [arg] } none plain rest
          else .error .usage

/-- Reads all arguments of a command. -/
def readAll (rules : List OptionRule) (places : List (String → Bool)) (args : List String) :
    Except Stop Found :=
  (read rules (some places) {} none false args).map (·.1)

def isNonempty (s : String) : Bool := !s.isEmpty

def helpRule : OptionRule := ⟨"help", some 'h', .request .help⟩

/-- The options that every command has. -/
def commonRules : List OptionRule :=
  [⟨"log-level", none, .one ["trace", "debug", "info", "warn", "error"].contains⟩,
    ⟨"log-file", none, .one isNonempty⟩, ⟨"log-json", none, .nothing⟩, helpRule]

def auditRules : List OptionRule :=
  [⟨"format", some 'f', .one fun s => (ReportFormat.ofName? s).isSome⟩,
    ⟨"output", some 'o', .one isNonempty⟩, ⟨"config", some 'c', .one isNonempty⟩,
    ⟨"resolution", none, .one fun s => (Resolution.ofName? s).isSome⟩,
    ⟨"disable", none, .several⟩, ⟨"fail-on-findings", none, .nothing⟩, ⟨"fix", none, .nothing⟩,
    ⟨"unsafe-fixes", none, .nothing⟩, ⟨"no-color", none, .nothing⟩] ++ commonRules

def initRules : List OptionRule := ⟨"force", some 'f', .nothing⟩ :: commonRules

def topRules : List OptionRule := ⟨"version", some 'V', .request .version⟩ :: commonRules

def audit (args : List String) : Except Stop Command := do
  let f ← readAll auditRules [isNonempty, isNonempty] args
  match f.positionals with
  | [html, scripts] =>
    if f.flag "unsafe-fixes" && !f.flag "fix" then .error .usage
    else
      .ok (.audit {
        html := html
        scripts := scripts
        format := ((f.value? "format").bind ReportFormat.ofName?).getD .pretty
        output := f.value? "output"
        config := f.value? "config"
        resolution := (f.value? "resolution").bind Resolution.ofName?
        disabled := f.all "disable"
        failOnFindings := f.flag "fail-on-findings"
        fix := f.flag "fix"
        unsafeFixes := f.flag "unsafe-fixes"
        noColour := f.flag "no-color" })
  | _ => .error .usage

def init (args : List String) : Except Stop Command := do
  let f ← readAll initRules [] args
  .ok (.init (f.flag "force"))

def explain (args : List String) : Except Stop Command := do
  let f ← readAll commonRules [fun _ => true] args
  match f.positionals with
  | [check] => .ok (.explain check)
  | _ => .error .usage

/-- Help on the program or on one of its commands. -/
def help : List String → Except Stop Command
  | [] => .ok .help
  | [name] =>
    if ["audit", "init", "explain", "help"].contains name then .ok .help else .error .usage
  | _ => .error .usage

/-- Reads what follows the name of a command. -/
def command (name : String) (args : List String) : Except Stop Command :=
  if name == "audit" then audit args
  else if name == "init" then init args
  else if name == "explain" then explain args
  else if name == "help" then help args
  else .error .usage

end Arguments

/-- Reads a command line: options, the name of a command, and what belongs to it. -/
def Command.ofArguments (args : List String) : Except Arguments.Stop Command := do
  match ← Arguments.read Arguments.topRules none {} none false args with
  | (_, name :: rest) => Arguments.command name rest
  | (_, []) => .error .usage

end PageWiring
