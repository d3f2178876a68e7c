import PageWiring.Command.Arguments
import PageWiring.Report.Markdown
import PageWiring.Report.Structured
import PageWiring.Report.Terminal

/-!
Running commands: what they do to files, what they print, and the code with which they end.
-/
namespace PageWiring

/-- What a command prints. -/
structure Transcript where
  stdout : String := ""
  stderr : String := ""
  deriving DecidableEq, Repr

structure CommandResult extends Transcript where
  code : Nat
  deriving DecidableEq, Repr

/-- Why a command stopped. -/
inductive CommandError where
  | config (cause : ConfigError)
  | audit (cause : AuditError)
  | outputDirectory (directory : String) (cause : FileError)
  | output (path : String) (cause : FileError)
  | configExists
  | configUnwritable (cause : FileError)
  | crash (cause : FixCrash)
  deriving DecidableEq, Repr

namespace CommandError

def message : CommandError → String
  | .config cause => cause.message
  | .audit cause => cause.message
  | .outputDirectory directory _ => s!"cannot create output directory {directory}"
  | .output path _ => s!"cannot write {path}"
  | .configExists =>
    s!"Config file '{Config.fileName}' already exists. Use --force to overwrite."
  | .configUnwritable cause => cause.message
  | .crash cause =>
    let ends := cause.stretch
    s!"{cause.fix.filePath}: {ends.start}..{ends.stop} is not between characters"

private def configCause? : ConfigError → Option FileError
  | .unreadable _ cause => some cause
  | _ => none

/-- The failed operation behind an error, where it is told apart from it. -/
def cause? : CommandError → Option FileError
  | .config e => configCause? e
  | .audit (.unreadable _ cause) => some cause
  | .audit (.config e) => configCause? e
  | .audit _ => none
  | .outputDirectory _ cause => some cause
  | .output _ cause => some cause
  | .configExists => none
  | .configUnwritable _ => none
  | .crash _ => none

def text (e : CommandError) : String :=
  "Error: " ++ e.message ++
    (match e.cause? with
      | some cause => "\n\nCaused by:\n    " ++ cause.message
      | none => "") ++ "\n"

/-- The code with which a command ends. -/
def code : CommandError → Nat
  | .crash _ => 101
  | _ => 1

end CommandError

/-- What is known of the terminal. -/
structure TerminalSettings where
  /-- Colours are asked for in any case. -/
  forced : Bool := false
  /-- No colours are wanted. -/
  refused : Bool := false
  isTerminal : Bool := false
  deriving DecidableEq, Repr

def TerminalSettings.colours (t : TerminalSettings) : Bool :=
  if t.forced then true else if t.refused then false else t.isTerminal

/-- A command in the course of its run. -/
abbrev CommandM (m : Type → Type) := ExceptT CommandError (StateT Transcript m)

namespace Command

variable {m : Type → Type} [Monad m]

def print (text : String) : CommandM m Unit := modify fun t => { t with stdout := t.stdout ++ text }

def printError (text : String) : CommandM m Unit :=
  modify fun t => { t with stderr := t.stderr ++ text }

/-- An operation whose failure ends the command. -/
def attempt (action : m (Except ε α)) (wrap : ε → CommandError) : CommandM m α := do
  match ← (action : m (Except ε α)) with
  | .ok a => return a
  | .error e => throw (wrap e)

private def checkMark (colours : Bool) : String := (Style.strong .green).paint colours "✓"

/-! ### The command `audit` -/

/-- The settings of a run: those of a configuration file, changed by options. -/
def settings (disk : Disk m) (o : AuditOptions) (colours : Bool) : CommandM m Config := do
  let path ← match o.config with
    | some path => pure (some path)
    | none => do
      let directory ← (disk.workingDirectory : m String)
      (Config.find disk directory : m (Option String))
  let config ← match path with
    | none => pure {}
    | some path =>
      let loaded ← attempt (Config.load disk path) .config
      for warning in loaded.warnings do
        printError ((Style.strong .yellow).paint colours "warning:" ++ " " ++ warning.message ++
          "\n")
      pure loaded.config
  return { config with
    checks := { config.checks with
      resolution := o.resolution.getD config.checks.resolution
      disabled := config.checks.disabled ++ o.disabled } }

def applyFixes (disk : Disk m) (o : AuditOptions) (report : AuditReport) (colours : Bool) :
    CommandM m FixOutcome := do
  let settings := FixSettings.under (← (disk.workingDirectory : m String)) (!o.unsafeFixes)
  let outcome ← attempt (Fix.applyAll disk settings report.fixes) .crash
  for failure in outcome.failed do
    printError ((Style.strong .red).paint colours "fix failed:" ++
      s!" {failure.path}: " ++ failure.fault.message ++ "\n")
  return outcome

/-- The names of written reports. -/
def jsonFile : String := "wirecheck-report.json"

def markdownFile : String := "wirecheck-report.md"

def writeReport (disk : Disk m) (directory name text : String) (colours : Bool) :
    CommandM m Unit := do
  let path := Path.join directory name
  attempt (disk.makeDirectories directory) (.outputDirectory directory)
  attempt (disk.writeText path text.toList) (.output path)
  printError (checkMark colours ++ " Wrote " ++ (Style.plain .cyan).paint colours path ++ "\n")

/-- Prints a report, or writes it into a directory. -/
def emit (disk : Disk m) (o : AuditOptions) (report : AuditReport) (outcome : Option FixOutcome)
    (colours : Bool) : CommandM m Unit := do
  let writeJson (directory : String) : CommandM m Unit :=
    writeReport disk directory jsonFile (report.json outcome) colours
  let writeMarkdown (directory : String) : CommandM m Unit :=
    writeReport disk directory markdownFile (report.markdown outcome) colours
  match o.format, o.output with
  | .json, none => print (report.json outcome ++ "\n")
  | .markdown, none => print (report.markdown outcome)
  | .pretty, none => print (report.terminal outcome colours)
  | .json, some directory => writeJson directory
  | .markdown, some directory => writeMarkdown directory
  | .both, directory =>
    writeJson (directory.getD ".")
    writeMarkdown (directory.getD ".")
  | .pretty, some directory =>
    print (report.terminal outcome colours)
    writeJson directory
    writeMarkdown directory

/-- The code with which an audit ends. -/
def auditCode (failOnFindings : Bool) (findings : Findings) : Nat :=
  if findings.hasCritical || (failOnFindings && !findings.isEmpty) then 1 else 0

def runAudit (disk : Disk m) (terminal : TerminalSettings) (o : AuditOptions) : CommandM m Nat := do
  let colours := !o.noColour && !terminal.refused && terminal.colours
  let config ← settings disk o colours
  let report ← attempt (Audit.run disk ⟨o.html, o.scripts, config⟩) .audit
  let outcome ←
    if o.fix then some <$> applyFixes disk o report colours else pure none
  emit disk o report outcome colours
  return auditCode o.failOnFindings report.findings

/-! ### The command `init` -/

def runInit (disk : Disk m) (terminal : TerminalSettings) (force : Bool) : CommandM m Nat := do
  let path := Path.join (← (disk.workingDirectory : m String)) Config.fileName
  if !force then
    if ← (disk.isPresent path : m Bool) then throw .configExists
  attempt (disk.writeText path Config.template.toList) .configUnwritable
  let colours := terminal.colours
  print (checkMark colours ++ " Created " ++ (Style.plain .cyan).paint colours path ++
    " configuration file\n")
  return 0

/-! ### The command `explain` -/

/-- The lines of a text; an empty one behind the last line feed does not count. -/
def lines (text : String) : List String :=
  let pieces := (Text.splitAt '\n' text.toList).map String.ofList
  if pieces.getLast? == some "" then pieces.dropLast else pieces

def explanation (rule : Check.Rule) (isEnabled colours : Bool) : String :=
  let label (name : String) : String := (Style.plain .cyan).paint colours name
  let severity := rule.category.severity
  let examples := match rule.examples with
    | none => []
    | some text => ["", "  " ++ label "Examples" ++ ":"] ++ (lines text).map ("    " ++ ·)
  let status :=
    if isEnabled then (Style.plain .green).paint colours "enabled"
    else (Style.plain .red).paint colours "disabled"
  String.join (([
    "",
    Style.bold.paint colours ("Check " ++ rule.id),
    "",
    "  " ++ label "Name" ++ ": " ++ rule.name,
    "  " ++ label "Description" ++ ": " ++ rule.description,
    "  " ++ label "Category" ++ ": " ++ rule.category.title,
    "  " ++ label "Severity" ++ ": " ++
      (Style.plain (severity.colour)).paint colours severity.name] ++ examples ++
    ["", "  " ++ label "Status" ++ ": " ++ status, ""]).map (· ++ "\n"))

def unknownCheck (registry : Check.Registry) (name : String) (colours : Bool) : String :=
  (Style.strong .red).paint colours "error:" ++ s!" unknown check '{name}'\n\n" ++
    "Available checks:\n" ++
    String.join (registry.rules.map fun rule => s!"  {rule.id} ({rule.name})\n")

def runExplain (disk : Disk m) (terminal : TerminalSettings) (name : String) : CommandM m Nat := do
  let directory ← (disk.workingDirectory : m String)
  let loaded ← (Config.loadOrDefault disk directory : m LoadedConfig)
  let registry := ({} : Check.Registry).configure loaded.config.checks
  let colours := terminal.colours
  match (registry.ruleById? name).or (registry.ruleByName? name) with
  | some rule =>
    print (explanation rule (registry.isCheckEnabled name) colours)
    return 0
  | none =>
    printError (unknownCheck registry name colours)
    return 1

/-! ### All commands -/

def usage : String :=
  "Usage: wirecheck [OPTIONS] <COMMAND>\n\nCommands:\n" ++
    "  audit    Cross-check one HTML file against a script directory\n" ++
    "  init     Write a default configuration file\n" ++
    "  explain  Describe one check\n"

def execute (disk : Disk m) (terminal : TerminalSettings) : Command → CommandM m Nat
  | .audit options => runAudit disk terminal options
  | .init force => runInit disk terminal force
  | .explain check => runExplain disk terminal check
  | .help => do
    print usage
    return 0
  | .version => do
    print s!"wirecheck {AuditReport.programVersion}\n"
    return 0

/-- Runs a command. An error is printed behind everything else. -/
def run (disk : Disk m) (terminal : TerminalSettings) (command : Command) : m CommandResult := do
  let (result, transcript) ← ((execute disk terminal command).run).run {}
  match result with
  | .ok code => return { transcript with code := code }
  | .error e => return { transcript with stderr := transcript.stderr ++ e.text, code := e.code }

/-- Runs a command line. One that cannot be read ends with code 2. -/
def runArguments (disk : Disk m) (terminal : TerminalSettings) (args : List String) :
    m CommandResult :=
  match ofArguments args with
  | .ok command => run disk terminal command
  | .error (.answered command) => run disk terminal command
  | .error .usage => pure { stderr := usage, code := 2 }

end Command

end PageWiring
