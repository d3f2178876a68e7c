import PageWiring.Glob

/-!
What can go wrong, as causes. The wording of each cause is given once, by `message`.
-/
namespace PageWiring

/-- Why an operation on a file failed. -/
inductive FileError where
  | notFound
  | permissionDenied
  | alreadyExists
  | notADirectory
  | isADirectory
  | nameTooLong
  | tooManyLinks
  | nulInName
  | notRegular
  | notUtf8
  | other (reason : String)
  deriving DecidableEq, Repr

def FileError.message : FileError → String
  | .notFound => "No such file or directory (os error 2)"
  | .permissionDenied => "Permission denied (os error 13)"
  | .alreadyExists => "File exists (os error 17)"
  | .notADirectory => "Not a directory (os error 20)"
  | .isADirectory => "Is a directory (os error 21)"
  | .nameTooLong => "File name too long (os error 36)"
  | .tooManyLinks => "Too many levels of symbolic links (os error 40)"
  | .nulInName => "file name contained an unexpected NUL byte"
  | .notRegular => "the source path is neither a regular file nor a symlink to a regular file"
  | .notUtf8 => "stream did not contain valid UTF-8"
  | .other reason => reason

/-- Why an argument cannot be used. -/
inductive ArgumentError where
  | emptyEventType (line : Nat)
  | missingTagName (line : Nat)
  | lineOutsideDocument (what : String) (line : Nat) (lineCount : Nat)
  | indexSize (indexed : Nat) (listed : Nat)
  | indexEntry (name : String)
  | directoryAsPage (path : String)
  deriving DecidableEq, Repr

def ArgumentError.message : ArgumentError → String
  | .emptyEventType line => s!"event handler on line {line} has an empty event type"
  | .missingTagName line => s!"interactive element on line {line} has no tag name"
  | .lineOutsideDocument what line lineCount =>
    s!"{what} line {line} is outside the document (1..={lineCount})"
  | .indexSize indexed listed =>
    s!"function index holds {indexed} names but {listed} are listed"
  | .indexEntry name => s!"function index entry '{name}' does not point at its definition"
  | .directoryAsPage path => s!"'{path}' is a directory, expected an HTML file"

/-- Why a configuration was refused. -/
inductive ConfigError where
  | unreadable (path : String) (cause : FileError)
  | malformed (path : String)
  | noExtensions
  | badExtension (extension : String)
  | badGlob (pattern : String) (fault : GlobFault)
  deriving DecidableEq, Repr

def ConfigError.message : ConfigError → String
  | .unreadable path cause => s!"Failed to read config file '{path}': " ++ cause.message
  | .malformed path => s!"Invalid TOML in '{path}': <toml error>"
  | .noExtensions => "Invalid value for 'extensions': at least one extension is required"
  | .badExtension extension =>
    s!"Invalid value for 'extensions': '{extension}' must be a bare extension such as \"js\""
  | .badGlob pattern fault => "Invalid value for 'exclude': " ++ fault.message pattern

/-- Why an audit stopped. -/
inductive AuditError where
  | inputNotFound (path : String)
  | invalidArgument (cause : ArgumentError)
  | unreadable (path : String) (cause : FileError)
  | config (cause : ConfigError)
  deriving DecidableEq, Repr

def AuditError.message : AuditError → String
  | .inputNotFound path => s!"Input not found: '{path}'"
  | .invalidArgument cause => "Invalid argument: " ++ cause.message
  | .unreadable path cause => s!"Failed to read '{path}': " ++ cause.message
  | .config cause => cause.message

end PageWiring
