import Std.Time.DateTime.Timestamp
import PageWiring.Command

/-!
The entry of the program, and the files of the machine on which it runs.
-/
namespace PageWiring

/-- The cause of a failed operation, by the number that the system gives it. -/
def FileError.ofCode (code : UInt32) (reason : String) : FileError :=
  match code.toNat with
  | 2 => .notFound
  | 13 => .permissionDenied
  | 17 => .alreadyExists
  | 20 => .notADirectory
  | 21 => .isADirectory
  | 36 => .nameTooLong
  | 40 => .tooManyLinks
  | n => .other s!"{reason} (os error {n})"

def FileError.ofSystem : IO.Error → FileError
  | .alreadyExists _ code reason => .ofCode code reason
  | .otherError code reason => .ofCode code reason
  | .resourceBusy code reason => .ofCode code reason
  | .resourceVanished code reason => .ofCode code reason
  | .unsupportedOperation code reason => .ofCode code reason
  | .hardwareFault code reason => .ofCode code reason
  | .unsatisfiedConstraints code reason => .ofCode code reason
  | .illegalOperation code reason => .ofCode code reason
  | .protocolError code reason => .ofCode code reason
  | .timeExpired code reason => .ofCode code reason
  | .interrupted _ code reason => .ofCode code reason
  | .noFileOrDirectory _ code reason => .ofCode code reason
  | .invalidArgument _ code reason => .ofCode code reason
  | .permissionDenied _ code reason => .ofCode code reason
  | .resourceExhausted _ code reason => .ofCode code reason
  | .inappropriateType _ code reason => .ofCode code reason
  | .noSuchThing _ code reason => .ofCode code reason
  | .unexpectedEof => .other "unexpected end of file"
  | .userError reason => .other reason

namespace Machine

def attempt (action : IO α) : IO (Except FileError α) := do
  try return .ok (← action)
  catch e => return .error (.ofSystem e)

def isFile (path : String) : IO Bool := do
  try return (← (← IO.FS.realPath path).metadata).type matches .file
  catch _ => return false

def isDirectory (path : String) : IO Bool := do
  try (← IO.FS.realPath path).isDir
  catch _ => return false

def isPresent (path : String) : IO Bool := do
  try (← IO.FS.realPath path).pathExists
  catch _ => return false

/-- What is below a directory. Entries that cannot be read are as if they were not there. -/
partial def listing (wanted : FileName → Bool) (path : String) : IO Listing := do
  try
    let mut entries : Array (FileName × Listing) := #[]
    for entry in ← (← IO.FS.realPath path).readDir do
      match (← entry.path.symlinkMetadata).type with
      | .file => entries := entries.push (entry.fileName, .file)
      | .dir =>
        if wanted entry.fileName then
          entries := entries.push (entry.fileName, ← listing wanted entry.path.toString)
      | _ => entries := entries.push (entry.fileName, .other)
    return .directory entries.toList
  catch _ => return if ← isFile path then .file else .other

partial def firstAbsent (path : Nat → String) (n : Nat) : IO Nat := do
  if ← isPresent (path n) then firstAbsent path (n + 1) else return n

def copy (source target : String) : IO (Except FileError Unit) := do
  match ← attempt (IO.FS.readBinFile source) with
  | .error .isADirectory => return .error .notRegular
  | .error e => return .error e
  | .ok bytes => attempt (IO.FS.writeBinFile target bytes)

def disk : Disk IO where
  workingDirectory := do return (← IO.currentDir).toString
  now := do return (← Std.Time.Timestamp.now).toMillisecondsSinceUnixEpoch.val.toNat
  isPresent := isPresent
  isFile := isFile
  isDirectory := isDirectory
  read path := attempt do return (← IO.FS.readBinFile path.shown).toList
  write path bytes := attempt (IO.FS.writeBinFile path ⟨bytes.toArray⟩)
  copy := copy
  makeDirectories path := attempt (IO.FS.createDirAll path)
  listing := listing
  firstAbsent path := firstAbsent path 0

/-- Colours by the environment, and by whether the output is a terminal. -/
def terminal : IO TerminalSettings := do
  let isTerminal ← (← IO.getStdout).isTty
  return {
    forced := (← IO.getEnv "CLICOLOR_FORCE").any (· != "0")
    refused := (← IO.getEnv "NO_COLOR").isSome
    isTerminal := isTerminal && (← IO.getEnv "CLICOLOR").all (· != "0") }

def run (args : List String) : IO UInt32 := do
  let result ← Command.runArguments disk (← terminal) args
  (← IO.getStdout).putStr result.stdout
  (← IO.getStderr).putStr result.stderr
  return result.code.toUInt32

end Machine

end PageWiring

def main (args : List String) : IO UInt32 := PageWiring.Machine.run args
