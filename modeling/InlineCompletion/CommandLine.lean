import InlineCompletion.CommandLine.Arguments
import InlineCompletion.Files.SettingsFile
import InlineCompletion.Playback.Report

/-!
# The program

The program plays a script and writes the record of it.  It runs over any
`FileSystem`; what it would write to the terminal is a list of lines for the
standard output and a list of messages for the standard error, and with the exit
code these are its `Outcome`.  A message shows paths as they are, so it may have
line feeds inside.

A directory for logs is prepared before anything else, and a failure names it
so that the user knows where to look.  A failure to prepare it is none.
-/

namespace InlineCompletion

/-- Why the program fails. -/
inductive ProgramError
  /-- The arguments do not have the right form. -/
  | usage
  | io (source : FileError)
  | script (source : Script.LineError)
  | settings (source : SettingsError)
  | connection (source : ConnectionError)
  deriving DecidableEq, Repr

/-- The wording of a failure. -/
def ProgramError.message : ProgramError → String
  | usage => Arguments.usage
  | io source => source.message
  | script source => "script " ++ source.message
  | settings source => source.message
  | connection source => source.message

/-- What the program leaves behind on the terminal. -/
structure Outcome where
  exitCode : Nat
  /-- The lines of the standard output. -/
  output : List String
  /-- The messages on the standard error, each ended by a line feed. -/
  errors : List String
  deriving DecidableEq, Repr

namespace CommandLine

variable {m : Type → Type} [Monad m]

/-- Prepares the usual directory for logs, which may be there already. -/
def prepareUsualLogs (fs : FileSystem m) (v : FolderVariables) : m (Option String) := do
  match v.logs? with
  | none => return none
  | some path =>
      if ← fs.isPresent path then return some path
      match ← fs.createDirectories path with
      | .ok _ => return some path
      | .error _ => return none

/-- Prepares a directory for logs: the usual one, else the temporary one, else
none. -/
def prepareLogs (fs : FileSystem m) (v : FolderVariables) : m (Option String) := do
  match ← prepareUsualLogs fs v with
  | some path => return some path
  | none =>
      match ← fs.createDirectories v.temporaryLogs with
      | .ok _ => return some v.temporaryLogs
      | .error _ => return none

/-- The settings to play with: those that the user names, else the usual ones. -/
def chooseSettings (fs : FileSystem m) (v : FolderVariables) (named : Option String) :
    m (Except ProgramError Settings) := do
  match named with
  | some path =>
      match ← SettingsFile.load fs path with
      | .ok settings => return .ok settings
      | .error e => return .error (.settings e)
  | none =>
      let _ ← SettingsFile.ensureUsual fs v
      return .ok (← SettingsFile.loadUsual fs v)

/-- The text of the script. -/
def readScriptText (fs : FileSystem m) (input : m (Except FileError String)) (script : String) :
    m (Except ProgramError String) := do
  let text ← if script = "-" then input else fs.read script
  match text with
  | .ok text => return .ok text
  | .error e => return .error (.io e)

/-- The lines of the record, and why the program fails if it does. -/
def playText (settings : Settings) (text : String) : List String × Option ProgramError :=
  match Step.readScript text with
  | .error e => ([], some (.script e))
  | .ok steps =>
      let record := Playback.play settings steps
      (record.lines.map Json.compact, record.failure.map .connection)

/-- Does what the arguments ask for. -/
def perform (fs : FileSystem m) (v : FolderVariables) (input : m (Except FileError String))
    (args : List String) : m (List String × Option ProgramError) := do
  match Arguments.parse args with
  | none => return ([], some .usage)
  | some arguments =>
      match ← chooseSettings fs v arguments.settings with
      | .error e => return ([], some e)
      | .ok settings =>
          match ← readScriptText fs input arguments.script with
          | .error e => return ([], some e)
          | .ok text => return playText settings text

/-- What is left on the terminal. -/
def outcomeOf (logs : Option String) (output : List String) :
    Option ProgramError → Outcome
  | none => ⟨0, output, []⟩
  | some .usage => ⟨2, output, [ProgramError.usage.message]⟩
  | some e =>
      ⟨1, output, ("whisperline: " ++ e.message) ::
        (logs.map fun path => "see logs in " ++ path).toList⟩

/-- **The program**, run with these arguments. -/
def run (fs : FileSystem m) (v : FolderVariables) (input : m (Except FileError String))
    (args : List String) : m Outcome := do
  let logs ← prepareLogs fs v
  let (output, failure) ← perform fs v input args
  return outcomeOf logs output failure

end CommandLine

end InlineCompletion
