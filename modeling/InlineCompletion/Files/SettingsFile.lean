import InlineCompletion.Files.Folders
import InlineCompletion.Wire

/-!
# The settings file

The settings have a usual place, where a file with the standard settings is
created when there is none.  A file that is named by the user has to be there
and to be right.  The one in the usual place does not: whatever is wrong with
it, the standard settings hold.
-/

namespace InlineCompletion

/-- Why there are no settings. -/
inductive SettingsError
  /-- There is no usual place. -/
  | noSettingsDirectory
  | io (path : String) (source : FileError)
  /-- The text at this path is not a record of settings. -/
  | malformed (path : String)
  deriving DecidableEq, Repr

/-- The wording of a failure. -/
def SettingsError.message : SettingsError → String
  | noSettingsDirectory => "cannot determine settings directory"
  | io path source => "failed to access " ++ path ++ ": " ++ source.message
  | malformed path => "invalid settings in " ++ path ++ ": not a record of settings"

namespace SettingsFile

variable {m : Type → Type} [Monad m]

/-- The settings in the file at `path`. -/
def load (fs : FileSystem m) (path : String) : m (Except SettingsError Settings) := do
  match ← fs.read path with
  | .error e => return .error (.io path e)
  | .ok text =>
      match Settings.ofText? text with
      | some settings => return .ok settings
      | none => return .error (.malformed path)

/-- Writes the standard settings to `path` if nothing is there. -/
def writeStandard (fs : FileSystem m) (path : String) : m (Except SettingsError Unit) := do
  if ← fs.isPresent path then return .ok ()
  match ← fs.write path Settings.standard.toText with
  | .error e => return .error (.io path e)
  | .ok _ => return .ok ()

/-- Creates the directory of `path` if it is missing. -/
def ensureDirectory (fs : FileSystem m) (path : String) : m (Except SettingsError Unit) := do
  match Path.parent? path with
  | none => return .ok ()
  | some directory =>
      if ← fs.isPresent directory then return .ok ()
      match ← fs.createDirectories directory with
      | .error e => return .error (.io path e)
      | .ok _ => return .ok ()

/-- Sees to it that there is something at `path`: the standard settings, if there
was nothing. -/
def ensureAt (fs : FileSystem m) (path : String) : m (Except SettingsError Unit) := do
  match ← ensureDirectory fs path with
  | .error e => return .error e
  | .ok _ => writeStandard fs path

/-- Sees to it that there is something at the usual place, and says where that is. -/
def ensureUsual (fs : FileSystem m) (v : FolderVariables) : m (Except SettingsError String) := do
  match v.settingsFile? with
  | none => return .error .noSettingsDirectory
  | some path =>
      match ← ensureAt fs path with
      | .error e => return .error e
      | .ok _ => return .ok path

/-- The settings at the usual place, the standard ones if there are none or they
cannot be read. -/
def loadUsual (fs : FileSystem m) (v : FolderVariables) : m Settings := do
  match v.settingsFile? with
  | none => return .standard
  | some path =>
      match ← load fs path with
      | .ok settings => return settings
      | .error _ => return .standard

end SettingsFile

end InlineCompletion
