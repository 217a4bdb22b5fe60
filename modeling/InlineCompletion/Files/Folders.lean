import InlineCompletion.Files

/-!
# Where a user's files are

Which directories belong to a user is told by variables.  A variable that is
set to an empty text is set; the path is then relative to where the program
runs.  Without any of the variables there is no such directory.
-/

namespace InlineCompletion

/-- What is known of a user's directories. -/
structure FolderVariables where
  /-- The home directory. -/
  home : Option String
  /-- Where caches are, if not in their usual place below the home directory. -/
  cacheHome : Option String
  /-- Where data are, if not in their usual place below the home directory. -/
  dataHome : Option String
  /-- Where temporary files are. -/
  temporary : String
  deriving DecidableEq, Repr

namespace FolderVariables

/-- The name of the program's own directory. -/
def programName : String := "whisperline"

/-- Where caches are. -/
def cache? (v : FolderVariables) : Option String :=
  match v.cacheHome with
  | some path => some path
  | none => v.home.map fun home => Path.join home ".cache"

/-- Where the program keeps its data. -/
def data? (v : FolderVariables) : Option String :=
  match v.dataHome with
  | some path => some (Path.join path programName)
  | none => v.home.map fun home => Path.join (Path.join home ".local/share") programName

/-- Where the program keeps its logs. -/
def logs? (v : FolderVariables) : Option String := v.data?.map fun path => Path.join path "logs"

/-- Where the program keeps its logs when there is no better place. -/
def temporaryLogs (v : FolderVariables) : String :=
  Path.join (Path.join v.temporary programName) "logs"

/-- Where the settings are. -/
def settingsFile? (v : FolderVariables) : Option String :=
  v.cache?.map fun path => Path.join (Path.join path ("." ++ programName)) "settings.json"

end FolderVariables

end InlineCompletion
