import InlineCompletion.CommandLine

/-!
# The command line

The program on a real machine: the disk as a file system, the environment's
variables, and the terminal.  Nothing is decided here.
-/

namespace InlineCompletion

/-- The number that the system gave a failure, which is passed on with either sign. -/
def systemCode (e : IO.Error) : Option Nat :=
  let given : Option UInt32 := match e with
    | .alreadyExists _ code _ => some code
    | .otherError code _ => some code
    | .noFileOrDirectory _ code _ => some code
    | .invalidArgument _ code _ => some code
    | .permissionDenied _ code _ => some code
    | .resourceExhausted _ code _ => some code
    | .inappropriateType _ code _ => some code
    | .noSuchThing _ code _ => some code
    | _ => none
  given.map fun code => code.toInt32.toInt.natAbs

/-- A failure of the system as one of the library. -/
def FileError.ofSystem (e : IO.Error) : FileError :=
  match systemCode e with
  | some 2 => .notFound
  | some 13 => .other "Permission denied (os error 13)"
  | some 17 => .alreadyExists
  | some 20 => .notADirectory
  | some 21 => .isADirectory
  | some 30 => .other "Read-only file system (os error 30)"
  | some 36 => .nameTooLong
  | _ => .other (toString e)

/-- Does something and turns a failure into a value. -/
def attempting {α : Type} (action : IO α) : IO (Except FileError α) := do
  try
    return .ok (← action)
  catch e =>
    return .error (.ofSystem e)

/-- The text that bytes stand for. -/
def textOf (bytes : ByteArray) : Except FileError String :=
  match String.fromUTF8? bytes with
  | some text => .ok text
  | none => .error .notText

/-- The disk. -/
def disk : FileSystem IO where
  isPresent path := do
    try
      let _ ← IO.FS.realPath path
      return true
    catch _ =>
      return false
  read path := do
    return (← attempting (IO.FS.readBinFile path)).bind textOf
  write path text := attempting (IO.FS.writeFile path text)
  createDirectories path := do
    if path.isEmpty then return .ok ()
    attempting (IO.FS.createDirAll path)

/-- Everything that comes in on a stream. -/
partial def readToEnd (stream : IO.FS.Stream) (gathered : ByteArray) : IO ByteArray := do
  let bytes ← stream.read 65536
  if bytes.isEmpty then return gathered
  readToEnd stream (gathered ++ bytes)

/-- The text on the standard input. -/
def standardInput : IO (Except FileError String) := do
  return (← attempting (do readToEnd (← IO.getStdin) .empty)).bind textOf

/-- The directories of the user who runs the program. -/
def userFolders : IO FolderVariables := do
  return {
    home := ← IO.getEnv "HOME"
    cacheHome := ← IO.getEnv "XDG_CACHE_HOME"
    dataHome := ← IO.getEnv "XDG_DATA_HOME"
    temporary := (← IO.getEnv "TMPDIR").getD "/tmp" }

/-- Shows an outcome on the terminal. -/
def Outcome.display (o : Outcome) : IO Unit := do
  for line in o.output do
    IO.println line
  for line in o.errors do
    IO.eprintln line

end InlineCompletion

open InlineCompletion in
/-- Plays the script that the arguments name. -/
def main (args : List String) : IO UInt32 := do
  let outcome ← CommandLine.run disk (← userFolders) standardInput args
  outcome.display
  return outcome.exitCode.toUInt32
