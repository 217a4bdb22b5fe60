import InlineCompletion.Files

/-!
# A tree of files in memory

A tree is a list of places, each a list of names from the root on, with what is
there.  The root is always a directory.  A path is followed part by part: an
empty part and `.` stay where they are, `..` goes up, a name goes down, and
nothing but the last part may be missing.

## Which failure is reported

A path that is too long as a whole is refused before it is looked at.  All other
failures are found on the way, so the first part at fault decides: a name that
is too long is no fault behind a directory that is missing.

## What a failure leaves behind

Directories are created from the outermost on.  When one of them cannot be
created, those before it stay, so `createAlong` answers a tree also when it fails.
-/

namespace InlineCompletion

/-- What is at a place of the tree. -/
inductive FileNode
  | directory
  /-- A directory in which nothing can be created. -/
  | closedDirectory
  /-- A file with its text, none when its bytes are no text. -/
  | file (text : Option String)
  /-- A device that is always empty and keeps nothing of what is written to it. -/
  | sink
  deriving DecidableEq, Repr

/-- Whether names can be looked up below a node. -/
def FileNode.isDirectory : FileNode → Bool
  | directory | closedDirectory => true
  | file _ | sink => false

/-- A tree of files. -/
structure FileTree where
  /-- The places below the root. -/
  nodes : List (List String × FileNode)
  deriving DecidableEq, Repr

/-- Where a path leads. -/
inductive FileTarget
  | found (place : List String) (node : FileNode)
  /-- Nowhere, but the place is in a directory that there is. -/
  | missing (place : List String)
  deriving DecidableEq, Repr

namespace FileTree

/-- How many bytes a name may have. -/
def maxNameBytes : Nat := 255

/-- How many bytes a path may have. -/
def maxPathBytes : Nat := 4095

/-- A tree with nothing in it. -/
def empty : FileTree := ⟨[]⟩

/-- What is at a place. -/
def nodeAt? (t : FileTree) (place : List String) : Option FileNode :=
  if place.isEmpty then some .directory
  else (t.nodes.find? fun e => e.1 == place).map (·.2)

/-- The tree with nothing at a place. -/
def erase (t : FileTree) (place : List String) : FileTree :=
  ⟨t.nodes.filter fun e => e.1 != place⟩

/-- Puts something at a place. -/
def put (t : FileTree) (place : List String) (node : FileNode) : FileTree :=
  ⟨(t.erase place).nodes ++ [(place, node)]⟩

/-- Whether something can be created in the directory at a place. -/
def isOpen (t : FileTree) (place : List String) : Bool := t.nodeAt? place == some .directory

/-- Follows the parts of a path from a directory on. -/
def follow (t : FileTree) (place : List String) : List String → Except FileError FileTarget
  | [] => .ok (.found place .directory)
  | part :: rest =>
      if part = "" ∨ part = "." then t.follow place rest
      else if part = ".." then t.follow place.dropLast rest
      else if maxNameBytes < part.utf8ByteSize then .error .nameTooLong
      else
        match t.nodeAt? (place ++ [part]) with
        | some node =>
            if node.isDirectory then t.follow (place ++ [part]) rest
            else if rest.isEmpty then .ok (.found (place ++ [part]) node)
            else .error .notADirectory
        | none =>
            if rest.isEmpty && t.isOpen place then .ok (.missing (place ++ [part]))
            else .error .notFound

/-- Where a path leads that is given in the directory `here`. -/
def locate (t : FileTree) (here : List String) (path : String) : Except FileError FileTarget :=
  if path.isEmpty then .error .notFound
  else if maxPathBytes < path.utf8ByteSize then .error .nameTooLong
  else t.follow (if Path.isAbsolute path then [] else here) (Path.parts path)

/-- Whether a path leads anywhere. -/
def isPresent (t : FileTree) (here : List String) (path : String) : Bool :=
  match t.locate here path with
  | .ok (.found ..) => true
  | _ => false

/-- The text of a file. -/
def read (t : FileTree) (here : List String) (path : String) : Except FileError String :=
  match t.locate here path with
  | .error e => .error e
  | .ok (.missing _) => .error .notFound
  | .ok (.found _ .directory) => .error .isADirectory
  | .ok (.found _ .closedDirectory) => .error .isADirectory
  | .ok (.found _ .sink) => .ok ""
  | .ok (.found _ (.file none)) => .error .notText
  | .ok (.found _ (.file (some text))) => .ok text

/-- Makes `text` the content of a file. -/
def write (t : FileTree) (here : List String) (path : String) (text : Option String) :
    Except FileError FileTree :=
  match t.locate here path with
  | .error e => .error e
  | .ok (.found _ .directory) => .error .isADirectory
  | .ok (.found _ .closedDirectory) => .error .isADirectory
  | .ok (.found _ .sink) => .ok t
  | .ok (.found place (.file _)) => .ok (t.put place (.file text))
  | .ok (.missing place) => .ok (t.put place (.file text))

/-- Takes a file away; a directory stays. -/
def remove (t : FileTree) (here : List String) (path : String) : Except FileError FileTree :=
  match t.locate here path with
  | .error e => .error e
  | .ok (.missing _) => .error .notFound
  | .ok (.found place node) =>
      if node.isDirectory then .error .isADirectory else .ok (t.erase place)

/-- Creates the directories that are missing on the way along the parts, as far
as that goes. -/
def createAlong (t : FileTree) (place : List String) :
    List String → Except FileError Unit × FileTree
  | [] => (.ok (), t)
  | part :: rest =>
      if part = "" ∨ part = "." then t.createAlong place rest
      else if part = ".." then t.createAlong place.dropLast rest
      else if maxNameBytes < part.utf8ByteSize then (.error .nameTooLong, t)
      else
        match t.nodeAt? (place ++ [part]) with
        | some node =>
            if node.isDirectory then t.createAlong (place ++ [part]) rest
            else (.error (if rest.isEmpty then .alreadyExists else .notADirectory), t)
        | none =>
            if t.isOpen place then
              (t.put (place ++ [part]) .directory).createAlong (place ++ [part]) rest
            else (.error .notFound, t)

/-- Creates a directory, and those on the way to it. -/
def createDirectories (t : FileTree) (here : List String) (path : String) :
    Except FileError Unit × FileTree :=
  if maxPathBytes < path.utf8ByteSize then (.error .nameTooLong, t)
  else t.createAlong (if Path.isAbsolute path then [] else here) (Path.parts path)

/-- Takes over a changed tree, or keeps the tree and the reason why it did not change. -/
def commit (r : Except FileError FileTree) : StateM FileTree (Except FileError Unit) :=
  fun t =>
    match r with
    | .ok changed => (.ok (), changed)
    | .error e => (.error e, t)

/-- The tree as a file system, for a program that runs in the directory `here`. -/
def fileSystem (here : List String) : FileSystem (StateM FileTree) where
  isPresent path := fun t => (t.isPresent here path, t)
  read path := fun t => (t.read here path, t)
  write path text := fun t => commit (t.write here path (some text)) t
  createDirectories path := fun t => t.createDirectories here path

@[simp] theorem nodeAt?_nil (t : FileTree) : t.nodeAt? [] = some .directory := rfl

end FileTree

end InlineCompletion
