/-!
# Files, as far as they are needed

The program looks whether a path leads anywhere, reads and writes texts, and
creates directories.  `FileSystem m` has these four operations in a monad `m`,
and everything that works with files is written over it, so that the same
program runs on a disk and on a tree in memory.

Paths are texts with `/` between their parts.
-/

namespace InlineCompletion

/-- Why something cannot be done with a path. -/
inductive FileError
  | notFound
  | alreadyExists
  | notADirectory
  | isADirectory
  /-- The path or a name in it has more bytes than the system allows. -/
  | nameTooLong
  /-- The bytes of the file are no text. -/
  | notText
  /-- Any other reason, in the words of the system. -/
  | other (reason : String)
  deriving DecidableEq, Repr

/-- The wording of a failure. -/
def FileError.message : FileError → String
  | notFound => "No such file or directory (os error 2)"
  | alreadyExists => "File exists (os error 17)"
  | notADirectory => "Not a directory (os error 20)"
  | isADirectory => "Is a directory (os error 21)"
  | nameTooLong => "File name too long (os error 36)"
  | notText => "stream did not contain valid UTF-8"
  | other reason => reason

/-- What a program can do with files. -/
structure FileSystem (m : Type → Type) where
  /-- Whether a path leads to a file or a directory. -/
  isPresent : String → m Bool
  /-- The text of a file. -/
  read : String → m (Except FileError String)
  /-- Makes a text the content of a file, which is created if there is none. -/
  write : String → String → m (Except FileError Unit)
  /-- Creates a directory, and those on the way to it, of which some may stay when it fails. -/
  createDirectories : String → m (Except FileError Unit)

namespace Path

/-- `right` inside of `left`: a slash comes between them unless `left` is empty or
ends in one. -/
def join (left right : String) : String :=
  if left.isEmpty || left.toList.getLast? == some '/' then left ++ right
  else left ++ "/" ++ right

/-- The parts of a path, those between two slashes included that are empty. -/
def splitSlashes : List Char → List (List Char)
  | [] => [[]]
  | c :: cs =>
      if c = '/' then [] :: splitSlashes cs
      else
        match splitSlashes cs with
        | [] => [[c]]
        | part :: rest => (c :: part) :: rest

/-- The parts of a path. -/
def parts (path : String) : List String := (splitSlashes path.toList).map String.ofList

/-- Whether a path begins at the root. -/
def isAbsolute (path : String) : Bool := path.toList.head? == some '/'

/-- The directory that a path is in: the path without its last part, none when
the path has no part. -/
def parent? (path : String) : Option String :=
  let slash (c : Char) : Bool := c == '/'
  let trimmed := path.toList.reverse.dropWhile slash
  if trimmed.isEmpty then none
  else
    let above := trimmed.dropWhile (!slash ·)
    let directory := (above.dropWhile slash).reverse
    some (if directory.isEmpty && !above.isEmpty then "/" else String.ofList directory)

end Path

end InlineCompletion
