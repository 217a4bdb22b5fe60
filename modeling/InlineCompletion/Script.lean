import InlineCompletion.Text.Blank
import InlineCompletion.Text.Lines

/-!
# Scripts

A script is a text with a step on each line.  Lines that are blank and lines
whose first character other than a blank is `#` are passed over; every other
line must be a step, and the first that is not is reported by its number, where
all lines are counted from one.

What a step is does not matter here: reading is over any function that reads a
single line.
-/

namespace InlineCompletion.Script

/-- A line that is not a step. -/
structure LineError where
  /-- The line's number, counted from one. -/
  line : Nat
  deriving DecidableEq, Repr

/-- The wording of the error. -/
def LineError.message (e : LineError) : String :=
  "line " ++ toString e.line ++ ": not a step"

/-- Whether a line is meant to be a step. -/
def isContent (line : String) : Bool :=
  match Text.trimStart line.toList with
  | [] => false
  | c :: _ => c != '#'

/-- Reads lines of which the first has number `number`. -/
def readFrom {α : Type} (step? : String → Option α) (number : Nat) :
    List String → Except LineError (List α)
  | [] => .ok []
  | line :: rest =>
      if isContent line then
        match step? line with
        | none => .error ⟨number⟩
        | some a =>
            match readFrom step? (number + 1) rest with
            | .error e => .error e
            | .ok as => .ok (a :: as)
      else readFrom step? (number + 1) rest

/-- Reads a script. -/
def read {α : Type} (step? : String → Option α) (text : String) : Except LineError (List α) :=
  readFrom step? 1 (Text.lines text)

@[simp] theorem readFrom_nil {α : Type} (step? : String → Option α) (number : Nat) :
    readFrom step? number [] = .ok [] := rfl

/-- A line that is passed over only counts. -/
theorem readFrom_cons_of_not_content {α : Type} (step? : String → Option α) (number : Nat)
    {line : String} (rest : List String) (h : isContent line = false) :
    readFrom step? number (line :: rest) = readFrom step? (number + 1) rest := by
  simp [readFrom, h]

end InlineCompletion.Script
