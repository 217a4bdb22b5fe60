import InlineCompletion.Connection
import InlineCompletion.Session.Offering

/-!
# What is asked of the editor

Two things are asked of an editor: to insert the rest of an accepted suggestion,
and to show a prompt.  An editor may refuse to insert, and then says why; a
prompt is always shown.
-/

namespace InlineCompletion

/-- Something the editor is asked to do. -/
inductive EditorCall
  | insert (insert : Insertion)
  | prompt (prompt : Prompt)
  deriving DecidableEq, Repr

/-- Why an editor does not insert. -/
inductive EditorError
  | documentNotOpen (document : DocumentId)
  | outOfBounds (document : DocumentId) (offset : Nat)
  | rejected (reason : String)
  deriving DecidableEq, Repr

/-- The wording of a failure. -/
def EditorError.message : EditorError → String
  | documentNotOpen document => "document not open: " ++ document.text
  | outOfBounds document offset =>
      "offset " ++ toString offset ++ " out of bounds for " ++ document.text
  | rejected reason => "edit rejected: " ++ reason

end InlineCompletion
