import InlineCompletion.Connection
import InlineCompletion.Document
import InlineCompletion.Request
import InlineCompletion.Session.Offering
import InlineCompletion.Settings
import InlineCompletion.Suggestion
import InlineCompletion.Time

/-!
# Events and effects

The controller is told what happens by `Event`s and says what is to be done by
`Effect`s.  Nothing else passes between it and its surroundings: an event
carries every fact the controller needs, the time included, and an effect
carries every fact that is needed to carry it out.
-/

namespace InlineCompletion

/-- How a request ended. -/
inductive RequestOutcome
  | suggestions (response : List Suggestion)
  /-- The request failed, for the stated reason. -/
  | failed (reason : String)
  deriving DecidableEq, Repr

/-- Something that happened. -/
inductive Event
  | documentChanged (change : Change) (now : Instant)
  | selectionMoved (selection : Selection)
  /-- Another editor got the input focus, or none has it. -/
  | editorFocused (editor : Option FocusedEditor)
  | windowFocused (focused : Bool)
  | documentClosed (document : DocumentId)
  /-- Suggestions are asked for by hand. -/
  | invoked (snapshot : Snapshot)
  | tick (now : Instant)
  | answered (seq : Nat) (outcome : RequestOutcome)
  | navigated (forward : Bool)
  | accepted
  /-- The editor has been asked to insert the accepted suggestion. -/
  | insertionHandedOver
  | rejected
  | connectionChanged (status : ConnectionStatus)
  | settingsChanged (settings : Settings)
  | shutDown
  deriving DecidableEq, Repr

/-- Something to be done. -/
inductive Effect
  | requestCompletion (seq : Nat) (request : Request)
  | insertText (insert : Insertion)
  | recordDecision (decision : Decision)
  | prompt (prompt : Prompt)
  deriving DecidableEq, Repr

end InlineCompletion
