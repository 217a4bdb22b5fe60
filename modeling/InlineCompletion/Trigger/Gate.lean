import InlineCompletion.Connection
import InlineCompletion.Document
import InlineCompletion.Language

/-!
# The gate before the trigger

Not every change of a document is typing, and not all typing may ask for
suggestions.  A `Gate` gathers what the rules look at; each rule is a function
that names the first reason against, or none.

The order of the reasons is part of the rule: a change of a document that is not
active is reported as that even when it is an undo too.
-/

namespace InlineCompletion

/-- A reason why a change does not start the wait for suggestions. -/
inductive Suppression
  | autoTriggerDisabled
  | inactiveDocument
  | undoRedo
  /-- The change comes from inserting an accepted suggestion. -/
  | selfInflicted
  | emptyDelta
  | deletionOnly
  | unsupportedLanguage
  | noConnection
  /-- The connection has expired or is not valid for another reason. -/
  | connectionExpired
  deriving DecidableEq, Repr

/-- What the rules look at. -/
structure Gate where
  autoTriggerEnabled : Bool
  activeDocument : Option DocumentId
  /-- Whether an accepted suggestion is being inserted. -/
  editing : Bool
  connection : ConnectionStatus
  languages : LanguageTable
  deriving DecidableEq, Repr

namespace Gate

/-- Why a change is not typing in the active document. -/
def reasonAgainstEdit (g : Gate) (c : Change) : Option Suppression :=
  if g.activeDocument ≠ some c.document then some .inactiveDocument
  else if g.editing then some .selfInflicted
  else if c.origin = .undoRedo then some .undoRedo
  else if c.changesNothing then some .emptyDelta
  else if c.onlyDeletes then some .deletionOnly
  else none

/-- Why no request may be sent over the connection. -/
def reasonAgainstConnection (g : Gate) : Option Suppression :=
  if !g.connection.connected then some .noConnection
  else if g.connection.expired || !g.connection.valid then some .connectionExpired
  else none

/-- Why typing in a document of this language may not ask for suggestions. -/
def reasonAgainstTrigger (g : Gate) (languageId : String) : Option Suppression :=
  if !g.languages.supports languageId then some .unsupportedLanguage
  else if !g.autoTriggerEnabled then some .autoTriggerDisabled
  else g.reasonAgainstConnection

/-- A request may be sent exactly over a valid connection that has not expired. -/
theorem reasonAgainstConnection_eq_none_iff (g : Gate) :
    g.reasonAgainstConnection = none ↔
      g.connection.connected = true ∧ g.connection.expired = false ∧
        g.connection.valid = true := by
  unfold reasonAgainstConnection
  cases g.connection.connected <;> cases g.connection.expired <;>
    cases g.connection.valid <;> simp

end Gate

end InlineCompletion
