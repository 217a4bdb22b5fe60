/-!
# Documents and what happens to them

A document is known by an identifier the editor chose.  The controller never
holds a document: it is told of each change together with a `Snapshot`, the
document's state right after it, and it is told of moved cursors and of the
editor that has the focus.

A change is a list of edits, each a removal and an insertion at one place.  Its
*shape* — whether anything is inserted, anything is only removed, or nothing
happens at all — decides whether it counts as typing.
-/

namespace InlineCompletion

/-- An editor's identifier of a document. -/
structure DocumentId where
  /-- The identifier's text. -/
  text : String
  deriving DecidableEq, Repr

/-- One place of a change: `removed` characters from `offset` on gave way to `text`. -/
structure Edit where
  offset : Nat
  removed : Nat
  text : String
  deriving DecidableEq, Repr

namespace Edit

/-- Putting `text` in at `offset`. -/
def insertion (offset : Nat) (text : String) : Edit := ⟨offset, 0, text⟩

/-- Taking `removed` characters out from `offset` on. -/
def deletion (offset removed : Nat) : Edit := ⟨offset, removed, ""⟩

/-- Nothing removed and nothing inserted. -/
def doesNothing (e : Edit) : Bool := e.removed == 0 && e.text == ""

/-- Something removed and nothing inserted. -/
def deletes (e : Edit) : Bool := e.removed != 0 && e.text == ""

end Edit

/-- How a change came about. -/
inductive ChangeCause
  | user
  /-- By undoing or redoing an earlier change. -/
  | undoRedo
  deriving DecidableEq, Repr

/-- How a selection was moved. -/
inductive SelectionCause
  | keyboard
  | mouse
  | command
  deriving DecidableEq, Repr

/-- A document's state right after a change, or when a completion is asked for by hand. -/
structure Snapshot where
  document : DocumentId
  /-- The editor's identifier of the document's language. -/
  languageId : String
  filename : String
  text : String
  /-- The cursor's offset; nothing stops a host from reporting one beyond the text. -/
  cursor : Nat
  deriving DecidableEq, Repr

/-- A change of a document. -/
structure Change where
  /-- The document right after the change. -/
  snapshot : Snapshot
  edits : List Edit
  origin : ChangeCause
  deriving DecidableEq, Repr

namespace Change

/-- The document that changed. -/
def document (c : Change) : DocumentId := c.snapshot.document

/-- No edit does anything. -/
def changesNothing (c : Change) : Bool := c.edits.all Edit.doesNothing

/-- Something is removed and nothing is inserted. -/
def onlyDeletes (c : Change) : Bool :=
  !c.changesNothing && c.edits.all fun e => e.doesNothing || e.deletes

/-- The place and the text of a change that only inserts, at one place. -/
def insertion? (c : Change) : Option (Nat × String) :=
  match c.edits with
  | [e] => if e.removed = 0 ∧ e.text ≠ "" then some (e.offset, e.text) else none
  | _ => none

end Change

/-- A moved selection. -/
structure Selection where
  document : DocumentId
  cursor : Nat
  kind : SelectionCause
  deriving DecidableEq, Repr

/-- The editor that has the input focus. -/
structure FocusedEditor where
  document : DocumentId
  languageId : String
  deriving DecidableEq, Repr

end InlineCompletion
