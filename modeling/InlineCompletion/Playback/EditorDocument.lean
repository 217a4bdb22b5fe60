import InlineCompletion.Editor
import InlineCompletion.Event
import InlineCompletion.Text

/-!
# The open document

The editor of a playback has at most one document open, with one cursor in it.
Each edit is answered together with the event that an editor would report, and
the event shows the document as it is after the edit.
-/

namespace InlineCompletion.Playback

/-- A document that is open in the editor. -/
structure EditorDocument where
  id : DocumentId
  languageId : String
  text : String
  cursor : Nat
  deriving DecidableEq, Repr

namespace EditorDocument

/-- The last part of a path: what follows the last slash. -/
def fileNameOf (path : String) : String :=
  String.ofList (path.toList.reverse.takeWhile (· != '/')).reverse

/-- The document as the controller is shown it. -/
def snapshot (d : EditorDocument) : Snapshot :=
  ⟨d.id, d.languageId, fileNameOf d.id.text, d.text, d.cursor⟩

/-- The editor that shows the document. -/
def activeEditor (d : EditorDocument) : FocusedEditor := ⟨d.id, d.languageId⟩

/-- The report of a single edit that led to `d`. -/
def report (d : EditorDocument) (edit : Edit) (now : Instant) : Event :=
  .documentChanged ⟨d.snapshot, [edit], .user⟩ now

/-- The report of where the cursor is. -/
def selection (d : EditorDocument) (kind : SelectionCause) : Event :=
  .selectionMoved ⟨d.id, d.cursor, kind⟩

/-- Puts `piece` in at the cursor, and the cursor behind it. -/
def insert (d : EditorDocument) (piece : String) (now : Instant) : EditorDocument × Event :=
  let d' := { d with
    text := Text.insert d.cursor piece d.text
    cursor := d.cursor + piece.length }
  (d', d'.report (.insertion d.cursor piece) now)

/-- Takes out up to `count` characters before the cursor; no report when there
are none. -/
def backspace (d : EditorDocument) (count : Nat) (now : Instant) :
    EditorDocument × Option Event :=
  let count := min count d.cursor
  if count = 0 then (d, none)
  else
    let start := d.cursor - count
    let d' := { d with text := Text.remove start count d.text, cursor := start }
    (d', some (d'.report (.deletion start count) now))

/-- Puts the cursor at an offset, or at the end of the text if that comes first. -/
def moveCursor (d : EditorDocument) (offset : Nat) : EditorDocument :=
  { d with cursor := min offset d.text.length }

/-- A document as it is opened, with the cursor at its end unless said otherwise. -/
def ofText (uri language text : String) (cursor : Option Nat) : EditorDocument :=
  ⟨⟨uri⟩, language, text, min (cursor.getD text.length) text.length⟩

/-- Inserts an accepted suggestion: the cursor goes to its place, and the editor
reports the edit and then the cursor behind it. -/
def insertAccepted (open? : Option EditorDocument) (i : Insertion) (now : Instant) :
    Except EditorError (EditorDocument × List Event) :=
  match open? with
  | none => .error (.documentNotOpen i.document)
  | some d =>
      if d.id ≠ i.document then .error (.documentNotOpen i.document)
      else if d.text.length < i.offset then .error (.outOfBounds i.document i.offset)
      else
        let (d, change) := ({ d with cursor := i.offset } : EditorDocument).insert i.text now
        .ok (d, [change, d.selection .command])

@[simp] theorem insert_text (d : EditorDocument) (piece : String) (now : Instant) :
    (d.insert piece now).1.text = Text.insert d.cursor piece d.text := rfl

@[simp] theorem insert_cursor (d : EditorDocument) (piece : String) (now : Instant) :
    (d.insert piece now).1.cursor = d.cursor + piece.length := rfl

end EditorDocument

end InlineCompletion.Playback
