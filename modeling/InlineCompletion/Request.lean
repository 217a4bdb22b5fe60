import InlineCompletion.Document
import InlineCompletion.Language
import InlineCompletion.Settings
import InlineCompletion.Text
import InlineCompletion.Time

/-!
# Requests to the completion service

A request shows the service a window of the document on either side of the
cursor.  Each window is cut to the same number of characters and both meet at
the cursor, so that together they are one stretch of the text.
-/

namespace InlineCompletion

/-- What made a request. -/
inductive TriggerKind
  /-- Typing. -/
  | auto
  /-- A command of the user. -/
  | manual
  deriving DecidableEq, Repr

/-- The name of what made a request. -/
def TriggerKind.name : TriggerKind → String
  | auto => "auto"
  | manual => "manual"

/-- The part of a document that a request shows. -/
structure FileWindow where
  filename : String
  language : Language
  /-- The text before the cursor. -/
  leftContent : String
  /-- The text after the cursor. -/
  rightContent : String
  cursor : Nat
  deriving DecidableEq, Repr

/-- A request for suggestions. -/
structure Request where
  window : FileWindow
  maxResults : Nat
  trigger : TriggerKind
  /-- The time between the last two changes by the user, for a request made by typing. -/
  sinceLastModification : Option Duration
  deriving DecidableEq, Repr

/-- The windows around the cursor, each of at most `limit` characters.  A cursor
beyond the text counts as its end. -/
def FileWindow.ofSnapshot (s : Snapshot) (languages : LanguageTable) (limit : Nat) :
    FileWindow :=
  let length := s.text.length
  let cursor := min s.cursor length
  { filename := s.filename
    language := languages.requestLanguage s.languageId
    leftContent := Text.slice (cursor - limit) cursor s.text
    rightContent := Text.slice cursor (min (cursor + limit) length) s.text
    cursor := cursor }

/-- The request for suggestions at a snapshot's cursor. -/
def Request.ofSnapshot (s : Snapshot) (languages : LanguageTable)
    (settings : Settings) (trigger : TriggerKind) (since : Option Duration) :
    Request where
  window := .ofSnapshot s languages settings.maxContextChars.toNat
  maxResults := settings.maxResults.toNat
  trigger := trigger
  sinceLastModification := since

end InlineCompletion
