import InlineCompletion.Document
import InlineCompletion.Suggestion
import InlineCompletion.Text

/-!
# Recommendation sessions

While suggestions are offered, a session holds them.  It remembers where they
were asked for, which of them is the current one, and what the user has typed
along since; typing along narrows the session to the suggestions that go on
with what was typed.

Each item keeps its position in the service's answer.  Narrowing and navigation
move items about, and it is that position which a decision reports.
-/

namespace InlineCompletion

/-- A suggestion with its position in the service's answer. -/
structure Session.Item where
  responseIndex : Nat
  suggestion : Suggestion
  deriving DecidableEq, Repr

/-- The suggestions on offer. -/
structure Session where
  /-- The number of the request that was answered. -/
  requestSeq : Nat
  document : DocumentId
  /-- The cursor the suggestions were asked for at. -/
  anchor : Nat
  items : List Session.Item
  /-- The place of the current item among the items. -/
  index : Nat
  visible : Bool
  /-- What was typed along since the suggestions were shown. -/
  typed : String
  deriving DecidableEq, Repr

/-- What typing did to a session. -/
inductive TypingResult
  | noSession
  /-- At least one suggestion goes on with what was typed. -/
  | matched
  /-- No suggestion does. -/
  | diverged
  deriving DecidableEq, Repr

namespace Session

/-- The items of an answer: the suggestions with content, each at its position. -/
def itemsOf (response : List Suggestion) : List Session.Item :=
  (response.zipIdx.filter fun e => e.1.content != "").map fun e => ⟨e.2, e.1⟩

/-- The session an answer opens, none when the answer offers nothing to insert. -/
def open? (seq : Nat) (document : DocumentId) (anchor : Nat) (response : List Suggestion) :
    Option Session :=
  match itemsOf response with
  | [] => none
  | items => some ⟨seq, document, anchor, items, 0, true, ""⟩

/-- The current item. -/
def current? (s : Session) : Option Session.Item := s.items[s.index]?

/-- Where the cursor is while the user types along.  To an editor a place is a word
of 64 bits, and the sum is one as long as the whole of a suggestion ends within the
words. -/
def expectedCursor (s : Session) : Nat := s.anchor + s.typed.length

/-- What of the current suggestion is not typed yet. -/
def remaining? (s : Session) : Option String :=
  match s.current? with
  | some item =>
      if Text.beginsWith s.typed item.suggestion.content then
        some (Text.drop s.typed.length item.suggestion.content)
      else none
  | none => none

/-- Makes the next or the previous item the current one, around the ends.  With
fewer than two items there is nowhere to go. -/
def navigate (s : Session) (forward : Bool) : Option Session :=
  if s.items.length < 2 then none
  else if forward then some { s with index := (s.index + 1) % s.items.length }
  else some { s with index := (s.index + s.items.length - 1) % s.items.length }

/-- Whether a suggestion goes on after `typed`. -/
def continues (typed : String) (item : Session.Item) : Bool :=
  Text.beginsWith typed item.suggestion.content &&
    typed.length < item.suggestion.content.length

/-- Narrows the session to the suggestions that go on after `inserted`.  The
current item stays current if it is among them, else the first one becomes it;
none when no suggestion goes on. -/
def narrow? (s : Session) (inserted : String) : Option Session :=
  let typed := s.typed ++ inserted
  match s.items.filter (continues typed) with
  | [] => none
  | items =>
      let selected := s.current?.map (·.responseIndex)
      let index := (items.findIdx? fun item => some item.responseIndex == selected).getD 0
      some { s with items := items, index := index, typed := typed }

end Session

end InlineCompletion
