import InlineCompletion.Session

/-!
# What is on offer in the editor

At most one session is live.  Accepting its current suggestion ends it and asks
the editor to insert what is left of the suggestion; the editor then reports
that very insertion as a change, and it must not be taken for typing.

Two things are remembered for that.  `editing` is set from the moment of
accepting until the host says that the insertion was applied or the change is
seen, whichever comes first.  `awaited` is the insertion itself and stays until
its change is seen, because the change may come after the host's word; once the
host has given its word, any other change drops it.
-/

namespace InlineCompletion

/-- Text that the editor is asked to insert. -/
structure Insertion where
  document : DocumentId
  offset : Nat
  text : String
  deriving DecidableEq, Repr

/-- How a session ended. -/
inductive Verdict
  /-- The suggestion at this position of the answer was accepted. -/
  | accepted (index : Nat)
  | rejected
  deriving DecidableEq, Repr

/-- The accepted position, or `-1` for a rejection. -/
def Verdict.asIndex : Verdict → Int
  | accepted index => index
  | rejected => -1

/-- What the user decided about the suggestions of a request. -/
structure Decision where
  requestSeq : Nat
  document : DocumentId
  outcome : Verdict
  deriving DecidableEq, Repr

/-- The live session, and the insertion of an accepted suggestion. -/
structure Offering where
  session : Option Session
  /-- Whether an accepted suggestion is being inserted. -/
  editing : Bool
  /-- The insertion whose change has not been seen yet. -/
  awaited : Option Insertion
  deriving DecidableEq, Repr

namespace Offering

/-- Nothing is on offer. -/
def empty : Offering := ⟨none, false, none⟩

/-- Whether suggestions can be seen. -/
def isVisible (o : Offering) : Bool :=
  match o.session with
  | some s => s.visible
  | none => false

/-- Offers the suggestions of an answer; says whether there are any. -/
def offer (o : Offering) (seq : Nat) (document : DocumentId) (anchor : Nat)
    (response : List Suggestion) : Bool × Offering :=
  match Session.open? seq document anchor response with
  | some s => (true, { o with session := some s })
  | none => (false, o)

/-- Moves to the next or the previous suggestion; says whether that was possible. -/
def navigate (o : Offering) (forward : Bool) : Bool × Offering :=
  match o.session.bind (·.navigate forward) with
  | some s => (true, { o with session := some s })
  | none => (false, o)

/-- Ends the session by accepting its current suggestion: what to insert, and
the decision to record. -/
def accept (o : Offering) : Option (Insertion × Decision) × Offering :=
  match o.session with
  | none => (none, o)
  | some s =>
      match s.current?, s.remaining? with
      | some item, some text =>
          let insert : Insertion := ⟨s.document, s.expectedCursor, text⟩
          (some (insert, ⟨s.requestSeq, s.document, .accepted item.responseIndex⟩),
            { o with session := none, editing := true, awaited := some insert })
      | _, _ => (none, { o with session := none })

/-- Takes the host's word that the insertion was applied; says whether one was
under way.  Its change may still come. -/
def acknowledge (o : Offering) : Bool × Offering :=
  (o.editing, { o with editing := false })

/-- Whether a change is exactly the insertion `i`. -/
def isEchoOf (i : Insertion) (c : Change) : Bool :=
  c.document == i.document && c.insertion? == some (i.offset, i.text)

/-- Looks for the awaited insertion in a change and says whether it is that.
Another change is let pass while the insertion is under way and drops the
expectation afterwards. -/
def recognizeEcho (o : Offering) (c : Change) : Bool × Offering :=
  match o.awaited with
  | none => (false, o)
  | some i =>
      if isEchoOf i c then (true, { o with awaited := none, editing := false })
      else if o.editing then (false, o)
      else (false, { o with awaited := none })

/-- Ends the session by rejecting it. -/
def reject (o : Offering) : Option Decision × Offering :=
  match o.session with
  | none => (none, o)
  | some s => (some ⟨s.requestSeq, s.document, .rejected⟩, { o with session := none })

/-- Drops the session without a decision; says whether there was one. -/
def clear (o : Offering) : Bool × Offering :=
  (o.session.isSome, { o with session := none })

/-- Lets the user type along.  When no suggestion goes on, nothing is changed. -/
def typeAlong (o : Offering) (inserted : String) : TypingResult × Offering :=
  match o.session with
  | none => (.noSession, o)
  | some s =>
      match s.narrow? inserted with
      | none => (.diverged, o)
      | some s' => (.matched, { o with session := some s' })

end Offering

end InlineCompletion
