/-!
# Suggestions

What the completion service answers: texts to insert at the cursor, each with
the code references it was derived from.  References are carried along and
filtered on, and otherwise mean nothing to the controller.

The numbers of a span travel over the wire as 64-bit words, and they are words
here, so that every value of these types can be sent.
-/

namespace InlineCompletion

/-- A licence attribution that belongs to a suggestion. -/
structure Reference where
  license : Option String
  repository : Option String
  url : Option String
  /-- The part of the suggestion that the reference covers. -/
  span : Option (UInt64 × UInt64)
  deriving DecidableEq, Repr

/-- A text the service proposes, with its references. -/
structure Suggestion where
  content : String
  references : List Reference
  deriving DecidableEq, Repr

namespace Suggestion

/-- A suggestion without references. -/
def plain (content : String) : Suggestion := ⟨content, []⟩

/-- Whether the suggestion carries any reference. -/
def hasReferences (s : Suggestion) : Bool := !s.references.isEmpty

end Suggestion

end InlineCompletion
