import InlineCompletion.Proofs.Controller.Accepting

/-!
# Accepting completes what was typed

Accepting takes the session away first, and asks for the current item and for what is
left of its suggestion afterwards.  If one of them were missing, the session would be
lost without a decision.  In a reachable state neither is
(`Controller.accepting_completes_suggestion`): what is inserted begins where the typed
text ends, and the two make up the whole suggestion.

What is left may as well be cut off by bytes, from the byte on that the typed text ends
at.  Such a cut fails where a character lies across that byte, so it takes that the
typed text ends where one of the suggestion's characters ends.  It does, because the
suggestion begins with it (`Text.fromByte?_eq_some_iff`), and the two ways to cut agree
wherever something is left at all (`Session.fromByte?_of_remaining?`).
-/

namespace InlineCompletion

namespace Text

variable {s rest : String} {n : Nat}

/-- The text from byte `n` on; none if a character lies across that byte, or the text
is shorter. -/
def fromByte? (n : Nat) (s : String) : Option String :=
  if boundary : (String.Pos.Raw.mk n).IsValid s then
    some (s.sliceFrom ⟨⟨n⟩, boundary⟩).copy
  else none

/-- **A text can be cut at a byte** exactly if some of its characters, from the first
one on, take up that many bytes; what is cut off are the others. -/
theorem fromByte?_eq_some_iff :
    fromByte? n s = some rest ↔ ∃ start, s = start ++ rest ∧ start.utf8ByteSize = n := by
  unfold fromByte?
  constructor
  · intro cut
    split at cut
    · next boundary =>
      obtain rfl := Option.some.inj cut
      have splits := String.Pos.splits (s := s) ⟨⟨n⟩, boundary⟩
      exact ⟨_, splits.eq_append, congrArg (·.byteIdx) splits.offset_eq_rawEndPos.symm⟩
    · cases cut
  · rintro ⟨start, whole, rfl⟩
    have boundary : (String.Pos.Raw.mk start.utf8ByteSize).IsValid s :=
      String.Pos.Raw.isValid_iff_exists_append.mpr ⟨start, rest, whole, rfl⟩
    have splits : (⟨⟨start.utf8ByteSize⟩, boundary⟩ : s.Pos).Splits start rest := ⟨whole, rfl⟩
    rw [dif_pos boundary, splits.copy_sliceFrom_eq]

/-- Where a character begins, and in the middle of one. -/
example : fromByte? 2 "éa" = some "a" ∧ fromByte? 1 "éa" = none := by decide

end Text

namespace Session

variable {x : Session} {item : Session.Item} {text : String}

/-- **Cutting by bytes** leaves what cutting by characters does. -/
theorem fromByte?_of_remaining? (current : x.current? = some item)
    (left : x.remaining? = some text) :
    Text.fromByte? x.typed.utf8ByteSize item.suggestion.content = some text := by
  simp only [remaining?, current] at left
  split at left
  · next begins =>
    obtain rfl := Option.some.inj left
    exact Text.fromByte?_eq_some_iff.mpr
      ⟨x.typed, (Text.append_drop_of_beginsWith begins).symm, rfl⟩
  · cases left

end Session

namespace Controller

variable {s : Controller}

/-- **Accepting completes the current suggestion, and never loses a session.**  In every
reachable state with a live session

* there is a current item, and something of it is left, cut by characters or by bytes: what
  was typed and what is left are the whole suggestion, and what is left is not empty;
* if the whole suggestion would end at a place that a word of 64 bits can hold, accepting
  asks for one insertion and records one decision, in this order, and does nothing else;
  afterwards no session is live, and the insertion is under way;
* the insertion is what is left, and it goes to the session's document behind what was
  typed; it ends at such a place, too;
* the decision is about the session's request and document, and accepts the item under
  its position in the answer.

Without a live session accepting does nothing. -/
theorem accepting_completes_suggestion (reachable : s.Reachable) :
    (∀ x, s.offering.session = some x → ∃ item text,
      x.current? = some item ∧ x.remaining? = some text ∧
        Text.fromByte? x.typed.utf8ByteSize item.suggestion.content = some text ∧
        x.typed ++ text = item.suggestion.content ∧ text ≠ "" ∧
        (x.anchor + item.suggestion.content.length < UInt64.size →
          let insertion : Insertion := ⟨x.document, x.anchor + x.typed.length, text⟩
          insertion.offset + insertion.text.length < UInt64.size ∧
            s.react .accepted = ⟨{ s with offering := ⟨none, true, some insertion⟩ },
              [.insertText insertion,
                .recordDecision ⟨x.requestSeq, x.document, .accepted item.responseIndex⟩],
              true⟩)) ∧
      (s.offering.session = none → s.react .accepted = .unchanged s) := by
  refine ⟨fun x live => ?_, react_accepted_of_none⟩
  obtain ⟨item, text, current, left, whole, filled⟩ :=
    (reachable.coherent.sound_of_live x live).remaining
  refine ⟨item, text, current, left, Session.fromByte?_of_remaining? current left, whole.symm,
    filled, fun fits => ⟨?_, react_accepted_of_remaining live current left⟩⟩
  rwa [whole, String.length_append, ← Nat.add_assoc] at fits

/-- The user is shown two suggestions, goes on to the second, and types its first
character, which takes up two bytes. -/
def accentedRun : List Event :=
  [.connectionChanged ⟨true, true, false, false⟩,
    .editorFocused (some ⟨⟨"main.rs"⟩, "rust"⟩),
    .invoked ⟨⟨"main.rs"⟩, "rust", "main.rs", "fn ", 3⟩,
    .answered 1 (.suggestions [.plain "été()", .plain "", .plain "étage()"]),
    .navigated true,
    .documentChanged ⟨⟨⟨"main.rs"⟩, "rust", "main.rs", "fn é", 4⟩, [.insertion 3 "é"], .user⟩ 5]

/-- The second suggestion is accepted behind that character. -/
theorem accepting_completes_suggestion_accented :
    let s := (new .standard .standard).after accentedRun
    (∃ x, s.offering.session = some x) ∧ ∃ text : String,
      "é" ++ text = "étage()" ∧
      (s.react .accepted).effects =
        [.insertText ⟨⟨"main.rs"⟩, 4, text⟩,
          .recordDecision ⟨1, ⟨"main.rs"⟩, .accepted 2⟩] ∧
      (s.react .accepted).controller.offering.session = none := by
  intro s
  have reachable : s.Reachable := ⟨.standard, .standard, accentedRun, rfl⟩
  have live : s.offering.session = some ⟨1, ⟨"main.rs"⟩, 3,
      [⟨0, .plain "été()"⟩, ⟨2, .plain "étage()"⟩], 1, true, "é"⟩ := by decide
  obtain ⟨item, text, current, -, -, whole, -, accepts⟩ :=
    (accepting_completes_suggestion reachable).1 _ live
  obtain rfl := Option.some.inj current
  obtain ⟨-, reaction⟩ := accepts (by decide)
  refine ⟨⟨_, live⟩, text, whole, ?_, ?_⟩ <;> rw [reaction] <;> rfl

end Controller

end InlineCompletion
