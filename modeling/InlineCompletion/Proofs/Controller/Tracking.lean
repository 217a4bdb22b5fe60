import InlineCompletion.Proofs.Controller.Exclusion
import InlineCompletion.Proofs.Controller.Typing

/-!
# Changes under a live session

A session is about one document.  All it knows of the text is the cursor that
the suggestions were asked for at and what was typed along since, so a change of
that document must either be typing along or end the session: otherwise the
session is about a text that is gone.  And a change of any other document should
be none of its business.

Both hold as long as the change is made by the user and the session's document
is the active one, and both rest on one list of what a change can do to a live
session, `Touched`: it is spared, it goes along, or it ends.  Neither holds
beyond that, for two reasons.

* **The rules on typing are consulted first.**  They say which changes start a
  wait, and a change that they pass over is not shown to the session either:
  the undoing of an edit, and every change of a document that is not active,
  leaves the session as it is (`undone_edit_is_not_tracked`).
* **Typing along is told by the place alone.**  The place of the insertion is
  compared with the cursor that the session expects, and the document is not
  compared.  A session that was asked for by hand in a document that is not
  active goes along with typing in the document that is
  (`typing_elsewhere_goes_along`).
-/

namespace InlineCompletion

/-- **A session that is gone was decided**: unless it was accepted, its rejection
is recorded. -/
theorem Course.rejection_of_gone {t t' : Trigger} {o o' : Offering} {e : Event}
    {effects : List Effect} (course : Course t o e t' o' effects) {x : Session}
    (live : o.session = some x) (gone : o'.session = none) (unaccepted : e ≠ .accepted) :
    .recordDecision x.rejection ∈ effects := by
  have stays (session : o'.session = o.session) : .recordDecision x.rejection ∈ effects := by
    rw [session, live] at gone
    cases gone
  cases course with
  | rest _ _ session _ _ => exact stays session
  | drop _ _ _ _ session _ _ => exact stays session
  | reject _ _ _ _ told => simp [told, live]
  | wait _ _ _ _ _ _ told => simp [told, live]
  | ask _ _ _ _ _ told => simp [told, live]
  | move _ _ _ _ session _ _ _ _ | opening _ _ _ _ _ _ _ session _ _ =>
      rw [session] at gone
      cases gone
  | accept _ _ _ event _ _ _ _ _ => exact absurd event unaccepted

namespace Controller

variable {s : Controller} {x : Session} {c : Change}

/-! ## What a change does to a session -/

/-- The change is taken for typing along in the session `x`. -/
structure TypesAlong (s : Controller) (x : Session) (c : Change) : Prop where
  other : ¬ s.offering.Awaits c
  sees : s.gate.Sees c
  /-- It inserts at the cursor that the session expects, and some suggestion goes on so. -/
  goesOn : ∃ text y, c.insertion? = some (x.expectedCursor, text) ∧ x.narrow? text = some y

/-- **What a change can do to a live session** `x`. -/
inductive Touched (s : Controller) (x : Session) (c : Change) (r : Reaction) : Prop
  /-- The change is the insertion that is awaited, or it is not seen, or it does
  nothing; the session stays as it is. -/
  | spared (unseen : s.offering.Awaits c ∨ ¬ s.gate.Sees c ∨ c.changesNothing = true)
      (session : r.controller.offering.session = some x) (silent : r.effects = [])
  /-- The change is typing along, and the session goes on, narrowed. -/
  | along (text : String) (y : Session) (types : s.TypesAlong x c)
      (place : c.insertion? = some (x.expectedCursor, text)) (narrowed : x.narrow? text = some y)
      (session : r.controller.offering.session = some y) (silent : r.effects = [])
  /-- The session is rejected. -/
  | ended (sees : s.gate.Sees c) (session : r.controller.offering.session = none)
      (told : .recordDecision x.rejection ∈ r.effects)

/-- A change that is taken for typing along narrows the session, and does nothing else. -/
theorem react_of_typesAlong (live : s.offering.session = some x) (types : s.TypesAlong x c)
    (now : Instant) :
    ∃ text y, c.insertion? = some (x.expectedCursor, text) ∧ x.narrow? text = some y ∧
      (s.react (.documentChanged c now)).controller.offering.session = some y ∧
      (s.react (.documentChanged c now)).effects = [] := by
  obtain ⟨text, y, place, narrowed⟩ := types.goesOn
  obtain ⟨awaited, edit⟩ := react_of_not_awaits types.other now
  have typing : (s.withAwaited awaited).gate.reasonAgainstEdit c = none :=
    types.sees.typing_of_insertion? place
  rw [edit, reactToEdit_of_typing typing,
    reactToTyping_of_narrowed (s := (s.withAwaited awaited).noteTyping now) live place narrowed]
  exact ⟨text, y, place, narrowed, rfl, rfl⟩

/-- **A change that is seen ends the session**, unless it is typing along or does nothing. -/
theorem session_of_seen (live : s.offering.session = some x) (other : ¬ s.offering.Awaits c)
    (sees : s.gate.Sees c) (something : c.changesNothing = false)
    (apart : ¬ s.TypesAlong x c) (now : Instant) :
    (s.react (.documentChanged c now)).controller.offering.session = none := by
  obtain ⟨awaited, edit⟩ := react_of_not_awaits other now
  have against : (s.withAwaited awaited).gate.reasonAgainstEdit c =
      if c.onlyDeletes then some .deletionOnly else none := by
    simp [sees.reasonAgainstEdit, something]
  rw [edit]
  cases deletes : c.onlyDeletes with
  | true =>
      rw [deletes, if_pos rfl] at against
      rw [reactToEdit_of_deletion against, abandon_eq]
      rfl
  | false =>
      rw [deletes, if_neg Bool.false_ne_true] at against
      rw [reactToEdit_of_typing against]
      cases ((s.withAwaited awaited).noteTyping now).typed c now with
      | along z y text live' place narrowed _ =>
          obtain rfl : x = z := Option.some.inj (live.symm.trans live')
          exact absurd ⟨other, sees, text, y, place, narrowed⟩ apart
      | wait _ next _ => rw [next]; rfl
      | suppress _ gone _ => exact gone

/-- A change that does nothing, or that is not seen, leaves everything as it is but
for what is awaited. -/
theorem react_of_unseen (other : ¬ s.offering.Awaits c)
    (unseen : ¬ s.gate.Sees c ∨ c.changesNothing = true) (now : Instant) :
    ∃ awaited, s.react (.documentChanged c now) = .unchanged (s.withAwaited awaited) := by
  obtain ⟨awaited, edit⟩ := react_of_not_awaits other now
  exact ⟨awaited, edit.trans (reactToEdit_of_unseen (s := s.withAwaited awaited) unseen now)⟩

/-- **A live session is spared by a change, goes along with it, or ends.** -/
theorem touched (live : s.offering.session = some x) (c : Change) (now : Instant) :
    s.Touched x c (s.react (.documentChanged c now)) := by
  by_cases echo : s.offering.Awaits c
  · have consumed := reactToChange_of_echo (Offering.recognizeEcho_of_awaits echo) now
    refine .spared (.inl echo) ?_ ?_ <;> simp [react, consumed, live]
  by_cases types : s.TypesAlong x c
  · obtain ⟨text, y, place, narrowed, session, silent⟩ := react_of_typesAlong live types now
    exact .along text y types place narrowed session silent
  by_cases unseen : ¬ s.gate.Sees c ∨ c.changesNothing = true
  · obtain ⟨awaited, same⟩ := react_of_unseen echo unseen now
    refine .spared (.inr unseen) ?_ ?_ <;> rw [same]
    · exact live
    · rfl
  · obtain ⟨sees, something⟩ := not_or.mp unseen
    have sees : s.gate.Sees c := Classical.not_not.mp sees
    have gone := session_of_seen live echo sees (Bool.eq_false_iff.mpr something) types now
    have course : s.Goes (.documentChanged c now) (s.react (.documentChanged c now)) :=
      goes_reactToChange s c now
    exact .ended sees gone (course.rejection_of_gone live gone (by simp))

/-! ## Changes of other documents -/

/-- **A change elsewhere spares the session or ends it**, exactly unless it is taken
for typing along.  It is never taken so, and always spares the session, while the
session's document is the active one. -/
theorem change_elsewhere_spares_or_ends (live : s.offering.session = some x)
    (elsewhere : c.document ≠ x.document) (now : Instant) :
    let r := s.react (.documentChanged c now)
    (s.activeDocument = some x.document → r.controller.offering.session = some x) ∧
      ((r.controller.offering.session = some x ∨
          r.controller.offering.session = none ∧ .recordDecision x.rejection ∈ r.effects) ↔
        ¬ s.TypesAlong x c) := by
  refine ⟨?_, ?_, ?_⟩
  · intro active
    have unseen : ¬ s.gate.Sees c := fun sees =>
      elsewhere (Option.some.inj (sees.active.symm.trans active))
    cases touched live c now with
    | spared _ session _ => exact session
    | along _ _ types _ _ _ _ => exact absurd types.sees unseen
    | ended sees _ _ => exact absurd sees unseen
  · intro outcome types
    obtain ⟨text, y, place, narrowed, session, -⟩ := react_of_typesAlong live types now
    rw [session] at outcome
    rcases outcome with same | ⟨gone, -⟩
    · -- a session that was narrowed is another one, for more was typed in it
      have filled := (Change.insertion?_eq_some_iff.mp place).2
      have typed := Session.typed_of_narrow? narrowed
      rw [Option.some.inj same, eq_comm, String.append_eq_left_iff] at typed
      exact filled typed
    · cases gone
  · intro other
    cases touched live c now with
    | spared _ session _ => exact .inl session
    | along _ _ types _ _ _ _ => exact absurd types other
    | ended _ gone told => exact .inr ⟨gone, told⟩

/-- Suggestions for one document are shown, while the active one is `document`. -/
def shownBeside (document : String) : List Event :=
  .editorFocused (some ⟨⟨document⟩, "rust"⟩) :: shownRun

/-- The session that is then shown. -/
def shownSession : Session := ⟨1, ⟨"main.rs"⟩, 2, [⟨1, .plain " main() {}"⟩], 0, true, ""⟩

/-- A blank is typed into another document, two characters into it. -/
def typedElsewhere : Change :=
  ⟨⟨⟨"lib.rs"⟩, "rust", "lib.rs", "// see", 3⟩, [.insertion 2 " "], .user⟩

/-- What is typed elsewhere spares the session of the active document. -/
theorem change_elsewhere_spares_shown :
    let s := (new .standard .standard).after (shownBeside "main.rs")
    s.offering.session = some shownSession ∧
      typedElsewhere.document ≠ shownSession.document ∧
      (s.react (.documentChanged typedElsewhere 5)).controller.offering.session =
        some shownSession := by
  intro s
  have live : s.offering.session = some shownSession := by decide
  have elsewhere : typedElsewhere.document ≠ shownSession.document := by decide
  exact ⟨live, elsewhere,
    (change_elsewhere_spares_or_ends live elsewhere 5).1 (by decide)⟩

/-- **Typing elsewhere may go along.**  The suggestions for a document were asked for
by hand while another one is active, and what is typed there narrows the session.
Accepting then leaves out of the suggestion what was never typed in its document. -/
theorem typing_elsewhere_goes_along :
    let s := (new .standard .standard).after (shownBeside "lib.rs")
    let t := (s.react (.documentChanged typedElsewhere 5)).controller
    s.Reachable ∧ s.offering.session = some shownSession ∧
      typedElsewhere.document ≠ shownSession.document ∧
      t.offering.session = some { shownSession with typed := " " } ∧
      (t.react .accepted).effects =
        [.insertText ⟨⟨"main.rs"⟩, 3, "main() {}"⟩,
          .recordDecision ⟨1, ⟨"main.rs"⟩, .accepted 1⟩] :=
  ⟨⟨.standard, .standard, shownBeside "lib.rs", rfl⟩, by decide, by decide, by decide, by decide⟩

/-! ## Changes of the session's own document -/

/-- **An edit of the session's document is tracked** if the user makes it in the
active document: the session ends, or the edit is typing along, one insertion at the
expected cursor that is added to what was typed.  An edit that is undone, or that is
made while another document is active, passes unseen. -/
theorem seen_edit_is_tracked (live : s.offering.session = some x)
    (about : c.document = x.document) (settled : s.offering.editing = false)
    (other : ¬ s.offering.Awaits c) (something : c.changesNothing = false) (now : Instant) :
    let r := s.react (.documentChanged c now)
    (s.activeDocument = some x.document ∧ c.origin = .user →
        r.controller.offering.session = none ∧ .recordDecision x.rejection ∈ r.effects ∨
          ∃ text y, c.insertion? = some (x.expectedCursor, text) ∧
            r.controller.offering.session = some y ∧ x.SameOffer y ∧
            y.typed = x.typed ++ text) ∧
      (s.activeDocument ≠ some x.document ∨ c.origin = .undoRedo →
        r.controller.offering.session = some x ∧ r.effects = []) := by
  refine ⟨?_, ?_⟩
  · rintro ⟨active, byUser⟩
    have sees : s.gate.Sees c := ⟨by rw [about]; exact active, settled, byUser⟩
    cases touched live c now with
    | spared unseen _ _ =>
        rcases unseen with echo | unseen | nothing
        · exact absurd echo other
        · exact absurd sees unseen
        · simp [something] at nothing
    | along text y _ place narrowed session _ =>
        exact .inr ⟨text, y, place, session, (Session.sound_of_narrow? narrowed).2,
          Session.typed_of_narrow? narrowed⟩
    | ended _ gone told => exact .inl ⟨gone, told⟩
  · intro unlike
    have unseen : ¬ s.gate.Sees c := by
      intro sees
      rcases unlike with inactive | undone
      · exact inactive (by rw [← about]; exact sees.active)
      · simp [sees.byUser] at undone
    cases touched live c now with
    | spared _ session silent => exact ⟨session, silent⟩
    | along _ _ types _ _ _ _ => exact absurd types.sees unseen
    | ended sees _ _ => exact absurd sees unseen

/-- A blank is typed after the two characters of the session's document. -/
def typedHere : Change :=
  ⟨⟨⟨"main.rs"⟩, "rust", "main.rs", "fn ", 3⟩, [.insertion 2 " "], .user⟩

/-- The same blank is taken out again by undoing. -/
def undoneHere : Change :=
  ⟨⟨⟨"main.rs"⟩, "rust", "main.rs", "fn", 2⟩, [.deletion 2 1], .undoRedo⟩

/-- The blank is typed along. -/
theorem seen_edit_is_tracked_along :
    let s := (new .standard .standard).after (shownBeside "main.rs")
    ∃ text y, typedHere.insertion? = some (2, text) ∧
      (s.react (.documentChanged typedHere 5)).controller.offering.session = some y ∧
      y.typed = text := by
  intro s
  have live : s.offering.session = some shownSession := by decide
  have other : ¬ s.offering.Awaits typedHere := by
    rintro ⟨i, awaited, -⟩
    cases awaited
  obtain ⟨gone, -⟩ | ⟨text, y, place, session, -, typed⟩ :=
    (seen_edit_is_tracked live (c := typedHere) rfl (by decide) other (by decide) 5).1
      (by decide)
  · exact absurd gone (by decide)
  · exact ⟨text, y, place, session, typed.trans String.empty_append⟩

/-- **An undone edit is not tracked.**  The blank was typed along and is taken out
again, and the session still takes it for typed: accepting asks for an insertion
behind the end of the text. -/
theorem undone_edit_is_not_tracked :
    let s := (new .standard .standard).after
      (shownBeside "main.rs" ++ [.documentChanged typedHere 5])
    let x := { shownSession with typed := " " }
    let r := s.react (.documentChanged undoneHere 6)
    s.Reachable ∧ s.offering.session = some x ∧ s.offering.editing = false ∧
      s.offering.awaited = none ∧ undoneHere.document = x.document ∧
      undoneHere.changesNothing = false ∧ undoneHere.insertion? = none ∧
      r.controller.offering.session = some x ∧ undoneHere.snapshot.text.length = 2 ∧
      (r.controller.react .accepted).effects =
        [.insertText ⟨⟨"main.rs"⟩, 3, "main() {}"⟩,
          .recordDecision ⟨1, ⟨"main.rs"⟩, .accepted 1⟩] := by
  refine ⟨⟨.standard, .standard, _, rfl⟩, ?_⟩
  decide

end Controller

end InlineCompletion
