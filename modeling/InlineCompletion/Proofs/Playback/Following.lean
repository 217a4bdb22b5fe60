import InlineCompletion.Playback.EditorDocument
import InlineCompletion.Proofs.Controller.Echo
import InlineCompletion.Proofs.Controller.Permission

/-!
# A controller that follows the editor

A controller holds no document.  What it knows of one is what it was told, and
a session remembers two things of the text it is about: the cursor that the
suggestions were asked for at, and what was typed along since.  Accepting puts
the rest of a suggestion at the place that these two give, so they have to be in
step with the text as it is *now*.

`Follows` says that they are: the document is the one that the suggestions were
asked for in, with what was typed along put in at that cursor.  Of a wait it says
that the snapshot is the document's, and of a request in flight that it was made
at the document's cursor.  The events of an editor that reports what it does, in
the order it does it, keep this, and so does everything that is not the editor's:
those of them that change the text otherwise than by typing along, or move the
cursor, end the session and the wait.
-/

namespace InlineCompletion

/-! ## Typing into a text -/

namespace Text

theorem insert_empty (offset : Nat) (s : String) : insert offset "" s = s := by
  rw [insert, String.append_empty, take_append_drop]

/-- Typing goes on where it stopped. -/
theorem insert_insert {offset : Nat} {s : String} (inside : offset ≤ s.length) (a b : String) :
    insert (offset + a.length) b (insert offset a s) = insert offset (a ++ b) s := by
  have front : (s.toList.take offset ++ a.toList).length = offset + a.length := by
    simp only [← String.length_toList] at inside ⊢
    rw [List.length_append, List.length_take, Nat.min_eq_left inside]
  apply String.toList_injective
  simp only [toList_insert, String.toList_append]
  rw [← front, List.take_left, List.drop_left]
  simp only [List.append_assoc]

end Text

namespace Playback.EditorDocument

variable {d : EditorDocument}

/-- The document after `piece` was typed. -/
def typing (d : EditorDocument) (piece : String) : EditorDocument :=
  { d with text := Text.insert d.cursor piece d.text, cursor := d.cursor + piece.length }

/-- The change that the editor reports after an edit that led to `d`. -/
def change (d : EditorDocument) (edit : Edit) : Change := ⟨d.snapshot, [edit], .user⟩

/-- The change that typing makes. -/
theorem change_inserts (d : EditorDocument) (text : String) :
    ((d.typing text).change (.insertion d.cursor text)).Inserts ⟨d.id, d.cursor, text⟩ :=
  ⟨rfl, rfl⟩

/-- The cursor is in the text, or at its end. -/
def CursorInside (d : EditorDocument) : Prop := d.cursor ≤ d.text.length

@[simp] theorem typing_empty (d : EditorDocument) : d.typing "" = d := by
  simp [typing, Text.insert_empty]

theorem typing_typing (inside : d.CursorInside) (a b : String) :
    (d.typing a).typing b = d.typing (a ++ b) := by
  simp [typing, Text.insert_insert inside, Nat.add_assoc]

/-! ### Edits within the text

Cutting a text takes an offset beyond its end for the end, and an editor does not: it has
nothing to do there.  An editor of a playback is never asked to. -/

/-- **The edit `e` leads from `d` to `d'`**: what it takes out is all in the text, its own
text stands there instead, and the cursor is behind that. -/
structure Edited (d : EditorDocument) (e : Edit) (d' : EditorDocument) : Prop where
  inBounds : e.offset + e.removed ≤ d.text.length
  text : d'.text = Text.take e.offset d.text ++ e.text ++ Text.drop (e.offset + e.removed) d.text
  cursor : d'.cursor = e.offset + e.text.length
  id : d'.id = d.id
  languageId : d'.languageId = d.languageId

/-- After an edit the cursor is in the text. -/
theorem Edited.cursorInside {e : Edit} {d' : EditorDocument} (edited : d.Edited e d') :
    d'.CursorInside := by
  have inBounds := edited.inBounds
  unfold CursorInside
  rw [edited.text, edited.cursor]
  simp only [← String.length_toList, String.toList_append, Text.toList_take, List.length_append,
    List.length_take] at inBounds ⊢
  omega

/-- **Typing** edits within the text. -/
theorem edited_typing (inside : d.CursorInside) (piece : String) :
    d.Edited (.insertion d.cursor piece) (d.typing piece) :=
  ⟨inside, rfl, rfl, rfl, rfl⟩

/-- So does **taking out** what is before the cursor. -/
theorem edited_deletion (inside : d.CursorInside) {count : Nat} (before : count ≤ d.cursor) :
    d.Edited (.deletion (d.cursor - count) count) { d with
      text := Text.remove (d.cursor - count) count d.text, cursor := d.cursor - count } where
  inBounds := by
    show d.cursor - count + count ≤ d.text.length
    rw [Nat.sub_add_cancel before]
    exact inside
  text := by
    show Text.remove _ _ _ = Text.take _ _ ++ "" ++ Text.drop _ _
    rw [String.append_empty]
    rfl
  cursor := rfl
  id := rfl
  languageId := rfl

/-- So does **inserting an accepted suggestion**, wherever that is: the editor refuses a place
beyond the text. -/
theorem edited_insertAccepted {open? : Option EditorDocument} {i : Insertion} {now : Instant}
    {d' : EditorDocument} {events : List Event}
    (inserted : insertAccepted open? i now = .ok (d', events)) :
    ∃ d, open? = some d ∧ d.id = i.document ∧ d.Edited (.insertion i.offset i.text) d' ∧
      events = [d'.report (.insertion i.offset i.text) now, d'.selection .command] := by
  unfold insertAccepted at inserted
  split at inserted
  · cases inserted
  next d =>
  split at inserted
  · cases inserted
  next same =>
  split at inserted
  · cases inserted
  next within =>
  obtain ⟨rfl, rfl⟩ := Prod.mk.inj (Except.ok.inj inserted)
  exact ⟨d, rfl, Decidable.not_not.mp same,
    ⟨Nat.le_of_not_lt within, rfl, rfl, rfl, rfl⟩, rfl⟩

end Playback.EditorDocument

/-! ## What a moved selection ends -/

/-- A selection that was moved away from whatever goes on ends all of it. -/
theorem Controller.ended_of_selection (s : Controller) (selection : Selection)
    (settled : s.offering.editing = false)
    (waiting : s.trigger.phase ≠ .idle → s.trigger.document? = some selection.document ∧
      s.trigger.cursor? ≠ some selection.cursor)
    (live : ∀ x, s.offering.session = some x → x.document = selection.document ∧
      x.expectedCursor ≠ selection.cursor) :
    (s.reactToSelection selection).controller.trigger.phase = .idle ∧
      (s.reactToSelection selection).controller.offering.session = none := by
  rw [reactToSelection_eq_ending]
  refine ⟨?_, ?_⟩
  · by_cases idle : s.trigger.phase = .idle
    · dsimp only [ending]
      split
      · rfl
      · exact idle
    · simp [ending, settled, waiting idle]
  · cases session : s.offering.session with
    | none =>
        dsimp only [ending]
        split
        · rfl
        · exact session
    | some x => simp [ending, settled, session, live x session, Offering.withoutSession]

/-! ## Following -/

namespace Playback

/-- **The controller `s` follows the document that is open.**  `Taken` says in which
documents suggestions were asked for, and under which numbers. -/
structure Follows (Taken : EditorDocument → Nat → Prop) (s : Controller)
    (document : Option EditorDocument) : Prop where
  /-- No insertion is under way, and none is awaited. -/
  editing : s.offering.editing = false
  awaited : s.offering.awaited = none
  active : s.active = document.map (·.activeEditor)
  inside : ∀ d, document = some d → d.CursorInside
  /-- Typing is waited for in the document as it is. -/
  waiting : ∀ deadline snapshot, s.trigger.phase = .debouncing deadline snapshot →
    ∃ d, document = some d ∧ snapshot = d.snapshot
  /-- The request in flight was made at the document's cursor. -/
  flying : ∀ q, s.trigger.phase = .inFlight q →
    ∃ d, document = some d ∧ q.document = d.id ∧ q.cursor = d.cursor
  /-- The document is the one that the suggestions of the live session were asked
  for in, with what was typed along put in. -/
  live : ∀ x, s.offering.session = some x →
    ∃ taken, Taken taken x.requestSeq ∧ taken.CursorInside ∧ x.document = taken.id ∧
      x.anchor = taken.cursor ∧ document = some (taken.typing x.typed)

namespace Follows

variable {Taken Taken' : EditorDocument → Nat → Prop} {s t : Controller} {d : EditorDocument}
  {document : Option EditorDocument}

/-- What was asked for may be described otherwise. -/
theorem mono (follows : Follows Taken s document) (imp : ∀ d seq, Taken d seq → Taken' d seq) :
    Follows Taken' s document :=
  { follows with
    live := fun x live =>
      let ⟨taken, was, rest⟩ := follows.live x live
      ⟨taken, imp _ _ was, rest⟩ }

/-- A controller with nothing going on follows any document that is active. -/
theorem of_idle (idle : s.trigger.phase = .idle) (gone : s.offering.session = none)
    (editing : s.offering.editing = false) (awaited : s.offering.awaited = none)
    (active : s.active = document.map (·.activeEditor))
    (inside : ∀ d, document = some d → d.CursorInside) : Follows Taken s document where
  editing := editing
  awaited := awaited
  active := active
  inside := inside
  waiting deadline snapshot waiting := by simp [idle] at waiting
  flying q flying := by simp [idle] at flying
  live x live := by simp [gone] at live

/-- A reaction that begins nothing goes on following. -/
theorem calm {r : Reaction} (follows : Follows Taken t document) (calm : t.Calm r) :
    Follows Taken r.controller document := by
  have begun {p : Trigger.Phase} (busy : p ≠ .idle) (h : r.controller.trigger.phase = p) :
      t.trigger.phase = p :=
    calm.rests.phase.elim (fun same => same ▸ h) fun idle => absurd (h.symm.trans idle) busy
  have kept {x : Session} (live : r.controller.offering.session = some x) :
      t.offering.session = some x :=
    calm.session.elim (fun same => same ▸ live) fun gone => by simp [gone] at live
  exact {
    editing := calm.editing.trans follows.editing
    awaited := calm.awaited.trans follows.awaited
    active := calm.active.trans follows.active
    inside := follows.inside
    waiting := fun deadline snapshot h => follows.waiting deadline snapshot (begun (by simp) h)
    flying := fun q h => follows.flying q (begun (by simp) h)
    live := fun x live => follows.live x (kept live) }

/-- Where the expected cursor is: at the document's. -/
theorem expectedCursor (follows : Follows Taken s (some d)) {x : Session}
    (live : s.offering.session = some x) : x.document = d.id ∧ x.expectedCursor = d.cursor := by
  obtain ⟨taken, -, -, document, anchor, same⟩ := follows.live x live
  obtain rfl := Option.some.inj same
  exact ⟨document, by rw [Session.expectedCursor, anchor]; rfl⟩

/-- Whatever is waited for is waited for at the document's cursor. -/
theorem place_of_busy (follows : Follows Taken s (some d)) (busy : s.trigger.phase ≠ .idle) :
    s.trigger.document? = some d.id ∧ s.trigger.cursor? = some d.cursor := by
  cases phase : s.trigger.phase with
  | idle => exact absurd phase busy
  | debouncing deadline snapshot =>
      obtain ⟨d', same, rfl⟩ := follows.waiting deadline snapshot phase
      obtain rfl := Option.some.inj same
      simp [Trigger.document?, Trigger.cursor?, phase, EditorDocument.snapshot]
  | inFlight q =>
      obtain ⟨d', same, document, cursor⟩ := follows.flying q phase
      obtain rfl := Option.some.inj same
      simp [Trigger.document?, Trigger.cursor?, phase, document, cursor]

theorem activeDocument (follows : Follows Taken s (some d)) : s.activeDocument = some d.id := by
  rw [Controller.activeDocument, follows.active]
  rfl

/-! ### What the editor reports -/

/-- A report of an edit is no insertion that is awaited. -/
theorem react_report (follows : Follows Taken s document) (d' : EditorDocument) (edit : Edit)
    (now : Instant) : s.react (d'.report edit now) = s.reactToEdit (d'.change edit) now :=
  Controller.reactToChange_of_not_echo (Offering.recognizeEcho_of_none follows.awaited) now

/-- **Typing** at the cursor is followed: a live session goes on with what was
typed, or ends; and what is waited for is the document as it is now. -/
theorem typing (follows : Follows Taken s (some d)) (coherent : Coherent s.trigger s.offering)
    (text : String) (now : Instant) :
    Follows Taken (s.react ((d.typing text).report (.insertion d.cursor text) now)).controller
      (some (d.typing text)) := by
  have active := follows.activeDocument
  have inside' : ∀ d', some (d.typing text) = some d' → d'.CursorInside := by
    rintro _ ⟨⟩
    exact (EditorDocument.edited_typing (follows.inside d rfl) text).cursorInside
  rw [follows.react_report]
  by_cases filled : text = ""
  · -- nothing was typed, and the report passes unseen
    subst filled
    rw [EditorDocument.typing_empty]
    have unseen : s.reactToEdit (d.change (.insertion d.cursor "")) now = .unchanged s := by
      simp [Controller.reactToEdit, Gate.reasonAgainstEdit, Controller.gate, active,
        follows.editing, Change.changesNothing, Edit.insertion, Edit.doesNothing, Change.document,
        EditorDocument.change, EditorDocument.snapshot]
    rw [unseen]
    exact follows
  rw [Controller.reactToEdit_of_inserts follows.editing (d.change_inserts text) filled active rfl]
  cases (s.noteTyping now).typed ((d.typing text).change (.insertion d.cursor text)) now with
  | along x y text' before place narrowed next =>
      obtain ⟨taken, was, inside, document, anchor, same⟩ := follows.live x before
      have idle : s.trigger.phase = .idle := coherent.idle_of_live x before
      have typed : y.typed = x.typed ++ text := by
        have inserted : _ = some (d.cursor, text) := (d.change_inserts text).insertion? filled
        rw [(Prod.mk.inj (Option.some.inj (inserted.symm.trans place))).2]
        exact Session.typed_of_narrow? narrowed
      obtain ⟨-, offer⟩ := Session.sound_of_narrow? narrowed
      rw [next]
      refine ⟨follows.editing, follows.awaited, follows.active, inside', ?_, ?_, ?_⟩
      · intro deadline snapshot waiting
        simp [Reaction.quiet, Controller.noteTyping, idle] at waiting
      · intro q flying
        simp [Reaction.quiet, Controller.noteTyping, idle] at flying
      · intro z live
        obtain rfl : y = z := Option.some.inj live
        refine ⟨taken, offer.requestSeq ▸ was, inside, offer.document.trans document,
          offer.anchor.trans anchor, ?_⟩
        rw [typed, ← EditorDocument.typing_typing inside, ← Option.some.inj same]
  | wait granted next told =>
      rw [next]
      refine ⟨follows.editing, follows.awaited, follows.active, inside', ?_, ?_, ?_⟩
      · intro deadline snapshot waiting
        exact ⟨_, rfl, (Trigger.Phase.debouncing.inj waiting).2.symm⟩
      · intro q flying
        cases flying
      · intro x live
        cases live
  | suppress calm gone idle =>
      exact .of_idle idle gone (calm.editing.trans follows.editing)
        (calm.awaited.trans follows.awaited) (calm.active.trans follows.active) inside'

/-- **Taking out** what is before the cursor ends the session and the wait. -/
theorem deleting (follows : Follows Taken s (some d)) {d' : EditorDocument}
    (inside : d'.CursorInside) (same : d'.id = d.id) (languageId : d'.languageId = d.languageId)
    (start : Nat) {count : Nat} (some' : count ≠ 0) (now : Instant) :
    Follows Taken (s.react (d'.report (.deletion start count) now)).controller (some d') := by
  have deletion : s.reactToEdit (d'.change (.deletion start count)) now =
      (s.noteTyping now).abandon := by
    simp [Controller.reactToEdit, Gate.reasonAgainstEdit, Controller.gate, follows.activeDocument,
      follows.editing, Change.changesNothing, Change.onlyDeletes, Edit.deletion, Edit.doesNothing,
      Edit.deletes, Change.document, EditorDocument.change, EditorDocument.snapshot, some', same]
  rw [follows.react_report, deletion, Controller.abandon_eq]
  refine .of_idle rfl rfl follows.editing follows.awaited ?_ ?_
  · show s.active = _
    rw [follows.active]
    simp [EditorDocument.activeEditor, same, languageId]
  · rintro _ ⟨⟩
    exact inside

/-- A selection that the editor reports ends the session and the wait, or leaves
them as they are. -/
theorem selecting (follows : Follows Taken s document) (selection : Selection) :
    Follows Taken (s.react (.selectionMoved selection)).controller document :=
  follows.calm (Controller.calm_reactToSelection s selection)

/-- **Moving the cursor** elsewhere ends the session and the wait. -/
theorem moving (follows : Follows Taken s (some d)) {cursor : Nat}
    (inside : cursor ≤ d.text.length) (kind : SelectionCause) :
    Follows Taken
      (s.react (({ d with cursor := cursor } : EditorDocument).selection kind)).controller
      (some { d with cursor := cursor }) := by
  by_cases stays : cursor = d.cursor
  · subst stays
    exact follows.selecting _
  have calm := Controller.calm_reactToSelection s ⟨d.id, cursor, kind⟩
  have ended := s.ended_of_selection ⟨d.id, cursor, kind⟩ follows.editing
    (fun busy => ?_) (fun x live => ?_)
  · refine .of_idle ended.1 ended.2 (calm.editing.trans follows.editing)
      (calm.awaited.trans follows.awaited) (calm.active.trans follows.active) ?_
    rintro _ ⟨⟩
    exact inside
  · obtain ⟨document, at'⟩ := follows.place_of_busy busy
    exact ⟨document, by simpa [at'] using Ne.symm stays⟩
  · obtain ⟨document, expected⟩ := follows.expectedCursor live
    exact ⟨document, by rw [expected]; exact Ne.symm stays⟩

/-- **Opening** a document ends what was about another one. -/
theorem opening (follows : Follows Taken s document) (inside : d.CursorInside) :
    Follows Taken (s.react (.editorFocused (some d.activeEditor))).controller (some d) := by
  rw [Controller.react, Controller.reactToEditor_eq_ending]
  refine .of_idle rfl rfl follows.editing follows.awaited rfl ?_
  rintro _ ⟨⟩
  exact inside

theorem focusing (follows : Follows Taken s document) (focused : Bool) :
    Follows Taken (s.react (.windowFocused focused)).controller document :=
  calm (t := { s with windowFocused := focused }) { follows with }
    (Controller.calm_reactToFocus s focused)

/-- **Closing** the document ends what was about it, which is all there was. -/
theorem closing (follows : Follows Taken s (some d)) :
    Follows Taken (s.react (.documentClosed d.id)).controller none := by
  have calm := Controller.calm_reactToClosing s d.id
  obtain ⟨elsewhere, other⟩ := Controller.ended_of_closing s d.id
  have gone : (s.reactToClosing d.id).controller.offering.session = none := by
    refine calm.session.elim (fun same => ?_) id
    cases live : s.offering.session with
    | none => exact same.trans live
    | some x => exact absurd (follows.expectedCursor live).1 (other x (same.trans live))
  have idle : (s.reactToClosing d.id).controller.trigger.phase = .idle := by
    refine calm.rests.phase.elim (fun same => ?_) id
    by_cases busy : s.trigger.phase = .idle
    · exact same.trans busy
    · have place : (s.reactToClosing d.id).controller.trigger.document? = some d.id := by
        rw [← (follows.place_of_busy busy).1]
        simp only [Trigger.document?, same]
      exact absurd place elsewhere
  refine .of_idle idle gone (calm.editing.trans follows.editing)
    (calm.awaited.trans follows.awaited) (calm.active.trans ?_) (fun _ absent => by cases absent)
  simp [Controller.activeWithout, follows.activeDocument]

/-! ### What else there is -/

theorem navigating (follows : Follows Taken s document) (forward : Bool) :
    Follows Taken (s.react (.navigated forward)).controller document := by
  simp only [Controller.react, Reaction.quiet, Offering.navigate]
  split
  · next y moved =>
    obtain ⟨x, live, turned⟩ := Option.bind_eq_some_iff.mp moved
    refine { follows with live := fun z after => ?_ }
    obtain rfl : y = z := Option.some.inj after
    obtain ⟨taken, was, inside, document, anchor, same⟩ := follows.live x live
    obtain ⟨seq, document', anchor', typed⟩ := Session.place_of_navigate turned
    exact ⟨taken, seq ▸ was, inside, document'.trans document, anchor'.trans anchor, typed ▸ same⟩
  · exact follows

theorem rejecting (follows : Follows Taken s document) :
    Follows Taken (s.react .rejected).controller document :=
  follows.calm (Controller.calm_rejectLive s)

/-- Where a request begins about the document as it is, that is what is waited for. -/
theorem asking (follows : Follows Taken s document) (opened : document = some d) :
    Follows Taken { s with
      trigger := s.trigger.begin d.snapshot
      offering := s.offering.withoutSession } document := by
  refine ⟨follows.editing, follows.awaited, follows.active, follows.inside, ?_, ?_, ?_⟩
  · intro deadline snapshot waiting
    cases waiting
  · intro q flying
    obtain rfl := Trigger.Phase.inFlight.inj flying
    exact ⟨d, opened, rfl, rfl⟩
  · intro x live
    cases live

/-- **Asking by hand** about the document as it is. -/
theorem invoking (follows : Follows Taken s (some d)) :
    Follows Taken (s.react (.invoked d.snapshot)).controller (some d) := by
  rw [Controller.react]
  obtain ⟨-, passes⟩ | ⟨reason, -, -, refused⟩ | ⟨-, -, begins⟩ :=
    s.reactToInvocation_cases d.snapshot
  · rw [passes]
    exact follows
  · rw [refused]
    exact .of_idle rfl rfl follows.editing follows.awaited follows.active follows.inside
  · rw [begins]
    exact follows.asking rfl

/-- The **passing of time** asks about the document as it is. -/
theorem ticking (follows : Follows Taken s document) (coherent : Coherent s.trigger s.offering)
    (now : Instant) : Follows Taken (s.react (.tick now)).controller document := by
  rw [Controller.react]
  cases s.passes now with
  | still next =>
      rw [next]
      exact follows
  | hidden deadline snapshot waiting next | refused deadline snapshot waiting next =>
      have gone := coherent.session_of_not_idle (by simp [waiting])
      rw [next]
      exact .of_idle rfl gone follows.editing follows.awaited follows.active follows.inside
  | asks deadline snapshot waiting due granted next =>
      obtain ⟨d, opened, rfl⟩ := follows.waiting deadline snapshot waiting
      rw [next]
      exact follows.asking opened

/-- **An answer** opens a session on the document as it is, if that was asked
about. -/
theorem answering (follows : Follows Taken s document) (seq : Nat) (outcome : RequestOutcome)
    (taken : ∀ d response, document = some d → s.trigger.seqInFlight? = some seq →
      outcome = .suggestions response → Taken d seq) :
    Follows Taken (s.react (.answered seq outcome)).controller document := by
  rw [Controller.react]
  obtain ⟨-, stale⟩ | ⟨q, phase, rfl, next⟩ := s.reactToAnswer_cases seq outcome
  · rw [stale]
    exact follows
  · have flying := Trigger.seqInFlight?_of_inFlight phase
    obtain ⟨d, rfl, about, cursor⟩ := follows.flying q phase
    -- nothing is waited for any more, and nothing but the session may be new
    have answered {o : Offering} (editing : o.editing = s.offering.editing)
        (awaited : o.awaited = s.offering.awaited)
        (live : ∀ x, o.session = some x → s.offering.session = some x ∨
          Taken d x.requestSeq ∧ x.document = d.id ∧ x.anchor = d.cursor ∧ x.typed = "") :
        Follows Taken { s with trigger := s.trigger.cancel, offering := o } (some d) := by
      refine ⟨editing.trans follows.editing, awaited.trans follows.awaited, follows.active,
        follows.inside, ?_, ?_, fun x after => ?_⟩
      · intro deadline snapshot waiting
        cases waiting
      · intro q flying
        cases flying
      rcases live x after with before | ⟨was, document, anchor, typed⟩
      · exact follows.live x before
      · refine ⟨d, was, follows.inside d rfl, document, anchor, ?_⟩
        rw [typed, EditorDocument.typing_empty]
    rw [next]
    obtain same | ⟨response, y, rfl, opened, after⟩ := s.offering.afterAnswer_cases q outcome
    · rw [same]
      exact answered rfl rfl fun x => .inl
    · obtain ⟨rfl, -⟩ := Session.eq_of_open? opened
      rw [after]
      refine answered rfl rfl fun x live => .inr ?_
      obtain rfl := Option.some.inj live
      exact ⟨taken d response rfl flying rfl, about, cursor, rfl⟩

theorem connecting (follows : Follows Taken s document) (status : ConnectionStatus) :
    Follows Taken (s.react (.connectionChanged status)).controller document := by
  rw [Controller.react]
  obtain ⟨-, valid⟩ | ⟨-, ends⟩ := s.reactToConnection_cases status
  · rw [valid]
    exact { follows with }
  · rw [ends]
    exact calm (t := { s with connection := status }) { follows with }
      ((Controller.calm_ending _ _ _).alsoChanged _)

/-! ### Accepting -/

/-- Without a live session there is nothing to accept. -/
theorem accepting_none (follows : Follows Taken s document) (gone : s.offering.session = none) :
    Follows Taken (s.react .accepted).controller document := by
  rw [Controller.react_accepted_of_none gone]
  exact follows

/-- **Accepting** completes the document in which the suggestions were asked for. -/
theorem accepting (follows : Follows Taken s (some d)) (coherent : Coherent s.trigger s.offering)
    {x : Session} (live : s.offering.session = some x) :
    ∃ item text taken, x.current? = some item ∧ text ≠ "" ∧ Taken taken x.requestSeq ∧
      taken.CursorInside ∧ d.typing text = taken.typing item.suggestion.content ∧
      s.react .accepted = ⟨s.inserting ⟨d.id, d.cursor, text⟩,
        [.insertText ⟨d.id, d.cursor, text⟩,
          .recordDecision ⟨x.requestSeq, d.id, .accepted item.responseIndex⟩], true⟩ := by
  obtain ⟨item, text, current, whole, filled, reaction⟩ := Controller.react_accepted coherent live
  obtain ⟨taken, was, inside, -, -, same⟩ := follows.live x live
  obtain ⟨document, cursor⟩ := follows.expectedCursor live
  refine ⟨item, text, taken, current, filled, was, inside, ?_, ?_⟩
  · rw [whole, ← EditorDocument.typing_typing inside, ← Option.some.inj same]
  · rw [reaction, document, cursor]

/-- Once the insertion is recognised, the document is followed as it is then. -/
theorem inserted (follows : Follows Taken s (some d)) (idle : s.trigger.phase = .idle)
    (text : String) :
    Follows Taken' { s with offering := ⟨none, false, none⟩ } (some (d.typing text)) := by
  refine .of_idle idle rfl rfl rfl follows.active ?_
  rintro _ ⟨⟩
  exact (EditorDocument.edited_typing (follows.inside d rfl) text).cursorInside

/-- The report of the insertion is consumed. -/
theorem react_inserted (s : Controller) (d : EditorDocument) {text : String} (filled : text ≠ "")
    (now : Instant) :
    (s.inserting ⟨d.id, d.cursor, text⟩).react
        ((d.typing text).report (.insertion d.cursor text) now) =
      ⟨{ s with offering := ⟨none, false, none⟩ }, [], true⟩ :=
  Controller.reactToChange_of_echo
    (Offering.recognizeEcho_of_inserts (o := (s.inserting ⟨d.id, d.cursor, text⟩).offering) rfl
      filled (d.change_inserts text)) now

end Follows

end Playback

end InlineCompletion
