import InlineCompletion.Proofs.Controller.Calm

/-!
# What a change of a document leads to

A change is first compared with the insertion that is awaited.  If it is that
insertion, the change is consumed (`reactToChange_of_echo`); if not, it is an
ordinary edit (`reactToEdit`), and the rules decide whether it is typing.

`Typed` lists what typing can do: it goes on with the live session, or it starts
the wait anew and rejects the session, or the rules forbid the wait and nothing
is left of either.  The list is given with equations, not with bounds as in
`Course`, because statements about the text of a document need to know which
suggestions are left and what was typed.
-/

namespace InlineCompletion

/-- Typing is what the user inserts into the active document, while no accepted
suggestion is being inserted. -/
theorem Gate.reasonAgainstEdit_eq_none_iff (g : Gate) (c : Change) :
    g.reasonAgainstEdit c = none ↔
      g.activeDocument = some c.document ∧ g.editing = false ∧ c.origin ≠ .undoRedo ∧
        c.changesNothing = false ∧ c.onlyDeletes = false := by
  unfold reasonAgainstEdit
  by_cases active : g.activeDocument = some c.document <;> cases g.editing <;>
    by_cases undone : c.origin = .undoRedo <;> cases c.changesNothing <;>
    cases c.onlyDeletes <;> simp [active, undone]

/-- The change was made by the user, in the active document, and not while an
accepted suggestion is being inserted. -/
structure Gate.Sees (g : Gate) (c : Change) : Prop where
  active : g.activeDocument = some c.document
  settled : g.editing = false
  byUser : c.origin = .user

/-- Of a change that is seen, the shape decides whether it is typing. -/
theorem Gate.Sees.reasonAgainstEdit {g : Gate} {c : Change} (sees : g.Sees c) :
    g.reasonAgainstEdit c =
      if c.changesNothing then some .emptyDelta
      else if c.onlyDeletes then some .deletionOnly else none := by
  simp [Gate.reasonAgainstEdit, sees.active, sees.settled, sees.byUser]

/-- Of a change that is not seen the shape does not matter: it is neither empty nor a
deletion to the rules. -/
theorem Gate.reasonAgainstEdit_of_not_sees {g : Gate} {c : Change} (unseen : ¬ g.Sees c) :
    ∃ reason, g.reasonAgainstEdit c = some reason ∧ reason ≠ .emptyDelta ∧
      reason ≠ .deletionOnly := by
  unfold reasonAgainstEdit
  split
  · exact ⟨_, rfl, nofun, nofun⟩
  · next active =>
    split
    · exact ⟨_, rfl, nofun, nofun⟩
    · next settled =>
      split
      · exact ⟨_, rfl, nofun, nofun⟩
      · next origin =>
        have byUser : c.origin = .user := by
          cases cause : c.origin with
          | user => rfl
          | undoRedo => exact absurd cause origin
        exact absurd ⟨Decidable.not_not.mp active, Bool.eq_false_iff.mpr settled, byUser⟩ unseen

/-- A change that inserts at one place is one insertion of some text. -/
theorem Change.insertion?_eq_some_iff {c : Change} {offset : Nat} {text : String} :
    c.insertion? = some (offset, text) ↔ c.edits = [.insertion offset text] ∧ text ≠ "" := by
  constructor
  · intro inserted
    unfold insertion? at inserted
    split at inserted
    · next e edits =>
      rw [Option.ite_none_right_eq_some] at inserted
      obtain ⟨⟨kept, filled⟩, same⟩ := inserted
      obtain ⟨rfl, rfl⟩ := Prod.mk.inj (Option.some.inj same)
      exact ⟨by rw [edits, Edit.insertion, ← kept], filled⟩
    · cases inserted
  · rintro ⟨edits, filled⟩
    simp [insertion?, edits, Edit.insertion, filled]

/-- A change that inserts at one place neither does nothing nor only deletes. -/
theorem Change.shape_of_insertion? {c : Change} {offset : Nat} {text : String}
    (inserted : c.insertion? = some (offset, text)) :
    c.changesNothing = false ∧ c.onlyDeletes = false := by
  obtain ⟨edits, filled⟩ := Change.insertion?_eq_some_iff.mp inserted
  simp [onlyDeletes, changesNothing, edits, Edit.insertion, Edit.doesNothing, Edit.deletes, filled]

/-- What the user inserts, where it is seen, is typing. -/
theorem Gate.Sees.typing_of_insertion? {g : Gate} {c : Change} (sees : g.Sees c) {offset : Nat}
    {text : String} (inserted : c.insertion? = some (offset, text)) :
    g.reasonAgainstEdit c = none := by
  simp [sees.reasonAgainstEdit, Change.shape_of_insertion? inserted]

/-! ## The insertion that is awaited -/

namespace Offering

variable {o : Offering} {c : Change}

/-- The change is the very insertion that is awaited. -/
def Awaits (o : Offering) (c : Change) : Prop := ∃ i, o.awaited = some i ∧ isEchoOf i c = true

theorem recognizeEcho_of_awaits (echo : o.Awaits c) :
    o.recognizeEcho c = (true, { o with awaited := none, editing := false }) := by
  obtain ⟨i, awaited, same⟩ := echo
  simp [recognizeEcho, awaited, same]

/-- What is awaited after a change that is not the awaited insertion: the same as before
while the insertion is under way, and nothing once the host has given its word. -/
def stillAwaited (o : Offering) : Option Insertion := if o.editing then o.awaited else none

/-- Every other change affects at most what is awaited. -/
theorem recognizeEcho_of_not_awaits (other : ¬ o.Awaits c) :
    o.recognizeEcho c = (false, { o with awaited := o.stillAwaited }) := by
  obtain ⟨session, editing, awaited⟩ := o
  cases awaited with
  | none => simp [recognizeEcho, stillAwaited]
  | some i =>
      have unlike : ¬ isEchoOf i c = true := fun same => other ⟨i, rfl, same⟩
      cases editing <;> simp [recognizeEcho, stillAwaited, unlike]

end Offering

namespace Controller

variable {s : Controller}

/-- What a change leads to that is not the insertion that is awaited. -/
def reactToEdit (s : Controller) (change : Change) (now : Instant) : Reaction :=
  match s.gate.reasonAgainstEdit change with
  | some .deletionOnly => (s.noteTyping now).abandon
  | some _ => .unchanged s
  | none => (s.noteTyping now).reactToTyping change now

/-- An edit that is no typing and no deletion passes unseen. -/
theorem reactToEdit_of_passes {change : Change} {reason : Suppression}
    (against : s.gate.reasonAgainstEdit change = some reason) (kept : reason ≠ .deletionOnly)
    (now : Instant) : s.reactToEdit change now = .unchanged s := by
  unfold reactToEdit
  split
  · next deletion => exact absurd (Option.some.inj (against.symm.trans deletion)) kept
  · rfl
  · next typing => cases against.symm.trans typing

/-- An edit that is not seen, or that does nothing, leaves everything as it is. -/
theorem reactToEdit_of_unseen {change : Change}
    (unseen : ¬ s.gate.Sees change ∨ change.changesNothing = true) (now : Instant) :
    s.reactToEdit change now = .unchanged s := by
  by_cases sees : s.gate.Sees change
  · have nothing : change.changesNothing = true := unseen.resolve_left (not_not_intro sees)
    have against := sees.reasonAgainstEdit
    rw [nothing, if_pos rfl] at against
    exact reactToEdit_of_passes against nofun now
  · obtain ⟨reason, against, -, kept⟩ := Gate.reasonAgainstEdit_of_not_sees sees
    exact reactToEdit_of_passes against kept now

/-- A deletion ends what goes on. -/
theorem reactToEdit_of_deletion {change : Change}
    (against : s.gate.reasonAgainstEdit change = some .deletionOnly) (now : Instant) :
    s.reactToEdit change now = (s.noteTyping now).abandon := by
  simp [reactToEdit, against]

/-- An edit that nothing speaks against is typing. -/
theorem reactToEdit_of_typing {change : Change}
    (typing : s.gate.reasonAgainstEdit change = none) (now : Instant) :
    s.reactToEdit change now = (s.noteTyping now).reactToTyping change now := by
  simp [reactToEdit, typing]

/-- The awaited insertion is consumed. -/
theorem reactToChange_of_echo {change : Change} {o : Offering}
    (echo : s.offering.recognizeEcho change = (true, o)) (now : Instant) :
    s.reactToChange change now = ⟨{ s with offering := o }, [], true⟩ := by
  simp [reactToChange, echo, Reaction.quiet]

/-- Every other change is an ordinary edit. -/
theorem reactToChange_of_not_echo {change : Change} {o : Offering}
    (other : s.offering.recognizeEcho change = (false, o)) (now : Instant) :
    s.reactToChange change now =
      ({ s with offering := o } : Controller).reactToEdit change now := by
  simp only [reactToChange, other, Bool.false_eq_true, ↓reduceIte]
  rfl

/-- The same state, with another insertion awaited or none. -/
def withAwaited (s : Controller) (awaited : Option Insertion) : Controller :=
  { s with offering := { s.offering with awaited := awaited } }

@[simp] theorem withAwaited_session (s : Controller) (awaited : Option Insertion) :
    (s.withAwaited awaited).offering.session = s.offering.session := rfl

/-- The rules on typing do not ask what is awaited. -/
@[simp] theorem withAwaited_gate (s : Controller) (awaited : Option Insertion) :
    (s.withAwaited awaited).gate = s.gate := rfl

/-- **A change that is not the awaited insertion is an ordinary edit**, of a state
that differs at most in what is awaited. -/
theorem react_eq_of_not_awaits {change : Change} (other : ¬ s.offering.Awaits change)
    (now : Instant) :
    s.react (.documentChanged change now) =
      (s.withAwaited s.offering.stillAwaited).reactToEdit change now :=
  reactToChange_of_not_echo (Offering.recognizeEcho_of_not_awaits other) now

theorem react_of_not_awaits {change : Change} (other : ¬ s.offering.Awaits change)
    (now : Instant) :
    ∃ awaited, s.react (.documentChanged change now) =
      (s.withAwaited awaited).reactToEdit change now :=
  ⟨_, react_eq_of_not_awaits other now⟩

/-- An edit is typing, or a deletion, or passes unseen. -/
theorem reactToEdit_cases (s : Controller) (change : Change) (now : Instant) :
    s.gate.reasonAgainstEdit change = none ∧
        s.reactToEdit change now = (s.noteTyping now).reactToTyping change now ∨
      s.reactToEdit change now = (s.noteTyping now).abandon ∨
      s.reactToEdit change now = .unchanged s := by
  cases against : s.gate.reasonAgainstEdit change with
  | none => exact .inl ⟨rfl, reactToEdit_of_typing against now⟩
  | some reason =>
      by_cases deletion : reason = .deletionOnly
      · exact .inr (.inl (reactToEdit_of_deletion (deletion ▸ against) now))
      · exact .inr (.inr (reactToEdit_of_passes against deletion now))

/-- **What typing can do** to a controller. -/
inductive Typed (s : Controller) (change : Change) (now : Instant) (r : Reaction) : Prop
  /-- The live session goes on, narrowed. -/
  | along (x y : Session) (text : String) (live : s.offering.session = some x)
      (place : change.insertion? = some (x.expectedCursor, text))
      (narrowed : x.narrow? text = some y)
      (next : r = .quiet { s with offering := { s.offering with session := some y } } true)
  /-- The wait starts anew, and the session is rejected. -/
  | wait (granted : s.gate.reasonAgainstTrigger change.snapshot.languageId = none)
      (next : r.controller = { s with
        trigger := s.trigger.schedule change.snapshot now
        offering := s.offering.withoutSession })
      (told : r.effects = s.offering.rejections)
  /-- The wait may not start, and the session is rejected. -/
  | suppress (calm : s.Calm r) (gone : r.controller.offering.session = none)
      (idle : r.controller.trigger.phase = .idle)

/-- **Typing goes on with the session, waits, or is suppressed.** -/
theorem typed (s : Controller) (change : Change) (now : Instant) :
    s.Typed change now (s.reactToTyping change now) := by
  obtain ⟨x, y, text, live, place, narrowed, along⟩ | anew := s.reactToTyping_cases change now
  · exact .along x y text live place narrowed along
  · rw [anew]
    obtain ⟨granted, waits⟩ | ⟨prompt, shown, -, stops⟩ := s.rejectAndWait_cases change now
    · rw [waits]
      exact .wait granted rfl rfl
    · rw [stops]
      refine .suppress ⟨.cancel _, .inr rfl, rfl, ?_⟩ rfl rfl
      intro effect member
      rcases List.mem_append.mp member with rejection | prompted
      · exact isCalm_of_mem_rejections rejection
      · obtain ⟨p, -, rfl⟩ := List.mem_map.mp prompted
        trivial

end Controller

end InlineCompletion
