import InlineCompletion.Proofs.Controller.Accepting
import InlineCompletion.Proofs.Controller.Exclusion
import InlineCompletion.Proofs.Controller.Typing

/-!
# An accepted suggestion is not typing

The editor that inserts an accepted suggestion reports the insertion as a
change, like any other.  It has to be told from typing, or the suggestion would
ask for the next one.  Between the accepting and the report anything may happen:
another editor, a lost connection, a request by hand and its answer, changes
elsewhere.

What is remembered of the insertion is `Offering.editing` and
`Offering.awaited`.  Only three things touch them: accepting sets both, the word
that the insertion was handed over clears the first, and a change may clear
both.  So the argument is about changes alone, and there are two kinds: one that
comes while the insertion is under way passes unseen (`reactToEdit_of_editing`),
and the insertion itself is consumed.  Once it is, nothing is awaited, and until
the next accepting every change is an ordinary edit.
-/

namespace InlineCompletion

/-- The change is this insertion and nothing else. -/
def Change.Inserts (c : Change) (i : Insertion) : Prop :=
  c.document = i.document ∧ c.edits = [.insertion i.offset i.text]

/-- An insertion of some text inserts, at its place. -/
theorem Change.Inserts.insertion? {c : Change} {i : Insertion} (echo : c.Inserts i)
    (filled : i.text ≠ "") : c.insertion? = some (i.offset, i.text) :=
  Change.insertion?_eq_some_iff.mpr ⟨echo.2, filled⟩

namespace Offering

variable {o o' : Offering} {i : Insertion} {c : Change}

theorem isEchoOf_iff (filled : i.text ≠ "") : isEchoOf i c = true ↔ c.Inserts i := by
  unfold isEchoOf
  rw [Bool.and_eq_true, beq_iff_eq, beq_iff_eq]
  constructor
  · rintro ⟨document, inserted⟩
    exact ⟨document, (Change.insertion?_eq_some_iff.mp inserted).1⟩
  · intro echo
    exact ⟨echo.1, echo.insertion? filled⟩

/-- The awaited insertion is recognized. -/
theorem recognizeEcho_of_inserts (awaited : o.awaited = some i) (filled : i.text ≠ "")
    (echo : c.Inserts i) :
    o.recognizeEcho c = (true, { o with editing := false, awaited := none }) :=
  recognizeEcho_of_awaits ⟨i, awaited, (isEchoOf_iff filled).mpr echo⟩

/-- While the insertion is under way another change does not affect it. -/
theorem recognizeEcho_of_editing (awaited : o.awaited = some i) (filled : i.text ≠ "")
    (editing : o.editing = true) (other : ¬ c.Inserts i) : o.recognizeEcho c = (false, o) := by
  have unlike : isEchoOf i c = false := by
    rw [← Bool.not_eq_true, isEchoOf_iff filled]
    exact other
  simp [recognizeEcho, awaited, unlike, editing]

/-- Where nothing is awaited nothing is recognized. -/
theorem recognizeEcho_of_none (gone : o.awaited = none) : o.recognizeEcho c = (false, o) := by
  simp [recognizeEcho, gone]

/-- `o'` remembers of an insertion what `o` does. -/
structure SameInsertion (o o' : Offering) : Prop where
  editing : o'.editing = o.editing
  awaited : o'.awaited = o.awaited

theorem SameInsertion.refl (o : Offering) : o.SameInsertion o := ⟨rfl, rfl⟩

end Offering

namespace Controller

variable {s : Controller} {i : Insertion} {c : Change}

/-! ## What touches the insertion -/

theorem Calm.sameInsertion {r : Reaction} (calm : s.Calm r) :
    s.offering.SameInsertion r.controller.offering := ⟨calm.editing, calm.awaited⟩

/-- While an insertion is under way no change is typing. -/
theorem reactToEdit_of_editing (editing : s.offering.editing = true) (c : Change)
    (now : Instant) : s.reactToEdit c now = .unchanged s := by
  have unseen : ¬ s.gate.Sees c := fun sees => by
    have settled : s.offering.editing = false := sees.settled
    simp [editing] at settled
  exact reactToEdit_of_unseen (.inl unseen) now

/-- A change that is not the insertion has nothing to do with it. -/
theorem sameInsertion_reactToEdit (s : Controller) (c : Change) (now : Instant) :
    s.offering.SameInsertion (s.reactToEdit c now).controller.offering := by
  obtain ⟨-, typing⟩ | deletion | unseen := s.reactToEdit_cases c now
  · rw [typing]
    cases (s.noteTyping now).typed c now with
    | along x y text live place narrowed next => rw [next]; exact ⟨rfl, rfl⟩
    | wait granted next told => rw [next]; exact ⟨rfl, rfl⟩
    | suppress calm gone idle => exact calm.sameInsertion
  · rw [deletion]
    exact (calm_abandon (s.noteTyping now)).sameInsertion
  · rw [unseen]
    exact .refl _

/-- **An insertion is touched by accepting, by the word that it was handed over,
and by changes**, and by no other event. -/
theorem sameInsertion_react (coherent : Coherent s.trigger s.offering) {e : Event}
    (inserts : ∀ j, .insertText j ∉ (s.react e).effects) (handed : e ≠ .insertionHandedOver)
    (elsewhere : ∀ c now, e ≠ .documentChanged c now) :
    s.offering.SameInsertion (s.react e).controller.offering := by
  cases e with
  | documentChanged c now => exact absurd rfl (elsewhere c now)
  | insertionHandedOver => exact absurd rfl handed
  | accepted =>
      cases live : s.offering.session with
      | none =>
          rw [react_accepted_of_none live]
          exact .refl _
      | some x =>
          obtain ⟨item, text, -, -, -, accepted⟩ := react_accepted coherent live
          refine absurd ?_ (inserts ⟨x.document, x.expectedCursor, text⟩)
          rw [accepted]
          exact List.mem_cons_self
  | selectionMoved selection => exact (calm_reactToSelection s selection).sameInsertion
  | editorFocused editor =>
      exact ⟨(calm_reactToEditor s editor).editing, (calm_reactToEditor s editor).awaited⟩
  | windowFocused focused =>
      exact ⟨(calm_reactToFocus s focused).editing, (calm_reactToFocus s focused).awaited⟩
  | documentClosed document =>
      exact ⟨(calm_reactToClosing s document).editing, (calm_reactToClosing s document).awaited⟩
  | invoked snapshot =>
      rw [react]
      obtain ⟨-, next⟩ | ⟨reason, -, -, next⟩ | ⟨-, -, next⟩ :=
        s.reactToInvocation_cases snapshot <;>
        rw [next] <;> exact ⟨rfl, rfl⟩
  | tick now =>
      rw [react]
      cases s.passes now with
      | still next | hidden _ _ _ next | refused _ _ _ next | asks _ _ _ _ _ next =>
          rw [next]
          exact ⟨rfl, rfl⟩
  | answered seq outcome =>
      rw [react]
      obtain ⟨-, stale⟩ | ⟨q, -, -, taken⟩ := s.reactToAnswer_cases seq outcome
      · rw [stale]
        exact .refl _
      · rw [taken]
        obtain same | ⟨_, y, -, -, after⟩ := s.offering.afterAnswer_cases q outcome
        · rw [same]
          exact ⟨rfl, rfl⟩
        · rw [after]
          exact ⟨rfl, rfl⟩
  | navigated forward =>
      simp only [react, Reaction.quiet, Offering.navigate]
      split <;> exact ⟨rfl, rfl⟩
  | rejected => exact (calm_rejectLive s).sameInsertion
  | connectionChanged status =>
      rw [react]
      obtain ⟨-, next⟩ | ⟨-, next⟩ := s.reactToConnection_cases status <;>
        rw [next] <;> exact ⟨rfl, rfl⟩
  | settingsChanged settings =>
      rw [react]
      obtain ⟨-, next⟩ | ⟨trigger, -, next⟩ := s.reactToSettings_cases settings <;>
        rw [next] <;> exact ⟨rfl, rfl⟩
  | shutDown => exact (calm_abandon s).sameInsertion

/-! ## Until the insertion is seen -/

/-- Another change that comes while the insertion is under way passes unseen. -/
theorem react_of_other (awaited : s.offering.awaited = some i) (filled : i.text ≠ "")
    (editing : s.offering.editing = true) (other : ¬ c.Inserts i) (now : Instant) :
    s.react (.documentChanged c now) = .unchanged s := by
  have passes := Offering.recognizeEcho_of_editing awaited filled editing other
  exact (reactToChange_of_not_echo passes now).trans (reactToEdit_of_editing editing c now)

/-- Changes of documents come while an insertion is under way: once the word
that it was handed over has come, there are none. -/
def ChangesFirst (es : List Event) : Prop :=
  es.Pairwise fun e f => e = .insertionHandedOver → ∀ c now, f ≠ .documentChanged c now

/-- **An insertion is awaited until it is seen.**  By induction on the events:
while changes come, the insertion is under way; after the word that it was
handed over there are none. -/
theorem awaited_after (coherent : Coherent s.trigger s.offering)
    (awaited : s.offering.awaited = some i) (filled : i.text ≠ "") {es : List Event}
    (underWay : s.offering.editing = true ∨ ∀ c now, .documentChanged c now ∉ es)
    (once : ∀ j, .insertText j ∉ s.effectsOf es) (ordered : ChangesFirst es)
    (unseen : ∀ c now, .documentChanged c now ∈ es → ¬ c.Inserts i) :
    (s.after es).offering.awaited = some i := by
  induction es generalizing s with
  | nil => exact awaited
  | cons e es ih =>
      obtain ⟨later, ordered'⟩ := List.pairwise_cons.mp ordered
      simp only [effectsOf_cons, List.mem_append, not_or] at once
      have unseen' := fun c now member => unseen c now (List.mem_cons_of_mem _ member)
      have coherent' := coherent_react coherent e
      by_cases handed : e = .insertionHandedOver
      · subst handed
        have none' : ∀ c now, .documentChanged c now ∉ es :=
          fun c now member => later _ member rfl c now rfl
        exact ih coherent' awaited (.inr none') (fun j => (once j).2) ordered' unseen'
      by_cases change : ∃ c now, e = .documentChanged c now
      · obtain ⟨c, now, rfl⟩ := change
        have editing : s.offering.editing = true :=
          underWay.resolve_right fun none' => none' c now List.mem_cons_self
        have same := react_of_other awaited filled editing (unseen c now List.mem_cons_self) now
        simp only [same, Reaction.unchanged, after_cons] at once ⊢
        exact ih coherent awaited (.inl editing) (fun j => (once j).2) ordered' unseen'
      · have kept := sameInsertion_react coherent (fun j => (once j).1) handed
          fun c now same => change ⟨c, now, same⟩
        refine ih coherent' (kept.awaited.trans awaited) ?_ (fun j => (once j).2) ordered' unseen'
        exact underWay.imp kept.editing.trans fun none' c now member =>
          none' c now (List.mem_cons_of_mem _ member)

/-! ## Once it was seen -/

/-- **Nothing is awaited until the next accepting.** -/
theorem settled_after (coherent : Coherent s.trigger s.offering)
    (settled : s.offering.editing = false ∧ s.offering.awaited = none) {es : List Event}
    (none' : ∀ j, .insertText j ∉ s.effectsOf es) :
    (s.after es).offering.editing = false ∧ (s.after es).offering.awaited = none := by
  induction es generalizing s with
  | nil => exact settled
  | cons e es ih =>
      simp only [effectsOf_cons, List.mem_append, not_or] at none'
      refine ih (coherent_react coherent e) ?_ fun j => (none' j).2
      by_cases handed : e = .insertionHandedOver
      · subst handed
        exact ⟨rfl, settled.2⟩
      by_cases change : ∃ c now, e = .documentChanged c now
      · obtain ⟨c, now, rfl⟩ := change
        have passes := Offering.recognizeEcho_of_none (c := c) settled.2
        have kept := sameInsertion_reactToEdit s c now
        simp only [react, reactToChange_of_not_echo passes]
        exact ⟨kept.editing.trans settled.1, kept.awaited.trans settled.2⟩
      · have kept := sameInsertion_react coherent (fun j => (none' j).1) handed
          fun c now same => change ⟨c, now, same⟩
        exact ⟨kept.editing.trans settled.1, kept.awaited.trans settled.2⟩

/-- What a user inserts into the active document is typing. -/
theorem reactToEdit_of_inserts (settled : s.offering.editing = false) (echo : c.Inserts i)
    (filled : i.text ≠ "") (active : s.activeDocument = some c.document)
    (byUser : c.origin = .user) (now : Instant) :
    s.reactToEdit c now = (s.noteTyping now).reactToTyping c now := by
  have sees : s.gate.Sees c := ⟨active, settled, byUser⟩
  exact reactToEdit_of_typing (sees.typing_of_insertion? (echo.insertion? filled)) now

/-- **The insertion of an accepted suggestion is not taken for typing.**  After
a suggestion was accepted let anything happen, but for another accepting, and
let other changes come before the word that the insertion was handed over.  Then
the first change that is this very insertion is consumed: nothing is to be done,
nothing of the state changes but that the insertion is no longer under way and
no longer awaited.  And it is consumed only once: until the next accepting the
same change is an ordinary edit, and by the user in the active document it is
typing. -/
theorem inserted_suggestion_is_not_typing (reachable : s.Reachable)
    (accepted : .insertText i ∈ (s.react .accepted).effects) {es : List Event}
    (once : ∀ j, .insertText j ∉ (s.react .accepted).controller.effectsOf es)
    (ordered : ChangesFirst es)
    (unseen : ∀ c now, .documentChanged c now ∈ es → ¬ c.Inserts i)
    (echo : c.Inserts i) (now : Instant) :
    let t := (s.react .accepted).controller.after es
    t.react (.documentChanged c now) =
        ⟨{ t with offering := { t.offering with editing := false, awaited := none } }, [], true⟩ ∧
      ∀ fs, let v := (t.react (.documentChanged c now)).controller
        (∀ j, .insertText j ∉ v.effectsOf fs) →
          ∀ later, (v.after fs).react (.documentChanged c later) =
              (v.after fs).reactToEdit c later ∧
            ((v.after fs).activeDocument = some c.document → c.origin = .user →
              (v.after fs).react (.documentChanged c later) =
                ((v.after fs).noteTyping later).reactToTyping c later) := by
  intro t
  have coherent := reachable.coherent
  obtain ⟨-, x, live⟩ := (course coherent .accepted).event_of_accepts accepted rfl
  obtain ⟨item, text, -, -, filled, reaction⟩ := react_accepted coherent live
  -- what was asked for is what is left of the current suggestion
  have insertion : i = ⟨x.document, x.expectedCursor, text⟩ := by
    rw [reaction] at accepted
    simpa using accepted
  subst insertion
  have coherent' := coherent_react coherent .accepted
  have awaited : t.offering.awaited = some ⟨x.document, x.expectedCursor, text⟩ := by
    refine awaited_after coherent' ?_ filled (.inl ?_) once ordered unseen <;> rw [reaction] <;> rfl
  have consumed : t.react (.documentChanged c now) =
      ⟨{ t with offering := { t.offering with editing := false, awaited := none } }, [], true⟩ :=
    reactToChange_of_echo (Offering.recognizeEcho_of_inserts awaited filled echo) now
  refine ⟨consumed, ?_⟩
  intro fs v still later
  have settled : (v.after fs).offering.editing = false ∧ (v.after fs).offering.awaited = none := by
    refine settled_after (coherent_react (coherent_after coherent' es) _) ?_ still
    rw [consumed]
    exact ⟨rfl, rfl⟩
  have edit : (v.after fs).react (.documentChanged c later) = (v.after fs).reactToEdit c later :=
    reactToChange_of_not_echo (Offering.recognizeEcho_of_none settled.2) later
  exact ⟨edit, fun active byUser =>
    edit.trans (reactToEdit_of_inserts settled.1 echo filled active byUser later)⟩

/-- A change at the top of the file, as an editor makes it that adds an import. -/
def importAdded : Change :=
  ⟨⟨⟨"main.rs"⟩, "rust", "main.rs", "use std;fn", 10⟩, [.insertion 0 "use std;"], .user⟩

/-- The insertion of the suggestion that `shownRun` ends with. -/
def suggestionInserted : Change :=
  ⟨⟨⟨"main.rs"⟩, "rust", "main.rs", "use std;fn main() {}", 20⟩, [.insertion 2 " main() {}"], .user⟩

/-- The window is left, an import is added and the connection is lost before the
insertion is seen; it is consumed, and a second one would be typing. -/
theorem inserted_suggestion_is_not_typing_after_import :
    let s := (new .standard .standard).after shownRun
    let es : List Event := [.windowFocused false, .documentChanged importAdded 5,
      .insertionHandedOver, .connectionChanged .none,
      .editorFocused (some ⟨⟨"main.rs"⟩, "rust"⟩)]
    let t := (s.react .accepted).controller.after es
    .insertText ⟨⟨"main.rs"⟩, 2, " main() {}"⟩ ∈ (s.react .accepted).effects ∧
      t.offering.awaited = some ⟨⟨"main.rs"⟩, 2, " main() {}"⟩ ∧
      t.react (.documentChanged suggestionInserted 9) =
        ⟨{ t with offering := { t.offering with editing := false, awaited := none } }, [], true⟩ ∧
      (t.react (.documentChanged suggestionInserted 9)).controller.react
          (.documentChanged suggestionInserted 10) =
        ((t.react (.documentChanged suggestionInserted 9)).controller.noteTyping
          10).reactToTyping suggestionInserted 10 := by
  intro s es t
  have reachable : s.Reachable := ⟨.standard, .standard, shownRun, rfl⟩
  have accepted : .insertText ⟨⟨"main.rs"⟩, 2, " main() {}"⟩ ∈ (s.react .accepted).effects := by
    decide
  have silent : (s.react .accepted).controller.effectsOf es = [] := by decide
  have once : ∀ j, .insertText j ∉ (s.react .accepted).controller.effectsOf es := by simp [silent]
  obtain ⟨consumed, again⟩ := inserted_suggestion_is_not_typing reachable accepted once
    (by simp [ChangesFirst, es]) (by simp [es, Change.Inserts, importAdded, Edit.insertion])
    (c := suggestionInserted) ⟨rfl, rfl⟩ 9
  refine ⟨accepted, by decide, consumed, ?_⟩
  exact (again [] (by simp) 10).2 (by decide) rfl

end Controller

end InlineCompletion
