import InlineCompletion.Proofs.Controller.Pieces

/-!
# Every reaction takes a course

The handlers of the controller, one by one, and the course each of them takes.
Those that only end something take the course of `Controller.ending`, and the
others are read off what their pieces answer.

`Controller.course` gathers the handlers, and the rest of the module is what
follows from it by induction on the events: a run keeps coherence
(`Controller.coherent_after`), and so every reachable state has it.
-/

namespace InlineCompletion

namespace Controller

/-- The course of a reaction of `s`. -/
abbrev Goes (s : Controller) (e : Event) (r : Reaction) : Prop :=
  Course s.trigger s.offering e r.controller.trigger r.controller.offering r.effects

/-! ## The handlers -/

variable {s : Controller} {e : Event}

theorem goes_unchanged (s : Controller) (e : Event) : s.Goes e (.unchanged s) := .refl _ _ _

/-- What only ends something rests, or rejects the session. -/
theorem goes_ending (s : Controller) (e : Event) (wait session : Bool) :
    s.Goes e (s.ending wait session) := by
  have rests : s.trigger.RestsAs (s.ending wait session).controller.trigger := by
    cases wait with
    | false => exact .refl _
    | true => exact .cancel _
  cases session with
  | false => exact .rest [] rests rfl id rfl
  | true => exact .reject [] rests rfl id (by simp [ending])

theorem goes_rejectLive (s : Controller) (e : Event) : s.Goes e s.rejectLive := by
  rw [rejectLive_eq_ending]
  exact goes_ending s e _ _

theorem goes_abandon (s : Controller) (e : Event) : s.Goes e s.abandon := by
  rw [abandon_eq_ending]
  exact goes_ending s e _ _

theorem goes_reactToTyping (s : Controller) (change : Change) (now : Instant) :
    s.Goes e (s.reactToTyping change now) := by
  obtain ⟨x, y, text, live, -, narrowed, along⟩ | anew := s.reactToTyping_cases change now
  · obtain ⟨sound, same⟩ := Session.sound_of_narrow? narrowed
    rw [along]
    exact .move x y rfl live rfl same sound id rfl
  · rw [anew]
    obtain ⟨-, waits⟩ | ⟨prompt, shown, -, stops⟩ := s.rejectAndWait_cases change now
    · rw [waits]
      exact .wait _ _ rfl rfl rfl id rfl
    · rw [stops]
      exact .reject prompt.toList (.cancel _) rfl id rfl

theorem goes_reactToChange (s : Controller) (change : Change) (now : Instant) :
    s.Goes e (s.reactToChange change now) := by
  have session := Offering.recognizeEcho_session s.offering change
  have editing := Offering.editing_of_recognizeEcho (o := s.offering) (c := change)
  unfold reactToChange
  split
  · next isEcho offering seen =>
    rw [seen] at session editing
    split
    · exact .rest [] (.refl _) session editing rfl
    · refine .of_offering session editing ?_
      dsimp only
      split
      · exact goes_abandon (({ s with offering := offering } : Controller).noteTyping now) e
      · exact .refl _ _ _
      · exact goes_reactToTyping (({ s with offering := offering } : Controller).noteTyping now)
          change now

theorem goes_reactToSelection (s : Controller) (selection : Selection) :
    s.Goes e (s.reactToSelection selection) := by
  rw [reactToSelection_eq_ending]
  exact goes_ending s e _ _

theorem goes_reactToEditor (s : Controller) (editor : Option FocusedEditor) :
    s.Goes e (s.reactToEditor editor) := by
  rw [reactToEditor_eq_ending]
  exact goes_ending { s with active := editor } e _ _

theorem goes_reactToFocus (s : Controller) (focused : Bool) :
    s.Goes e (s.reactToFocus focused) := by
  rw [reactToFocus_eq_ending]
  exact goes_ending { s with windowFocused := focused } e _ _

theorem goes_reactToClosing (s : Controller) (document : DocumentId) :
    s.Goes e (s.reactToClosing document) := by
  rw [reactToClosing_eq_ending]
  exact goes_ending { s with active := s.activeWithout document } e _ _

theorem goes_reactToInvocation (s : Controller) (snapshot : Snapshot) :
    s.Goes e (s.reactToInvocation snapshot) := by
  obtain ⟨-, passes⟩ | ⟨reason, -, -, refused⟩ | ⟨-, -, begins⟩ :=
    s.reactToInvocation_cases snapshot
  · rw [passes]
    exact goes_unchanged s e
  · rw [refused]
    refine .reject (promptOf reason).toList (.cancel _) rfl id ?_
    cases promptOf reason <;> rfl
  · rw [begins]
    exact .ask snapshot (.ofSnapshot snapshot s.languages s.settings .manual none) rfl rfl id rfl

/-- The one place where a request begins without rejecting the live session:
there is none, because typing was waited for. -/
theorem goes_reactToTime (coherent : Coherent s.trigger s.offering) (now : Instant) :
    s.Goes e (s.reactToTime now) := by
  cases s.passes now with
  | still next =>
      rw [next]
      exact goes_unchanged s e
  | hidden deadline snapshot waiting next =>
      rw [next]
      exact .rest [] (.cancel _) rfl id rfl
  | refused deadline snapshot waiting next =>
      rw [next]
      exact .drop deadline snapshot waiting rfl rfl id rfl
  | asks deadline snapshot waiting due granted next =>
      have gone : s.offering.session = none := coherent.session_of_not_idle (by simp [waiting])
      rw [next]
      refine .ask snapshot
        (.ofSnapshot snapshot s.languages s.settings .auto s.sinceLastModification) rfl rfl id ?_
      simp [gone]

theorem goes_reactToAnswer (s : Controller) (seq : Nat) (outcome : RequestOutcome) :
    s.Goes (.answered seq outcome) (s.reactToAnswer seq outcome) := by
  obtain ⟨-, stale⟩ | ⟨q, phase, rfl, taken⟩ := s.reactToAnswer_cases seq outcome
  · rw [stale]
    exact goes_unchanged s _
  · rw [taken]
    obtain same | ⟨response, y, rfl, opened, after⟩ := s.offering.afterAnswer_cases q outcome
    · rw [same]
      exact .rest [] (.cancel _) rfl id rfl
    · rw [after]
      exact .opening q response y rfl phase rfl opened rfl id rfl

theorem goes_navigated (coherent : Coherent s.trigger s.offering) (forward : Bool) :
    s.Goes e (s.react (.navigated forward)) := by
  cases moved : s.offering.session.bind (·.navigate forward) with
  | none =>
      have same : (s.offering.navigate forward).2 = s.offering := by
        simp [Offering.navigate, moved]
      exact .rest [] (.refl _) (by simp [react, Reaction.quiet, same])
        (by simp [react, Reaction.quiet, same]) rfl
  | some y =>
      obtain ⟨x, live, turned⟩ := Option.bind_eq_some_iff.mp moved
      have after : (s.offering.navigate forward).2 = { s.offering with session := some y } := by
        simp [Offering.navigate, moved]
      obtain ⟨sound, same⟩ := (coherent.sound_of_live x live).navigate turned
      exact .move x y rfl live (by simp [react, Reaction.quiet, after]) same sound
        (by simp [react, Reaction.quiet, after]) rfl

/-- A live session is sound, so accepting it never ends it without a decision. -/
theorem goes_accepted (coherent : Coherent s.trigger s.offering) :
    s.Goes .accepted (s.react .accepted) := by
  cases live : s.offering.session with
  | none =>
      rw [react_accepted_of_none live]
      exact goes_unchanged s _
  | some x =>
      obtain ⟨item, text, -, -, accepted⟩ :=
        Offering.accept_of_sound live (coherent.sound_of_live x live)
      simp only [react, accepted]
      exact .accept x ⟨x.document, x.expectedCursor, text⟩ item.responseIndex rfl rfl live rfl rfl
        rfl

/-- The word that an insertion was handed over only ever lowers the flag. -/
theorem goes_acknowledged (s : Controller) : s.Goes e (s.react .insertionHandedOver) :=
  .rest [] (.refl _) rfl (fun up => by simp [react, Reaction.quiet, Offering.acknowledge] at up)
    rfl

theorem goes_reactToConnection (s : Controller) (status : ConnectionStatus) :
    s.Goes e (s.reactToConnection status) := by
  obtain ⟨-, valid⟩ | ⟨-, ends⟩ := s.reactToConnection_cases status
  · rw [valid]
    exact .refl _ _ _
  · rw [ends]
    exact goes_ending { s with connection := status } e _ _

theorem goes_reactToSettings (s : Controller) (settings : Settings) :
    s.Goes e (s.reactToSettings settings) := by
  obtain ⟨-, same⟩ | ⟨trigger, rests, next⟩ := s.reactToSettings_cases settings
  · rw [same]
    exact goes_unchanged s e
  · rw [next]
    refine .rest [] ?_ rfl id rfl
    obtain ⟨rfl, -⟩ | rfl := rests
    · exact ⟨.inl rfl, rfl⟩
    · exact ⟨.inr rfl, rfl⟩

/-! ## Any event, and any run -/

/-- **Every reaction of a coherent state takes one of the courses.** -/
theorem course (coherent : Coherent s.trigger s.offering) (e : Event) : s.Goes e (s.react e) := by
  cases e with
  | documentChanged change now => exact goes_reactToChange s change now
  | selectionMoved selection => exact goes_reactToSelection s selection
  | editorFocused editor => exact goes_reactToEditor s editor
  | windowFocused focused => exact goes_reactToFocus s focused
  | documentClosed document => exact goes_reactToClosing s document
  | invoked snapshot => exact goes_reactToInvocation s snapshot
  | tick now => exact goes_reactToTime coherent now
  | answered seq outcome => exact goes_reactToAnswer s seq outcome
  | navigated forward => exact goes_navigated coherent forward
  | accepted => exact goes_accepted coherent
  | insertionHandedOver => exact goes_acknowledged s
  | rejected => exact goes_rejectLive s _
  | connectionChanged status => exact goes_reactToConnection s status
  | settingsChanged settings => exact goes_reactToSettings s settings
  | shutDown => exact goes_abandon s _

theorem coherent_new (settings : Settings) (languages : LanguageTable) :
    Coherent (new settings languages).trigger (new settings languages).offering :=
  coherent_of_none rfl fun q flying => by simp [new, Trigger.new] at flying

theorem coherent_react (coherent : Coherent s.trigger s.offering) (e : Event) :
    Coherent (s.react e).controller.trigger (s.react e).controller.offering :=
  (course coherent e).coherent coherent

theorem coherent_after (coherent : Coherent s.trigger s.offering) (es : List Event) :
    Coherent (s.after es).trigger (s.after es).offering := by
  induction es generalizing s with
  | nil => exact coherent
  | cons e es ih => exact ih (coherent_react coherent e)

/-- **A reachable state is coherent.** -/
theorem Reachable.coherent (reachable : s.Reachable) : Coherent s.trigger s.offering := by
  obtain ⟨settings, languages, events, rfl⟩ := reachable
  exact coherent_after (coherent_new settings languages) events

end Controller

end InlineCompletion
