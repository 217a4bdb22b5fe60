import InlineCompletion.Proofs.Controller.Typing

/-!
# A change is never kept quiet

With every reaction the controller says whether the state may look different, and
an observer draws its picture anew only then.  The flag is put together by hand in
each handler, from what its pieces report.  It may well be raised for nothing; what
matters is that it is never left down when there is something to see.

`LooksLike` says which part of the state there is to see, with an equation of
controllers: all of it but the insertion that is awaited, the prompts that have come
up, and when the user last typed.  A reaction *discloses* what it does if it looks
like the state before it unless the flag is up (`Discloses`).  Endings do, because an
ending that reports nothing found nothing to end (`ending_of_unreported`); from there
each handler needs only its own part of the flag.

One reaction discloses what it does for a reason of its own.  Accepting takes the
session away before it looks whether there is anything to insert, and where there is
nothing it reports nothing.  The law would fail there, but a session that a run opens
is sound, and a sound session always has something to insert.
-/

namespace InlineCompletion

/-- Cancelling a trigger that waits for nothing does nothing. -/
theorem Trigger.cancel_of_isIdle {t : Trigger} (idle : t.isIdle = true) : t.cancel = t := by
  obtain ⟨phase, lastSeq, settleDelay⟩ := t
  obtain rfl : phase = .idle := (Trigger.isIdle_iff _).mp idle
  rfl

/-- Where navigating says that it was not possible, it has left the offering. -/
theorem Offering.navigate_of_refused {o : Offering} {forward : Bool}
    (refused : (o.navigate forward).1 = false) : (o.navigate forward).2 = o := by
  unfold navigate at refused ⊢
  split
  · next moved =>
    rw [moved] at refused
    cases refused
  · rfl

namespace Controller

variable {s t : Controller} {r : Reaction}

/-! ## What there is to see -/

/-- **`t` looks like `s`**: they differ at most in the insertion that is awaited, in
the prompts that have come up, and in when the user typed. -/
def LooksLike (s t : Controller) : Prop :=
  t = { s with
    offering := { s.offering with awaited := t.offering.awaited }
    prompts := t.prompts
    lastModification := t.lastModification
    sinceLastModification := t.sinceLastModification }

theorem LooksLike.refl (s : Controller) : s.LooksLike s := rfl

theorem LooksLike.trans {u : Controller} (first : s.LooksLike t) (second : t.LooksLike u) :
    s.LooksLike u := by
  refine Eq.trans second ?_
  rw [first]

/-- **A reaction of `s` that discloses what it does**: unless it says that the state may
look different, the state looks as it did, and at most a prompt comes up. -/
def Discloses (s : Controller) (r : Reaction) : Prop :=
  r.changed = false →
    s.LooksLike r.controller ∧ ∃ prompt : Option Prompt, r.effects = prompt.toList.map .prompt

namespace Discloses

/-- Who says that the state may look different keeps nothing back. -/
theorem of_changed (changed : r.changed = true) : s.Discloses r :=
  fun unreported => absurd (changed.symm.trans unreported) nofun

/-- A reaction without effects, to a state that looks the same if it is not reported. -/
theorem of_looksLike {changed : Bool} (like : changed = false → s.LooksLike t) :
    s.Discloses ⟨t, [], changed⟩ :=
  fun unreported => ⟨like unreported, none, rfl⟩

/-- What a state that looks the same discloses. -/
theorem from_like (disclosed : t.Discloses r) (like : s.LooksLike t) : s.Discloses r :=
  fun unreported => ⟨like.trans (disclosed unreported).1, (disclosed unreported).2⟩

/-- What is reported besides may be taken as not being there. -/
theorem alsoChanged {changed : Bool} (disclosed : changed = false → s.Discloses r) :
    s.Discloses (r.alsoChanged changed) := by
  intro unreported
  obtain ⟨inner, outer⟩ := Bool.or_eq_false_iff.mp unreported
  exact disclosed outer inner

end Discloses

/-! ## Endings -/

/-- **An ending that reports nothing found nothing to end.** -/
theorem ending_of_unreported {wait session : Bool}
    (unreported : (s.ending wait session).changed = false) :
    s.ending wait session = .unchanged s := by
  obtain ⟨waits, lives⟩ := Bool.or_eq_false_iff.mp unreported
  have trigger : (if wait then s.trigger.cancel else s.trigger) = s.trigger := by
    cases wait with
    | false => rfl
    | true => exact Trigger.cancel_of_isIdle (by simpa using waits)
  have gone : session = true → s.offering.session = none := by
    rintro rfl
    simpa using lives
  cases session with
  | false => simp [ending, trigger, Reaction.unchanged, waits]
  | true =>
      simp [ending, trigger, Reaction.unchanged, waits, gone,
        Offering.withoutSession_of_none (gone rfl)]

theorem discloses_ending (s : Controller) (wait session : Bool) :
    s.Discloses (s.ending wait session) := by
  intro unreported
  rw [ending_of_unreported unreported]
  exact ⟨.refl s, none, rfl⟩

theorem discloses_reactToEditor (s : Controller) (editor : Option FocusedEditor) :
    s.Discloses (s.reactToEditor editor) := by
  rw [reactToEditor_eq_ending]
  refine .alsoChanged fun same => (discloses_ending _ _ _).from_like ?_
  rw [← bne_eq_false_iff_eq.mp same]
  exact .refl s

theorem discloses_reactToFocus (s : Controller) (focused : Bool) :
    s.Discloses (s.reactToFocus focused) := by
  rw [reactToFocus_eq_ending]
  refine .alsoChanged fun same => (discloses_ending _ _ _).from_like ?_
  rw [← bne_eq_false_iff_eq.mp same]
  exact .refl s

theorem discloses_reactToClosing (s : Controller) (document : DocumentId) :
    s.Discloses (s.reactToClosing document) := by
  rw [reactToClosing_eq_ending]
  refine .alsoChanged fun other => (discloses_ending _ _ _).from_like ?_
  rw [activeWithout, if_neg (beq_eq_false_iff_ne.mp other)]
  exact .refl s

/-! ## Typing -/

/-- Where the wait may not start, nothing was there to end unless it is reported, and
a prompt is all that may come of it. -/
theorem discloses_reactToTyping (s : Controller) (change : Change) (now : Instant) :
    s.Discloses (s.reactToTyping change now) := by
  obtain ⟨x, y, text, -, -, -, along⟩ | anew := s.reactToTyping_cases change now
  · exact .of_changed (congrArg Reaction.changed along)
  · obtain ⟨-, waits⟩ | ⟨prompt, shown, -, stops⟩ := s.rejectAndWait_cases change now
    · exact .of_changed (by rw [anew, waits])
    · rw [anew, stops]
      intro unreported
      obtain ⟨dead, still⟩ := Bool.or_eq_false_iff.mp unreported
      have gone : s.offering.session = none := by simpa using dead
      have trigger : s.trigger.cancel = s.trigger :=
        Trigger.cancel_of_isIdle (by simpa using still)
      refine ⟨?_, prompt, by simp [gone]⟩
      simp only [trigger, Offering.withoutSession_of_none gone]
      rfl

theorem discloses_reactToEdit (s : Controller) (change : Change) (now : Instant) :
    s.Discloses (s.reactToEdit change now) := by
  have noted : s.LooksLike (s.noteTyping now) := rfl
  obtain ⟨-, typing⟩ | deletion | unseen := s.reactToEdit_cases change now
  · rw [typing]
    exact (discloses_reactToTyping _ change now).from_like noted
  · rw [deletion, abandon_eq_ending]
    exact (discloses_ending _ _ _).from_like noted
  · rw [unseen]
    exact .of_looksLike fun _ => .refl s

/-- A change that is awaited is reported, and every other one is an ordinary edit. -/
theorem discloses_documentChanged (s : Controller) (change : Change) (now : Instant) :
    s.Discloses (s.react (.documentChanged change now)) := by
  by_cases echo : s.offering.Awaits change
  · refine .of_changed ?_
    rw [react, reactToChange_of_echo (Offering.recognizeEcho_of_awaits echo)]
  · obtain ⟨awaited, edit⟩ := react_of_not_awaits echo now
    rw [edit]
    exact (discloses_reactToEdit _ change now).from_like rfl

/-! ## Requests, answers, and what the host says -/

theorem discloses_reactToInvocation (s : Controller) (snapshot : Snapshot) :
    s.Discloses (s.reactToInvocation snapshot) := by
  obtain ⟨-, passes⟩ | ⟨reason, -, -, refused⟩ | ⟨-, -, begins⟩ :=
    s.reactToInvocation_cases snapshot
  · rw [passes]
    exact .of_looksLike fun _ => .refl s
  · rw [refused]
    intro unreported
    have ended : s.ending true true = .unchanged s := ending_of_unreported unreported
    refine ⟨?_, promptOf reason, ?_⟩
    · rw [Reaction.alsoDo, ended]
      exact .refl s
    · rw [Reaction.alsoDo, ended]
      cases promptOf reason <;> rfl
  · exact .of_changed (congrArg Reaction.changed begins)

/-- A poll that ends a wait is reported, and so is one that begins a request. -/
theorem discloses_reactToTime (s : Controller) (now : Instant) :
    s.Discloses (s.reactToTime now) := by
  cases s.passes now with
  | still next =>
      rw [next]
      exact .of_looksLike fun _ => .refl s
  | hidden _ _ _ next | refused _ _ _ next | asks _ _ _ _ _ next =>
      exact .of_changed (congrArg Reaction.changed next)

theorem discloses_reactToAnswer (s : Controller) (seq : Nat) (outcome : RequestOutcome) :
    s.Discloses (s.reactToAnswer seq outcome) := by
  obtain ⟨-, stale⟩ | ⟨q, -, -, taken⟩ := s.reactToAnswer_cases seq outcome
  · rw [stale]
    exact .of_looksLike fun _ => .refl s
  · exact .of_changed (congrArg Reaction.changed taken)

/-- Accepting ends a session only with a report, because the session is sound. -/
theorem discloses_accepted (coherent : Coherent s.trigger s.offering) :
    s.Discloses (s.react .accepted) := by
  cases live : s.offering.session with
  | none =>
      rw [react_accepted_of_none live]
      exact .of_looksLike fun _ => .refl s
  | some x =>
      obtain ⟨item, text, -, -, accepted⟩ :=
        Offering.accept_of_sound live (coherent.sound_of_live x live)
      exact .of_changed (by simp only [react, accepted])

theorem discloses_navigated (s : Controller) (forward : Bool) :
    s.Discloses (s.react (.navigated forward)) := by
  refine .of_looksLike fun refused => ?_
  rw [Offering.navigate_of_refused refused]
  exact .refl s

/-- The host's word is reported exactly if an insertion was under way. -/
theorem discloses_acknowledged (s : Controller) : s.Discloses (s.react .insertionHandedOver) := by
  refine .of_looksLike fun settled => ?_
  have editing : s.offering.editing = false := settled
  have same : s.offering.acknowledge.2 = s.offering := by
    rw [Offering.acknowledge, ← editing]
  rw [same]
  exact .refl s

theorem discloses_reactToConnection (s : Controller) (status : ConnectionStatus) :
    s.Discloses (s.reactToConnection status) := by
  have like (same : (s.connection != status) = false) :
      s.LooksLike { s with connection := status } := by
    rw [← bne_eq_false_iff_eq.mp same]
    exact .refl s
  obtain ⟨-, valid⟩ | ⟨-, ends⟩ := s.reactToConnection_cases status
  · rw [valid]
    exact .of_looksLike fun same => (like same).trans rfl
  · rw [ends]
    exact .alsoChanged fun same => (discloses_ending _ _ _).from_like (like same)

theorem discloses_reactToSettings (s : Controller) (settings : Settings) :
    s.Discloses (s.reactToSettings settings) := by
  obtain ⟨-, same⟩ | ⟨trigger, -, next⟩ := s.reactToSettings_cases settings
  · rw [same]
    exact .of_looksLike fun _ => .refl s
  · exact .of_changed (congrArg Reaction.changed next)

/-! ## Any event -/

/-- **Every reaction of a coherent state discloses what it does.** -/
theorem discloses_react (coherent : Coherent s.trigger s.offering) (e : Event) :
    s.Discloses (s.react e) := by
  cases e with
  | documentChanged change now => exact discloses_documentChanged s change now
  | selectionMoved selection =>
      rw [react, reactToSelection_eq_ending]
      exact discloses_ending s _ _
  | editorFocused editor => exact discloses_reactToEditor s editor
  | windowFocused focused => exact discloses_reactToFocus s focused
  | documentClosed document => exact discloses_reactToClosing s document
  | invoked snapshot => exact discloses_reactToInvocation s snapshot
  | tick now => exact discloses_reactToTime s now
  | answered seq outcome => exact discloses_reactToAnswer s seq outcome
  | navigated forward => exact discloses_navigated s forward
  | accepted => exact discloses_accepted coherent
  | insertionHandedOver => exact discloses_acknowledged s
  | rejected =>
      rw [react, rejectLive_eq_ending]
      exact discloses_ending s _ _
  | connectionChanged status => exact discloses_reactToConnection s status
  | settingsChanged settings => exact discloses_reactToSettings s settings
  | shutDown =>
      rw [react, abandon_eq_ending]
      exact discloses_ending s _ _

/-- **What is not reported has not happened.**  Where the controller says, in a state
that a run has led to, that the state does not look different, the trigger, the live
session, the flag of an insertion under way, the connection, the active editor, the
focus of the window and the settings are what they were, and nothing is asked for but
a prompt at most. -/
theorem unreported_leaves_state (reachable : s.Reachable) (e : Event)
    (unreported : (s.react e).changed = false) :
    let t := (s.react e).controller
    t.trigger = s.trigger ∧ t.offering.session = s.offering.session ∧
      t.offering.editing = s.offering.editing ∧ t.connection = s.connection ∧
      t.active = s.active ∧ t.windowFocused = s.windowFocused ∧ t.settings = s.settings ∧
      ((s.react e).effects = [] ∨ ∃ prompt, (s.react e).effects = [.prompt prompt]) := by
  intro t
  obtain ⟨like, prompt, told⟩ := discloses_react reachable.coherent e unreported
  have same : s.LooksLike t := like
  refine ⟨congrArg (·.trigger) same, congrArg (·.offering.session) same,
    congrArg (·.offering.editing) same, congrArg (·.connection) same, congrArg (·.active) same,
    congrArg (·.windowFocused) same, congrArg (·.settings) same, ?_⟩
  cases prompt with
  | none => exact .inl told
  | some p => exact .inr ⟨p, told⟩

/-- Typing without a connection brings up a prompt, and that is all there is to see. -/
theorem unreported_leaves_state_prompting :
    let s := (new .standard .standard).after [.editorFocused (some ⟨⟨"main.rs"⟩, "rust"⟩)]
    let e : Event := .documentChanged
      ⟨⟨⟨"main.rs"⟩, "rust", "main.rs", "f", 1⟩, [.insertion 0 "f"], .user⟩ 0
    (s.react e).changed = false ∧ (s.react e).effects = [.prompt .connect] ∧
      (s.react e).controller ≠ s ∧ (s.react e).controller.trigger = s.trigger := by
  intro s e
  have reachable : s.Reachable := ⟨.standard, .standard, _, rfl⟩
  have unreported : (s.react e).changed = false := by decide
  exact ⟨unreported, by decide, by decide, (unreported_leaves_state reachable e unreported).1⟩

end Controller

end InlineCompletion
