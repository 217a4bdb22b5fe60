import InlineCompletion.Proofs.Controller.Settling

/-!
# Deadlines

A deadline is when typing will have settled, and so **typing alone sets one**: what any
other event leaves is the deadline that there was, or none (`nextDeadline_of_react`).  One
that is new comes a pause after the change that set it (`nextDeadline_cases`).  A tick
leaves it only while it is still to come (`lt_of_nextDeadline_tick`).

A host that ticks when it is told to therefore gets ahead: no tick and no answer gives it
another deadline to wait for.
-/

namespace InlineCompletion

/-- What rests waits for no deadline that it did not wait for before. -/
theorem Trigger.RestsAs.deadline? {t t' : Trigger} (rests : t.RestsAs t') {deadline : Instant}
    (after : t'.deadline? = some deadline) : t.deadline? = some deadline := by
  rcases rests.phase with same | idle
  · unfold Trigger.deadline? at after ⊢
    rw [← same]
    exact after
  · rw [Trigger.deadline?_of_idle idle] at after
    cases after

namespace Controller

variable {s : Controller}

/-- A controller with a deadline waits for typing to settle. -/
theorem debouncing_of_nextDeadline {deadline : Instant} (next : s.nextDeadline = some deadline) :
    ∃ snapshot, s.trigger.phase = .debouncing deadline snapshot := by
  unfold nextDeadline Trigger.deadline? at next
  split at next
  · next snapshot phase =>
    obtain rfl := Option.some.inj next
    exact ⟨snapshot, phase⟩
  · cases next

/-- A tick before every deadline does nothing. -/
theorem react_tick_of_early {now : Instant}
    (early : ∀ deadline, s.nextDeadline = some deadline → now < deadline) :
    s.react (.tick now) = .unchanged s := by
  cases next : s.nextDeadline with
  | none => exact react_tick_of_not_waiting next now
  | some deadline =>
      obtain ⟨snapshot, phase⟩ := debouncing_of_nextDeadline next
      exact react_tick_of_still (Trigger.poll_of_early phase (early deadline next) _)

/-- What a tick leaves of a wait. -/
theorem tick_cases (s : Controller) (now : Instant) :
    s.react (.tick now) = .unchanged s ∧
        (∀ deadline, s.nextDeadline = some deadline → now < deadline) ∨
      (s.react (.tick now)).controller.nextDeadline = none := by
  cases phase : s.trigger.phase with
  | idle =>
      have none' : s.trigger.deadline? = none := Trigger.deadline?_of_idle phase
      exact .inr ((react_tick_of_not_waiting none' now).symm ▸ none')
  | inFlight q =>
      have none' : s.trigger.deadline? = none := by simp [Trigger.deadline?, phase]
      exact .inr ((react_tick_of_not_waiting none' now).symm ▸ none')
  | debouncing deadline snapshot =>
      by_cases early : now < deadline
      · refine .inl ⟨react_tick_of_still (Trigger.poll_of_early phase early _), ?_⟩
        intro deadline' waiting
        obtain rfl := Option.some.inj
          ((Trigger.deadline?_of_debouncing phase).symm.trans waiting)
        exact early
      · refine .inr ?_
        simp only [react, reactToTime]
        cases s.offering.isVisible with
        | true => simp [Trigger.poll, phase, early, Reaction.quiet, nextDeadline, Trigger.deadline?]
        | false =>
            simp only [Trigger.poll_of_due phase (Nat.le_of_not_lt early)]
            split <;> rfl

/-- **A tick comes past every deadline that is due.** -/
theorem lt_of_nextDeadline_tick {now deadline : Instant}
    (after : (s.react (.tick now)).controller.nextDeadline = some deadline) :
    now < deadline := by
  rcases tick_cases s now with ⟨still, early⟩ | none'
  · rw [still] at after
    exact early deadline after
  · rw [none'] at after
    cases after

/-- **Typing alone sets a deadline.** -/
theorem nextDeadline_of_react {e : Event} (typing : ∀ change now, e ≠ .documentChanged change now)
    {deadline : Instant} (after : (s.react e).controller.nextDeadline = some deadline) :
    s.nextDeadline = some deadline := by
  cases e with
  | documentChanged change now => exact absurd rfl (typing change now)
  | selectionMoved selection => exact (calm_reactToSelection s selection).rests.deadline? after
  | editorFocused editor => exact (calm_reactToEditor s editor).rests.deadline? after
  | windowFocused focused => exact (calm_reactToFocus s focused).rests.deadline? after
  | documentClosed document => exact (calm_reactToClosing s document).rests.deadline? after
  | invoked snapshot =>
      rw [react] at after
      obtain ⟨-, passes⟩ | ⟨reason, -, -, refused⟩ | ⟨-, -, begins⟩ :=
        s.reactToInvocation_cases snapshot
      · rw [passes] at after
        exact after
      · -- what was waited for has ended
        rw [refused] at after
        cases after
      · rw [begins] at after
        cases after
  | tick now =>
      rcases tick_cases s now with ⟨still, -⟩ | none'
      · rw [still] at after
        exact after
      · rw [none'] at after
        cases after
  | answered seq outcome =>
      rw [react] at after
      obtain ⟨-, stale⟩ | ⟨q, -, -, taken⟩ := s.reactToAnswer_cases seq outcome
      · rw [stale] at after
        exact after
      · rw [taken] at after
        cases after
  | navigated forward => exact after
  | accepted =>
      simp only [react] at after
      split at after <;> exact after
  | insertionHandedOver => exact after
  | rejected => exact (calm_rejectLive s).rests.deadline? after
  | connectionChanged status =>
      rw [react] at after
      obtain ⟨-, valid⟩ | ⟨-, ends⟩ := s.reactToConnection_cases status
      · rw [valid] at after
        exact after
      · rw [ends] at after
        cases after
  | settingsChanged settings =>
      rw [react] at after
      obtain ⟨-, same⟩ | ⟨trigger, told, next⟩ := s.reactToSettings_cases settings
      · rw [same] at after
        exact after
      · rw [next] at after
        obtain ⟨rfl, -⟩ | rfl := told
        · exact after
        · cases after
  | shutDown => exact (calm_abandon s).rests.deadline? after

/-- **A deadline was there before, or it is when the pause after a change will be over.** -/
theorem nextDeadline_cases {e : Event} {deadline : Instant}
    (after : (s.react e).controller.nextDeadline = some deadline) :
    s.nextDeadline = some deadline ∨
      ∃ change now, e = .documentChanged change now ∧ deadline = now + s.trigger.settleDelay := by
  by_cases typing : ∃ change now, e = .documentChanged change now
  · obtain ⟨change, now, rfl⟩ := typing
    rw [react, nextDeadline] at after
    obtain same | anew | ends := rewaits_reactToChange s change now
    · rw [same] at after
      exact .inl after
    · rw [anew] at after
      exact .inr ⟨change, now, rfl, (Option.some.inj after).symm⟩
    · rw [ends] at after
      cases after
  · exact .inl (nextDeadline_of_react (fun change now told => typing ⟨change, now, told⟩) after)

end Controller

end InlineCompletion
