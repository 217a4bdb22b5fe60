import InlineCompletion.Proofs.Controller.Handlers

/-!
# A live session and a wait exclude each other

Nothing in the controller asks whether the trigger waits while suggestions are
on offer, yet the two never meet: `live_session_excludes_waiting` says so of
every reachable state.  It is coherence read off, together with what coherence
means for the passing of time.  A tick polls the trigger with the visibility of
the session, and it clears the session when the trigger fires; the first is
never a refusal and the second never a loss.
-/

namespace InlineCompletion

namespace Controller

variable {s : Controller}

/-- What can be seen is a live session. -/
theorem isVisible_eq_false_of_none {o : Offering} (gone : o.session = none) :
    o.isVisible = false := by
  simp [Offering.isVisible, gone]

/-- Clearing an offering without a session does nothing. -/
theorem clear_of_none {o : Offering} (gone : o.session = none) : o.clear = (false, o) := by
  have same : ({ o with session := none } : Offering) = o := Offering.withoutSession_of_none gone
  simp [Offering.clear, gone, same]

/-- A poll fires only where typing was waited for, and there is no session then. -/
theorem session_of_fired (coherent : Coherent s.trigger s.offering) {now : Instant}
    {visible : Bool} {firing : Firing} (fired : (s.trigger.poll now visible).1 = some firing) :
    s.offering.session = none := by
  obtain still | ⟨deadline, snapshot, waiting, -, -⟩ := s.trigger.poll_cases now visible
  · rw [still] at fired
    cases fired
  · exact coherent.session_of_not_idle (by simp [waiting])

/-- The passing of time leaves the offering as it is. -/
theorem reactToTime_offering (coherent : Coherent s.trigger s.offering) (now : Instant) :
    (s.reactToTime now).controller.offering = s.offering := by
  cases s.passes now with
  | still next | hidden _ _ _ next | refused _ _ _ next =>
      rw [next]
      rfl
  | asks deadline snapshot waiting due granted next =>
      rw [next]
      exact Offering.withoutSession_of_none (coherent.session_of_not_idle (by simp [waiting]))

/-- **A live session and a wait exclude each other** in every reachable state.
While a session is live the trigger is idle, and the session can be seen and
answers the last request; a request in flight is the last one that began.  So
no tick polls a waiting trigger with a session in sight, the trigger fires only
where there is no session to clear, and no tick changes the offering. -/
theorem live_session_excludes_waiting (reachable : s.Reachable) :
    (∀ x, s.offering.session = some x →
        s.trigger.phase = .idle ∧ x.visible = true ∧ x.requestSeq = s.trigger.lastSeq) ∧
      (∀ q, s.trigger.phase = .inFlight q → q.seq = s.trigger.lastSeq) ∧
      (s.trigger.phase ≠ .idle → s.offering.isVisible = false) ∧
      (∀ now firing, (s.trigger.poll now s.offering.isVisible).1 = some firing →
        s.offering.clear = (false, s.offering)) ∧
      ∀ now, (s.react (.tick now)).controller.offering = s.offering := by
  have coherent := reachable.coherent
  refine ⟨?_, coherent.seq_of_inFlight, ?_, ?_, ?_⟩
  · intro x live
    exact ⟨coherent.idle_of_live x live, coherent.visible_of_live x live,
      coherent.seq_of_live x live⟩
  · intro busy
    exact isVisible_eq_false_of_none (coherent.session_of_not_idle busy)
  · intro now firing fired
    exact clear_of_none (session_of_fired coherent fired)
  · intro now
    exact reactToTime_offering coherent now

/-- A run that asks for suggestions by hand and is shown one. -/
def shownRun : List Event :=
  [.connectionChanged ⟨true, true, false, false⟩,
    .invoked ⟨⟨"main.rs"⟩, "rust", "main.rs", "fn", 2⟩,
    .answered 1 (.suggestions [.plain "", .plain " main() {}"])]

/-- The session that the run ends with, and the idle trigger beside it. -/
theorem live_session_excludes_waiting_shown :
    ∃ x, ((new .standard .standard).after shownRun).offering.session = some x ∧
      ((new .standard .standard).after shownRun).trigger.phase = .idle ∧
      x.visible = true ∧
      x.requestSeq = ((new .standard .standard).after shownRun).trigger.lastSeq := by
  have reachable : ((new .standard .standard).after shownRun).Reachable :=
    ⟨.standard, .standard, shownRun, rfl⟩
  refine ⟨⟨1, ⟨"main.rs"⟩, 2, [⟨1, .plain " main() {}"⟩], 0, true, ""⟩, by decide, ?_⟩
  exact (live_session_excludes_waiting reachable).1 _ (by decide)

end Controller

end InlineCompletion
