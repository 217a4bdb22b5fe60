import InlineCompletion.Proofs.Controller.Exclusion
import InlineCompletion.Proofs.Controller.Permission

/-!
# A burst of typing asks once

Typing comes in bursts, and a burst is worth one request: the one that shows the
service the text as it is when the burst is over.  A `Burst` is a change that
starts the wait, followed by more such changes and by ticks that come before the
wait for the last of them is over.  Nothing is assumed of the clock; the changes
of a burst may bear any instants, in any order.

All that a burst leaves behind is in `Settling`: the trigger is the one that the
**last change alone** would have left, whatever was waited for before the burst.
That is why a request in flight does not matter, nor how long the burst is.  One
step keeps it (`Settling.change`, `Settling.tick`), and so does a burst
(`Burst.settling`).

The trigger keeps its own copy of the pause that it waits for.  That the copy is
what the user has chosen (`Paced`) is an invariant of its own, and it holds since
settings reach the trigger and the controller in one event.
-/

namespace InlineCompletion

/-! ## Polling -/

namespace Trigger

/-- Starting the wait anew forgets the wait before. -/
theorem schedule_schedule (t : Trigger) (a b : Snapshot) (m n : Instant) :
    (t.schedule a m).schedule b n = t.schedule b n := rfl

variable {t : Trigger} {deadline : Instant} {snapshot : Snapshot}

/-- A poll before the deadline does nothing. -/
theorem poll_of_early (waiting : t.phase = .debouncing deadline snapshot) {now : Instant}
    (early : now < deadline) (visible : Bool) : t.poll now visible = (none, t) := by
  simp [poll, waiting, early]

/-- A poll at the deadline or later fires, with no suggestions in sight. -/
theorem poll_of_due (waiting : t.phase = .debouncing deadline snapshot) {now : Instant}
    (due : deadline ≤ now) :
    t.poll now false = (some ⟨t.lastSeq + 1, snapshot⟩, t.begin snapshot) := by
  simp [poll, waiting, Nat.not_lt.mpr due]

theorem deadline?_of_idle (idle : t.phase = .idle) : t.deadline? = none := by
  simp [deadline?, idle]

theorem deadline?_of_debouncing (waiting : t.phase = .debouncing deadline snapshot) :
    t.deadline? = some deadline := by
  simp [deadline?, waiting]

/-- A poll does nothing where typing is not waited for. -/
theorem poll_of_not_waiting (other : t.deadline? = none) (now : Instant) (visible : Bool) :
    t.poll now visible = (none, t) := by
  unfold deadline? at other
  unfold poll
  split at other
  · cases other
  · rfl

end Trigger

namespace Controller

variable {s t : Controller} {c : Change} {now : Instant} {es : List Event}

/-- Where a poll does nothing, time passes unnoticed. -/
theorem react_tick_of_still
    (still : s.trigger.poll now s.offering.isVisible = (none, s.trigger)) :
    s.react (.tick now) = .unchanged s := by
  simp only [react, reactToTime, still, Reaction.quiet, Reaction.unchanged]
  cases s.trigger.deadline? <;> rfl

/-- Where typing is not waited for, time passes unnoticed. -/
theorem react_tick_of_not_waiting (other : s.trigger.deadline? = none) (now : Instant) :
    s.react (.tick now) = .unchanged s :=
  react_tick_of_still (Trigger.poll_of_not_waiting other now _)

theorem effectsOf_ticks_of_not_waiting (other : s.trigger.deadline? = none)
    (ticks : List Instant) : s.effectsOf (ticks.map .tick) = [] := by
  induction ticks with
  | nil => rfl
  | cons now ticks ih =>
      rw [List.map_cons, effectsOf_cons, react_tick_of_not_waiting other]
      exact ih

/-- Once typing has settled, **the request begins**. -/
theorem react_tick_of_due {deadline : Instant} {snapshot : Snapshot}
    (waiting : s.trigger.phase = .debouncing deadline snapshot) (due : deadline ≤ now)
    (gone : s.offering.session = none) (serves : s.connection.serves = true) :
    s.react (.tick now) = ⟨{ s with trigger := s.trigger.begin snapshot },
      [.requestCompletion (s.trigger.lastSeq + 1)
        (.ofSnapshot snapshot s.languages s.settings .auto s.sinceLastModification)], true⟩ := by
  have granted :
      ({ s with trigger := s.trigger.begin snapshot } : Controller).gate.reasonAgainstConnection =
        none := (Gate.reasonAgainstConnection_eq_none_iff_serves _).mpr serves
  simp only [react, reactToTime, isVisible_eq_false_of_none gone, Trigger.poll_of_due waiting due,
    granted, clear_of_none gone]

/-! ## The pause that is waited for -/

/-- What may become of a wait when something is typed at `now`: it goes on as it is, it
starts anew, or it ends. -/
def Rewaits (t : Trigger) (snapshot : Snapshot) (now : Instant) (t' : Trigger) : Prop :=
  t' = t ∨ t' = t.schedule snapshot now ∨ t' = t.cancel

theorem rewaits_reactToTyping (s : Controller) (change : Change) (now : Instant) :
    Rewaits s.trigger change.snapshot now (s.reactToTyping change now).controller.trigger := by
  obtain ⟨x, y, text, -, -, -, along⟩ | anew := s.reactToTyping_cases change now
  · rw [along]
    exact .inl rfl
  · rw [anew]
    obtain ⟨-, waits⟩ | ⟨prompt, shown, -, stops⟩ := s.rejectAndWait_cases change now
    · rw [waits]
      exact .inr (.inl rfl)
    · rw [stops]
      exact .inr (.inr rfl)

/-- **A change** does nothing else to a wait, either. -/
theorem rewaits_reactToChange (s : Controller) (change : Change) (now : Instant) :
    Rewaits s.trigger change.snapshot now (s.reactToChange change now).controller.trigger := by
  by_cases echo : s.offering.Awaits change
  · rw [reactToChange_of_echo (Offering.recognizeEcho_of_awaits echo)]
    exact .inl rfl
  · obtain ⟨awaited, edit⟩ := react_of_not_awaits echo now
    rw [show s.reactToChange change now = _ from edit]
    obtain ⟨-, typing⟩ | deletion | unseen := (s.withAwaited awaited).reactToEdit_cases change now
    · rw [typing]
      exact rewaits_reactToTyping _ change now
    · rw [deletion, abandon_eq]
      exact .inr (.inr rfl)
    · rw [unseen]
      exact .inl rfl

/-- **Only settings change the pause** that the trigger waits for. -/
theorem settleDelay_react {e : Event} (other : ∀ settings, e ≠ .settingsChanged settings) :
    (s.react e).controller.trigger.settleDelay = s.trigger.settleDelay := by
  cases e with
  | documentChanged change now =>
      rw [react]
      obtain same | anew | ends := rewaits_reactToChange s change now
      · rw [same]
      · rw [anew]
        rfl
      · rw [ends]
        rfl
  | _ => exact (leaves_react fun _ _ => by rintro ⟨⟩).settleDelay.resolve_right (other _)

/-- The trigger waits for the pause that the settings say. -/
def Paced (s : Controller) : Prop := s.trigger.settleDelay = s.settings.settleDelay

theorem paced_new (settings : Settings) (languages : LanguageTable) :
    (new settings languages).Paced := rfl

theorem Paced.react (paced : s.Paced) (e : Event) : (s.react e).controller.Paced := by
  by_cases told : ∃ settings, e = .settingsChanged settings
  · obtain ⟨settings, rfl⟩ := told
    rw [Controller.react]
    obtain ⟨-, same⟩ | ⟨trigger, told, next⟩ := s.reactToSettings_cases settings
    · rw [same]
      exact paced
    · rw [next]
      obtain ⟨rfl, -⟩ | rfl := told <;> rfl
  · have other : ∀ settings, e ≠ .settingsChanged settings := fun settings h => told ⟨settings, h⟩
    rw [Paced, settleDelay_react other, paced]
    rcases (sameGround_react s e).settings with same | changed
    · rw [same]
    · exact absurd changed (other _)

theorem Paced.after (paced : s.Paced) (es : List Event) : (s.after es).Paced := by
  induction es generalizing s with
  | nil => exact paced
  | cons e es ih => exact ih (paced.react e)

/-- **A reachable state waits for the pause that its settings say.** -/
theorem Reachable.paced (reachable : s.Reachable) : s.Paced := by
  obtain ⟨settings, languages, events, rfl⟩ := reachable
  exact (paced_new settings languages).after events

/-! ## Bursts -/

/-- A change that starts the wait: it is not the insertion that is awaited, it is
typing, and typing may ask for suggestions. -/
structure Qualifies (s : Controller) (c : Change) : Prop where
  other : ¬ s.offering.Awaits c
  typing : s.gate.reasonAgainstEdit c = none
  granted : s.gate.reasonAgainstTrigger c.snapshot.languageId = none

/-- **A burst of typing** from `s`: a change that starts the wait, and then more of
them and ticks that come too early for the last one.  The last change is `c`, at
`now`. -/
inductive Burst (s : Controller) : List Event → Change → Instant → Prop
  | first {c : Change} {now : Instant} (qualifies : s.Qualifies c) :
      Burst s [.documentChanged c now] c now
  | change {es : List Event} {c c' : Change} {now now' : Instant} (burst : Burst s es c now)
      (qualifies : (s.after es).Qualifies c') :
      Burst s (es ++ [.documentChanged c' now']) c' now'
  | tick {es : List Event} {c : Change} {now early : Instant} (burst : Burst s es c now)
      (soon : early < now + (s.after es).settings.settleDelay) :
      Burst s (es ++ [.tick early]) c now

/-- **What a burst from `s` leaves behind**: a wait that the last change alone has
started, and nothing on offer. -/
structure Settling (s t : Controller) (c : Change) (now : Instant) : Prop where
  waits : t.trigger = s.trigger.schedule c.snapshot now
  gone : t.offering.session = none
  serves : t.connection.serves = true
  settings : t.settings = s.settings

/-- A change that starts the wait starts it, and does nothing else. -/
theorem Qualifies.react (qualifies : s.Qualifies c) (gone : s.offering.session = none)
    (now : Instant) :
    s.Settling (s.react (.documentChanged c now)).controller c now ∧
      (s.react (.documentChanged c now)).effects = [] := by
  obtain ⟨awaited, edit⟩ := react_of_not_awaits qualifies.other now
  have granted : ((s.withAwaited awaited).noteTyping now).gate.reasonAgainstTrigger
      c.snapshot.languageId = none := qualifies.granted
  have scheduled : s.react (.documentChanged c now) =
      .quiet { (s.withAwaited awaited).noteTyping now with
        trigger := s.trigger.schedule c.snapshot now } true := by
    rw [edit, reactToEdit_of_typing (s := s.withAwaited awaited) qualifies.typing,
      reactToTyping_of_none (s := (s.withAwaited awaited).noteTyping now) gone, scheduleOrSuppress,
      granted]
    rfl
  obtain ⟨-, -, serves⟩ := (Gate.reasonAgainstTrigger_eq_none_iff _ _).mp qualifies.granted
  rw [scheduled]
  exact ⟨⟨rfl, gone, serves, rfl⟩, rfl⟩

namespace Settling

/-- Typing is waited for until the pause after the last change is over. -/
theorem phase (settling : s.Settling t c now) :
    t.trigger.phase = .debouncing (now + s.trigger.settleDelay) c.snapshot := by
  rw [settling.waits, Trigger.schedule_phase]

/-- The next change of a burst takes the place of the last. -/
theorem change {c' : Change} (settling : s.Settling t c now) (qualifies : t.Qualifies c')
    (now' : Instant) :
    s.Settling (t.react (.documentChanged c' now')).controller c' now' ∧
      (t.react (.documentChanged c' now')).effects = [] := by
  obtain ⟨next, silent⟩ := qualifies.react settling.gone now'
  refine ⟨⟨?_, next.gone, next.serves, next.settings.trans settling.settings⟩, silent⟩
  rw [next.waits, settling.waits, Trigger.schedule_schedule]

/-- A tick that comes too early does nothing. -/
theorem tick {early : Instant} (settling : s.Settling t c now)
    (soon : early < now + s.trigger.settleDelay) : t.react (.tick early) = .unchanged t :=
  react_tick_of_still (Trigger.poll_of_early settling.phase soon _)

end Settling

/-- **A burst has no effect yet**, and leaves behind what its last change leaves. -/
theorem Burst.settling (burst : s.Burst es c now) (paced : s.Paced)
    (gone : s.offering.session = none) :
    s.Settling (s.after es) c now ∧ s.effectsOf es = [] := by
  induction burst with
  | first qualifies =>
      obtain ⟨settling, silent⟩ := qualifies.react gone _
      exact ⟨settling, by rw [effectsOf_cons, silent]; rfl⟩
  | change _ qualifies ih =>
      obtain ⟨settling, silent⟩ := ih.1.change qualifies _
      rw [after_append, effectsOf_append, ih.2, effectsOf_cons, silent]
      exact ⟨settling, rfl⟩
  | tick _ soon ih =>
      rw [ih.1.settings, ← paced] at soon
      have still := ih.1.tick soon
      rw [after_append, effectsOf_append, ih.2, effectsOf_cons, after_cons, still]
      exact ⟨ih.1, rfl⟩

/-- **A burst of typing asks once.**  While it lasts nothing is asked for, and the
host is told to tick when the pause after the last change is over; that there is an
instant which comes so long after the last change is taken for granted.  The first
tick that comes then sends one request, under the next number, and it shows the text
as it was after the last change.  Further ticks have no effect. -/
theorem burst_asks_once (reachable : s.Reachable) (gone : s.offering.session = none)
    (burst : s.Burst es c now) :
    let t := s.after es
    let deadline := now + t.settings.settleDelay
    s.effectsOf es = [] ∧ t.nextDeadline = some deadline ∧
      ∀ late, deadline ≤ late →
        (t.react (.tick late)).effects =
            [.requestCompletion (s.trigger.lastSeq + 1)
              (.ofSnapshot c.snapshot t.languages t.settings .auto t.sinceLastModification)] ∧
          ∀ ticks : List Instant,
            (t.react (.tick late)).controller.effectsOf (ticks.map .tick) = [] := by
  intro t deadline
  obtain ⟨settling, silent⟩ := burst.settling reachable.paced gone
  have pause : s.trigger.settleDelay = t.settings.settleDelay :=
    Eq.trans reachable.paced (congrArg Settings.settleDelay settling.settings.symm)
  have phase : t.trigger.phase = .debouncing deadline c.snapshot := by
    rw [settling.phase, pause]
  refine ⟨silent, ?_, ?_⟩
  · exact Trigger.deadline?_of_debouncing phase
  · intro late due
    rw [react_tick_of_due phase due settling.gone settling.serves]
    refine ⟨?_, fun ticks => effectsOf_ticks_of_not_waiting rfl ticks⟩
    rw [settling.waits, Trigger.schedule_lastSeq]

/-- A request by hand is in flight, in the document that is active. -/
def askedRun : List Event :=
  [.connectionChanged ⟨true, true, false, false⟩, .editorFocused (some ⟨⟨"main.rs"⟩, "rust"⟩),
    .invoked ⟨⟨"main.rs"⟩, "rust", "main.rs", "f", 1⟩]

/-- The document reads `text`, after `added` was typed `place` characters into it. -/
def typedUpTo (text : String) (place : Nat) (added : String) : Change :=
  ⟨⟨⟨"main.rs"⟩, "rust", "main.rs", text, text.length⟩, [.insertion place added], .user⟩

/-- A burst takes the place of a request in flight.  Its second change bears an
earlier instant than its first, and the pause is counted from there. -/
theorem burst_asks_once_backwards :
    let s := (new .standard .standard).after askedRun
    let es := [.documentChanged (typedUpTo "fn" 1 "n") 90000,
      .documentChanged (typedUpTo "fn " 2 " ") 50000, .tick 70000]
    s.trigger.seqInFlight? = some 1 ∧ s.effectsOf es = [] ∧
      (s.after es).nextDeadline = some 80000 ∧
      ((s.after es).react (.tick 80000)).effects =
        [.requestCompletion 2 ⟨⟨"main.rs", .rust, "fn ", "", 3⟩, 5, .auto, some 0⟩] := by
  intro s es
  have burst : s.Burst es (typedUpTo "fn " 2 " ") 50000 := by
    have first : s.Burst _ (typedUpTo "fn" 1 "n") 90000 := .first ⟨nofun, by decide, by decide⟩
    have second : s.Burst _ (typedUpTo "fn " 2 " ") 50000 :=
      first.change ⟨nofun, by decide, by decide⟩
    exact second.tick (by decide)
  have settings : (s.after es).settings = .standard := by decide
  have languages : (s.after es).languages = .standard := by decide
  have since : (s.after es).sinceLastModification = some 0 := by decide
  have pause : Settings.standard.settleDelay = 30000 := by decide
  obtain ⟨silent, next, due⟩ := burst_asks_once ⟨.standard, .standard, askedRun, rfl⟩ rfl burst
  rw [settings, pause] at next due
  have sent := (due 80000 (by decide)).1
  rw [languages, since] at sent
  exact ⟨by decide, silent, next, sent⟩

end Controller

end InlineCompletion
