import InlineCompletion.Proofs.Controller.Permission

/-!
# When the user last changed the document

A request that typing asked for says how long the user had paused before the last change.
The controller keeps two readings for that, the time of the last change and the time
between the last two, and each change that counts moves them on.

Which changes count depends on the state: on the active document, on whether a suggestion
is being inserted, and on what is awaited of it (`Counts`).  The times of those that
counted, along a run, are its `modifications`, and **what the controller keeps is a
function of them** (`Timed`).  One event keeps this, since an event that is no such change
leaves both readings as they are (`times_react`); so they do not depend on what goes on
in between.
-/

namespace InlineCompletion

/-! ## Pauses -/

/-- **The time between the last two** of some instants, if there are two of them. -/
def lastPause (times : List Instant) : Option Duration :=
  times.dropLast.getLast?.bind fun earlier => times.getLast?.map (·.since earlier)

@[simp] theorem lastPause_nil : lastPause [] = none := rfl

/-- One instant more makes a pause, if there was one before. -/
@[simp] theorem lastPause_concat (times : List Instant) (now : Instant) :
    lastPause (times ++ [now]) = times.getLast?.map (now.since ·) := by
  rw [lastPause, List.dropLast_concat, List.getLast?_concat]
  cases times.getLast? <;> rfl

/-- A clock that ran backwards makes no pause. -/
example : lastPause [10, 90, 50] = some 0 := by decide

namespace Controller

variable {s t : Controller}

/-! ## The changes that count -/

/-- **A change that counts as one by the user**: it is not the insertion that is awaited,
and it is typing or a deletion. -/
structure Counts (s : Controller) (c : Change) : Prop where
  other : ¬ s.offering.Awaits c
  seen : s.gate.reasonAgainstEdit c = none ∨ s.gate.reasonAgainstEdit c = some .deletionOnly

instance (o : Offering) (c : Change) : Decidable (o.Awaits c) :=
  decidable_of_iff (o.awaited.any (Offering.isEchoOf · c) = true) (by
    unfold Offering.Awaits
    cases o.awaited <;> simp)

instance (s : Controller) (c : Change) : Decidable (s.Counts c) :=
  decidable_of_iff (¬ s.offering.Awaits c ∧ (s.gate.reasonAgainstEdit c = none ∨
    s.gate.reasonAgainstEdit c = some .deletionOnly))
    ⟨fun ⟨other, seen⟩ => ⟨other, seen⟩, fun ⟨other, seen⟩ => ⟨other, seen⟩⟩

/-- The time of a change that counts. -/
def modification? (s : Controller) : Event → Option Instant
  | .documentChanged change now => if s.Counts change then some now else none
  | _ => none

/-- **The times of the changes that count**, in the order of a run. -/
def modifications (s : Controller) (es : List Event) : List Instant :=
  collect (fun s e => (s.modification? e).toList) s es

/-! ## What the controller keeps -/

/-- The two readings that a controller keeps. -/
def times (s : Controller) : Option Instant × Option Duration :=
  (s.lastModification, s.sinceLastModification)

theorem Calm.times {r : Reaction} (calm : s.Calm r) : r.controller.times = s.times := by
  rw [Controller.times, calm.frame]
  rfl

theorem Leaves.times {e : Event} (leaves : s.Leaves e t) : t.times = s.times :=
  Prod.ext leaves.lastModification leaves.sinceLastModification

/-- Typing itself leaves the readings as they are. -/
theorem times_reactToTyping (s : Controller) (change : Change) (now : Instant) :
    (s.reactToTyping change now).controller.times = s.times := by
  cases s.typed change now with
  | along _ _ _ _ _ _ next => rw [next]; rfl
  | wait _ next _ => rw [next]; rfl
  | suppress calm _ _ => exact calm.times

theorem times_reactToChange (s : Controller) (change : Change) (now : Instant) :
    (s.reactToChange change now).controller.times =
      if s.Counts change then (s.noteTyping now).times else s.times := by
  by_cases echo : s.offering.Awaits change
  · rw [if_neg fun counts => counts.other echo,
      reactToChange_of_echo (Offering.recognizeEcho_of_awaits echo)]
    rfl
  obtain ⟨awaited, edit⟩ := react_of_not_awaits echo now
  rw [show s.reactToChange change now = _ from edit]
  cases against : s.gate.reasonAgainstEdit change with
  | none =>
      rw [if_pos ⟨echo, .inl against⟩, reactToEdit_of_typing (s := s.withAwaited awaited) against]
      exact times_reactToTyping _ change now
  | some reason =>
      by_cases deletion : reason = .deletionOnly
      · subst deletion
        rw [if_pos ⟨echo, .inr against⟩,
          reactToEdit_of_deletion (s := s.withAwaited awaited) against]
        exact (calm_abandon _).times
      · have passes : ¬ s.Counts change := fun counts => by
          simpa [against, deletion] using counts.seen
        rw [if_neg passes, reactToEdit_of_passes (s := s.withAwaited awaited) against deletion]
        rfl

/-- **Changes that count move the readings on**, and nothing else touches them. -/
theorem times_react (s : Controller) (e : Event) :
    (s.react e).controller.times =
      ((s.modification? e).map fun now => (s.noteTyping now).times).getD s.times := by
  cases e with
  | documentChanged change now =>
      rw [react, times_reactToChange, modification?]
      split <;> rfl
  | _ => exact (leaves_react fun _ _ => by rintro ⟨⟩).times

/-- **The readings are those of `modifications`**: the last of them, and the time between
the last two. -/
structure Timed (s : Controller) (modifications : List Instant) : Prop where
  last : s.lastModification = modifications.getLast?
  since : s.sinceLastModification = lastPause modifications

theorem timed_new (settings : Settings) (languages : LanguageTable) :
    (new settings languages).Timed [] := ⟨rfl, rfl⟩

namespace Timed

variable {earlier : List Instant}

/-- What has the same readings is timed by the same instants. -/
theorem of_times (timed : s.Timed earlier) (same : t.times = s.times) : t.Timed earlier := by
  obtain ⟨last, since⟩ := Prod.mk.inj same
  exact ⟨last.trans timed.last, since.trans timed.since⟩

/-- A change that counts is one instant more. -/
theorem noteTyping (timed : s.Timed earlier) (now : Instant) :
    (s.noteTyping now).Timed (earlier ++ [now]) := by
  refine ⟨List.getLast?_concat.symm, ?_⟩
  rw [lastPause_concat, ← timed.last]
  cases last : s.lastModification with
  | some before => simp [Controller.noteTyping, last]
  | none =>
      -- nothing counted yet, and so there was no pause either
      have nothing : earlier = [] := List.getLast?_eq_none_iff.mp (timed.last ▸ last)
      simp [Controller.noteTyping, last, timed.since, nothing]

/-- **One event keeps the readings.** -/
theorem react (timed : s.Timed earlier) (e : Event) :
    (s.react e).controller.Timed (earlier ++ (s.modification? e).toList) := by
  have moved := times_react s e
  cases counts : s.modification? e with
  | none =>
      rw [counts] at moved
      rw [Option.toList_none, List.append_nil]
      exact timed.of_times moved
  | some now =>
      rw [counts] at moved
      exact (timed.noteTyping now).of_times moved

/-- **So does a run.** -/
theorem after (timed : s.Timed earlier) (es : List Event) :
    (s.after es).Timed (earlier ++ s.modifications es) := by
  induction es generalizing s earlier with
  | nil => rw [modifications, collect_nil, List.append_nil]; exact timed
  | cons e es ih =>
      rw [modifications, collect_cons, ← List.append_assoc]
      exact ih (timed.react e)

end Timed

/-! ## What requests say -/

/-- **The last pause is what is sent.**  After any run the controller keeps the time of
the last change that counted and the time between the last two, whatever went on besides.
A request that typing asked for bears the latter, and a request by hand none. -/
theorem last_pause_is_sent (settings : Settings) (languages : LanguageTable) (es : List Event) :
    let s := (new settings languages).after es
    let counted := (new settings languages).modifications es
    s.lastModification = counted.getLast? ∧ s.sinceLastModification = lastPause counted ∧
      ∀ e seq request, .requestCompletion seq request ∈ (s.react e).effects →
        request.trigger = .auto ∧ request.sinceLastModification = lastPause counted ∨
          request.trigger = .manual ∧ request.sinceLastModification = none := by
  intro s counted
  have timed : s.Timed counted := (timed_new settings languages).after es
  refine ⟨timed.last, timed.since, fun e seq request sent => ?_⟩
  obtain ⟨snapshot, asks⟩ := asking?_of_requestCompletion sent
  obtain ⟨-, -, ⟨-, -, made⟩ | ⟨-, -, -, -, -, -, made⟩⟩ := asking?_cases asks
  · exact .inr ⟨congrArg Request.trigger made, congrArg Request.sinceLastModification made⟩
  · refine .inl ⟨congrArg Request.trigger made, ?_⟩
    exact (congrArg Request.sinceLastModification made).trans timed.since

/-- The user types and takes a character back, a change elsewhere and a note on the focus
come in between, and the user types again. -/
def pausingRun : List Event :=
  [.connectionChanged ⟨true, true, false, false⟩, .editorFocused (some ⟨⟨"main.rs"⟩, "rust"⟩),
    .documentChanged ⟨⟨⟨"main.rs"⟩, "rust", "main.rs", "fnn", 3⟩, [.insertion 2 "n"], .user⟩ 10000,
    .documentChanged ⟨⟨⟨"main.rs"⟩, "rust", "main.rs", "fn", 2⟩, [.deletion 2 1], .user⟩ 40000,
    .documentChanged ⟨⟨⟨"lib.rs"⟩, "rust", "lib.rs", "p", 1⟩, [.insertion 0 "p"], .user⟩ 43000,
    .windowFocused true,
    .documentChanged ⟨⟨⟨"main.rs"⟩, "rust", "main.rs", "fn ", 3⟩, [.insertion 2 " "], .user⟩ 45000]

/-- The change elsewhere does not count, and taking a character back does. -/
theorem last_pause_is_sent_pausing :
    let s := (new .standard .standard).after pausingRun
    (new .standard .standard).modifications pausingRun = [10000, 40000, 45000] ∧
      s.lastModification = some 45000 ∧ s.sinceLastModification = some 5000 ∧
      ∃ request, .requestCompletion 1 request ∈ (s.react (.tick 75000)).effects ∧
        request.trigger = .auto ∧ request.sinceLastModification = some 5000 := by
  intro s
  obtain ⟨last, since, sent⟩ := last_pause_is_sent .standard .standard pausingRun
  have counted : (new .standard .standard).modifications pausingRun = [10000, 40000, 45000] := by
    decide +kernel
  rw [counted] at last since sent
  have asks : .requestCompletion 1 ⟨⟨"main.rs", .rust, "fn ", "", 3⟩, 5, .auto, some 5000⟩ ∈
      (s.react (.tick 75000)).effects := by decide +kernel
  obtain bears | ⟨byHand, -⟩ := sent _ _ _ asks
  · exact ⟨counted, last, since, _, asks, bears⟩
  · cases byHand

end Controller

end InlineCompletion
