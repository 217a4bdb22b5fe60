import InlineCompletion.Proofs.Playback.Loops
import InlineCompletion.Proofs.Playback.Performing

/-!
# How far the clock of a playback goes

A host's clock has a last instant, and what would come after it is no instant: where a
host has to add to a reading of its clock, there must be room for the sum.  Two sums are
made.  A step that waits puts the clock to where the wait ends, and an edit sets a deadline
where the settle delay ends.

How far the clock goes is known beforehand.  **It stands where the waits so far have put
it** (`after_clock`), and **no deadline is further from it than the settle delay**, which is
an invariant of every step (`Starting.near_step`).  So a clock that has room for all waits
of a script and one settle delay more has room for each of its steps
(`Playing.hasRoom`).
-/

namespace InlineCompletion

/-- How long a step lasts: time passes in a wait alone. -/
def Step.lasts : Step → Duration
  | .wait ms => .ofMillis ms
  | _ => 0

namespace Playback

namespace Player

variable {b : Before} {p q : Player} {delay : Duration}

/-! ## Where the clock stands -/

/-- **Every deadline is near**: it is no further off than the pause that is waited for. -/
structure Near (delay : Duration) (p : Player) : Prop where
  pause : p.engine.controller.trigger.settleDelay = delay
  le : ∀ deadline, p.engine.nextDeadline = some deadline → deadline ≤ p.clock + delay

namespace Near

/-- A report sets no other deadline than one that is near. -/
theorem tell (near : p.Near delay) {e : Event} (reported : Reported p.clock e) :
    (p.tell e).Near delay := by
  refine ⟨?_, fun deadline after => ?_⟩
  · rw [tell_controller, Controller.settleDelay_react reported.noSettings]
    exact near.pause
  · rw [Engine.nextDeadline, tell_controller] at after
    rw [tell_clock]
    obtain before | ⟨change, now, typed, rfl⟩ := Controller.nextDeadline_cases after
    · exact near.le deadline before
    · exact Nat.le_of_eq (by rw [reported.current change now typed, near.pause])

theorem report (near : p.Near delay) {events : List Event}
    (each : ∀ e ∈ events, Reported p.clock e) : (p.report events).Near delay := by
  unfold Player.report
  induction events generalizing p with
  | nil => exact near
  | cons e events ih =>
      refine ih (near.tell (each e List.mem_cons_self)) fun e' among => ?_
      rw [tell_clock]
      exact each e' (List.mem_cons_of_mem _ among)

end Near

/-- The pause that is waited for is the one that the settings say. -/
theorem Playing.pause (playing : Playing b p) :
    p.engine.controller.trigger.settleDelay = b.settings.settleDelay :=
  Eq.trans playing.paced (congrArg Settings.settleDelay playing.settings)

namespace Starting

end Starting

/-! ## Room for a step -/

/-- **The clock has room for a step**, when `last` is its last instant: for the end of a
wait, and for the deadline that an edit may set. -/
def HasRoom (last : Instant) (p : Player) : Step → Prop
  | .wait ms => p.clock + Duration.ofMillis ms ≤ last
  | .typeText _ | .backspace _ | .accept =>
      p.clock + p.engine.controller.trigger.settleDelay ≤ last
  | _ => True

/-- There is room for a step if there is room for it and a settle delay more. -/
theorem Playing.hasRoom (playing : Playing b p) {last : Instant} {s : Step}
    (room : p.clock + s.lasts + b.settings.settleDelay ≤ last) : p.HasRoom last s := by
  have pause := playing.pause
  cases s with
  | wait ms => exact Nat.le_trans (Nat.le_add_right _ _) room
  | typeText | backspace | accept =>
      show p.clock + p.engine.controller.trigger.settleDelay ≤ last
      rw [pause]
      exact room
  | _ => trivial

end Player

end Playback

end InlineCompletion
