import InlineCompletion.Proofs.Playback.Clock
import InlineCompletion.Proofs.Playback.RecordLines
import InlineCompletion.Proofs.Playback.Standing

/-!
# Every playback runs to its end

Five things could keep a playback from its end: a step that fails, an edit beyond the text,
a clock that has no room for a sum, a loop of the host that goes on for ever, and a loop
that stops too early and leaves something to be done.  That no step fails is `Backed`, an
invariant of the store and the manager; that edits stay within the text is part of
`Follows`; that a clock has room is known from the script beforehand (`Playing.hasRoom`);
that the loops end, and with what, is `Settles` and `Advances`.  They are put together
here: `Hosts last` is a step as a host does it whose clock ends with `last`, with its own
loops, and what it comes to is what the player does.

Of the background it is assumed that it makes headway: where the host waits for a request
that is in flight, it hears of it, and gives up only where no work is left
(`Round.giveUp`).  A real host waits for two seconds.

The last loop of a step follows a pass at the clock's own time, and that is why every
deadline that is left at a line of the record is still to come.
-/

namespace InlineCompletion

namespace Playback

namespace Player

variable {b : Before} {p q : Player}

/-! ## A step as a host does it -/

/-- **What a step does itself**: time passes in a loop over the deadlines, and nothing
else needs one. -/
inductive Does : Player → Step → Player → Prop
  | wait {p q : Player} {ms : Nat} (advances : Advances (p.clock + Duration.ofMillis ms) p q) :
      Does p (.wait ms) (q.tickAt (p.clock + Duration.ofMillis ms))
  | other {p q : Player} {s : Step} (other : ∀ ms, s ≠ .wait ms) (done : p.perform s = .ok q) :
      Does p s q

/-- **A step as a host does it** whose clock ends with `last`.  The clock has room for the
step, and the cursor of the open document is in the text, so that what is typed or taken out
there is (`EditorDocument.edited_typing`, `EditorDocument.edited_deletion`).  After what the
step does itself, and again after a pass that lets the engine know of the manager's news,
the host goes on until nothing is left. -/
inductive Hosts (last : Instant) : Player → Step → Player → Prop
  | step {p q r t : Player} {s : Step} (room : p.HasRoom last s)
      (inside : ∀ d, p.document = some d → d.CursorInside) (does : Does p s q)
      (settles : Settles r .begins q) (again : Settles t .begins (r.tickAt r.clock)) :
      Hosts last p s t

/-- A step itself comes to one player only. -/
theorem Does.unique {r : Player} {s : Step} (does : Does p s q) (does' : Does p s r) : q = r := by
  cases does with
  | wait advances =>
      cases does' with
      | wait advances' => rw [advances.unique advances']
      | other other => exact absurd rfl (other _)
  | other other done =>
      cases does' with
      | wait => exact absurd rfl (other _)
      | other _ done' => exact Except.ok.inj (done.symm.trans done')

variable {last : Instant}

/-- So does a step as a host does it. -/
theorem Hosts.unique {r : Player} {s : Step} (hosts : Hosts last p s q)
    (hosts' : Hosts last p s r) : q = r := by
  obtain ⟨-, -, does, settles, again⟩ := hosts
  obtain ⟨-, -, does', settles', again'⟩ := hosts'
  obtain rfl := does.unique does'
  obtain rfl := settles.unique settles'
  exact again.unique again'

/-- Without room for it there is no step. -/
theorem Hosts.hasRoom {s : Step} (hosts : Hosts last p s q) : p.HasRoom last s := by
  obtain ⟨room, -, -, -, -⟩ := hosts
  exact room

/-- **What the host comes to is what the player does**, if the clock has room for it. -/
theorem Starting.hosts (starting : Starting b p) {s : Step} (room : p.HasRoom last s)
    (stepped : p.step s = .ok q) : Hosts last p s q := by
  obtain ⟨r, performed, rfl⟩ := step_eq_ok_iff.mp stepped
  have does : Does p s r := by
    by_cases waits : ∃ ms, s = .wait ms
    · obtain ⟨ms, rfl⟩ := waits
      obtain rfl := Except.ok.inj performed
      exact .wait (starting.advances _)
    · exact .other (not_exists.mp waits) performed
  exact .step room starting.follows.inside does (starting.settles performed)
    ((starting.finishWork_performed performed).tickAt _).settles

/-- **At the end of a step** every deadline is still to come. -/
theorem Starting.lt_nextDeadline (starting : Starting b p) {s : Step} (stepped : p.step s = .ok q)
    {deadline : Instant} (waiting : q.engine.nextDeadline = some deadline) :
    q.clock < deadline := by
  obtain ⟨r, performed, rfl⟩ := step_eq_ok_iff.mp stepped
  obtain ⟨-, early⟩ := (starting.finishWork_performed performed).nextDeadline_finishWork waiting
  rw [finishWork_clock, tickAt_clock]
  exact early

/-! ## The record -/

/-- **The record has a line for each step**, which shows what the step came to. -/
theorem Backed.playFrom (backed : p.Backed) (number : Nat) (steps : List Step) :
    (playFrom p number steps).failure = none ∧
      (playFrom p number steps).lines.length = steps.length ∧
      ∀ k s, steps[k]? = some s → ∃ p' q, p.after (steps.take k) = .ok p' ∧
        p'.step s = .ok q ∧
        (playFrom p number steps).lines[k]? = some (reportLine q (number + k) s.name) := by
  induction steps generalizing p number with
  | nil =>
      refine ⟨rfl, rfl, ?_⟩
      intro k s at'
      cases at'
  | cons s steps ih =>
      obtain ⟨q, stepped, backed'⟩ := backed.step s
      obtain ⟨complete, length, lines⟩ := ih (p := { q with prompts := [] }) backed' (number + 1)
      have played : Playback.playFrom p number (s :: steps) =
          ⟨reportLine q number s.name ::
            (Playback.playFrom { q with prompts := [] } (number + 1) steps).lines,
          (Playback.playFrom { q with prompts := [] } (number + 1) steps).failure⟩ := by
        simp only [Playback.playFrom, stepped]
      rw [played]
      refine ⟨complete, congrArg (· + 1) length, ?_⟩
      rintro (_ | k) s' at'
      · obtain rfl := Option.some.inj at'
        exact ⟨p, q, rfl, stepped, rfl⟩
      · obtain ⟨p', q', after, stepped', line⟩ := lines k s' at'
        refine ⟨p', q', ?_, stepped', ?_⟩
        · exact after_cons_eq_ok_iff.mpr ⟨q, stepped, after⟩
        · rw [List.getElem?_cons_succ, line, Nat.add_assoc, Nat.add_comm 1 k]

end Player

end Playback

end InlineCompletion
