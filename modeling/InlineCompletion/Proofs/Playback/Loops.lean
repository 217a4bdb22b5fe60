import InlineCompletion.Proofs.Controller.Deadlines
import InlineCompletion.Proofs.Playback.Acceptance
import InlineCompletion.Proofs.Playback.Frames

/-!
# The host's loops come to their ends

A player brings what is under way to its end in one round, and comes past one deadline
at most.  A host cannot know that one round will do.  It goes on in a loop: it reports
what the editor has not reported, looks at the bus, and if a request is in flight then
it waits for the background, until it finds nothing any more; and around that it goes
on as long as a deadline is due.

`Round` is the inner loop, round by round.  The background does not wait for it: a task
comes to its end between any two rounds, or late, when the host is waiting.  Of the
background it is only assumed that it makes headway within the time that a host waits, so
that the host gives up waiting only where no task is left (`Round.giveUp`).  `Settles` says
that **all** ways through the loop come to an end, and what they come to; it is shown that
this is what one round of the player comes to, whatever the background does
(`Playing.settles`).

`Advances` is the outer loop, and what it comes to is `fireDue` (`Resting.advances`),
since a deadline is set by typing alone.
-/

namespace InlineCompletion

/-- Only where something waits something is run. -/
theorem Engine.tasks_ne_of_runTask {σ : Type} {p : Provider σ} {c : CompletionService σ}
    {e : Engine} {place : Nat} {s : σ} {r : Engine × σ} (ran : e.runTask p c place s = some r) :
    e.tasks ≠ [] := by
  intro none'
  simp [runTask, takeTask, none'] at ran

namespace Playback

namespace Player

variable {b : Before} {p q r : Player}

/-! ## The loop that brings everything to its end -/

/-- Where the host stands in its loop. -/
inductive Stand
  /-- It begins a round. -/
  | begins
  /-- It has looked everywhere and found nothing. -/
  | looked
  /-- It is done. -/
  | done
  deriving DecidableEq

/-- **What may happen next in the loop.** -/
inductive Round : Stand → Player → Stand → Player → Prop
  /-- What the editor has not reported is reported, and a new round begins. -/
  | report {p : Player} (left : p.pending ≠ []) : Round .begins p .begins p.deliver
  /-- The bus held something that made the state look different, and a new round begins. -/
  | again {p : Player} (none' : p.pending = []) (changed : p.engine.pollBus.1 = true) :
      Round .begins p .begins (p.act (·.pollBus))
  | look {p : Player} (none' : p.pending = []) (same : p.engine.pollBus.1 = false) :
      Round .begins p .looked (p.act (·.pollBus))
  /-- No request is in flight, so there is nothing to wait for. -/
  | leave {p : Player} (still : ∀ q, p.engine.controller.trigger.phase ≠ .inFlight q) :
      Round .looked p .done p
  /-- A request is in flight, and a message comes. -/
  | hear {p : Player} {q : InFlight} (flying : p.engine.controller.trigger.phase = .inFlight q)
      (come : p.engine.bus ≠ []) : Round .looked p .begins (p.act (·.waitForMessage))
  /-- A request is in flight, but no work is left that could send word of it.  **That the host
  gives up waiting nowhere else is assumed of the background**: it makes headway within the
  time that a host waits. -/
  | giveUp {p : Player} {q : InFlight} (flying : p.engine.controller.trigger.phase = .inFlight q)
      (none' : p.engine.bus = []) (idle : p.engine.tasks = []) : Round .looked p .done p
  /-- Beside the host, a task comes to its end. -/
  | finish {stand : Stand} {p : Player} (on : stand ≠ .done) {place : Nat} {engine : Engine}
      {backend : Backend}
      (ran : p.engine.runTask Backend.provider Backend.service place p.backend =
        some (engine, backend)) :
      Round stand p stand { p with engine := engine, backend := backend }

/-- **The loop settles in `r`**: whatever happens, it comes to its end, and there. -/
inductive Settles (r : Player) : Stand → Player → Prop
  | done : Settles r .done r
  | round {stand : Stand} {p : Player} (on : ∃ stand' p', Round stand p stand' p')
      (each : ∀ stand' p', Round stand p stand' p' → Settles r stand' p') : Settles r stand p

/-- The loop settles in one player only. -/
theorem Settles.unique {stand : Stand} (settles : Settles q stand p) (settles' : Settles r stand p) :
    q = r := by
  induction settles with
  | done =>
      cases settles' with
      | done => rfl
      | round on =>
          obtain ⟨stand', p', round⟩ := on
          cases round with
          | finish unfinished => exact absurd rfl unfinished
  | round on _ ih =>
      obtain ⟨stand', p', round⟩ := on
      cases settles' with
      | done =>
          cases round with
          | finish unfinished => exact absurd rfl unfinished
      | round _ each => exact ih stand' p' round (each stand' p' round)

/-! ### Nothing is left -/

/-- With nothing under way the host finds nothing, and leaves. -/
theorem Resting.settles (resting : Resting b p) : Settles p .begins p ∧ Settles p .looked p := by
  obtain ⟨same, looked⟩ := resting.toQuiet.look
  have leaves : Settles p .looked p := by
    apply Settles.round ⟨_, _, .leave resting.still⟩
    intro stand p' round
    cases round with
    | leave => exact .done
    | hear flying => exact absurd flying (resting.still _)
    | giveUp flying => exact absurd flying (resting.still _)
    | finish _ ran => exact absurd resting.tasks (Engine.tasks_ne_of_runTask ran)
  refine ⟨?_, leaves⟩
  apply Settles.round ⟨_, _, .look resting.pending (congrArg Prod.fst same)⟩
  intro stand p' round
  cases round with
  | report left => exact absurd resting.pending left
  | again _ changed =>
      rw [same] at changed
      cases changed
  | look =>
      rw [looked]
      exact leaves
  | finish _ ran => exact absurd resting.tasks (Engine.tasks_ne_of_runTask ran)

/-- What is left on the bus alone is heard; whether that makes the state look different
does not matter. -/
theorem Resting.settles_of_heard (resting : Resting b q) (reported : p.pending = [])
    (idle : p.engine.tasks = []) (heard : p.act (·.pollBus) = q) : Settles q .begins p := by
  apply Settles.round
  · cases changed : p.engine.pollBus.1 with
    | true => exact ⟨_, _, .again reported changed⟩
    | false => exact ⟨_, _, .look reported changed⟩
  · intro stand p' round
    cases round with
    | report left => exact absurd reported left
    | again =>
        rw [heard]
        exact resting.settles.1
    | look =>
        rw [heard]
        exact resting.settles.2
    | finish _ ran => exact absurd idle (Engine.tasks_ne_of_runTask ran)

/-! ### Events without an effect are left -/

/-- The editor's events are reported, if there are any, and then the bus is heard. -/
theorem Silent.settles {m : Event} (silent : Silent m p) (resting : Resting b p.finishWork) :
    Settles p.finishWork .begins p := by
  obtain ⟨delivered, still⟩ := silent.deliver
  have hears : Settles p.finishWork .begins p.deliver := by
    apply resting.settles_of_heard
    · rw [delivered]
    · exact still.tasks
    · rw [Player.finishWork, runBackground_of_none still.tasks]
  by_cases left : p.pending = []
  · rw [deliver_of_none left] at hears
    exact hears
  · apply Settles.round ⟨_, _, .report left⟩
    intro stand p' round
    cases round with
    | report => exact hears
    | again none' => exact absurd none' left
    | look none' => exact absurd none' left
    | finish _ ran => exact absurd silent.tasks (Engine.tasks_ne_of_runTask ran)

/-! ### A request is left -/

section Single

variable {task : BackgroundTask} (waiting : p.engine.tasks = [task])
include waiting

/-- The only task that waits can be run. -/
theorem runTask_of_single : p.engine.runTask Backend.provider Backend.service 0 p.backend =
    some (p.runBackground.engine, p.runBackground.backend) := by
  simp [Engine.runTask, Engine.takeTask, runBackground, finishAll, waiting]

/-- Running it is all that can be run. -/
theorem eq_of_runTask_of_single {place : Nat} {engine : Engine} {backend : Backend}
    (ran : p.engine.runTask Backend.provider Backend.service place p.backend =
      some (engine, backend)) :
    ({ p with engine := engine, backend := backend } : Player) = p.runBackground := by
  cases place with
  | succ place => simp [Engine.runTask, Engine.takeTask, waiting] at ran
  | zero =>
      have same := Option.some.inj (ran.symm.trans (runTask_of_single waiting))
      obtain ⟨rfl, rfl⟩ := Prod.mk.inj same
      simp only [runBackground, finishAll, waiting, List.foldl_cons, List.foldl_nil]

end Single

/-- **Once the request has come to its end**, its outcome is heard, whether the host
begins a round or waits. -/
theorem Playing.settles_runBackground (playing : Playing b p) {flight : InFlight}
    {request : Request} {policy : RequestPolicy}
    (phase : p.engine.controller.trigger.phase = .inFlight flight)
    (waiting : p.engine.tasks = [.request flight.seq request policy]) :
    Settles p.finishWork .begins p.runBackground ∧
      Settles p.finishWork .looked p.runBackground := by
  have resting := playing.finishWork
  obtain ⟨outcome, backend, run, -⟩ := runBackground_of_request playing.toQuiet waiting
  have bus : p.runBackground.engine.bus = [.answered flight.seq outcome] := by rw [run]
  have idle : p.runBackground.engine.tasks = [] := by rw [run]
  have heard : p.runBackground.act (·.pollBus) = p.finishWork := by
    rw [Player.finishWork, deliver_of_none playing.pending]
  constructor
  · apply resting.settles_of_heard _ idle heard
    rw [run]
    exact playing.pending
  · have flying : p.runBackground.engine.controller.trigger.phase = .inFlight flight := by
      rw [run]
      exact phase
    have come : p.runBackground.engine.bus ≠ [] := by simp [bus]
    have silent := p.runBackground.engine.controller.effects_of_message
      (m := .answered flight.seq outcome) (.inr ⟨_, _, rfl⟩)
    have waited : p.runBackground.act (·.waitForMessage) = p.finishWork := by
      rw [← heard]
      simp only [act, Engine.waitForMessage_of_single bus silent]
    apply Settles.round ⟨_, _, .hear flying come⟩
    intro stand p' round
    cases round with
    | leave still => exact absurd flying (still _)
    | hear =>
        rw [waited]
        exact resting.settles.1
    | giveUp _ empty => exact absurd empty come
    | finish _ ran => exact absurd idle (Engine.tasks_ne_of_runTask ran)

/-- **Bringing to its end what is under way** is what the host's loop comes to.  Until a
request has come to its end the host can only look, and wait. -/
theorem Playing.settles (playing : Playing b p) : Settles p.finishWork .begins p := by
  rcases playing.work with ⟨rest, -⟩ | ⟨flight, d, kind, since, phase, -, -, waiting⟩
  · have resting := playing.finishWork
    rw [finishWork_of_rest playing.toQuiet rest] at resting ⊢
    exact resting.settles.1
  obtain ⟨hears, awaits⟩ := playing.settles_runBackground phase waiting
  obtain ⟨same, looked⟩ := playing.toQuiet.look
  have waits : Settles p.finishWork .looked p := by
    apply Settles.round ⟨_, _, .finish (by nofun) (runTask_of_single waiting)⟩
    intro stand p' round
    cases round with
    | leave still => exact absurd phase (still _)
    | hear _ come => exact absurd playing.bus come
    | giveUp _ _ none' =>
        rw [waiting] at none'
        cases none'
    | finish _ ran =>
        rw [eq_of_runTask_of_single waiting ran]
        exact awaits
  apply Settles.round ⟨_, _, .look playing.pending (congrArg Prod.fst same)⟩
  intro stand p' round
  cases round with
  | report left => exact absurd playing.pending left
  | again _ changed =>
      rw [same] at changed
      cases changed
  | look =>
      rw [looked]
      exact waits
  | finish _ ran =>
      rw [eq_of_runTask_of_single waiting ran]
      exact hears

/-- So it is after any step. -/
theorem Starting.settles (starting : Starting b p) {s : Step} (performed : p.perform s = .ok q) :
    Settles q.finishWork .begins q := by
  obtain playing | ⟨-, x, live, rfl⟩ := starting.perform_cases performed
  · exact playing.settles
  · obtain ⟨-, -, -, -, -, silent, resting, -⟩ := starting.finishWork_accepted live
    exact silent.settles resting

/-! ## Deadlines -/

/-- **After a pass of the host's loop** the next deadline is one that there was, and it
is still to come. -/
theorem Quiet.nextDeadline_tickAt (quiet : p.Quiet) {now deadline : Instant}
    (after : (p.tickAt now).engine.nextDeadline = some deadline) :
    p.engine.nextDeadline = some deadline ∧ now < deadline := by
  rw [tickAt_eq quiet now, Engine.nextDeadline, tell_controller] at after
  refine ⟨?_, Controller.lt_of_nextDeadline_tick after⟩
  have heard := Controller.nextDeadline_of_react (e := .tick now) (by simp) after
  unfold Engine.news at heard
  split at heard
  · exact heard
  · exact Controller.nextDeadline_of_react (e := .connectionChanged _) (by simp) heard

/-- **Bringing to its end what is under way** sets no deadline. -/
theorem Playing.nextDeadline_finishWork (playing : Playing b p) {deadline : Instant}
    (after : p.finishWork.engine.nextDeadline = some deadline) :
    p.engine.nextDeadline = some deadline := by
  rcases playing.work with ⟨rest, -⟩ | ⟨flight, d, kind, since, -, -, -, waiting⟩
  · rw [finishWork_of_rest playing.toQuiet rest] at after
    exact after
  · obtain ⟨outcome, backend, finished, -⟩ := finishWork_of_request playing.toQuiet waiting
    rw [finished] at after
    exact Controller.nextDeadline_of_react (e := .answered flight.seq outcome) nofun after

/-- The two together. -/
theorem Resting.nextDeadline_finishWork (resting : Resting b p) {now deadline : Instant}
    (after : (p.tickAt now).finishWork.engine.nextDeadline = some deadline) :
    p.engine.nextDeadline = some deadline ∧ now < deadline :=
  resting.toQuiet.nextDeadline_tickAt ((resting.tickAt now).nextDeadline_finishWork after)

/-- **Coming past a deadline leaves none**, since there is only one. -/
theorem Resting.nextDeadline_fired (resting : Resting b p) {now deadline : Instant}
    (next : p.engine.nextDeadline = some deadline) (due : deadline ≤ now) :
    (p.tickAt now).finishWork.engine.nextDeadline = none := by
  cases after : (p.tickAt now).finishWork.engine.nextDeadline with
  | none => rfl
  | some later =>
      obtain ⟨before, early⟩ := resting.nextDeadline_finishWork after
      obtain rfl := Option.some.inj (next.symm.trans before)
      exact absurd early (Nat.not_lt_of_le due)

/-! ## The loop that lets time pass -/

/-- **The loop over the deadlines** that are due at `target`: as long as there is one, the
clock is set to it, the host makes a pass, and everything is brought to its end. -/
inductive Advances (target : Instant) : Player → Player → Prop
  | stop {p : Player} (none' : ∀ deadline, p.engine.nextDeadline = some deadline →
      target < deadline) : Advances target p p
  | fire {p q r : Player} {deadline : Instant} (next : p.engine.nextDeadline = some deadline)
      (due : deadline ≤ target) (settles : Settles q .begins (p.tickAt (max deadline p.clock)))
      (later : Advances target q r) : Advances target p r

/-- The loop comes to one player only. -/
theorem Advances.unique {target : Instant} (advances : Advances target p q)
    (advances' : Advances target p r) : q = r := by
  induction advances with
  | stop none' =>
      cases advances' with
      | stop => rfl
      | fire next due => exact absurd due (Nat.not_le_of_lt (none' _ next))
  | fire next due settles _ ih =>
      cases advances' with
      | stop none' => exact absurd due (Nat.not_le_of_lt (none' _ next))
      | fire next' _ settles' later' =>
          obtain rfl := Option.some.inj (next.symm.trans next')
          obtain rfl := settles.unique settles'
          exact ih later'

/-- **Coming past one deadline** is what the loop comes to. -/
theorem Resting.advances (resting : Resting b p) (target : Instant) :
    Advances target p (p.fireDue target) := by
  unfold Player.fireDue
  cases next : p.engine.nextDeadline with
  | none =>
      apply Advances.stop
      intro deadline after
      rw [next] at after
      cases after
  | some deadline =>
      dsimp only
      split
      · next due =>
        apply Advances.fire next due (resting.tickAt _).settles
        apply Advances.stop
        intro later after
        rw [resting.nextDeadline_fired next (Nat.le_max_left _ _)] at after
        cases after
      · next early =>
        apply Advances.stop
        intro deadline' after
        obtain rfl := Option.some.inj (next.symm.trans after)
        exact Nat.lt_of_not_le early

end Player

end Playback

end InlineCompletion
