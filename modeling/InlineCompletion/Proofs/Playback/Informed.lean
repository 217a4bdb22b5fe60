import InlineCompletion.Proofs.Playback.Following
import InlineCompletion.Proofs.Playback.Performing
import InlineCompletion.Proofs.Playback.Standing

/-!
# What a player knows of its connection

A wait for typing is started over a connection that serves, and when it is over the
request leaves only if the connection still does.  The manager of a player changes in the
steps that sign in or out, and the controller hears of it in the pass of the host's loop
that ends the step.  So **between two steps the controller knows the connection as it is**
(`Informed.step`), and where it waits for something, the request will leave
(`Informed.serves`).

`Informed` is `Engine.Listening` for a player, together with two things: what the manager
published last is the truth, and the editor, which reports edits and selections, tells
nothing of the connection.
-/

namespace InlineCompletion

namespace ConnectionManager

/-- What a manager published last is true of some connection. -/
def Truthful (m : ConnectionManager) : Prop := (ConnectionStatus.ofSnapshot m.published).Truthful

theorem truthful_new (allowKeyBased : Bool) : (new allowKeyBased).Truthful :=
  fun valid => by cases valid

/-- What a manager publishes is how things are. -/
theorem Turn.truthful {m m' : ConnectionManager} (turn : Turn m m') (truthful : m.Truthful) :
    m'.Truthful := by
  cases turn with
  | still => exact truthful
  | take | drop => exact truthful_of_snapshot _
  | move c state =>
      unfold moving
      dsimp only
      split
      · exact truthful
      · exact truthful_of_snapshot _

end ConnectionManager

namespace Playback

namespace Player

variable {p q : Player}

/-- **A player that hears of its connection in the passes of the host's loop alone**, and
hears the truth. -/
structure Informed (p : Player) : Prop where
  listening : p.engine.Listening
  truthful : p.engine.manager.Truthful
  /-- What the editor has not reported is no news of the connection. -/
  unreported : ∀ e ∈ p.pending, e.isNews = false

namespace Informed

theorem new (settings : Settings) : (new settings).Informed where
  listening := (Engine.listening_new settings .standard (.new settings.allowKeyBasedConnections)).1
  truthful := by
    have same : (Player.new settings).engine.manager = .new settings.allowKeyBasedConnections :=
      Engine.handle_manager _ _
    rw [same]
    exact ConnectionManager.truthful_new _
  unreported := nofun

/-- Over a connection that does not serve nothing is waited for. -/
theorem serves (informed : p.Informed)
    (level : p.engine.seen = p.engine.manager.publications)
    (busy : p.engine.controller.trigger.phase ≠ .idle) :
    p.engine.controller.connection.serves = true := by
  have valid := informed.listening.entitled.valid busy
  have truthful : p.engine.controller.connection.Truthful := by
    rw [informed.listening.known level]
    exact informed.truthful
  exact (ConnectionStatus.serves_iff _).mpr ⟨(truthful valid).1, valid, (truthful valid).2⟩

/-! ## The pieces of a step -/

/-- What the editor is left to report is an edit and a selection. -/
theorem carryOut (informed : p.Informed) (calls : List EditorCall) :
    (calls.foldl carryOut p).Informed := by
  induction calls generalizing p with
  | nil => exact informed
  | cons call calls ih =>
      refine ih ?_
      unfold Player.carryOut
      split
      · exact { informed with }
      · next i =>
        split
        · next d events inserted =>
          refine { informed with unreported := fun e member => ?_ }
          rcases List.mem_append.mp member with before | now
          · exact informed.unreported e before
          · obtain ⟨-, -, -, -, rfl⟩ := EditorDocument.edited_insertAccepted inserted
            simp only [List.mem_cons, List.not_mem_nil, or_false] at now
            rcases now with rfl | rfl <;> rfl
        · exact informed

/-- The engine does something that keeps it listening. -/
theorem act (informed : p.Informed) {operation : Engine → Bool × Engine}
    (listening : (operation p.engine).2.Listening)
    (manager : (operation p.engine).2.manager = p.engine.manager) : (p.act operation).Informed := by
  refine carryOut (p := { p with engine := (operation p.engine).2.takeEditorCalls.2 }) ?_ _
  refine ⟨{ listening with }, ?_, informed.unreported⟩
  show (operation p.engine).2.manager.Truthful
  rw [manager]
  exact informed.truthful

/-- The editor tells nothing of the connection. -/
theorem tell (informed : p.Informed) {e : Event} (other : e.isNews = false) :
    (p.tell e).Informed :=
  informed.act (informed.listening.handle e other).toListening (p.engine.handle_manager e)

theorem report (informed : p.Informed) {events : List Event}
    (others : ∀ e ∈ events, e.isNews = false) : (p.report events).Informed := by
  unfold Player.report
  induction events generalizing p with
  | nil => exact informed
  | cons e events ih =>
      obtain ⟨first, later⟩ := List.forall_mem_cons.mp others
      exact ih (informed.tell first) later

/-- A task that comes to its end tells nothing of the connection. -/
theorem finishAll (informed : p.Informed) {tasks : List BackgroundTask}
    (others : ∀ k ∈ tasks, k.isNews = false) : (p.finishAll tasks).Informed := by
  unfold Player.finishAll
  induction tasks generalizing p with
  | nil => exact informed
  | cons task tasks ih =>
      obtain ⟨first, later⟩ := List.forall_mem_cons.mp others
      refine ih ?_ later
      have send {event : Event} (other : event.isNews = false) {backend : Backend} :
          ({ p with engine := p.engine.send event, backend := backend } : Player).Informed :=
        { informed with
          listening := { informed.listening with
            bus := fun m member => (List.mem_append.mp member).elim (informed.listening.bus m)
              fun sent => List.mem_singleton.mp sent ▸ other } }
      cases task with
      | post event => exact send first
      | request seq request policy => exact send rfl

/-- **Bringing to its end what is under way** tells nothing of the connection. -/
theorem finishWork (informed : p.Informed) : p.finishWork.Informed := by
  have delivered : p.deliver.Informed :=
    report (p := { p with pending := [] }) { informed with unreported := nofun }
      informed.unreported
  have run : p.deliver.runBackground.Informed := by
    refine finishAll (p := { p.deliver with engine := { p.deliver.engine with tasks := [] } })
      ?_ delivered.listening.tasks
    exact { delivered with listening := { delivered.listening with tasks := nofun } }
  exact run.act (run.listening.drain Engine.maxDrain).toListening (Engine.drain_manager _ _)

/-- **A pass of the host's loop** tells the news. -/
theorem tickAt (informed : p.Informed) (now : Instant) : (p.tickAt now).Informed := by
  have pass := (informed.listening.tick now none).1
  exact act (p := { p with clock := now }) { informed with } pass (p.engine.tick_manager now none)

theorem letPass (informed : p.Informed) (time : Duration) : (p.letPass time).Informed := by
  refine tickAt ?_ _
  unfold fireDue
  split
  · split
    · exact (informed.tickAt _).finishWork
    · exact informed
  · exact informed

/-- The manager may be left in another state, by an operation of its own. -/
theorem operate (informed : p.Informed) {manager : ConnectionManager}
    (turn : ConnectionManager.Turn p.engine.manager manager) (backend : Backend) :
    ({ p with engine := { p.engine with manager := manager }, backend := backend } :
      Player).Informed :=
  { informed with
    listening := informed.listening.operate turn
    truthful := turn.truthful informed.truthful }

/-- **What a step does itself** tells nothing of the connection. -/
theorem perform (informed : p.Informed) {s : Step} (performed : p.perform s = .ok q) :
    q.Informed := by
  cases performs_of_perform performed with
  | manages _ turn => exact informed.operate turn _
  | reports _ document each =>
      have shown : ({ p with document := document } : Player).Informed := { informed with }
      exact shown.report fun e among => (each e among).noNews
  | waits ms => exact informed.letPass _

/-- **At the end of a step** the controller knows the connection as it is. -/
theorem step (informed : p.Informed) {s : Step} (stepped : p.step s = .ok q) : q.Informed := by
  obtain ⟨r, performed, rfl⟩ := step_eq_ok_iff.mp stepped
  exact ((informed.perform performed).finishWork.tickAt _).finishWork

end Informed

end Player

end Playback

end InlineCompletion
