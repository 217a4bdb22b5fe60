import Mathlib.Logic.Relation
import InlineCompletion.Proofs.Connection.Turns
import InlineCompletion.Proofs.Controller.Permission
import InlineCompletion.Proofs.Engine.Acknowledgement

/-!
# News of the connection

The controller knows of the connection what it was told last, and it is told once
a tick, if at all.  Between two ticks a manager may publish several snapshots, or
none although the connection is in another state, because the user is signing in.
Still, **after every tick the controller knows the snapshot that was published
last** (`Engine.connection_follows_manager`).

What makes this work is that a manager counts what it publishes.  `Listening` says
of an engine that remembers the count: it is never ahead of the manager, and where
it is level with it the controller knows the last snapshot.  An operation of the
manager that publishes takes the count past what was seen, however often it
publishes; one that publishes nothing changes neither the count nor the snapshot
(`ConnectionManager.Turn.publications`).  Nothing else touches either side, as long
as nobody but the tick tells the controller of the connection.

The news comes first in a tick.  So the rest of the tick, the passing of time
included, finds the controller as the news left it: over a connection that is not
valid nothing is waited for any more, and nothing is asked for.
-/

namespace InlineCompletion

/-- Whether an event is news of the connection. -/
def Event.isNews : Event → Bool
  | .connectionChanged _ => true
  | _ => false

/-- Whether a task puts news of the connection on the bus. -/
def BackgroundTask.isNews : BackgroundTask → Bool
  | .post event => event.isNews
  | .request .. => false

namespace Controller

variable {s : Controller} {e : Event}

theorem connection_of_connectionChanged (s : Controller) (status : ConnectionStatus) :
    (s.react (.connectionChanged status)).controller.connection = status := by
  rw [react]
  obtain ⟨-, next⟩ | ⟨-, next⟩ := s.reactToConnection_cases status <;> rw [next] <;> rfl

/-- Without news the controller knows what it knew. -/
theorem connection_react (other : e.isNews = false) :
    (s.react e).controller.connection = s.connection :=
  (sameGround_react s e).connection.resolve_right fun news => by
    rw [news] at other
    cases other

/-- Over a connection that is not valid no request begins. -/
theorem requestsIn_of_invalid (invalid : s.connection.valid = false) (e : Event) :
    requestsIn (s.react e).effects = [] := by
  rw [requestsIn_react]
  cases asks : s.asking? e with
  | none => rfl
  | some a =>
      obtain ⟨-, serves, -⟩ := asking?_cases asks
      simp [((ConnectionStatus.serves_iff _).mp serves).2.1] at invalid

end Controller

/-- No effect puts news on the bus. -/
theorem isNews_of_mem_wordsOf {effects : List Effect} {m : Event} (word : m ∈ wordsOf effects) :
    m.isNews = false := by
  rw [eq_of_mem_wordsOf word]
  rfl

/-- No effect leaves a task that does. -/
theorem isNews_of_mem_tasksOf {policy : RequestPolicy} {effects : List Effect}
    {k : BackgroundTask} (task : k ∈ tasksOf policy effects) : k.isNews = false := by
  obtain ⟨seq, request, rfl⟩ := exists_request_of_mem_tasksOf task
  rfl

namespace Engine

open Playback (Backend)

variable {e e' : Engine}

/-! ## Telling the news -/

/-- The news that the manager has for the controller. -/
def news (e : Engine) : List Event :=
  if e.manager.publications = e.seen then []
  else [.connectionChanged (.ofSnapshot e.manager.published)]

/-- Telling the news changes the controller, and the engine is level with the manager. -/
theorem pollConnection_eq (e : Engine) :
    e.pollConnection.2 =
      { e with controller := e.controller.after e.news, seen := e.manager.publications } := by
  unfold pollConnection news
  split
  · next same => rw [same]; rfl
  · exact handle_of_silent { e with seen := e.manager.publications } _
      (Controller.effects_reactToConnection _ _)

/-! ## Listening -/

/-- **An engine that hears of the connection by its ticks alone.** -/
structure Listening (e : Engine) : Prop where
  /-- It is not ahead of the manager. -/
  seen_le : e.seen ≤ e.manager.publications
  /-- Where it is level with the manager, the controller knows what was published last. -/
  known : e.seen = e.manager.publications →
    e.controller.connection = .ofSnapshot e.manager.published
  entitled : e.controller.Entitled
  /-- No news is on the bus, and none is on its way there. -/
  bus : ∀ m ∈ e.bus, m.isNews = false
  tasks : ∀ k ∈ e.tasks, k.isNews = false

/-- **`e'` still listens, and the controller has heard nothing since `e`.**  So it has
asked for nothing since, if the connection that it knew of was not valid. -/
structure Unheard (e e' : Engine) : Prop extends e'.Listening where
  connection : e'.controller.connection = e.controller.connection
  silent : e.controller.connection.valid = false → e'.tasks = e.tasks

theorem Listening.unheard (listening : e.Listening) : Unheard e e :=
  { listening with connection := rfl, silent := fun _ => rfl }

theorem Unheard.trans {e'' : Engine} (first : Unheard e e') (second : Unheard e' e'') :
    Unheard e e'' :=
  { second with
    connection := second.connection.trans first.connection
    silent := fun invalid =>
      (second.silent (by rw [first.connection]; exact invalid)).trans (first.silent invalid) }

namespace Listening

/-- **An event other than news** tells nothing of the connection. -/
theorem handle (listening : e.Listening) (event : Event) (other : event.isNews = false) :
    Unheard e (e.handle event).2 := by
  obtain ⟨decisions, handled⟩ := e.handle_frame event
  have same := Controller.connection_react (s := e.controller) other
  rw [handled]
  refine ⟨⟨listening.seen_le, fun level => same.trans (listening.known level),
    listening.entitled.react event, ?_, ?_⟩, same, ?_⟩
  · intro m member
    exact (List.mem_append.mp member).elim (listening.bus m) isNews_of_mem_wordsOf
  · intro k member
    exact (List.mem_append.mp member).elim (listening.tasks k) isNews_of_mem_tasksOf
  · intro invalid
    simp only [tasksOf_eq_map, Controller.requestsIn_of_invalid invalid event, List.map_nil,
      List.append_nil]

/-- The oldest message is no news. -/
theorem message (listening : e.Listening) {m : Event} {rest : List Event}
    (waiting : e.bus = m :: rest) :
    Unheard e (({ e with bus := rest } : Engine).handle m).2 := by
  have others : ∀ m' ∈ m :: rest, m'.isNews = false := waiting ▸ listening.bus
  have popped : ({ e with bus := rest } : Engine).Listening :=
    { listening with bus := fun m' member => others m' (List.mem_cons_of_mem _ member) }
  exact { popped.handle m (others m List.mem_cons_self) with }

theorem drain (listening : e.Listening) (n : Nat) : Unheard e (Engine.drain n e).2 :=
  drain_keeps (fun waiting heard => heard.trans (heard.toListening.message waiting)) n
    listening.unheard

theorem waitForMessage (listening : e.Listening) : Unheard e e.waitForMessage.2 :=
  waitForMessage_keeps (fun waiting heard => heard.trans (heard.toListening.message waiting))
    listening.unheard

theorem pollSettings (listening : e.Listening) (now : Instant) (file : Option FileVersion) :
    Unheard e (e.pollSettings now file).2 := by
  unfold Engine.pollSettings
  split
  · exact listening.unheard
  · next watch _ =>
    have looked : ({ e with watch := some (watch.poll now file).2 } : Engine).Listening :=
      { listening with }
    dsimp only
    split
    · exact { looked.unheard with }
    · next settings _ => exact { looked.handle (.settingsChanged settings) rfl with }

/-- **Telling the news** makes the controller know what was published last, whether
it heard of it now or before. -/
theorem pollConnection (listening : e.Listening) :
    e.pollConnection.2.Listening ∧
      e.pollConnection.2.controller.connection = .ofSnapshot e.manager.published ∧
      e.pollConnection.2.tasks = e.tasks := by
  have known : (e.controller.after e.news).connection = .ofSnapshot e.manager.published := by
    unfold news
    split
    · next level => exact listening.known level.symm
    · exact Controller.connection_of_connectionChanged _ _
  rw [pollConnection_eq]
  exact ⟨⟨Nat.le_refl _, fun _ => known, listening.entitled.after e.news, listening.bus,
    listening.tasks⟩, known, rfl⟩

/-- **A tick** makes the controller know what was published last.  If that is not a
valid connection, nothing is waited for after it, and nothing was asked for in it. -/
theorem tick (listening : e.Listening) (now : Instant) (file : Option FileVersion) :
    let t := (e.tick now file).2
    t.Listening ∧
      t.controller.connection = .ofSnapshot e.manager.published ∧
      (e.manager.published.valid = false →
        t.controller.trigger.phase = .idle ∧ t.tasks = e.tasks) := by
  intro t
  obtain ⟨told, known, tasks⟩ := listening.pollConnection
  -- nothing of the pass after the news tells the controller of the connection
  have settings := told.pollSettings now file
  have bus := settings.toListening.drain maxDrain
  have time := bus.toListening.handle (.tick now) rfl
  have rest : Unheard e.pollConnection.2 t := (settings.trans bus).trans time
  have connection : t.controller.connection = .ofSnapshot e.manager.published :=
    rest.connection.trans known
  refine ⟨rest.toListening, connection, fun invalid => ?_⟩
  have lost : e.pollConnection.2.controller.connection.valid = false := by
    rw [known]
    exact invalid
  refine ⟨Decidable.byContradiction fun busy => ?_, (rest.silent lost).trans tasks⟩
  have valid := rest.entitled.valid busy
  rw [rest.connection, lost] at valid
  cases valid

/-- A task that comes to its end puts no news on the bus. -/
theorem runTask (listening : e.Listening) {σ : Type} {p : Provider σ} {c : CompletionService σ}
    {place : Nat} {s s' : σ} (ran : e.runTask p c place s = some (e', s')) :
    e'.Listening ∧ e'.controller = e.controller := by
  obtain ⟨event, rfl, sent⟩ := runTask_sends ran
  have other : event.isNews = false := by
    obtain posted | ⟨seq, outcome, rfl⟩ := sent
    · exact listening.tasks _ posted
    · rfl
  refine ⟨{ listening with
    bus := fun m member => (List.mem_append.mp member).elim (listening.bus m)
      fun sent => List.mem_singleton.mp sent ▸ other
    tasks := fun k member => listening.tasks k (List.mem_of_mem_eraseIdx member) }, rfl⟩

/-- **Whatever the manager does**, the engine goes on listening: what it has not seen
yet is news. -/
theorem operate (listening : e.Listening) {m : ConnectionManager}
    (turn : ConnectionManager.Turn e.manager m) : ({ e with manager := m } : Engine).Listening := by
  obtain ⟨more, same⟩ := turn.publications
  refine { listening with
    seen_le := Nat.le_trans listening.seen_le more
    known := fun level => ?_ }
  have still : m.publications = e.manager.publications :=
    Nat.le_antisymm (level ▸ listening.seen_le) more
  rw [same still]
  exact listening.known (level.trans still)

end Listening

/-- A new engine is a fresh one that was told the news. -/
theorem new_eq (settings : Settings) (languages : LanguageTable) (manager : ConnectionManager) :
    new settings languages manager = { fresh settings languages manager with
      controller := ((Controller.new settings languages).react
        (.connectionChanged (.ofSnapshot manager.published))).controller } :=
  handle_of_silent _ _ (Controller.effects_reactToConnection _ _)

/-- A new engine listens, and knows of the manager what it published last. -/
theorem listening_new (settings : Settings) (languages : LanguageTable)
    (manager : ConnectionManager) :
    (new settings languages manager).Listening ∧
      (new settings languages manager).controller.connection = .ofSnapshot manager.published := by
  have known := Controller.connection_of_connectionChanged (.new settings languages)
    (.ofSnapshot manager.published)
  rw [new_eq]
  exact ⟨⟨Nat.le_refl _, fun _ => known, (Controller.entitled_new settings languages).react _,
    nofun, nofun⟩, known⟩

/-! ## Ticks, and what happens beside them -/

/-- **One thing that happens between two ticks.**  Nobody but the tick tells the
controller of the connection; an operation of the manager that takes time changes
the manager where it takes a connection into use (`ConnectionManager.Operation.use`),
and other operations may come before that. -/
inductive Aside : Engine → Engine → Prop
  /-- The host reports an event. -/
  | report (e : Engine) (event : Event) (other : event.isNews = false) :
      Aside e (e.handle event).2
  /-- The host lets the engine look at the bus. -/
  | pollBus (e : Engine) : Aside e e.pollBus.2
  /-- The host waits for one message. -/
  | waitForMessage (e : Engine) : Aside e e.waitForMessage.2
  /-- Something is put on the bus. -/
  | send (e : Engine) (event : Event) (other : event.isNews = false) : Aside e (e.send event)
  /-- Something is left to the background. -/
  | spawn (e : Engine) (task : BackgroundTask) (other : task.isNews = false) :
      Aside e (e.spawn task)
  /-- A task comes to its end. -/
  | runTask {σ : Type} (p : Provider σ) (c : CompletionService σ) (e e' : Engine) (place : Nat)
      (s s' : σ) (ran : e.runTask p c place s = some (e', s')) : Aside e e'
  /-- The editor takes its calls. -/
  | takeEditorCalls (e : Engine) : Aside e e.takeEditorCalls.2
  /-- The host begins to watch a settings file. -/
  | watchSettings (e : Engine) (file : Option FileVersion) : Aside e (e.watchSettings file)
  /-- The manager carries out an operation. -/
  | operate {σ : Type} (p : Provider σ) (e : Engine) (s : σ)
      (operation : ConnectionManager.Operation) :
      Aside e { e with manager := (e.manager.perform p s operation).1 }

/-- A tick, or something that happens beside it. -/
inductive Happening : Engine → Engine → Prop
  | aside {e e' : Engine} (aside : Aside e e') : Happening e e'
  | tick (e : Engine) (now : Instant) (file : Option FileVersion) :
      Happening e (e.tick now file).2

/-- **Beside the ticks** the engine goes on listening, and the controller hears
nothing of the connection. -/
theorem Aside.unheard (aside : Aside e e') (listening : e.Listening) :
    e'.Listening ∧ e'.controller.connection = e.controller.connection := by
  cases aside with
  | report _ event other =>
      have heard := listening.handle event other
      exact ⟨heard.toListening, heard.connection⟩
  | pollBus =>
      have heard := listening.drain maxDrain
      exact ⟨heard.toListening, heard.connection⟩
  | waitForMessage =>
      have heard := listening.waitForMessage
      exact ⟨heard.toListening, heard.connection⟩
  | send _ event other =>
      exact ⟨{ listening with
        bus := fun m member => (List.mem_append.mp member).elim (listening.bus m)
          fun sent => List.mem_singleton.mp sent ▸ other }, rfl⟩
  | spawn _ task other =>
      exact ⟨{ listening with
        tasks := fun k member => (List.mem_append.mp member).elim (listening.tasks k)
          fun spawned => List.mem_singleton.mp spawned ▸ other }, rfl⟩
  | runTask _ _ _ _ _ _ _ ran =>
      obtain ⟨listens, same⟩ := listening.runTask ran
      exact ⟨listens, congrArg _ same⟩
  | takeEditorCalls | watchSettings => exact ⟨{ listening with }, rfl⟩
  | operate p _ s operation =>
      exact ⟨listening.operate (ConnectionManager.turn_perform p e.manager s operation), rfl⟩

theorem unheard_of_asides (listening : e.Listening)
    (asides : Relation.ReflTransGen Aside e e') :
    e'.Listening ∧ e'.controller.connection = e.controller.connection := by
  induction asides with
  | refl => exact ⟨listening, rfl⟩
  | tail _ aside ih =>
      obtain ⟨listens, same⟩ := aside.unheard ih.1
      exact ⟨listens, same.trans ih.2⟩

theorem listening_of_happenings (listening : e.Listening)
    (happened : Relation.ReflTransGen Happening e e') : e'.Listening := by
  induction happened with
  | refl => exact listening
  | tail _ happening ih =>
      cases happening with
      | aside aside => exact (aside.unheard ih).1
      | tick now file => exact (ih.tick now file).1

/-- **What the controller knows of the connection follows the manager**, whatever
state the manager was in at first, and whatever happens between the ticks.  From the
beginning until the first tick the controller knows the snapshot that the manager had
published last when the engine was made.  After each tick it knows the one that the
manager has published last by then, and until the next tick nothing else.  If that is
not a valid connection, nothing is waited for after the tick, and nothing was asked
for in its course. -/
theorem connection_follows_manager (settings : Settings) (languages : LanguageTable)
    (manager : ConnectionManager) :
    (∀ e, Relation.ReflTransGen Aside (new settings languages manager) e →
      e.controller.connection = .ofSnapshot manager.published) ∧
    ∀ e, Relation.ReflTransGen Happening (new settings languages manager) e →
      ∀ now file,
        let t := (e.tick now file).2
        t.manager = e.manager ∧
          t.controller.connection = .ofSnapshot e.manager.published ∧
          (e.manager.published.valid = false →
            t.controller.trigger.phase = .idle ∧ t.tasks = e.tasks) ∧
          ∀ e', Relation.ReflTransGen Aside t e' →
            e'.controller.connection = .ofSnapshot e.manager.published := by
  obtain ⟨listening, known⟩ := listening_new settings languages manager
  refine ⟨fun e asides => (unheard_of_asides listening asides).2.trans known, ?_⟩
  intro e happened now file t
  obtain ⟨listens, told, lost⟩ := (listening_of_happenings listening happened).tick now file
  refine ⟨e.tick_manager now file, told, lost, fun e' asides => ?_⟩
  exact (unheard_of_asides listens asides).2.trans told

/-- A user who has signed in types, and 30 milliseconds of typing are waited for. -/
def typing : Engine :=
  (((new .standard .standard signedIn.manager).handle
    (.editorFocused (some ⟨⟨"main.rs"⟩, "rust"⟩))).2.handle
      (.documentChanged
        ⟨⟨⟨"main.rs"⟩, "rust", "main.rs", "fn", 2⟩, [.insertion 1 "n"], .user⟩ 0)).2

/-- Meanwhile the user signs in again, and then the connection expires. -/
def expiring : Engine :=
  let signing := (typing.manager.setState ⟨"local-0"⟩ .authenticating).2
  { typing with manager := (signing.setState ⟨"local-0"⟩ .expired).2 }

/-- The tick at the deadline tells that the connection has expired, and asks for
nothing. -/
theorem connection_follows_manager_expired :
    let t := (expiring.tick 30000 none).2
    expiring.nextDeadline = some 30000 ∧
      expiring.controller.connection = ⟨true, true, false, false⟩ ∧
      t.controller.connection = ⟨true, false, true, false⟩ ∧
      t.controller.trigger.phase = .idle ∧ t.tasks = [] := by
  intro t
  obtain ⟨atFirst, later⟩ := connection_follows_manager .standard .standard signedIn.manager
  have typed : Relation.ReflTransGen Aside (new .standard .standard signedIn.manager) typing :=
    .tail (.single (.report _ (.editorFocused _) rfl)) (.report _ (.documentChanged _ _) rfl)
  have state (m : Engine) (state : ConnectionState) :=
    Aside.operate Backend.provider m .empty (.setState ⟨"local-0"⟩ state)
  have expired : Relation.ReflTransGen Aside (new .standard .standard signedIn.manager) expiring :=
    (typed.tail (state _ .authenticating)).tail (state _ .expired)
  have happened := Relation.ReflTransGen.mono (fun _ _ => Happening.aside) _ _ expired
  obtain ⟨-, told, lost, -⟩ := later expiring happened 30000 none
  obtain ⟨idle, silent⟩ := lost (by decide)
  exact ⟨by decide, (atFirst _ expired).trans (by decide), told.trans (by decide), idle,
    silent.trans (by decide)⟩

end Engine

end InlineCompletion
