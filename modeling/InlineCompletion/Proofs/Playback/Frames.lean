import InlineCompletion.Proofs.Playback.Rounds

/-!
# What the pieces of a step leave alone

The equations for the pieces of a step hold of players with nothing on its way, and say
what the controller comes to.  Here it is the other way round: of *any* player it is
said what a piece does **not** touch.  Carrying out calls changes the editor's part of a
player alone.  Of the pieces that bring a step to its end only background work reaches
the world, and there it changes what the service has and not what the store has.  None of
them changes the manager, and only a pass of the host's loop sets the clock.
-/

namespace InlineCompletion

namespace Playback

namespace Player

variable {p : Player}

/-! ## The editor -/

/-- What is not the editor's. -/
structure SameInside (p q : Player) : Prop where
  engine : q.engine = p.engine
  backend : q.backend = p.backend
  clock : q.clock = p.clock

/-- The editor's work is the editor's alone. -/
theorem sameInside_carryOut (calls : List EditorCall) (p : Player) :
    SameInside p (calls.foldl carryOut p) := by
  induction calls generalizing p with
  | nil => exact ⟨rfl, rfl, rfl⟩
  | cons call calls ih =>
      have later := ih (p.carryOut call)
      have now : SameInside p (p.carryOut call) := by
        cases call with
        | prompt prompt => exact ⟨rfl, rfl, rfl⟩
        | insert i =>
            unfold carryOut
            dsimp only
            split <;> exact ⟨rfl, rfl, rfl⟩
      exact ⟨later.engine.trans now.engine, later.backend.trans now.backend,
        later.clock.trans now.clock⟩

section Act

variable (operation : Engine → Bool × Engine)

theorem act_engine (p : Player) :
    (p.act operation).engine = { (operation p.engine).2 with editorCalls := [] } :=
  (sameInside_carryOut _ _).engine

@[simp] theorem act_backend (p : Player) : (p.act operation).backend = p.backend :=
  (sameInside_carryOut _ _).backend

@[simp] theorem act_clock (p : Player) : (p.act operation).clock = p.clock :=
  (sameInside_carryOut _ _).clock

end Act

/-- What is kept at every report is kept by all of them. -/
theorem report_of_tell {Q : Player → Prop} (keeps : ∀ p e, Q p → Q (p.tell e))
    (events : List Event) (q : Q p) : Q (p.report events) := by
  unfold report
  induction events generalizing p with
  | nil => exact q
  | cons e events ih => exact ih (keeps p e q)

theorem tell_controller (p : Player) (e : Event) :
    (p.tell e).engine.controller = (p.engine.controller.react e).controller := by
  rw [tell, act_engine]
  exact Engine.handle_controller p.engine e

/-! ## The world -/

@[simp] theorem tell_backend (p : Player) (e : Event) : (p.tell e).backend = p.backend :=
  act_backend _ p

@[simp] theorem report_backend (p : Player) (events : List Event) :
    (p.report events).backend = p.backend :=
  report_of_tell (Q := fun q => q.backend = p.backend)
    (fun q e same => (tell_backend q e).trans same) events rfl

@[simp] theorem deliver_backend (p : Player) : p.deliver.backend = p.backend :=
  report_backend _ _

/-- **Tasks of a list have come to their ends** between `p` and `q`: what the service
received are requests of theirs, and nothing that is not theirs has changed. -/
structure Ran (tasks : List BackgroundTask) (p q : Player) : Prop where
  manager : q.engine.manager = p.engine.manager
  /-- The tasks that wait are the same. -/
  others : q.engine.tasks = p.engine.tasks
  document : q.document = p.document
  clock : q.clock = p.clock
  connections : q.backend.connections = p.backend.connections
  received : ∃ handed, q.backend.requests = p.backend.requests ++ handed ∧
    ∀ r ∈ handed, ∃ seq policy, .request seq r policy ∈ tasks

theorem ran_singleton (task : BackgroundTask) (p : Player) :
    Ran [task] p (p.finishAll [task]) := by
  cases task with
  | post event => exact ⟨rfl, rfl, rfl, rfl, rfl, [], (List.append_nil _).symm, nofun⟩
  | request seq request policy =>
      rcases Backend.ask_cases p.engine.manager request policy p.backend with
        ⟨same, -⟩ | ⟨replies, reached⟩
      · refine ⟨rfl, rfl, rfl, rfl, congrArg _ same, [], ?_, nofun⟩
        exact (congrArg _ same).trans (List.append_nil _).symm
      · have stored := congrArg Backend.connections reached
        have received := congrArg Backend.requests reached
        refine ⟨rfl, rfl, rfl, rfl, stored, [request], received, ?_⟩
        intro r member
        obtain rfl := List.mem_singleton.mp member
        exact ⟨seq, policy, List.mem_cons_self⟩

/-- **Bringing tasks to their end**, one after the other. -/
theorem ran_finishAll (tasks : List BackgroundTask) (p : Player) :
    Ran tasks p (p.finishAll tasks) := by
  induction tasks generalizing p with
  | nil => exact ⟨rfl, rfl, rfl, rfl, rfl, [], (List.append_nil _).symm, nofun⟩
  | cons task tasks ih =>
      have first := ran_singleton task p
      have later := ih (p.finishAll [task])
      obtain ⟨now, received, amongOne⟩ := first.received
      obtain ⟨handed, received', among⟩ := later.received
      refine ⟨later.manager.trans first.manager, later.others.trans first.others,
        later.document.trans first.document, later.clock.trans first.clock,
        later.connections.trans first.connections, now ++ handed, ?_, ?_⟩
      · rw [← List.append_assoc, ← received]
        exact received'
      · intro r member
        rcases List.mem_append.mp member with early | late
        · obtain ⟨seq, policy, waiting⟩ := amongOne r early
          exact ⟨seq, policy, List.mem_cons.mpr (.inl (List.mem_singleton.mp waiting))⟩
        · obtain ⟨seq, policy, waiting⟩ := among r late
          exact ⟨seq, policy, List.mem_cons_of_mem _ waiting⟩

/-! ## The clock -/

@[simp] theorem tell_clock (p : Player) (e : Event) : (p.tell e).clock = p.clock := act_clock _ p

@[simp] theorem report_clock (p : Player) (events : List Event) :
    (p.report events).clock = p.clock :=
  report_of_tell (Q := fun q => q.clock = p.clock)
    (fun q e same => (tell_clock q e).trans same) events rfl

@[simp] theorem deliver_clock (p : Player) : p.deliver.clock = p.clock := report_clock _ _

/-- Bringing to its end what is under way takes no time. -/
@[simp] theorem finishWork_clock (p : Player) : p.finishWork.clock = p.clock := by
  calc p.finishWork.clock
    _ = p.deliver.runBackground.clock := act_clock _ _
    _ = p.deliver.clock := (ran_finishAll p.deliver.engine.tasks _).clock
    _ = p.clock := deliver_clock p

@[simp] theorem tickAt_clock (p : Player) (now : Instant) : (p.tickAt now).clock = now :=
  act_clock _ _

/-! ## The manager and the store -/

/-- **The manager is the same, and the store has the same connections.** -/
structure SameStanding (p q : Player) : Prop where
  manager : q.engine.manager = p.engine.manager
  connections : q.backend.connections = p.backend.connections

namespace SameStanding

variable {q r : Player}

theorem trans (first : SameStanding p q) (second : SameStanding q r) : SameStanding p r :=
  ⟨second.manager.trans first.manager, second.connections.trans first.connections⟩

/-- What the engine does without changing the manager changes nothing here. -/
theorem act {operation : Engine → Bool × Engine}
    (manager : (operation p.engine).2.manager = p.engine.manager) :
    SameStanding p (p.act operation) :=
  ⟨(congrArg Engine.manager (act_engine operation p)).trans manager, by rw [act_backend]⟩

theorem tell (p : Player) (e : Event) : SameStanding p (p.tell e) := act (p.engine.handle_manager e)

theorem report (p : Player) (events : List Event) : SameStanding p (p.report events) :=
  report_of_tell (fun q e same => same.trans (tell q e)) events ⟨rfl, rfl⟩

theorem deliver (p : Player) : SameStanding p p.deliver :=
  ⟨(report _ _).manager, (report _ _).connections⟩

theorem tickAt (p : Player) (now : Instant) : SameStanding p (p.tickAt now) := by
  have pass : SameStanding ({ p with clock := now } : Player) (p.tickAt now) :=
    act (p.engine.tick_manager now none)
  exact ⟨pass.manager, pass.connections⟩

theorem withDocument (p : Player) (f : EditorDocument → EditorDocument × List Event) :
    SameStanding p (p.withDocument f) := by
  unfold Player.withDocument
  split
  · exact ⟨rfl, rfl⟩
  · next d _ =>
    have told := report { p with document := some (f d).1 } (f d).2
    exact ⟨told.manager, told.connections⟩

theorem finishWork (p : Player) : SameStanding p p.finishWork := by
  have ran := ran_finishAll p.deliver.engine.tasks
    { p.deliver with engine := { p.deliver.engine with tasks := [] } }
  have background : SameStanding p.deliver p.deliver.runBackground :=
    ⟨ran.manager, ran.connections⟩
  have bus : SameStanding p.deliver.runBackground p.finishWork :=
    act (Engine.drain_manager Engine.maxDrain _)
  exact ((deliver p).trans background).trans bus

theorem letPass (p : Player) (time : Duration) : SameStanding p (p.letPass time) := by
  refine trans ?_ (tickAt _ _)
  unfold fireDue
  split
  · split
    · exact (tickAt p _).trans (finishWork _)
    · exact ⟨rfl, rfl⟩
  · exact ⟨rfl, rfl⟩

end SameStanding

end Player

end Playback

end InlineCompletion
