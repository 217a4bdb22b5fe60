import InlineCompletion.Engine
import InlineCompletion.Proofs.Connection.Turns
import InlineCompletion.Proofs.Controller.Requests

/-!
# Runs of an engine

What a host can do with an engine, what happens to it in the background, and
the engines that all of this can lead to.

Every move is one call of the host or one thing that happens beside it.  The
host's pass at a time is both there as a whole (`Move.tick`) and in its parts:
the news of the connection, the news of the settings, one message of the bus and
the passing of time.  A task that comes to its end while the host is in the
middle of a pass is a move between two of the parts.

What the surroundings do is left open as far as it can be.  Tasks end in any
order, against any credential store and any service; the connection manager and
the settings file are at any time what they like to be; and the editor does with
its calls what it can, for no move reads what came of them.

An `Act` allows more on one side and less on the other.  Whoever holds the bus may
put anything on it, and answers too may be dispatched by hand; but the manager is
the one that the engine was made with, and only its own operations change it.
-/

namespace InlineCompletion

/-! ## Carrying out effects -/

/-- Whether an event is the outcome of a request. -/
def Event.isAnswer : Event → Bool
  | .answered _ _ => true
  | _ => false

/-- The word that carrying out an effect puts on the bus. -/
def Effect.word? : Effect → Option Event
  | .insertText _ => some .insertionHandedOver
  | _ => none

/-- The task that carrying out an effect leaves to the background. -/
def Effect.task? (policy : RequestPolicy) : Effect → Option BackgroundTask
  | .requestCompletion seq request => some (.request seq request policy)
  | _ => none

/-- What carrying out an effect asks of the editor. -/
def Effect.call? : Effect → Option EditorCall
  | .insertText i => some (.insert i)
  | .prompt p => some (.prompt p)
  | _ => none

/-- The words that carrying out effects puts on the bus. -/
def wordsOf (effects : List Effect) : List Event := effects.filterMap Effect.word?

/-- The tasks that carrying out effects leaves to the background. -/
def tasksOf (policy : RequestPolicy) (effects : List Effect) : List BackgroundTask :=
  effects.filterMap (Effect.task? policy)

section Words

variable (policy : RequestPolicy) (es fs : List Effect) (prompts : List Prompt) (o : Offering)

@[simp] theorem wordsOf_nil : wordsOf [] = [] := rfl

@[simp] theorem tasksOf_nil : tasksOf policy [] = [] := rfl

@[simp] theorem wordsOf_append : wordsOf (es ++ fs) = wordsOf es ++ wordsOf fs :=
  List.filterMap_append

@[simp] theorem tasksOf_append :
    tasksOf policy (es ++ fs) = tasksOf policy es ++ tasksOf policy fs :=
  List.filterMap_append

@[simp] theorem wordsOf_prompts : wordsOf (prompts.map .prompt) = [] :=
  filterMap_prompts (fun _ => rfl) prompts

@[simp] theorem tasksOf_prompts : tasksOf policy (prompts.map .prompt) = [] :=
  filterMap_prompts (fun _ => rfl) prompts

@[simp] theorem wordsOf_rejections : wordsOf o.rejections = [] :=
  filterMap_rejections (fun _ => rfl) o

@[simp] theorem tasksOf_rejections : tasksOf policy o.rejections = [] :=
  filterMap_rejections (fun _ => rfl) o

end Words

/-- The only word is that an insertion was handed over. -/
theorem eq_of_mem_wordsOf {effects : List Effect} {m : Event} (word : m ∈ wordsOf effects) :
    m = .insertionHandedOver := by
  obtain ⟨effect, -, told⟩ := List.mem_filterMap.mp word
  cases effect with
  | insertText i => exact (Option.some.inj told).symm
  | _ => cases told

/-- The tasks that carrying out effects leaves are the requests that they send. -/
theorem tasksOf_eq_map (policy : RequestPolicy) (effects : List Effect) :
    tasksOf policy effects = (requestsIn effects).map fun r => .request r.1 r.2 policy := by
  rw [tasksOf, requestsIn, List.map_filterMap]
  congr 1
  funext effect
  cases effect <;> rfl

/-- So every one of them is a request. -/
theorem exists_request_of_mem_tasksOf {policy : RequestPolicy} {effects : List Effect}
    {k : BackgroundTask} (task : k ∈ tasksOf policy effects) :
    ∃ seq request, k = .request seq request policy := by
  rw [tasksOf_eq_map] at task
  obtain ⟨r, -, rfl⟩ := List.mem_map.mp task
  exact ⟨_, _, rfl⟩

namespace Engine

/-- Carrying out effects changes what is sent forth and what is remembered. -/
theorem foldl_perform_frame (effects : List Effect) (e : Engine) :
    ∃ decisions, effects.foldl perform e = { e with
      bus := e.bus ++ wordsOf effects
      tasks := e.tasks ++ tasksOf (.ofSettings e.controller.settings) effects
      decisions := decisions
      editorCalls := e.editorCalls ++ effects.filterMap Effect.call? } := by
  induction effects generalizing e with
  | nil => exact ⟨e.decisions, by simp⟩
  | cons effect effects ih =>
      obtain ⟨decisions, after⟩ := ih (e.perform effect)
      refine ⟨decisions, ?_⟩
      rw [List.foldl_cons, after]
      cases effect <;>
        simp [perform, wordsOf, tasksOf, List.filterMap_cons, Effect.word?, Effect.task?,
          Effect.call?]

/-- **Handling an event** changes what is sent forth and what is remembered. -/
theorem handle_frame (e : Engine) (event : Event) :
    ∃ decisions, (e.handle event).2 = { e with
      controller := (e.controller.react event).controller
      bus := e.bus ++ wordsOf (e.controller.react event).effects
      tasks := e.tasks ++ tasksOf (.ofSettings (e.controller.react event).controller.settings)
        (e.controller.react event).effects
      decisions := decisions
      editorCalls := e.editorCalls ++
        (e.controller.react event).effects.filterMap Effect.call? } :=
  foldl_perform_frame _ _

/-- Handling an event puts the words of its effects behind what the bus holds. -/
theorem handle_bus (e : Engine) (event : Event) :
    (e.handle event).2.bus = e.bus ++ wordsOf (e.controller.react event).effects := by
  obtain ⟨decisions, handled⟩ := e.handle_frame event
  rw [handled]

/-- Handling an event puts the requests of its effects behind the waiting tasks. -/
theorem handle_tasks (e : Engine) (event : Event) :
    (e.handle event).2.tasks = e.tasks ++
      tasksOf (.ofSettings (e.controller.react event).controller.settings)
        (e.controller.react event).effects := by
  obtain ⟨decisions, handled⟩ := e.handle_frame event
  rw [handled]

/-- Handling an event leaves the manager alone. -/
theorem handle_manager (e : Engine) (event : Event) : (e.handle event).2.manager = e.manager := by
  obtain ⟨decisions, handled⟩ := e.handle_frame event
  rw [handled]

/-- An empty bus has nothing to handle. -/
theorem drain_of_empty (n : Nat) {e : Engine} (empty : e.bus = []) :
    drain n e = (false, e) := by
  cases n with
  | zero => rfl
  | succ n => simp [drain_succ, handleNext, empty]

/-- **What every message keeps**, a pass over the bus keeps. -/
theorem drain_keeps {Q : Engine → Prop}
    (message : ∀ {e : Engine} {m : Event} {rest : List Event}, e.bus = m :: rest → Q e →
      Q (({ e with bus := rest } : Engine).handle m).2)
    (n : Nat) {e : Engine} (q : Q e) : Q (drain n e).2 := by
  induction n generalizing e with
  | zero => exact q
  | succ n ih =>
      rw [drain_succ]
      cases waiting : e.bus with
      | nil => simpa only [handleNext, waiting] using q
      | cons m rest =>
          simp only [handleNext, waiting]
          exact ih (message waiting q)

/-- So does waiting for one of them. -/
theorem waitForMessage_keeps {Q : Engine → Prop}
    (message : ∀ {e : Engine} {m : Event} {rest : List Event}, e.bus = m :: rest → Q e →
      Q (({ e with bus := rest } : Engine).handle m).2)
    {e : Engine} (q : Q e) : Q e.waitForMessage.2 := by
  unfold waitForMessage handleNext
  cases waiting : e.bus with
  | nil => exact q
  | cons m rest => exact message waiting q

/-- A pass over the bus leaves the manager alone. -/
theorem drain_manager (n : Nat) (e : Engine) : (drain n e).2.manager = e.manager :=
  drain_keeps (Q := fun e' => e'.manager = e.manager)
    (fun _ same => (handle_manager _ _).trans same) n rfl

/-- So does a pass of the host's loop. -/
theorem tick_manager (e : Engine) (now : Instant) (file : Option FileVersion) :
    (e.tick now file).2.manager = e.manager := by
  have connection : e.pollConnection.2.manager = e.manager := by
    unfold pollConnection
    split
    · rfl
    · exact handle_manager { e with seen := e.manager.publications } _
  have settings (e : Engine) : (e.pollSettings now file).2.manager = e.manager := by
    unfold pollSettings
    split
    · rfl
    · next watch _ =>
      dsimp only
      split
      · rfl
      · exact handle_manager { e with watch := some (watch.poll now file).2 } _
  calc (e.tick now file).2.manager
    _ = (e.pollConnection.2.pollSettings now file).2.pollBus.2.manager := handle_manager _ _
    _ = (e.pollConnection.2.pollSettings now file).2.manager := drain_manager maxDrain _
    _ = e.pollConnection.2.manager := settings _
    _ = e.manager := connection

/-- Handling an event without an effect changes the controller alone. -/
theorem handle_of_silent (e : Engine) (event : Event)
    (silent : (e.controller.react event).effects = []) :
    (e.handle event).2 = { e with controller := (e.controller.react event).controller } := by
  simp [handle, silent]

/-- Finishing a request puts its outcome on the bus and changes nothing else. -/
theorem finish_request {σ : Type} (p : Provider σ) (c : CompletionService σ) (e : Engine)
    (seq : Nat) (request : Request) (policy : RequestPolicy) (s : σ) :
    ∃ outcome, (e.finish p c (.request seq request policy) s).1 = e.send (.answered seq outcome) :=
  ⟨_, rfl⟩

/-- **A task that comes to its end** puts an event on the bus: the one that it was left to
post, or the outcome of a request. -/
theorem runTask_sends {σ : Type} {p : Provider σ} {c : CompletionService σ} {e e' : Engine}
    {place : Nat} {s s' : σ} (ran : e.runTask p c place s = some (e', s')) :
    ∃ event, e' = ({ e with tasks := e.tasks.eraseIdx place } : Engine).send event ∧
      (.post event ∈ e.tasks ∨ ∃ seq outcome, event = .answered seq outcome) := by
  unfold runTask takeTask at ran
  cases found : e.tasks[place]? with
  | none => simp [found] at ran
  | some task =>
      simp only [found, Option.some.injEq] at ran
      cases task with
      | post event =>
          exact ⟨event, (Prod.mk.inj ran).1.symm, .inl (List.mem_of_getElem? found)⟩
      | request seq request policy =>
          exact ⟨_, (Prod.mk.inj ran).1.symm, .inr ⟨seq, _, rfl⟩⟩

/-- It changes the bus and the tasks and nothing else. -/
theorem runTask_frame {σ : Type} {p : Provider σ} {c : CompletionService σ} {e e' : Engine}
    {place : Nat} {s s' : σ} (ran : e.runTask p c place s = some (e', s')) :
    ∃ bus tasks, e' = { e with bus := bus, tasks := tasks } := by
  obtain ⟨event, rfl, -⟩ := runTask_sends ran
  exact ⟨_, _, rfl⟩

/-! ## Moves -/

/-- **One call of the host, or one thing that happens beside it.** -/
inductive Move : Engine → Engine → Prop
  /-- The host reports an event.  Answers come over the bus alone. -/
  | report (e : Engine) (event : Event) (host : event.isAnswer = false) :
      Move e (e.handle event).2
  /-- One pass of the host's loop. -/
  | tick (e : Engine) (now : Instant) (file : Option FileVersion) : Move e (e.tick now file).2
  /-- The host lets the engine look at the bus. -/
  | pollBus (e : Engine) : Move e e.pollBus.2
  /-- The host waits for one message, or a pass handles one. -/
  | waitForMessage (e : Engine) : Move e e.waitForMessage.2
  /-- A pass looks for news of the connection. -/
  | pollConnection (e : Engine) : Move e e.pollConnection.2
  /-- A pass looks for news of the settings. -/
  | pollSettings (e : Engine) (now : Instant) (file : Option FileVersion) :
      Move e (e.pollSettings now file).2
  /-- A task comes to its end. -/
  | runTask {σ : Type} (p : Provider σ) (c : CompletionService σ) (e e' : Engine) (index : Nat)
      (s s' : σ) (ran : e.runTask p c index s = some (e', s')) : Move e e'
  /-- The editor takes its calls, and does with them what it can. -/
  | takeEditorCalls (e : Engine) : Move e e.takeEditorCalls.2
  /-- The connection manager becomes another. -/
  | manage (e : Engine) (manager : ConnectionManager) : Move e { e with manager := manager }
  /-- The host begins to watch a settings file. -/
  | watchSettings (e : Engine) (file : Option FileVersion) : Move e (e.watchSettings file)

/-- An engine that moves lead to from a new one. -/
inductive Reachable : Engine → Prop
  | new (settings : Settings) (languages : LanguageTable) (manager : ConnectionManager) :
      Reachable (.new settings languages manager)
  | move {e e' : Engine} (reachable : Reachable e) (step : Move e e') : Reachable e'

/-- **One act around an engine and its manager.**  Any event may be dispatched or put
on the bus, and any task left to the background; the manager becomes another only by an
operation of its own. -/
inductive Act : Engine → Engine → Prop
  /-- An event is dispatched. -/
  | dispatch (e : Engine) (event : Event) : Act e (e.handle event).2
  /-- Something is put on the bus. -/
  | send (e : Engine) (event : Event) : Act e (e.send event)
  /-- Something is left to the background. -/
  | spawn (e : Engine) (task : BackgroundTask) : Act e (e.spawn task)
  /-- A move that leaves the manager as it is. -/
  | move {e e' : Engine} (step : Move e e') (manager : e'.manager = e.manager) : Act e e'
  /-- The manager carries out an operation.  One that takes time changes the manager where
  it takes a connection into use; other acts may come before that. -/
  | operate {σ : Type} (p : Provider σ) (e : Engine) (s : σ)
      (operation : ConnectionManager.Operation) :
      Act e { e with manager := (e.manager.perform p s operation).1 }

/-! ## Strokes -/

/-- **What is kept stroke by stroke.**  Every move is made of four kinds of strokes:
the host reports an event, the oldest message of the bus is handled, a task comes to its
end, or something changes beside the controller, the bus, the tasks and what is
remembered. -/
structure KeptByStrokes (Q : Engine → Prop) : Prop where
  report : ∀ {e : Engine} (event : Event), event.isAnswer = false → Q e → Q (e.handle event).2
  message : ∀ {e : Engine} {m : Event} {rest : List Event}, e.bus = m :: rest → Q e →
    Q (({ e with bus := rest } : Engine).handle m).2
  runTask : ∀ {σ : Type} {p : Provider σ} {c : CompletionService σ} {e e' : Engine}
    {place : Nat} {s s' : σ}, e.runTask p c place s = some (e', s') → Q e → Q e'
  aside : ∀ {e e' : Engine}, e'.controller = e.controller → e'.bus = e.bus →
    e'.tasks = e.tasks → e'.decisions = e.decisions → Q e → Q e'

namespace KeptByStrokes

variable {Q : Engine → Prop} {e e' : Engine}

/-- A pass over the bus handles one message after the other. -/
theorem drain (kept : KeptByStrokes Q) (n : Nat) (q : Q e) : Q (Engine.drain n e).2 :=
  drain_keeps kept.message n q

theorem waitForMessage (kept : KeptByStrokes Q) (q : Q e) : Q e.waitForMessage.2 :=
  waitForMessage_keeps kept.message q

theorem pollConnection (kept : KeptByStrokes Q) (q : Q e) : Q e.pollConnection.2 := by
  unfold Engine.pollConnection
  split
  · exact q
  · apply kept.report _ rfl
    exact kept.aside (e := e) rfl rfl rfl rfl q

theorem pollSettings (kept : KeptByStrokes Q) (now : Instant) (file : Option FileVersion)
    (q : Q e) : Q (e.pollSettings now file).2 := by
  unfold Engine.pollSettings
  split
  · exact q
  · next watch _ =>
    have looked : Q { e with watch := some (watch.poll now file).2 } :=
      kept.aside (e := e) rfl rfl rfl rfl q
    dsimp only
    split
    · exact looked
    · exact kept.report _ rfl looked

theorem tick (kept : KeptByStrokes Q) (now : Instant) (file : Option FileVersion) (q : Q e) :
    Q (e.tick now file).2 := by
  apply kept.report _ rfl
  exact kept.drain maxDrain (kept.pollSettings now file (kept.pollConnection q))

/-- **What is kept stroke by stroke is kept by every move.** -/
theorem move (kept : KeptByStrokes Q) (step : Move e e') (q : Q e) : Q e' := by
  cases step with
  | report _ event host => exact kept.report event host q
  | tick _ now file => exact kept.tick now file q
  | pollBus => exact kept.drain maxDrain q
  | waitForMessage => exact kept.waitForMessage q
  | pollConnection => exact kept.pollConnection q
  | pollSettings _ now file => exact kept.pollSettings now file q
  | runTask _ _ _ _ _ _ _ ran => exact kept.runTask ran q
  | takeEditorCalls | manage | watchSettings => exact kept.aside (e := e) rfl rfl rfl rfl q

end KeptByStrokes

/-- What is kept stroke by stroke whatever is remembered: a stroke aside may change
the remembered decisions too. -/
structure Kept (Q : Engine → Prop) : Prop where
  report : ∀ {e : Engine} (event : Event), event.isAnswer = false → Q e → Q (e.handle event).2
  message : ∀ {e : Engine} {m : Event} {rest : List Event}, e.bus = m :: rest → Q e →
    Q (({ e with bus := rest } : Engine).handle m).2
  runTask : ∀ {σ : Type} {p : Provider σ} {c : CompletionService σ} {e e' : Engine}
    {place : Nat} {s s' : σ}, e.runTask p c place s = some (e', s') → Q e → Q e'
  aside : ∀ {e e' : Engine}, e'.controller = e.controller → e'.bus = e.bus →
    e'.tasks = e.tasks → Q e → Q e'

theorem Kept.byStrokes {Q : Engine → Prop} (kept : Kept Q) : KeptByStrokes Q :=
  ⟨kept.report, kept.message, kept.runTask,
    fun controller bus tasks _ => kept.aside controller bus tasks⟩

theorem Kept.move {Q : Engine → Prop} {e e' : Engine} (kept : Kept Q) (step : Move e e')
    (q : Q e) : Q e' :=
  kept.byStrokes.move step q

end Engine

end InlineCompletion
