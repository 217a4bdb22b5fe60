import InlineCompletion.Controller
import InlineCompletion.Editor
import InlineCompletion.Request.Service
import InlineCompletion.Settings.Watch

/-!
# The engine

The engine puts the controller among its surroundings and carries out its
effects.  What comes back from the background — the outcome of a request, the
word that an insertion was handed to the editor — does not reach the controller
directly.  It is put on a bus, first in first out, and the controller sees it when
the host lets the engine look at the bus.

## What is kept, and what is handed out

A request becomes a *task*.  Tasks wait in the engine until the host's
executor runs them, in whatever order it likes; a task remembers the options
that held when its request was made.

Calls to the editor are handed out: they wait in `editorCalls`, and the host
takes them and does with them what it can.  Whether an insertion succeeds makes
no difference here, so nothing is waited for, and the word that it was handed
over goes onto the bus at once.

Decisions are remembered up to the limit that holds when a decision is made.
-/

namespace InlineCompletion

/-- Work to be done in the background. -/
inductive BackgroundTask
  /-- Ask for suggestions and put the outcome on the bus. -/
  | request (seq : Nat) (request : Request) (options : RequestPolicy)
  /-- Put an event on the bus. -/
  | post (event : Event)
  deriving DecidableEq, Repr

/-- The controller among its surroundings. -/
structure Engine where
  controller : Controller
  manager : ConnectionManager
  /-- How many of the manager's publications were published when it was last looked at. -/
  seen : Nat
  /-- What came back from the background, the oldest first. -/
  bus : List Event
  /-- What waits to be run in the background. -/
  tasks : List BackgroundTask
  /-- The remembered decisions, the oldest first. -/
  decisions : List Decision
  /-- What the editor is asked to do, the oldest first. -/
  editorCalls : List EditorCall
  /-- The watched settings file. -/
  watch : Option SettingsWatch
  deriving DecidableEq, Repr

namespace Engine

/-- How many messages of the bus are handled on one tick. -/
def maxDrain : Nat := 256

/-! ### Carrying out effects -/

/-- The new decision after as many of the remembered ones as leave room for it;
with no room at all it is not remembered. -/
def remember (limit : Nat) (decisions : List Decision) (d : Decision) : List Decision :=
  if limit = 0 then decisions
  else decisions.drop (decisions.length + 1 - limit) ++ [d]

/-- Carries out one effect. -/
def perform (e : Engine) : Effect → Engine
  | .requestCompletion seq request =>
      { e with
        tasks := e.tasks ++ [.request seq request (.ofSettings e.controller.settings)] }
  | .insertText insert =>
      { e with
        editorCalls := e.editorCalls ++ [.insert insert]
        bus := e.bus ++ [.insertionHandedOver] }
  | .recordDecision decision =>
      { e with
        decisions := remember e.controller.settings.decisionHistoryLimit.toNat e.decisions
          decision }
  | .prompt prompt => { e with editorCalls := e.editorCalls ++ [.prompt prompt] }

/-- Lets the controller react to an event and carries out what it says; says whether
the state may look different. -/
def handle (e : Engine) (event : Event) : Bool × Engine :=
  let reaction := e.controller.react event
  (reaction.changed, reaction.effects.foldl perform { e with controller := reaction.controller })

/-- The engine without a manager's news: a fresh controller and nothing going on. -/
def fresh (settings : Settings) (languages : LanguageTable) (manager : ConnectionManager) :
    Engine where
  controller := .new settings languages
  manager := manager
  seen := manager.publications
  bus := []
  tasks := []
  decisions := []
  editorCalls := []
  watch := none

/-- An engine over a manager, whose state it knows from the start. -/
def new (settings : Settings) (languages : LanguageTable) (manager : ConnectionManager) :
    Engine :=
  ((fresh settings languages manager).handle
    (.connectionChanged (.ofSnapshot manager.published))).2

/-- When the host should tick next. -/
def nextDeadline (e : Engine) : Option Instant := e.controller.nextDeadline

/-- Ends what is going on. -/
def shutDown (e : Engine) : Bool × Engine := e.handle .shutDown

/-- Begins to watch a settings file that is in the given state. -/
def watchSettings (e : Engine) (file : Option FileVersion) : Engine :=
  { e with watch := some (.start file) }

/-- The calls to the editor, taken out. -/
def takeEditorCalls (e : Engine) : List EditorCall × Engine :=
  (e.editorCalls, { e with editorCalls := [] })

/-! ### The bus -/

/-- Puts an event on the bus. -/
def send (e : Engine) (event : Event) : Engine := { e with bus := e.bus ++ [event] }

/-- Handles the oldest message of the bus; none when there is none. -/
def handleNext (e : Engine) : Option (Bool × Engine) :=
  match e.bus with
  | [] => none
  | event :: rest => some (({ e with bus := rest } : Engine).handle event)

/-- Handles up to `n` messages of the bus, those included that come up meanwhile;
says whether any of them made the state look different. -/
def drain : Nat → Engine → Bool × Engine
  | 0, e => (false, e)
  | n + 1, e =>
      match e.handleNext with
      | none => (false, e)
      | some (changed, e) =>
          let (later, e) := drain n e
          (changed || later, e)

/-- Handles what the bus holds, up to the bound for one tick. -/
def pollBus (e : Engine) : Bool × Engine := drain maxDrain e

/-- Waits for one message of the bus and handles it; says whether there was one. -/
def waitForMessage (e : Engine) : Bool × Engine :=
  match e.handleNext with
  | none => (false, e)
  | some (_, e) => (true, e)

/-! ### Ticks -/

/-- Lets the controller know of the manager's news, if there is any. -/
def pollConnection (e : Engine) : Bool × Engine :=
  if e.manager.publications = e.seen then (false, e)
  else
    ({ e with seen := e.manager.publications } : Engine).handle
      (.connectionChanged (.ofSnapshot e.manager.published))

/-- Lets the controller know of new settings in the watched file, if there are any. -/
def pollSettings (e : Engine) (now : Instant) (file : Option FileVersion) :
    Bool × Engine :=
  match e.watch with
  | none => (false, e)
  | some watch =>
      let (settings, watch) := watch.poll now file
      let e := { e with watch := some watch }
      match settings with
      | none => (false, e)
      | some settings => e.handle (.settingsChanged settings)

/-- **One pass of the host's loop** at `now`, with the watched file as it is now:
the connection, the settings, the bus, and then the time. -/
def tick (e : Engine) (now : Instant) (file : Option FileVersion) : Bool × Engine :=
  let (connection, e) := e.pollConnection
  let (settings, e) := e.pollSettings now file
  let (bus, e) := e.pollBus
  let (time, e) := e.handle (.tick now)
  (connection || settings || bus || time, e)

/-! ### Background work -/

/-- The outcome of a request as it is put on the bus. -/
def outcomeOf : Except RequestError (List Suggestion) → RequestOutcome
  | .ok response => .suggestions response
  | .error e => .failed e.message

/-- Takes the task at place `index` out of the waiting ones. -/
def takeTask (e : Engine) (index : Nat) : Option (BackgroundTask × Engine) :=
  match e.tasks[index]? with
  | none => none
  | some task => some (task, { e with tasks := e.tasks.eraseIdx index })

/-- Puts a task among the waiting ones. -/
def spawn (e : Engine) (task : BackgroundTask) : Engine :=
  { e with tasks := e.tasks ++ [task] }

/-- Does a task to its end, with the outside world in state `s`. -/
def finish {σ : Type} (p : Provider σ) (c : CompletionService σ) (e : Engine)
    (task : BackgroundTask) (s : σ) : Engine × σ :=
  match task with
  | .post event => (e.send event, s)
  | .request seq request options =>
      let (result, s) := askForSuggestions p c e.manager request options s
      (e.send (.answered seq (outcomeOf result)), s)

/-- Runs the task at place `index` to its end; none when there is no such task. -/
def runTask {σ : Type} (p : Provider σ) (c : CompletionService σ) (e : Engine) (index : Nat)
    (s : σ) : Option (Engine × σ) :=
  match e.takeTask index with
  | none => none
  | some (task, e) => some (e.finish p c task s)

@[simp] theorem drain_zero (e : Engine) : drain 0 e = (false, e) := rfl

theorem drain_succ (n : Nat) (e : Engine) :
    drain (n + 1) e =
      match e.handleNext with
      | none => (false, e)
      | some (changed, e) => (changed || (drain n e).1, (drain n e).2) := rfl

@[simp] theorem handle_controller (e : Engine) (event : Event) :
    (e.handle event).2.controller = (e.controller.react event).controller := by
  have keeps (effects : List Effect) :
      ∀ e : Engine, (effects.foldl perform e).controller = e.controller := by
    induction effects with
    | nil => intro e; rfl
    | cons effect rest ih =>
      intro e
      rw [List.foldl_cons, ih]
      cases effect <;> rfl
  exact keeps _ _

@[simp] theorem handle_changed (e : Engine) (event : Event) :
    (e.handle event).1 = (e.controller.react event).changed := rfl

end Engine

end InlineCompletion
