import InlineCompletion.Engine
import InlineCompletion.Playback.Backend
import InlineCompletion.Playback.EditorDocument
import InlineCompletion.Script.Step

/-!
# Playing a script

A `Player` is an engine with an editor, surroundings and a clock of its own.
It does the steps of a script one after the other.  The clock stands still but
for the step that lets time pass.

### Finishing

After each step, and after each deadline that a wait comes past, everything
that is under way is brought to its end: the events that the editor has not
reported yet, then the work in the background, then what it put on the bus.
One round of that is enough.  Only accepting a suggestion makes the editor
insert, and only a tick or a command begins a request, and none of these is
among the things that a round handles; so a round leaves nothing under way.

For the same reason a wait comes past at most one deadline.  Firing it begins a
request or drops it, and the answer opens a session or nothing, and no deadline
is set again until the user types.
-/

namespace InlineCompletion.Playback

/-- An engine with its surroundings. -/
structure Player where
  engine : Engine
  backend : Backend
  /-- The document that is open in the editor. -/
  document : Option EditorDocument
  /-- The editor's events that were not reported yet. -/
  pending : List Event
  /-- The prompts that came up since they were last looked at. -/
  prompts : List Prompt
  clock : Instant
  deriving DecidableEq, Repr

namespace Player

/-- A player before the first step, with nothing connected and nothing open. -/
def new (settings : Settings) : Player where
  engine := .new settings .standard (.new settings.allowKeyBasedConnections)
  backend := .empty
  document := none
  pending := []
  prompts := []
  clock := 0

/-! ### The editor -/

/-- The editor does what it is asked to, if it can. -/
def carryOut (p : Player) : EditorCall → Player
  | .prompt prompt => { p with prompts := p.prompts ++ [prompt] }
  | .insert i =>
      match EditorDocument.insertAccepted p.document i p.clock with
      | .ok (d, events) => { p with document := some d, pending := p.pending ++ events }
      | .error _ => p

/-- Lets the engine do something and the editor what it is asked to. -/
def act (p : Player) (operation : Engine → Bool × Engine) : Player :=
  let (calls, engine) := (operation p.engine).2.takeEditorCalls
  calls.foldl carryOut { p with engine := engine }

/-- Reports something to the engine. -/
def tell (p : Player) (event : Event) : Player := p.act (·.handle event)

/-- Reports the editor's events. -/
def report (p : Player) (events : List Event) : Player := events.foldl tell p

/-! ### Finishing, and time -/

/-- Reports the events that the editor has not reported yet. -/
def deliver (p : Player) : Player := ({ p with pending := [] } : Player).report p.pending

/-- Brings the given tasks to their end. -/
def finishAll (p : Player) (tasks : List BackgroundTask) : Player :=
  tasks.foldl (fun p task =>
    let (engine, backend) :=
      p.engine.finish Backend.provider Backend.service task p.backend
    { p with engine := engine, backend := backend }) p

/-- Brings the work in the background to its end. -/
def runBackground (p : Player) : Player :=
  ({ p with engine := { p.engine with tasks := [] } } : Player).finishAll p.engine.tasks

/-- Brings everything that is under way to its end. -/
def finishWork (p : Player) : Player := p.deliver.runBackground.act (·.pollBus)

/-- One pass of the host's loop at the clock's time, set to `now`. -/
def tickAt (p : Player) (now : Instant) : Player :=
  ({ p with clock := now } : Player).act (·.tick now none)

/-- Fires the deadline that is due at `target`, at its own time. -/
def fireDue (p : Player) (target : Instant) : Player :=
  match p.engine.nextDeadline with
  | some deadline =>
      if deadline ≤ target then (p.tickAt (max deadline p.clock)).finishWork else p
  | none => p

/-- Lets time pass. -/
def letPass (p : Player) (time : Duration) : Player :=
  (p.fireDue (p.clock + time)).tickAt (p.clock + time)

/-! ### Steps -/

/-- Does something to the open document, if there is one, and reports it. -/
def withDocument (p : Player) (f : EditorDocument → EditorDocument × List Event) : Player :=
  match p.document with
  | none => p
  | some d => ({ p with document := some (f d).1 } : Player).report (f d).2

/-- The profile that a sign-in step asks for. -/
def profileOf (startUrl region : Option String) : ConnectionProfile :=
  match startUrl with
  | none => .builderId
  | some startUrl => .enterprise startUrl (region.getD builderIdRegion)

/-- Lets the manager of the connection do something that may fail. -/
def manage {α : Type} (p : Player) (operation : ConnectionManager → Backend → Attempt Backend α) :
    Except ConnectionError Player :=
  let attempt := operation p.engine.manager p.backend
  match attempt.result with
  | .error e => .error e
  | .ok _ =>
      .ok { p with
        engine := { p.engine with manager := attempt.manager }
        backend := attempt.provider }

/-- The connection in use expires. -/
def expire (m : ConnectionManager) : ConnectionManager :=
  match m.active with
  | none => m
  | some c => (m.setState c.id .expired).2

/-- Does a step. -/
def perform (p : Player) : Step → Except ConnectionError Player
  | .connect startUrl region =>
      p.manage fun m b => m.connect Backend.provider (profileOf startUrl region) b
  | .disconnect =>
      .ok { p with
        engine := { p.engine with manager := p.engine.manager.disconnect } }
  | .expire =>
      .ok { p with engine := { p.engine with manager := expire p.engine.manager } }
  | .reauthenticate => p.manage fun m b => m.reauthenticate Backend.provider b
  | .openDocument uri language text cursor =>
      let d := EditorDocument.ofText uri language text cursor
      .ok (({ p with document := some d } : Player).tell
        (.editorFocused (some d.activeEditor)))
  | .typeText text =>
      .ok (p.withDocument fun d =>
        let (d, change) := d.insert text p.clock
        (d, [change, d.selection .keyboard]))
  | .backspace count =>
      .ok (p.withDocument fun d =>
        let (d, change) := d.backspace count p.clock
        (d, change.toList ++ [d.selection .keyboard]))
  | .wait ms => .ok (p.letPass (.ofMillis ms))
  | .moveCursor offset mouse =>
      .ok (p.withDocument fun d =>
        let d := d.moveCursor offset
        (d, [d.selection (if mouse then .mouse else .keyboard)]))
  | .next => .ok (p.tell (.navigated true))
  | .previous => .ok (p.tell (.navigated false))
  | .accept => .ok (p.tell .accepted)
  | .reject => .ok (p.tell .rejected)
  | .invoke =>
      .ok (match p.document with
        | none => p
        | some d => p.tell (.invoked d.snapshot))
  | .blur => .ok (p.tell (.windowFocused false))
  | .focus => .ok (p.tell (.windowFocused true))
  | .close =>
      .ok (match p.document with
        | none => p
        | some d =>
            ({ p with document := none } : Player).tell (.documentClosed d.id))
  | .respond suggestions => .ok { p with backend := p.backend.respond suggestions }

/-- **Does a step and brings to its end what it set going.**  The pass of the
host's loop in between lets the engine know of the manager's news. -/
def step (p : Player) (s : Step) : Except ConnectionError Player :=
  match p.perform s with
  | .error e => .error e
  | .ok p => .ok ((p.finishWork.tickAt p.finishWork.clock).finishWork)

/-- Does steps, each as `step` does it and with the prompts looked at after it. -/
def after (p : Player) : List Step → Except ConnectionError Player
  | [] => .ok p
  | s :: rest =>
      match p.step s with
      | .error e => .error e
      | .ok p => ({ p with prompts := [] } : Player).after rest

@[simp] theorem after_nil (p : Player) : p.after [] = .ok p := rfl

@[simp] theorem fireDue_of_none (p : Player) (target : Instant)
    (h : p.engine.nextDeadline = none) : p.fireDue target = p := by
  simp [fireDue, h]

end Player

end InlineCompletion.Playback
