import InlineCompletion.Event
import InlineCompletion.Trigger
import InlineCompletion.Trigger.Gate

/-!
# The controller

The whole state of the controller, and the function that takes it from one
event to the next.  `react` is pure: it answers a `Reaction`, which holds
the new state, the effects to carry out in their order, and whether the state
may look different to an observer.

## Who may be waiting

Three things of the state are tied together.  A session is opened only by the
answer to the request in flight, a request begins only once the live session is
gone, and every way of giving up a request leaves the trigger idle.  So no
handler has to ask whether the trigger and the session are at odds.

## The two sides of a change

A change of a document is looked at in three steps: is it the insertion of the
accepted suggestion, is it typing at all, and may typing ask for suggestions.
The first step consumes the change.  The second lets it pass unseen, except
that a deletion ends what was going on.  Only a change that is typing reaches
the session and the third step.
-/

namespace InlineCompletion

/-- The prompts that typing has already brought up over the present connection. -/
structure PromptsShown where
  connectShown : Bool
  reauthenticateShown : Bool
  deriving DecidableEq, Repr

/-- No prompt was brought up yet. -/
def PromptsShown.none : PromptsShown := ⟨false, false⟩

/-- The state of the controller. -/
structure Controller where
  settings : Settings
  languages : LanguageTable
  connection : ConnectionStatus
  active : Option FocusedEditor
  windowFocused : Bool
  trigger : Trigger
  offering : Offering
  prompts : PromptsShown
  /-- When the user last changed the active document. -/
  lastModification : Option Instant
  /-- The time between the last two changes by the user. -/
  sinceLastModification : Option Duration
  deriving DecidableEq, Repr

/-- What an event leads to. -/
structure Reaction where
  controller : Controller
  /-- What is to be done, in this order. -/
  effects : List Effect
  /-- Whether the state may look different. -/
  changed : Bool
  deriving DecidableEq, Repr

namespace Reaction

/-- Nothing to do, nothing different. -/
def unchanged (s : Controller) : Reaction := ⟨s, [], false⟩

/-- Nothing to do; the state may look different if `changed`. -/
def quiet (s : Controller) (changed : Bool) : Reaction := ⟨s, [], changed⟩

/-- The same reaction, with the state looking different also if `changed`. -/
def alsoChanged (r : Reaction) (changed : Bool) : Reaction :=
  { r with changed := r.changed || changed }

/-- The same reaction, with one more thing to do if there is one. -/
def alsoDo (r : Reaction) (effect : Option Effect) : Reaction :=
  { r with effects := r.effects ++ effect.toList }

end Reaction

namespace Controller

/-- The state before the first event. -/
def new (settings : Settings) (languages : LanguageTable) : Controller where
  settings := settings
  languages := languages
  connection := .none
  active := none
  windowFocused := true
  trigger := .new settings.settleDelay
  offering := .empty
  prompts := .none
  lastModification := none
  sinceLastModification := none

/-- The document of the active editor. -/
def activeDocument (s : Controller) : Option DocumentId := s.active.map (·.document)

/-- When the host should tick next. -/
def nextDeadline (s : Controller) : Option Instant := s.trigger.deadline?

/-- What the rules on typing look at. -/
def gate (s : Controller) : Gate where
  autoTriggerEnabled := s.settings.autoTriggerEnabled
  activeDocument := s.activeDocument
  editing := s.offering.editing
  connection := s.connection
  languages := s.languages

/-! ### Ending what is going on -/

/-- Stops waiting; the state looks different if anything was waited for. -/
def stopWaiting (s : Controller) : Reaction :=
  .quiet { s with trigger := s.trigger.cancel } (!s.trigger.isIdle)

/-- Rejects the live session, if there is one. -/
def rejectLive (s : Controller) : Reaction :=
  match s.offering.reject with
  | (some decision, offering) =>
      ⟨{ s with offering := offering }, [.recordDecision decision], true⟩
  | (none, _) => .unchanged s

/-- Stops waiting and rejects the live session. -/
def abandon (s : Controller) : Reaction :=
  let cancelled := s.stopWaiting
  cancelled.controller.rejectLive.alsoChanged cancelled.changed

/-! ### Typing -/

/-- Notes that the user changed the active document at `now`. -/
def noteTyping (s : Controller) (now : Instant) : Controller :=
  { s with
    lastModification := some now
    sinceLastModification :=
      match s.lastModification with
      | some earlier => some (now.since earlier)
      | none => s.sinceLastModification }

/-- The prompt that belongs to a reason. -/
def promptOf : Suppression → Option Prompt
  | .noConnection => some .connect
  | .connectionExpired => some .reauthenticate
  | _ => none

/-- Brings up the prompt that belongs to a reason, unless typing has already
brought it up over the present connection. -/
def promptOnce (s : Controller) (reason : Suppression) : Option Effect × Controller :=
  match promptOf reason with
  | some .connect =>
      if s.prompts.connectShown then (none, s)
      else (some (.prompt .connect),
        { s with prompts := { s.prompts with connectShown := true } })
  | some .reauthenticate =>
      if s.prompts.reauthenticateShown then (none, s)
      else (some (.prompt .reauthenticate),
        { s with prompts := { s.prompts with reauthenticateShown := true } })
  | none => (none, s)

/-- Lets the user type along in the live session.  Only a single insertion at
the expected cursor is typing along. -/
def typeAlong (s : Controller) (change : Change) (session : Session) : TypingResult × Controller :=
  match change.insertion? with
  | some (offset, text) =>
      if offset = session.expectedCursor then
        ((s.offering.typeAlong text).1, { s with offering := (s.offering.typeAlong text).2 })
      else (.diverged, s)
  | none => (.diverged, s)

/-- Starts the wait for suggestions after typing, or says why not: the wait that
was going on is given up and a prompt may come up. -/
def scheduleOrSuppress (s : Controller) (change : Change) (now : Instant) : Reaction :=
  match s.gate.reasonAgainstTrigger change.snapshot.languageId with
  | some reason =>
      let cancelled := s.stopWaiting
      let (effect, controller) := cancelled.controller.promptOnce reason
      (Reaction.quiet controller cancelled.changed).alsoDo effect
  | none => .quiet { s with trigger := s.trigger.schedule change.snapshot now } true

/-- What typing in the active document leads to. -/
def reactToTyping (s : Controller) (change : Change) (now : Instant) : Reaction :=
  match s.offering.session with
  | none => s.scheduleOrSuppress change now
  | some session =>
      match s.typeAlong change session with
      | (.matched, controller) => .quiet controller true
      | (_, controller) =>
          let rejected := controller.rejectLive
          let next := rejected.controller.scheduleOrSuppress change now
          ⟨next.controller, rejected.effects ++ next.effects, rejected.changed || next.changed⟩

/-- What a change of a document leads to. -/
def reactToChange (s : Controller) (change : Change) (now : Instant) : Reaction :=
  let (isEcho, offering) := s.offering.recognizeEcho change
  let s := { s with offering := offering }
  if isEcho then .quiet s true
  else
    match s.gate.reasonAgainstEdit change with
    | some .deletionOnly => (s.noteTyping now).abandon
    | some _ => .unchanged s
    | none => (s.noteTyping now).reactToTyping change now

/-! ### Other events of the editor -/

/-- What a moved selection leads to.  While an accepted suggestion is being
inserted the selection follows the insertion and means nothing. -/
def reactToSelection (s : Controller) (selection : Selection) : Reaction :=
  if s.offering.editing then .unchanged s
  else if selection.kind = .mouse then s.abandon
  else
    let triggerMoved := s.trigger.document? = some selection.document ∧
      s.trigger.cursor? ≠ some selection.cursor
    let first := if triggerMoved then s.stopWaiting else .unchanged s
    let sessionMoved := first.controller.offering.session.any fun session =>
      session.document == selection.document && session.expectedCursor != selection.cursor
    if sessionMoved then first.controller.rejectLive.alsoChanged first.changed else first

/-- What another active editor leads to. -/
def reactToEditor (s : Controller) (editor : Option FocusedEditor) : Reaction :=
  ({ s with active := editor } : Controller).abandon.alsoChanged (s.active != editor)

/-- What gaining or losing the window's focus leads to. -/
def reactToFocus (s : Controller) (focused : Bool) : Reaction :=
  let differs := s.windowFocused != focused
  let s := { s with windowFocused := focused }
  if focused then .quiet s differs else s.abandon.alsoChanged differs

/-- What closing a document leads to: everything that is about it ends. -/
def reactToClosing (s : Controller) (document : DocumentId) : Reaction :=
  let wasActive := s.activeDocument == some document
  let s := if wasActive then { s with active := none } else s
  let first := if s.trigger.document? = some document then s.stopWaiting else .unchanged s
  let isSession := first.controller.offering.session.any fun session => session.document == document
  let second :=
    if isSession then first.controller.rejectLive.alsoChanged first.changed else first
  second.alsoChanged wasActive

/-! ### Requests and answers -/

/-- What asking by hand leads to.  What was going on ends; the prompt for a
missing connection comes up each time. -/
def reactToInvocation (s : Controller) (snapshot : Snapshot) : Reaction :=
  if !s.languages.supports snapshot.languageId then .unchanged s
  else
    let rejected := s.rejectLive
    let cancelled := rejected.controller.stopWaiting
    let ended : Reaction :=
      ⟨cancelled.controller, rejected.effects, rejected.changed || cancelled.changed⟩
    match ended.controller.gate.reasonAgainstConnection with
    | some reason => ended.alsoDo ((promptOf reason).map .prompt)
    | none =>
        let s := ended.controller
        let trigger := s.trigger.begin snapshot
        let request := Request.ofSnapshot snapshot s.languages s.settings .manual none
        ⟨{ s with trigger := trigger },
          ended.effects ++ [.requestCompletion trigger.lastSeq request], true⟩

/-- What the passing of time leads to: the request that typing asked for begins,
unless the connection has gone bad in the meantime. -/
def reactToTime (s : Controller) (now : Instant) : Reaction :=
  match s.trigger.poll now s.offering.isVisible with
  | (none, trigger) =>
      .quiet { s with trigger := trigger }
        (s.trigger.deadline?.isSome && trigger.deadline?.isNone)
  | (some firing, trigger) =>
      let s := { s with trigger := trigger }
      match s.gate.reasonAgainstConnection with
      | some _ => .quiet { s with trigger := s.trigger.cancel } true
      | none =>
          let s := { s with offering := s.offering.clear.2 }
          let request := Request.ofSnapshot firing.snapshot s.languages s.settings
            .auto s.sinceLastModification
          ⟨s, [.requestCompletion firing.seq request], true⟩

/-- What an answer leads to.  Only the answer to the request in flight counts. -/
def reactToAnswer (s : Controller) (seq : Nat) (outcome : RequestOutcome) : Reaction :=
  match s.trigger.complete seq with
  | (none, _) => .unchanged s
  | (some request, trigger) =>
      let s := { s with trigger := trigger }
      match outcome with
      | .failed _ => .quiet s true
      | .suggestions response =>
          let offering := (s.offering.offer seq request.document request.cursor response).2
          .quiet { s with offering := offering } true

/-! ### Connection and settings -/

/-- What a change of the connection leads to: nothing is asked for without a
valid one, and a valid one lets every prompt come up again. -/
def reactToConnection (s : Controller) (status : ConnectionStatus) : Reaction :=
  let differs := s.connection != status
  let s := { s with connection := status }
  if status.valid then .quiet { s with prompts := .none } differs
  else s.stopWaiting.alsoChanged differs

/-- What a change of the settings leads to: without the automatic trigger there
is nothing to wait for, but a request in flight is answered. -/
def reactToSettings (s : Controller) (settings : Settings) : Reaction :=
  if settings = s.settings then .unchanged s
  else
    let trigger := { s.trigger with settleDelay := settings.settleDelay }
    let trigger :=
      if !settings.autoTriggerEnabled && trigger.deadline?.isSome then trigger.cancel
      else trigger
    .quiet { s with trigger := trigger, settings := settings } true

/-! ### Any event -/

/-- **What an event leads to.** -/
def react (s : Controller) : Event → Reaction
  | .documentChanged change now => s.reactToChange change now
  | .selectionMoved selection => s.reactToSelection selection
  | .editorFocused editor => s.reactToEditor editor
  | .windowFocused focused => s.reactToFocus focused
  | .documentClosed document => s.reactToClosing document
  | .invoked snapshot => s.reactToInvocation snapshot
  | .tick now => s.reactToTime now
  | .answered seq outcome => s.reactToAnswer seq outcome
  | .navigated forward =>
      .quiet { s with offering := (s.offering.navigate forward).2 }
        (s.offering.navigate forward).1
  | .accepted =>
      match s.offering.accept with
      | (some (insert, decision), offering) =>
          ⟨{ s with offering := offering }, [.insertText insert, .recordDecision decision], true⟩
      | (none, offering) => .unchanged { s with offering := offering }
  | .insertionHandedOver =>
      .quiet { s with offering := s.offering.acknowledge.2 } s.offering.acknowledge.1
  | .rejected => s.rejectLive
  | .connectionChanged status => s.reactToConnection status
  | .settingsChanged settings => s.reactToSettings settings
  | .shutDown => s.abandon

/-- What a list of events leads to, one reaction for each. -/
def reactions (s : Controller) : List Event → List Reaction
  | [] => []
  | e :: rest => s.react e :: (s.react e).controller.reactions rest

/-- The state after a list of events. -/
def after (s : Controller) : List Event → Controller
  | [] => s
  | e :: rest => (s.react e).controller.after rest

/-- The effects of a list of events, in order. -/
def effectsOf (s : Controller) : List Event → List Effect
  | [] => []
  | e :: rest => (s.react e).effects ++ (s.react e).controller.effectsOf rest

@[simp] theorem after_nil (s : Controller) : s.after [] = s := rfl

@[simp] theorem after_cons (s : Controller) (e : Event) (es : List Event) :
    s.after (e :: es) = (s.react e).controller.after es := rfl

theorem after_append (s : Controller) (es fs : List Event) :
    s.after (es ++ fs) = (s.after es).after fs := by
  induction es generalizing s with
  | nil => rfl
  | cons e es ih => exact ih (s.react e).controller

@[simp] theorem effectsOf_nil (s : Controller) : s.effectsOf [] = [] := rfl

@[simp] theorem effectsOf_cons (s : Controller) (e : Event) (es : List Event) :
    s.effectsOf (e :: es) = (s.react e).effects ++ (s.react e).controller.effectsOf es := rfl

theorem effectsOf_append (s : Controller) (es fs : List Event) :
    s.effectsOf (es ++ fs) = s.effectsOf es ++ (s.after es).effectsOf fs := by
  induction es generalizing s with
  | nil => rfl
  | cons e es ih => simp [ih, List.append_assoc]

/-- A state that some run from a fresh controller ends in. -/
def Reachable (s : Controller) : Prop :=
  ∃ settings languages events, s = (Controller.new settings languages).after events

/-- An event takes a reachable state to a reachable one. -/
theorem Reachable.react {s : Controller} (h : s.Reachable) (e : Event) :
    (s.react e).controller.Reachable := by
  obtain ⟨settings, languages, events, rfl⟩ := h
  exact ⟨settings, languages, events ++ [e], by simp [after_append]⟩

end Controller

end InlineCompletion
