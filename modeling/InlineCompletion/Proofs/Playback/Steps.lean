import InlineCompletion.Proofs.Controller.Settling
import InlineCompletion.Proofs.Playback.Following
import InlineCompletion.Proofs.Playback.Rounds

/-!
# Every step keeps the controller in step with the document

`Playing` is what holds of a player at any point of a step between two of its
pieces: nothing is on its way but at most one request, and the controller follows
the open document.  `Resting` is what holds between two steps: there is no such
request.  Telling the engine something takes a player at rest to one that plays,
so does a pass of the host's loop, and bringing the work to its end takes it back
to rest.  So a step takes rest to rest, unless it accepts a live session: then the
editor inserts, and has that to report.

What a step may add to what was asked is said by comparing with how things stood
`Before` it.  A session that is live after the step was live before it, and then
the service has received nothing since; or it was opened by the step, and then it
answers the last request that the service received, and the request shows the
document as it is at the end of the step.
-/

namespace InlineCompletion

namespace Playback

/-- How things stood before a step. -/
structure Before where
  settings : Settings
  /-- In which documents, and under which numbers, suggestions were asked for. -/
  Taken : EditorDocument → Nat → Prop
  /-- The number of the last request. -/
  lastSeq : Nat
  /-- How many requests the service had received. -/
  received : Nat

/-- **In which documents, and under which numbers, suggestions were asked for**
by now, when `lastSeq` is the number of the last request: the service has received
nothing since, or else its last request shows the document as it is now. -/
def Before.Asked (b : Before) (lastSeq : Nat) (requests : List Request)
    (document : Option EditorDocument) (d : EditorDocument) (seq : Nat) : Prop :=
  requests.length = b.received ∧ b.Taken d seq ∨
    b.received < requests.length ∧ (b.lastSeq < seq ∧ seq ≤ lastSeq) ∧ document = some d ∧
      ∃ kind since, requests.getLast? =
        some (.ofSnapshot d.snapshot .standard b.settings kind since)

/-- What was asked for by now was asked for by later. -/
theorem Before.Asked.later {b : Before} {lastSeq later : Nat} {requests : List Request}
    {document : Option EditorDocument} {d : EditorDocument} {seq : Nat}
    (asked : b.Asked lastSeq requests document d seq) (le : lastSeq ≤ later) :
    b.Asked later requests document d seq :=
  asked.imp_right fun ⟨more, ⟨after, upTo⟩, rest⟩ => ⟨more, ⟨after, Nat.le_trans upTo le⟩, rest⟩

namespace Player

variable {b : Before} {p : Player} {document : Option EditorDocument}

/-- The number of the last request that began. -/
abbrev lastSeq (p : Player) : Nat := p.engine.controller.trigger.lastSeq

/-- The work that waits to be done: a request in flight, about the document as it
is now, or nothing. -/
def Work (b : Before) (p : Player) : Prop :=
  p.engine.tasks = [] ∧ (∀ q, p.engine.controller.trigger.phase ≠ .inFlight q) ∨
    ∃ q d kind since, p.engine.controller.trigger.phase = .inFlight q ∧ b.lastSeq < q.seq ∧
      p.document = some d ∧
      p.engine.tasks =
        [.request q.seq (.ofSnapshot d.snapshot .standard b.settings kind since)
          (.ofSettings b.settings)]

/-- **A player in the course of a step.** -/
structure Playing (b : Before) (p : Player) : Prop extends Quiet p where
  coherent : Coherent p.engine.controller.trigger p.engine.controller.offering
  settings : p.engine.controller.settings = b.settings
  paced : p.engine.controller.Paced
  languages : p.engine.controller.languages = .standard
  follows :
    Follows (b.Asked p.lastSeq p.backend.requests p.document) p.engine.controller p.document
  received : b.received ≤ p.backend.requests.length
  numbered : b.lastSeq ≤ p.lastSeq
  work : Work b p

/-- **A player between two steps.** -/
structure Resting (b : Before) (p : Player) : Prop extends Playing b p where
  tasks : p.engine.tasks = []

/-- At rest nothing is in flight. -/
theorem Resting.still (resting : Resting b p) (q : InFlight) :
    p.engine.controller.trigger.phase ≠ .inFlight q := by
  rcases resting.work with ⟨-, still⟩ | ⟨q', d, kind, since, -, -, -, waiting⟩
  · exact still q
  · simp [resting.tasks] at waiting

/-! ## Telling the engine something -/

/-- The work that a reaction of a player at rest sets going. -/
theorem Resting.work_react (resting : Resting b p) {e : Event} {q : Player}
    (controller : q.engine.controller = (p.engine.controller.react e).controller)
    (tasks : q.engine.tasks =
      tasksOf (.ofSettings b.settings) (p.engine.controller.react e).effects)
    (about : ∀ a, p.engine.controller.asking? e = some a →
      ∃ d, q.document = some d ∧ a.snapshot = d.snapshot) :
    Work b q ∧ (p.engine.controller.asking? e = none → q.engine.tasks = []) := by
  obtain ⟨begun, kept⟩ := Controller.inFlight_react resting.coherent e
  rw [tasksOf_eq_map, Controller.requestsIn_react] at tasks
  unfold Work
  rw [controller, tasks]
  cases asks : p.engine.controller.asking? e with
  | none =>
      exact ⟨.inl ⟨rfl, fun q flying => resting.still q (kept asks q flying)⟩, fun _ => rfl⟩
  | some a =>
      obtain ⟨q', phase, seq⟩ := begun a asks
      obtain ⟨d, opened, same⟩ := about a asks
      have next : a.seq = p.engine.controller.trigger.lastSeq + 1 :=
        (Controller.asking?_cases asks).1
      have made : ∃ kind since,
          a.request = .ofSnapshot d.snapshot .standard b.settings kind since := by
        rw [← same, ← resting.languages, ← resting.settings]
        obtain ⟨-, -, ⟨-, -, made⟩ | ⟨-, -, -, -, -, -, made⟩⟩ := Controller.asking?_cases asks
        · exact ⟨_, _, made⟩
        · exact ⟨_, _, made⟩
      obtain ⟨kind, since, made⟩ := made
      have numbered : b.lastSeq ≤ p.engine.controller.trigger.lastSeq := resting.numbered
      refine ⟨.inr ⟨q', d, kind, since, phase, by omega, opened, ?_⟩, fun none' => by cases none'⟩
      simp [Asking.sent, seq, made]

/-- **Telling the engine something** while the editor shows `document`: nothing,
or a request about that document, is set going. -/
theorem Resting.tell (resting : Resting b p) (e : Event)
    (gone : e = .accepted → p.engine.controller.offering.session = none)
    (settings : ∀ settings, e ≠ .settingsChanged settings)
    (follows : Follows (b.Asked p.lastSeq p.backend.requests document)
      (p.engine.controller.react e).controller document)
    (about : ∀ a, p.engine.controller.asking? e = some a →
      ∃ d, document = some d ∧ a.snapshot = d.snapshot) :
    let q := ({ p with document := document } : Player).tell e
    Playing b q ∧ (p.engine.controller.asking? e = none → Resting b q) ∧
      q.backend = p.backend ∧ q.document = document := by
  intro q
  have course := Controller.course resting.coherent e
  have ground := Controller.sameGround_react p.engine.controller e
  have inserts : ∀ i, .insertText i ∉ (p.engine.controller.react e).effects := by
    intro i told
    obtain ⟨accepted, x, live⟩ := course.event_of_accepts told rfl
    simp [gone accepted] at live
  have kept : (p.engine.controller.react e).controller.settings = b.settings :=
    (ground.settings.resolve_right (settings _)).trans resting.settings
  obtain ⟨decisions, prompts, told⟩ :=
    tell_frame (p := { p with document := document }) resting.editorCalls inserts
  have tasks : q.engine.tasks =
      tasksOf (.ofSettings b.settings) (p.engine.controller.react e).effects := by
    simp only [q, told, resting.tasks, kept, List.nil_append]
  obtain ⟨work, rest⟩ := resting.work_react (q := q) (by rw [show q = _ from told]) tasks
    (by rw [show q = _ from told]; exact about)
  have playing : Playing b q := by
    rw [show q = _ from told] at work ⊢
    exact { resting with
      coherent := Controller.coherent_react resting.coherent e
      settings := kept
      paced := resting.paced.react e
      languages := ground.languages.trans resting.languages
      follows := follows.mono fun _ _ asked => asked.later course.lastSeq_le
      numbered := Nat.le_trans resting.numbered course.lastSeq_le
      work := work }
  exact ⟨playing, fun none' => ⟨playing, rest none'⟩, by rw [show q = _ from told],
    by rw [show q = _ from told]⟩

/-! ## Bringing the work to its end -/

/-- **Bringing the work to its end** takes a player to rest. -/
theorem Playing.finishWork (playing : Playing b p) : Resting b p.finishWork := by
  rcases playing.work with ⟨rest, -⟩ | ⟨q, d, kind, since, phase, later, opened, waiting⟩
  · rw [finishWork_of_rest playing.toQuiet rest]
    exact ⟨playing, rest⟩
  obtain ⟨outcome, backend, finished, reached⟩ := finishWork_of_request playing.toQuiet waiting
  have gone := playing.coherent.session_of_not_idle (by simp [phase])
  have ground := Controller.sameGround_react p.engine.controller (.answered q.seq outcome)
  have lastSeq := (Controller.course playing.coherent (.answered q.seq outcome)).lastSeq_le
  have follows : Follows
      (b.Asked (p.engine.controller.react (.answered q.seq outcome)).controller.trigger.lastSeq
        backend.requests p.document)
      (p.engine.controller.react (.answered q.seq outcome)).controller p.document := by
    -- no session is live yet, and the one that may open answers this request
    have before (n : Nat) : Follows (b.Asked n backend.requests p.document) p.engine.controller
        p.document := { playing.follows with live := fun x live => by simp [gone] at live }
    refine (before _).answering q.seq outcome fun d' response shown _ given => ?_
    obtain rfl : d = d' := Option.some.inj (opened.symm.trans shown)
    have sent : backend.requests = p.backend.requests ++
        [.ofSnapshot d.snapshot .standard b.settings kind since] := by
      refine reached.resolve_left ?_
      rintro ⟨-, reason, failed⟩
      rw [failed] at given
      cases given
    have received := playing.received
    have upTo := Nat.le_trans (Nat.le_of_eq (playing.coherent.seq_of_inFlight q phase)) lastSeq
    refine .inr ⟨?_, ⟨later, upTo⟩, opened, kind, since, ?_⟩ <;> rw [sent]
    · rw [List.length_append]
      exact Nat.lt_succ_of_le received
    · exact List.getLast?_concat
  have idle : (p.engine.controller.react (.answered q.seq outcome)).controller.trigger.phase =
      .idle := congrArg Trigger.phase (Controller.trigger_of_answer phase outcome)
  have received : b.received ≤ backend.requests.length := by
    have before := playing.received
    rcases reached with ⟨same, -⟩ | same <;> rw [same]
    · exact before
    · rw [List.length_append]
      exact Nat.le_add_right_of_le before
  rw [finished]
  exact { playing with
    coherent := Controller.coherent_react playing.coherent _
    settings := (ground.settings.resolve_right nofun).trans playing.settings
    paced := playing.paced.react _
    languages := ground.languages.trans playing.languages
    follows := follows
    received := received
    numbered := Nat.le_trans playing.numbered lastSeq
    work := .inl ⟨rfl, fun q' flying => by simp [idle] at flying⟩
    tasks := rfl }

/-! ## One pass of the host's loop -/

/-- The news of the connection sets nothing going. -/
theorem Resting.hear (resting : Resting b p) (seen : Nat) (now : Instant) :
    Resting b { p with
      engine := { p.engine with
        controller := p.engine.controller.after p.engine.news
        seen := seen }
      clock := now } := by
  unfold Engine.news
  split
  · exact { resting with work := .inl ⟨resting.tasks, resting.still⟩ }
  · let e : Event := .connectionChanged (.ofSnapshot p.engine.manager.published)
    have ground := Controller.sameGround_react p.engine.controller e
    have lastSeq := (Controller.course resting.coherent e).lastSeq_le
    obtain ⟨-, kept⟩ := Controller.inFlight_react resting.coherent e
    exact { resting with
      coherent := Controller.coherent_react resting.coherent e
      settings := (ground.settings.resolve_right nofun).trans resting.settings
      paced := resting.paced.react e
      languages := ground.languages.trans resting.languages
      follows := (resting.follows.connecting _).mono fun _ _ asked => asked.later lastSeq
      numbered := Nat.le_trans resting.numbered lastSeq
      work := .inl ⟨resting.tasks, fun q flying => resting.still q (kept rfl q flying)⟩ }

/-- **One pass of the host's loop** may set one request going. -/
theorem Resting.tickAt (resting : Resting b p) (now : Instant) : Playing b (p.tickAt now) := by
  have heard := resting.hear p.engine.manager.publications now
  rw [tickAt_eq resting.toQuiet now]
  refine (heard.tell (.tick now) nofun nofun ?_ ?_).1
  · exact heard.follows.ticking heard.coherent now
  · intro a asks
    obtain ⟨-, -, ⟨byHand, -⟩ | ⟨-, deadline, -, waiting, -⟩⟩ := Controller.asking?_cases asks
    · cases byHand
    · exact heard.follows.waiting deadline a.snapshot waiting

/-- Coming past a deadline leaves a player at rest. -/
theorem Resting.fireDue (resting : Resting b p) (target : Instant) :
    Resting b (p.fireDue target) := by
  unfold Player.fireDue
  split
  · split
    · exact (resting.tickAt _).finishWork
    · exact resting
  · exact resting

/-! ## Steps -/

variable {q : Player} {d : EditorDocument}

/-- The manager and the world may become others, if the service receives nothing. -/
theorem Resting.manage (resting : Resting b p) (manager : ConnectionManager) (backend : Backend)
    (same : backend.requests = p.backend.requests) :
    Resting b { p with engine := { p.engine with manager := manager }, backend := backend } :=
  { resting with
    follows := by rw [same]; exact resting.follows
    received := by rw [same]; exact resting.received
    work := .inl ⟨resting.tasks, resting.still⟩ }

/-- **A player at the beginning of a step**: the service has received nothing yet. -/
structure Starting (b : Before) (p : Player) : Prop extends Resting b p where
  none_received : p.backend.requests.length = b.received

namespace Starting

/-- All that was asked for was asked for before. -/
theorem follows_taken (starting : Starting b p) :
    Follows b.Taken p.engine.controller p.document := by
  refine starting.follows.mono fun d seq asked => ?_
  rcases asked with ⟨-, taken⟩ | ⟨more, -⟩
  · exact taken
  · rw [starting.none_received] at more
    exact absurd more (Nat.lt_irrefl _)

/-- **Telling the engine something** that sets nothing going, while the editor
shows `document`. -/
theorem tell (starting : Starting b p) (e : Event)
    (gone : e = .accepted → p.engine.controller.offering.session = none)
    (settings : ∀ settings, e ≠ .settingsChanged settings)
    (silent : p.engine.controller.asking? e = none)
    (follows : Follows b.Taken (p.engine.controller.react e).controller document) :
    Starting b (({ p with document := document } : Player).tell e) ∧
      (({ p with document := document } : Player).tell e).document = document := by
  have asked : Follows (b.Asked p.lastSeq p.backend.requests document) _ document :=
    follows.mono fun d seq taken => .inl ⟨starting.none_received, taken⟩
  obtain ⟨-, rest, backend, shown⟩ := starting.toResting.tell e gone settings asked
    fun a asks => by simp [silent] at asks
  exact ⟨⟨rest silent, by rw [backend]; exact starting.none_received⟩, shown⟩

/-- The same, with the document as it is. -/
theorem tell_same (starting : Starting b p) (e : Event)
    (gone : e = .accepted → p.engine.controller.offering.session = none)
    (settings : ∀ settings, e ≠ .settingsChanged settings)
    (silent : p.engine.controller.asking? e = none)
    (follows : Follows b.Taken (p.engine.controller.react e).controller p.document) :
    Starting b (p.tell e) :=
  (starting.tell e gone settings silent follows).1

/-- An edit is reported, and then where the cursor is. -/
theorem report (starting : Starting b p) {d' : EditorDocument} (edit : Edit)
    (follows : Follows b.Taken
      (p.engine.controller.react (d'.report edit p.clock)).controller (some d')) :
    Starting b (({ p with document := some d' } : Player).report
      [d'.report edit p.clock, d'.selection .keyboard]) := by
  obtain ⟨edited, shown⟩ := starting.tell (d'.report edit p.clock) nofun nofun rfl follows
  refine edited.tell_same (d'.selection .keyboard) nofun nofun rfl ?_
  exact edited.follows_taken.selecting _

/-- Something before the cursor is taken out, if there is anything. -/
theorem takeOut (starting : Starting b p)
    (follows : Follows b.Taken p.engine.controller (some d)) (count : Nat) :
    Playing b (({ p with document := some (d.backspace count p.clock).1 } : Player).report
      ((d.backspace count p.clock).2.toList ++
        [(d.backspace count p.clock).1.selection .keyboard])) := by
  unfold EditorDocument.backspace
  dsimp only
  split
  · exact (starting.tell (d.selection .keyboard) nofun nofun rfl (follows.selecting _)).1.toPlaying
  · next some' =>
    have edited := EditorDocument.edited_deletion (follows.inside d rfl)
      (Nat.min_le_right count d.cursor)
    refine (starting.report (.deletion _ (min count d.cursor)) ?_).toPlaying
    exact follows.deleting edited.cursorInside rfl rfl _ some' p.clock

/-- The manager does something that may fail. -/
theorem managed (starting : Starting b p) {α : Type}
    (operation : ConnectionManager → Backend → Attempt Backend α)
    (managed : p.manage operation = .ok q)
    (same : (operation p.engine.manager p.backend).provider.requests = p.backend.requests) :
    Playing b q := by
  obtain rfl := eq_of_manage managed
  exact (starting.toResting.manage _ _ same).toPlaying

/-- Time passes. -/
theorem letPass (starting : Starting b p) (time : Duration) : Playing b (p.letPass time) :=
  (starting.toResting.fireDue _).tickAt _

/-- **A step other than accepting a live session**, before what it sets going is
brought to its end. -/
theorem perform (starting : Starting b p) {s : Step}
    (gone : s = .accept → p.engine.controller.offering.session = none)
    (performed : p.perform s = .ok q) : Playing b q := by
  have follows := starting.follows_taken
  cases s with
  | accept =>
      obtain rfl := Except.ok.inj performed
      exact (starting.tell_same .accepted (fun _ => gone rfl) nofun rfl
        (follows.accepting_none (gone rfl))).toPlaying
  | connect startUrl region =>
      exact starting.managed (fun m b => m.connect Backend.provider (profileOf startUrl region) b)
        performed (Backend.connect_requests _ _ _)
  | disconnect =>
      obtain rfl := Except.ok.inj performed
      exact (starting.toResting.manage _ p.backend rfl).toPlaying
  | expire =>
      obtain rfl := Except.ok.inj performed
      exact (starting.toResting.manage _ p.backend rfl).toPlaying
  | reauthenticate =>
      exact starting.managed (fun m b => m.reauthenticate Backend.provider b) performed
        (Backend.reauthenticate_requests _ _)
  | openDocument uri language text cursor =>
      obtain rfl := Except.ok.inj performed
      refine (starting.tell (.editorFocused _) nofun nofun rfl ?_).1.toPlaying
      exact follows.opening (Nat.min_le_right _ _)
  | typeText text =>
      obtain rfl := Except.ok.inj performed
      cases shown : p.document with
      | none => simpa only [withDocument, shown] using starting.toPlaying
      | some d =>
          simp only [withDocument, shown]
          refine (starting.report (.insertion d.cursor text) ?_).toPlaying
          exact (shown ▸ follows).typing starting.coherent text p.clock
  | backspace count =>
      obtain rfl := Except.ok.inj performed
      cases shown : p.document with
      | none => simpa only [withDocument, shown] using starting.toPlaying
      | some d =>
          simp only [withDocument, shown]
          exact starting.takeOut (shown ▸ follows) count
  | wait ms =>
      obtain rfl := Except.ok.inj performed
      exact starting.letPass _
  | moveCursor offset mouse =>
      obtain rfl := Except.ok.inj performed
      cases shown : p.document with
      | none => simpa only [withDocument, shown] using starting.toPlaying
      | some d =>
          simp only [withDocument, shown]
          refine (starting.tell (.selectionMoved _) nofun nofun rfl ?_).1.toPlaying
          exact (shown ▸ follows).moving (Nat.min_le_right _ _) _
  | next =>
      obtain rfl := Except.ok.inj performed
      exact (starting.tell_same (.navigated true) nofun nofun rfl
        (follows.navigating true)).toPlaying
  | previous =>
      obtain rfl := Except.ok.inj performed
      exact (starting.tell_same (.navigated false) nofun nofun rfl
        (follows.navigating false)).toPlaying
  | reject =>
      obtain rfl := Except.ok.inj performed
      exact (starting.tell_same .rejected nofun nofun rfl follows.rejecting).toPlaying
  | invoke =>
      obtain rfl := Except.ok.inj performed
      cases shown : p.document with
      | none => simpa only [shown] using starting.toPlaying
      | some d =>
          have asked := starting.follows
          rw [shown] at asked
          have invoked : Follows (b.Asked p.lastSeq p.backend.requests p.document)
              (p.engine.controller.react (.invoked d.snapshot)).controller p.document := by
            rw [shown]
            exact asked.invoking
          refine (starting.toResting.tell (.invoked d.snapshot) nofun nofun invoked ?_).1
          intro a asks
          obtain ⟨-, -, ⟨byHand, -⟩ | ⟨now, deadline, passed, -⟩⟩ := Controller.asking?_cases asks
          · exact ⟨d, shown, (Event.invoked.inj byHand).symm⟩
          · cases passed
  | blur =>
      obtain rfl := Except.ok.inj performed
      exact (starting.tell_same (.windowFocused false) nofun nofun rfl
        (follows.focusing false)).toPlaying
  | focus =>
      obtain rfl := Except.ok.inj performed
      exact (starting.tell_same (.windowFocused true) nofun nofun rfl
        (follows.focusing true)).toPlaying
  | close =>
      obtain rfl := Except.ok.inj performed
      cases shown : p.document with
      | none => simpa only [shown] using starting.toPlaying
      | some d =>
          refine (starting.tell (.documentClosed d.id) nofun nofun rfl ?_).1.toPlaying
          exact (shown ▸ follows).closing
  | respond suggestions =>
      obtain rfl := Except.ok.inj performed
      exact (starting.toResting.manage p.engine.manager (p.backend.respond suggestions)
        rfl).toPlaying

end Starting

end Player

end Playback

end InlineCompletion
