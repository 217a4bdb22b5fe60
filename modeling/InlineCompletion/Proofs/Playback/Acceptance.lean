import InlineCompletion.Proofs.Controller.Settling
import InlineCompletion.Proofs.Playback.Steps

/-!
# Accepting completes the document

Accepting a live session puts what is left of the current suggestion at the
cursor.  By the time the user accepts, suggestions may have been typed along with,
turned over and moved about; still, what accepting leaves in the document is the
text in which the suggestions were asked for, with the whole suggestion at the
cursor that they were asked for at (`accepting_completes_document`).

The session and the document are in step because every step keeps them so
(`Starting.step`).  Which text the suggestions were asked for in is said by
pointing at the step of the script that asked for them: `Asks` describes such a
step, and `Asked` says that a script has one, after which the service received
nothing any more.

Once accepted, nothing goes on: the insertion is reported, recognised and
acknowledged, and letting time pass asks for nothing (`Idle.waits`).
-/

namespace InlineCompletion

namespace Controller

variable {s : Controller}

/-- News of the connection begins nothing. -/
theorem idle_of_connectionChanged (idle : s.trigger.phase = .idle)
    (gone : s.offering.session = none) (status : ConnectionStatus) :
    (s.react (.connectionChanged status)).controller.trigger.phase = .idle ∧
      (s.react (.connectionChanged status)).controller.offering.session = none := by
  rw [react]
  obtain ⟨-, next⟩ | ⟨-, ends⟩ := s.reactToConnection_cases status
  · rw [next]
    exact ⟨idle, gone⟩
  · rw [ends]
    exact ⟨rfl, gone⟩

/-- A selection means nothing where nothing goes on. -/
theorem reactToSelection_of_idle (idle : s.trigger.phase = .idle)
    (gone : s.offering.session = none) {selection : Selection} (kind : selection.kind ≠ .mouse) :
    s.reactToSelection selection = .unchanged s := by
  simp [reactToSelection, kind, idle, gone, Trigger.document?, Reaction.unchanged]

/-- **The insertion is reported, recognised and acknowledged**, without an effect. -/
theorem after_insertion (idle : s.trigger.phase = .idle) (d : Playback.EditorDocument)
    {text : String} (filled : text ≠ "") (now : Instant) :
    let told : List Event := [(d.typing text).report (.insertion d.cursor text) now,
      (d.typing text).selection .command, .insertionHandedOver]
    (s.inserting ⟨d.id, d.cursor, text⟩).after told =
        { s with offering := ⟨none, false, none⟩ } ∧
      (s.inserting ⟨d.id, d.cursor, text⟩).effectsOf told = [] := by
  intro told
  have inserted := Playback.Follows.react_inserted s d filled now
  have moved : ({ s with offering := ⟨none, false, none⟩ } : Controller).react
      ((d.typing text).selection .command) =
      .unchanged { s with offering := ⟨none, false, none⟩ } :=
    reactToSelection_of_idle (s := { s with offering := ⟨none, false, none⟩ }) idle rfl nofun
  have acknowledged : ({ s with offering := ⟨none, false, none⟩ } : Controller).react
      .insertionHandedOver = .unchanged { s with offering := ⟨none, false, none⟩ } := rfl
  simp only [told, after_cons, after_nil, effectsOf_cons, effectsOf_nil, inserted, moved,
    acknowledged, Reaction.unchanged, List.append_nil, and_self]

end Controller

namespace Playback

namespace Player

variable {p q : Player} {document : Option EditorDocument} {requests : List Request}

/-! ## Nothing goes on -/

/-- **Nothing goes on**: there is no session, nothing is waited for, and no work is
left, with `document` open and the service having received `requests`. -/
structure Idle (document : Option EditorDocument) (requests : List Request) (p : Player) : Prop
    extends Quiet p where
  tasks : p.engine.tasks = []
  phase : p.engine.controller.trigger.phase = .idle
  session : p.engine.controller.offering.session = none
  shown : p.document = document
  received : p.backend.requests = requests

namespace Idle

/-- Looking at the prompts changes nothing about it. -/
theorem noticed (idle : Idle document requests p) :
    Idle document requests { p with prompts := [] } :=
  { idle with }

theorem finishWork (idle : Idle document requests p) : p.finishWork = p :=
  finishWork_of_rest idle.toQuiet idle.tasks

/-- **A pass of the host's loop** begins nothing. -/
theorem tickAt (idle : Idle document requests p) (now : Instant) :
    Idle document requests (p.tickAt now) := by
  have pass := tickAt_eq idle.toQuiet now
  obtain ⟨phase, session⟩ : (p.engine.controller.after p.engine.news).trigger.phase = .idle ∧
      (p.engine.controller.after p.engine.news).offering.session = none := by
    unfold Engine.news
    split
    · exact ⟨idle.phase, idle.session⟩
    · exact Controller.idle_of_connectionChanged idle.phase idle.session _
  have tick := Controller.react_tick_of_not_waiting (Trigger.deadline?_of_idle phase) now
  have told := tell_of_silent (p := { p with
      engine := { p.engine with
        controller := p.engine.controller.after p.engine.news
        seen := p.engine.manager.publications }
      clock := now }) (e := .tick now) idle.editorCalls (congrArg Reaction.effects tick)
  rw [pass, told, tick]
  exact { idle with phase := phase, session := session }

/-- **Letting time pass** begins nothing. -/
theorem wait (idle : Idle document requests p) (ms : Nat) :
    ∃ q, p.step (.wait ms) = .ok q ∧ Idle document requests q := by
  have never : p.engine.nextDeadline = none := by
    simp [Engine.nextDeadline, Controller.nextDeadline, Trigger.deadline?_of_idle idle.phase]
  refine ⟨_, rfl, ?_⟩
  have passed : Idle document requests (p.letPass (.ofMillis ms)) := by
    rw [letPass, fireDue_of_none _ _ never]
    exact idle.tickAt _
  rw [passed.finishWork, (passed.tickAt _).finishWork]
  exact passed.tickAt _

/-- **Waiting, however often**, begins nothing. -/
theorem waits (idle : Idle document requests p) (waits : List Nat) :
    ∃ q, p.after (waits.map .wait) = .ok q ∧ Idle document requests q := by
  induction waits generalizing p with
  | nil => exact ⟨p, rfl, idle⟩
  | cons ms waits ih =>
      obtain ⟨q, waited, idle⟩ := idle.wait ms
      obtain ⟨q', after, idle⟩ := ih idle.noticed
      exact ⟨q', by simp [Player.after, waited, after], idle⟩

end Idle

/-! ## Accepting -/

variable {b : Before}

/-- The editor puts what it is told to at the cursor, and has to report that. -/
theorem insertAccepted_at_cursor {d : EditorDocument} (inside : d.CursorInside) (text : String)
    (now : Instant) :
    EditorDocument.insertAccepted (some d) ⟨d.id, d.cursor, text⟩ now =
      .ok (d.typing text, [(d.typing text).report (.insertion d.cursor text) now,
        (d.typing text).selection .command]) := by
  unfold EditorDocument.insertAccepted
  simp only [ne_eq, not_true_eq_false, ↓reduceIte, Nat.not_lt_of_le inside]
  rfl

/-- **Telling the engine that the user accepts**: the editor inserts what is left,
and has not reported it yet; the engine sends word that it is handed over. -/
theorem Resting.tell_accepted (resting : Resting b p) {d : EditorDocument} {text : String}
    {decision : Decision} (opened : p.document = some d)
    (reaction : p.engine.controller.react .accepted =
      ⟨p.engine.controller.inserting ⟨d.id, d.cursor, text⟩,
        [.insertText ⟨d.id, d.cursor, text⟩, .recordDecision decision], true⟩) :
    ∃ decisions, p.tell .accepted = { p with
      engine := { p.engine with
        controller := p.engine.controller.inserting ⟨d.id, d.cursor, text⟩
        bus := [.insertionHandedOver]
        decisions := decisions }
      document := some (d.typing text)
      pending := [(d.typing text).report (.insertion d.cursor text) p.clock,
        (d.typing text).selection .command] } := by
  obtain ⟨decisions, handled⟩ := p.engine.handle_frame .accepted
  have inserted := insertAccepted_at_cursor (resting.follows.inside d opened) text p.clock
  rw [reaction, resting.bus, resting.tasks, resting.editorCalls] at handled
  refine ⟨decisions, ?_⟩
  simp only [Player.tell, act, Engine.takeEditorCalls, handled]
  simp only [Effect.call?, wordsOf, Effect.word?, tasksOf, Effect.task?, List.filterMap_cons,
    List.filterMap_nil, List.nil_append, List.foldl_cons, List.foldl_nil, carryOut, opened,
    inserted, resting.pending, resting.tasks, resting.editorCalls]

/-- **Bringing to its end that the user accepted**: the insertion is reported,
recognised and acknowledged, all without an effect, and nothing goes on any more. -/
theorem Starting.finishWork_accepted (starting : Starting b p) {x : Session}
    (live : p.engine.controller.offering.session = some x) :
    ∃ item taken, x.current? = some item ∧ b.Taken taken x.requestSeq ∧ taken.CursorInside ∧
      Silent .insertionHandedOver (p.tell .accepted) ∧ Resting b (p.tell .accepted).finishWork ∧
      Idle (some (taken.typing item.suggestion.content)) p.backend.requests
        (p.tell .accepted).finishWork := by
  have follows := starting.follows_taken
  obtain ⟨d, opened⟩ : ∃ d, p.document = some d := by
    obtain ⟨taken, -, -, -, -, opened⟩ := follows.live x live
    exact ⟨_, opened⟩
  rw [opened] at follows
  obtain ⟨item, text, taken, current, filled, was, inside, completes, reaction⟩ :=
    follows.accepting starting.coherent live
  obtain ⟨decisions, told⟩ := starting.tell_accepted opened reaction
  have phase := starting.coherent.idle_of_live x live
  obtain ⟨after, silent⟩ := Controller.after_insertion phase d filled p.clock
  have left' : Silent .insertionHandedOver (p.tell .accepted) := by
    rw [told]
    exact ⟨starting.tasks, starting.editorCalls, rfl, silent⟩
  have finished : (p.tell .accepted).finishWork = { p with
      engine := { p.engine with
        controller := { p.engine.controller with offering := ⟨none, false, none⟩ }
        decisions := decisions }
      document := some (d.typing text) } := by
    rw [left'.finishWork_eq, told]
    simp only [List.cons_append, List.nil_append, after, starting.pending, starting.bus]
  refine ⟨item, taken, current, was, inside, left', ?resting, ?idle⟩ <;> rw [finished]
  case resting =>
    exact { starting.toResting with
      coherent := coherent_of_none rfl starting.coherent.seq_of_inFlight
      follows := follows.inserted phase text
      work := .inl ⟨starting.tasks, starting.still⟩ }
  case idle =>
    exact { starting.toQuiet with
      tasks := starting.tasks
      phase := phase
      session := rfl
      shown := congrArg some completes
      received := rfl }

/-- **The step that accepts a live session** completes the document in which the
suggestions were asked for, and nothing goes on after it. -/
theorem Starting.accept (starting : Starting b p) {x : Session}
    (live : p.engine.controller.offering.session = some x) :
    ∃ item taken q, x.current? = some item ∧ b.Taken taken x.requestSeq ∧ taken.CursorInside ∧
      p.step .accept = .ok q ∧ Resting b q ∧
      Idle (some (taken.typing item.suggestion.content)) p.backend.requests q := by
  obtain ⟨item, taken, current, was, inside, -, resting, idle⟩ :=
    starting.finishWork_accepted live
  refine ⟨item, taken, _, current, was, inside, rfl, (resting.tickAt _).finishWork, ?_⟩
  rw [(idle.tickAt _).finishWork]
  exact idle.tickAt _

/-- **What a step comes to** before what it sets going is brought to its end: the player
is in the course of the step, or a live session was accepted. -/
theorem Starting.perform_cases (starting : Starting b p) {s : Step}
    (performed : p.perform s = .ok q) :
    Playing b q ∨ s = .accept ∧ ∃ x, p.engine.controller.offering.session = some x ∧
      q = p.tell .accepted := by
  cases live : p.engine.controller.offering.session with
  | none => exact .inl (starting.perform (fun _ => live) performed)
  | some x =>
      by_cases accepts : s = .accept
      · subst accepts
        exact .inr ⟨rfl, x, rfl, (Except.ok.inj performed).symm⟩
      · exact .inl (starting.perform (fun same => absurd same accepts) performed)

/-- **Once what a step set going is brought to its end**, the player is at rest. -/
theorem Starting.finishWork_performed (starting : Starting b p) {s : Step}
    (performed : p.perform s = .ok q) : Resting b q.finishWork := by
  obtain playing | ⟨-, x, live, rfl⟩ := starting.perform_cases performed
  · exact playing.finishWork
  · obtain ⟨-, -, -, -, -, -, resting, -⟩ := starting.finishWork_accepted live
    exact resting

/-! ## Scripts -/

/-- How things stand at the beginning of a step. -/
def before (p : Player) (settings : Settings) (Taken : EditorDocument → Nat → Prop) : Before :=
  ⟨settings, Taken, p.lastSeq, p.backend.requests.length⟩

/-- Before the first step nothing was asked for. -/
theorem starting_new (settings : Settings) :
    Starting ((new settings).before settings fun _ _ => False) (new settings) where
  pending := rfl
  bus := rfl
  editorCalls := rfl
  watch := rfl
  coherent := Controller.coherent_new settings .standard
  settings := rfl
  paced := rfl
  languages := rfl
  follows := .of_idle rfl rfl rfl rfl rfl nofun
  received := Nat.le_refl _
  numbered := Nat.le_refl _
  work := .inl ⟨rfl, nofun⟩
  tasks := rfl
  none_received := rfl

/-- **At the end of a step the next one begins**, and what was asked for by now was
asked for before it. -/
theorem Resting.begin (resting : Resting b p) :
    Starting (({ p with prompts := [] } : Player).before b.settings
      (b.Asked p.lastSeq p.backend.requests p.document)) { p with prompts := [] } :=
  { resting with
    follows := resting.follows.mono fun _ _ asked => .inl ⟨rfl, asked⟩
    received := Nat.le_refl _
    numbered := Nat.le_refl _
    work := .inl ⟨resting.tasks, resting.still⟩
    none_received := rfl }

/-- **Every step** takes the beginning of a step to its end. -/
theorem Starting.step (starting : Starting b p) {s : Step} (stepped : p.step s = .ok q) :
    Resting b q := by
  obtain ⟨r, performed, rfl⟩ := step_eq_ok_iff.mp stepped
  exact ((starting.finishWork_performed performed).tickAt _).finishWork

/-- **The step `s`, which led from `p` to `q`, asked for suggestions in `d`, under
the number `seq`.**  The number is one of those that the step gave, the service
received requests in its course, and the last of them is about `d`, the document as
it is at the end of the step. -/
structure Asks (settings : Settings) (d : EditorDocument) (seq : Nat) (p : Player) (s : Step)
    (q : Player) : Prop where
  stepped : p.step s = .ok q
  numbered : p.lastSeq < seq ∧ seq ≤ q.lastSeq
  shown : q.document = some d
  received : p.backend.requests.length < q.backend.requests.length
  last : ∃ kind since, q.backend.requests.getLast? =
    some (.ofSnapshot d.snapshot .standard settings kind since)

/-- **Suggestions were asked for in `d`, under the number `seq`**, by one of the
steps that led from `p` to `q`, and the service received nothing after it. -/
inductive Asked (settings : Settings) (d : EditorDocument) (seq : Nat) :
    Player → List Step → Player → Prop
  | first {p q r : Player} {s : Step} {steps : List Step} (asks : Asks settings d seq p s q)
      (played : ({ q with prompts := [] } : Player).after steps = .ok r)
      (none_received : r.backend.requests.length = q.backend.requests.length) :
      Asked settings d seq p (s :: steps) r
  | later {p q r : Player} {s : Step} {steps : List Step} (stepped : p.step s = .ok q)
      (asked : Asked settings d seq { q with prompts := [] } steps r) :
      Asked settings d seq p (s :: steps) r

/-- A later step gives later numbers. -/
theorem Asked.lastSeq_lt {settings : Settings} {Taken : EditorDocument → Nat → Prop}
    {d : EditorDocument} {seq : Nat} {steps : List Step}
    (starting : Starting (p.before settings Taken) p) (asked : Asked settings d seq p steps q) :
    p.lastSeq < seq := by
  induction asked generalizing Taken with
  | first asks => exact asks.numbered.1
  | later stepped _ ih =>
      have resting := starting.step stepped
      exact Nat.lt_of_le_of_lt resting.numbered (ih resting.begin)

/-- **The suggestions of one number are asked for in one document.** -/
theorem Asked.unique {settings : Settings} {Taken : EditorDocument → Nat → Prop}
    {d d' : EditorDocument} {seq : Nat} {steps : List Step}
    (starting : Starting (p.before settings Taken) p) (asked : Asked settings d seq p steps q)
    (asked' : Asked settings d' seq p steps q) : d = d' := by
  induction asked generalizing Taken with
  | first asks =>
      have begun := (starting.step asks.stepped).begin
      cases asked' with
      | first asks' =>
          obtain rfl := Except.ok.inj (asks.stepped.symm.trans asks'.stepped)
          exact Option.some.inj (asks.shown.symm.trans asks'.shown)
      | later stepped asked =>
          obtain rfl := Except.ok.inj (asks.stepped.symm.trans stepped)
          have later := asked.lastSeq_lt begun
          exact absurd asks.numbered.2 (Nat.not_le_of_lt later)
  | later stepped asked ih =>
      have begun := (starting.step stepped).begin
      cases asked' with
      | first asks' =>
          obtain rfl := Except.ok.inj (stepped.symm.trans asks'.stepped)
          have later := asked.lastSeq_lt begun
          exact absurd asks'.numbered.2 (Nat.not_le_of_lt later)
      | later stepped' asked' =>
          obtain rfl := Except.ok.inj (stepped.symm.trans stepped')
          exact ih begun asked'

/-- **Whatever the steps**, the controller is in step with the document after them;
and what was asked for by then was asked for before them, or by one of them. -/
theorem Starting.after {settings : Settings} {Taken : EditorDocument → Nat → Prop}
    (starting : Starting (p.before settings Taken) p) {steps : List Step}
    (played : p.after steps = .ok q) :
    ∃ Taken', Starting (q.before settings Taken') q ∧ ∀ d seq, Taken' d seq →
      Taken d seq ∧ q.backend.requests.length = p.backend.requests.length ∨
        Asked settings d seq p steps q := by
  induction steps generalizing p Taken with
  | nil =>
      obtain rfl := Except.ok.inj played
      exact ⟨Taken, starting, fun d seq taken => .inl ⟨taken, rfl⟩⟩
  | cons s steps ih =>
      obtain ⟨p', stepped, played⟩ := after_cons_eq_ok_iff.mp played
      obtain ⟨Taken', started, origin⟩ := ih (starting.step stepped).begin played
      refine ⟨Taken', started, fun d seq taken => ?_⟩
      rcases origin d seq taken with ⟨before, same⟩ | asked
      · rcases before with ⟨still, taken⟩ | ⟨more, numbered, shown, last⟩
        · exact .inl ⟨taken, same.trans still⟩
        · exact .inr (.first ⟨stepped, numbered, shown, more, last⟩ played same)
      · exact .inr (.later stepped asked)

/-- **Accepting completes the document in which the suggestions were asked for.**
Whatever the settings, whatever the script and the answers that it lets the service
give: where it leaves a session live, a step that accepts leaves the text in which
the suggestions of the session were asked for, with the whole of the selected
suggestion at the cursor that they were asked for at, and the cursor behind it,
however much of it was typed along since.  The session is gone, nothing is waited
for, and the service receives nothing, in this step and in the waits after it. -/
theorem accepting_completes_document {settings : Settings} {script : List Step}
    (played : (new settings).after script = .ok p) {x : Session}
    (live : p.engine.controller.offering.session = some x) (waits : List Nat) :
    ∃ item taken q, x.current? = some item ∧
      (∀ d, Asked settings d x.requestSeq (new settings) script p ↔ d = taken) ∧
      taken.cursor ≤ taken.text.length ∧
      p.after (.accept :: waits.map .wait) = .ok q ∧
      q.document = some { taken with
        text := Text.take taken.cursor taken.text ++ item.suggestion.content ++
          Text.drop taken.cursor taken.text
        cursor := taken.cursor + item.suggestion.content.length } ∧
      q.engine.controller.offering.session = none ∧
      q.engine.controller.trigger.phase = .idle ∧
      q.backend.requests = p.backend.requests := by
  obtain ⟨Taken, starting, origin⟩ := (starting_new settings).after played
  obtain ⟨item, taken, p', current, was, inside, accepted, -, idle⟩ := starting.accept live
  obtain ⟨q, waited, idle⟩ := idle.noticed.waits waits
  have asked : Asked settings taken x.requestSeq (new settings) script p :=
    (origin taken x.requestSeq was).resolve_left fun before => before.1
  refine ⟨item, taken, q, current, fun d => ⟨fun asked' => ?_, fun same => same ▸ asked⟩, inside,
    ?_, idle.shown, idle.session, idle.phase, idle.received⟩
  · exact asked'.unique (starting_new settings) asked
  · rw [Player.after, accepted]
    exact waited

/-- Suggestions are asked for by hand, and one of them is typed along with. -/
def aheadScript : List Step :=
  [.connect none none, .openDocument "main.rs" "rust" "fn" none, .respond [.plain " main() {}"],
    .invoke, .typeText " ma"]

/-- What was typed along with is completed, and the wait asks for nothing. -/
theorem accepting_completes_document_ahead :
    ∃ p x taken q, (new .standard).after aheadScript = .ok p ∧
      p.engine.controller.offering.session = some x ∧ x.typed = " ma" ∧
      (∀ d, Asked .standard d x.requestSeq (new .standard) aheadScript p ↔ d = taken) ∧
      p.after [.accept, .wait 500] = .ok q ∧
      q.document = some { taken with
        text := Text.take taken.cursor taken.text ++ " main() {}" ++
          Text.drop taken.cursor taken.text
        cursor := taken.cursor + 10 } ∧
      q.engine.controller.trigger.phase = .idle ∧
      q.backend.requests = p.backend.requests := by
  obtain ⟨p, played⟩ : ∃ p, (new .standard).after aheadScript = .ok p := ⟨_, rfl⟩
  have live : ((new .standard).after aheadScript).toOption.bind
      (·.engine.controller.offering.session) =
      some ⟨1, ⟨"main.rs"⟩, 2, [⟨0, .plain " main() {}"⟩], 0, true, " ma"⟩ := by decide +kernel
  rw [played] at live
  obtain ⟨item, taken, q, current, asked, -, accepted, shown, -, phase, received⟩ :=
    accepting_completes_document played live [500]
  obtain rfl := Option.some.inj current
  exact ⟨p, _, taken, q, played, live, rfl, asked, accepted, shown, phase, received⟩

end Player

end Playback

end InlineCompletion
