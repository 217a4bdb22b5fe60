import InlineCompletion.Connection.Manager
import InlineCompletion.Proofs.Controller.Requests

/-!
# Nothing is asked for without permission

The rules are consulted when typing starts a wait.  The request leaves later,
and by then the user may have switched the automatic trigger off, opened another
document, closed this one or lost the connection.  Only the connection is looked
at again when the wait is over.

`Entitled` is why that is enough.  Its clause `waiting` says of a wait what the
rules said when it started, and every event that could make it untrue gives the
wait up: another editor and a closed document end it, and so do settings without
the automatic trigger.  Its clause `valid` says that nothing is waited for, and
no request in flight, over a connection that is not valid.  That alone does not
mean that the connection *serves*, because nothing stops a host from reporting a
connection that is valid and not connected; a manager never does
(`ConnectionManager.truthful_of_snapshot`), and under statuses like a manager's the
two are one.
-/

namespace InlineCompletion

/-- What a manager tells of a valid connection: there is one, and it has not expired. -/
def ConnectionStatus.Truthful (c : ConnectionStatus) : Prop :=
  c.valid = true → c.connected = true ∧ c.expired = false

/-- **A manager tells the truth** about the connection in use. -/
theorem ConnectionManager.truthful_of_snapshot (m : ConnectionManager) :
    (ConnectionStatus.ofSnapshot m.snapshot).Truthful := by
  intro valid
  simp only [ConnectionStatus.ofSnapshot, snapshot, Bool.and_eq_true, Bool.not_eq_true'] at valid
  exact valid

namespace Controller

variable {s : Controller}

/-! ## The invariant -/

/-- **A controller that waits for nothing it may not ask for.** -/
structure Entitled (s : Controller) : Prop where
  /-- Typing is waited for only in the active document and in a supported
  language, while typing asks for suggestions. -/
  waiting : ∀ deadline snapshot, s.trigger.phase = .debouncing deadline snapshot →
    s.settings.autoTriggerEnabled = true ∧ s.activeDocument = some snapshot.document ∧
      s.languages.supports snapshot.languageId = true
  /-- Nothing is waited for over a connection that is not valid. -/
  valid : s.trigger.phase ≠ .idle → s.connection.valid = true

namespace Entitled

/-- Who waits for nothing needs no permission. -/
theorem of_idle (idle : s.trigger.phase = .idle) : s.Entitled :=
  ⟨fun _ _ waiting => by simp [idle] at waiting, fun busy => absurd idle busy⟩

/-- Who has just asked needs a valid connection alone. -/
theorem of_inFlight {q : InFlight} (flying : s.trigger.phase = .inFlight q)
    (serves : s.connection.serves = true) : s.Entitled :=
  ⟨fun _ _ waiting => by simp [flying] at waiting,
    fun _ => ((ConnectionStatus.serves_iff _).mp serves).2.1⟩

/-- A reaction that begins nothing needs no new permission. -/
theorem calm {r : Reaction} (entitled : s.Entitled) (calm : s.Calm r) : r.controller.Entitled := by
  rcases calm.rests.phase with same | idle
  · refine ⟨?_, ?_⟩
    · intro deadline snapshot waiting
      rw [calm.settings, calm.languages, activeDocument, calm.active]
      exact entitled.waiting deadline snapshot (same ▸ waiting)
    · intro busy
      rw [calm.connection]
      exact entitled.valid (same ▸ busy)
  · exact of_idle idle

/-! ### The handlers -/

theorem reactToEdit (entitled : s.Entitled) (change : Change) (now : Instant) :
    (s.reactToEdit change now).controller.Entitled := by
  have noted : (s.noteTyping now).Entitled := ⟨entitled.waiting, entitled.valid⟩
  obtain ⟨typing, same⟩ | deletion | unseen := s.reactToEdit_cases change now
  · rw [same]
    cases (s.noteTyping now).typed change now with
    | along x y text live place narrowed next =>
        rw [next]
        exact ⟨entitled.waiting, entitled.valid⟩
    | wait granted next told =>
        -- the rules were consulted just now
        obtain ⟨supported, automatic, serves⟩ :=
          (Gate.reasonAgainstTrigger_eq_none_iff _ _).mp granted
        have active : s.activeDocument = some change.document :=
          ((Gate.reasonAgainstEdit_eq_none_iff _ _).mp typing).1
        rw [next]
        refine ⟨?_, fun _ => ((ConnectionStatus.serves_iff _).mp serves).2.1⟩
        intro deadline snapshot waiting
        obtain ⟨-, rfl⟩ := Trigger.Phase.debouncing.inj waiting
        exact ⟨automatic, active, supported⟩
    | suppress calm gone idle => exact of_idle idle
  · rw [deletion]
    exact noted.calm (calm_abandon _)
  · rw [unseen]
    exact entitled

theorem reactToChange (entitled : s.Entitled) (change : Change) (now : Instant) :
    (s.reactToChange change now).controller.Entitled := by
  cases seen : s.offering.recognizeEcho change with
  | mk isEcho o =>
      have same : ({ s with offering := o } : Controller).Entitled :=
        ⟨entitled.waiting, entitled.valid⟩
      cases isEcho with
      | true =>
          rw [reactToChange_of_echo seen]
          exact same
      | false =>
          rw [reactToChange_of_not_echo seen]
          exact same.reactToEdit change now

theorem reactToClosing (entitled : s.Entitled) (document : DocumentId) :
    (s.reactToClosing document).controller.Entitled := by
  have calm := calm_reactToClosing s document
  have elsewhere := (ended_of_closing s document).1
  rcases calm.rests.phase with same | idle
  · refine ⟨?_, ?_⟩
    · intro deadline snapshot waiting
      obtain ⟨automatic, active, supported⟩ := entitled.waiting deadline snapshot (same ▸ waiting)
      -- a wait in the active document outlives the closing of another one only
      have other : snapshot.document ≠ document := by
        rintro rfl
        exact elsewhere (by simp [Trigger.document?, waiting])
      rw [calm.settings, calm.languages, activeDocument, calm.active]
      have stays : s.activeWithout document = s.active := by
        unfold activeWithout
        rw [if_neg]
        rw [active]
        exact fun h => other (Option.some.inj h)
      exact ⟨automatic, by rw [stays]; exact active, supported⟩
    · intro busy
      rw [calm.connection]
      exact entitled.valid (same ▸ busy)
  · exact of_idle idle

theorem reactToInvocation (entitled : s.Entitled) (snapshot : Snapshot) :
    (s.reactToInvocation snapshot).controller.Entitled := by
  obtain ⟨-, passes⟩ | ⟨reason, -, -, refused⟩ | ⟨-, granted, begins⟩ :=
    s.reactToInvocation_cases snapshot
  · rw [passes]
    exact entitled
  · rw [refused]
    exact of_idle rfl
  · rw [begins]
    exact of_inFlight rfl (serves_of_granted (s := s) rfl granted)

theorem reactToTime (entitled : s.Entitled) (now : Instant) :
    (s.reactToTime now).controller.Entitled := by
  cases s.passes now with
  | still next =>
      rw [next]
      exact entitled
  | hidden deadline snapshot waiting next =>
      rw [next]
      exact of_idle rfl
  | refused deadline snapshot waiting next =>
      rw [next]
      exact of_idle rfl
  | asks deadline snapshot waiting due granted next =>
      rw [next]
      exact of_inFlight rfl (serves_of_granted (s := s) rfl granted)

theorem reactToAnswer (entitled : s.Entitled) (seq : Nat) (outcome : RequestOutcome) :
    (s.reactToAnswer seq outcome).controller.Entitled := by
  obtain ⟨-, stale⟩ | ⟨q, -, -, taken⟩ := s.reactToAnswer_cases seq outcome
  · rw [stale]
    exact entitled
  · rw [taken]
    exact of_idle rfl

theorem reactToConnection (entitled : s.Entitled) (status : ConnectionStatus) :
    (s.reactToConnection status).controller.Entitled := by
  obtain ⟨valid, next⟩ | ⟨-, ends⟩ := s.reactToConnection_cases status
  · rw [next]
    exact ⟨entitled.waiting, fun _ => valid⟩
  · rw [ends]
    exact of_idle rfl

theorem reactToSettings (entitled : s.Entitled) (settings : Settings) :
    (s.reactToSettings settings).controller.Entitled := by
  obtain ⟨-, same⟩ | ⟨trigger, rests, next⟩ := s.reactToSettings_cases settings
  · rw [same]
    exact entitled
  · rw [next]
    obtain ⟨rfl, kept⟩ | rfl := rests
    · refine ⟨?_, entitled.valid⟩
      intro deadline snapshot waiting
      have phase : s.trigger.phase = .debouncing deadline snapshot := waiting
      obtain ⟨-, active, supported⟩ := entitled.waiting deadline snapshot phase
      have automatic : settings.autoTriggerEnabled = true :=
        kept.resolve_right (by simp [Trigger.deadline?, phase])
      exact ⟨automatic, active, supported⟩
    · exact of_idle rfl

/-- **No event makes a controller wait for what it may not ask for.** -/
theorem react (entitled : s.Entitled) (e : Event) : (s.react e).controller.Entitled := by
  cases e with
  | documentChanged change now => exact entitled.reactToChange change now
  | selectionMoved selection => exact entitled.calm (calm_reactToSelection s selection)
  | editorFocused editor =>
      refine of_idle ?_
      rw [Controller.react, reactToEditor_eq_ending]
      rfl
  | windowFocused focused =>
      have same : ({ s with windowFocused := focused } : Controller).Entitled :=
        ⟨entitled.waiting, entitled.valid⟩
      exact same.calm (calm_reactToFocus s focused)
  | documentClosed document => exact entitled.reactToClosing document
  | invoked snapshot => exact entitled.reactToInvocation snapshot
  | tick now => exact entitled.reactToTime now
  | answered seq outcome => exact entitled.reactToAnswer seq outcome
  | navigated forward => exact ⟨entitled.waiting, entitled.valid⟩
  | accepted =>
      simp only [Controller.react]
      split <;> exact ⟨entitled.waiting, entitled.valid⟩
  | insertionHandedOver => exact ⟨entitled.waiting, entitled.valid⟩
  | rejected => exact entitled.calm (calm_rejectLive s)
  | connectionChanged status => exact entitled.reactToConnection status
  | settingsChanged settings => exact entitled.reactToSettings settings
  | shutDown => exact entitled.calm (calm_abandon s)

theorem after (entitled : s.Entitled) (es : List Event) : (s.after es).Entitled := by
  induction es generalizing s with
  | nil => exact entitled
  | cons e es ih => exact ih (entitled.react e)

end Entitled

/-- A fresh controller waits for nothing. -/
theorem entitled_new (settings : Settings) (languages : LanguageTable) :
    (new settings languages).Entitled := .of_idle rfl

/-! ## What is told, and what stays -/

/-- What an event leaves as it is unless it tells of it. -/
structure SameGround (s : Controller) (e : Event) (s' : Controller) : Prop where
  /-- The table of languages stays as it is. -/
  languages : s'.languages = s.languages
  /-- The connection is what was told last. -/
  connection : s'.connection = s.connection ∨ e = .connectionChanged s'.connection
  /-- The settings are what was told last. -/
  settings : s'.settings = s.settings ∨ e = .settingsChanged s'.settings

theorem SameGround.of_calm {t : Controller} {r : Reaction} {e : Event} (calm : t.Calm r)
    (languages : t.languages = s.languages) (connection : t.connection = s.connection)
    (settings : t.settings = s.settings) : s.SameGround e r.controller :=
  ⟨calm.languages.trans languages, .inl (calm.connection.trans connection),
    .inl (calm.settings.trans settings)⟩

theorem sameGround_reactToEdit (s : Controller) (e : Event) (change : Change) (now : Instant) :
    s.SameGround e (s.reactToEdit change now).controller := by
  obtain ⟨-, same⟩ | deletion | unseen := s.reactToEdit_cases change now
  · rw [same]
    cases (s.noteTyping now).typed change now with
    | along x y text live place narrowed next => rw [next]; exact ⟨rfl, .inl rfl, .inl rfl⟩
    | wait granted next told => rw [next]; exact ⟨rfl, .inl rfl, .inl rfl⟩
    | suppress calm gone idle => exact .of_calm calm rfl rfl rfl
  · rw [deletion]
    exact .of_calm (calm_abandon _) rfl rfl rfl
  · rw [unseen]
    exact ⟨rfl, .inl rfl, .inl rfl⟩

/-- **What an event leaves that is no change of a document**: the times of the user's changes
too, and the pause that the trigger waits for, which is a setting. -/
structure Leaves (s : Controller) (e : Event) (s' : Controller) : Prop extends
    SameGround s e s' where
  lastModification : s'.lastModification = s.lastModification
  sinceLastModification : s'.sinceLastModification = s.sinceLastModification
  settleDelay : s'.trigger.settleDelay = s.trigger.settleDelay ∨ e = .settingsChanged s'.settings

theorem Leaves.refl (s : Controller) (e : Event) : s.Leaves e s :=
  ⟨⟨rfl, .inl rfl, .inl rfl⟩, rfl, rfl, .inl rfl⟩

/-- Ending something leaves all of it. -/
theorem Leaves.ending {s t : Controller} {e : Event} (leaves : s.Leaves e t)
    (wait session : Bool) : s.Leaves e (t.ending wait session).controller := by
  cases wait <;> exact { leaves with }

/-- **Only a change of a document tells of the user's changes.** -/
theorem leaves_react {s : Controller} {e : Event}
    (other : ∀ change now, e ≠ .documentChanged change now) :
    s.Leaves e (s.react e).controller := by
  have same := Leaves.refl s e
  cases e with
  | documentChanged change now => exact absurd rfl (other change now)
  | selectionMoved selection =>
      rw [react, reactToSelection_eq_ending]
      exact same.ending _ _
  | editorFocused editor =>
      have moved : s.Leaves (.editorFocused editor) { s with active := editor } := { same with }
      rw [react, reactToEditor_eq_ending]
      exact moved.ending _ _
  | windowFocused focused =>
      have moved : s.Leaves (.windowFocused focused) { s with windowFocused := focused } :=
        { same with }
      rw [react, reactToFocus_eq_ending]
      exact moved.ending _ _
  | documentClosed document =>
      have moved : s.Leaves (.documentClosed document)
          { s with active := s.activeWithout document } := { same with }
      rw [react, reactToClosing_eq_ending]
      exact moved.ending _ _
  | invoked snapshot =>
      rw [react]
      obtain ⟨-, next⟩ | ⟨reason, -, -, next⟩ | ⟨-, -, next⟩ := s.reactToInvocation_cases snapshot
      · rw [next]
        exact same
      · rw [next]
        exact same.ending true true
      · rw [next]
        exact { same with }
  | tick now =>
      rw [react]
      cases s.passes now with
      | still next | hidden _ _ _ next | refused _ _ _ next | asks _ _ _ _ _ next =>
          rw [next]
          exact { same with }
  | answered seq outcome =>
      rw [react]
      obtain ⟨-, next⟩ | ⟨q, -, -, next⟩ := s.reactToAnswer_cases seq outcome <;> rw [next] <;>
        exact { same with }
  | navigated forward => exact { same with }
  | accepted =>
      simp only [react]
      split <;> exact { same with }
  | insertionHandedOver => exact { same with }
  | rejected =>
      rw [react, rejectLive_eq_ending]
      exact same.ending _ _
  | connectionChanged status =>
      rw [react]
      obtain ⟨-, next⟩ | ⟨-, next⟩ := s.reactToConnection_cases status <;> rw [next] <;>
        exact { same with connection := .inr rfl }
  | settingsChanged settings =>
      rw [react]
      obtain ⟨-, next⟩ | ⟨trigger, -, next⟩ := s.reactToSettings_cases settings <;> rw [next]
      · exact same
      · exact { same with settings := .inr rfl, settleDelay := .inr rfl }
  | shutDown =>
      rw [react, abandon_eq_ending]
      exact same.ending _ _

/-- New settings are those that were told. -/
theorem settings_of_settingsChanged (s : Controller) (settings : Settings) :
    (s.react (.settingsChanged settings)).controller.settings = settings := by
  rw [react]
  obtain ⟨same, next⟩ | ⟨_, -, next⟩ := s.reactToSettings_cases settings
  · rw [next, same]; rfl
  · rw [next]; rfl

/-- **What stays of a controller**, whatever it reacts to. -/
theorem sameGround_react (s : Controller) (e : Event) :
    s.SameGround e (s.react e).controller := by
  cases e with
  | documentChanged change now =>
      simp only [react]
      cases seen : s.offering.recognizeEcho change with
      | mk isEcho o =>
          cases isEcho with
          | true => rw [reactToChange_of_echo seen]; exact ⟨rfl, .inl rfl, .inl rfl⟩
          | false =>
              rw [reactToChange_of_not_echo seen]
              have kept := sameGround_reactToEdit { s with offering := o }
                (.documentChanged change now) change now
              exact ⟨kept.languages, kept.connection, kept.settings⟩
  | _ => exact (leaves_react fun _ _ => by rintro ⟨⟩).toSameGround

theorem languages_after (s : Controller) (es : List Event) :
    (s.after es).languages = s.languages := by
  induction es generalizing s with
  | nil => rfl
  | cons e es ih => exact (ih _).trans (sameGround_react s e).languages

/-- Who is told the truth knows it. -/
theorem truthful_after (truthful : s.connection.Truthful) {es : List Event}
    (told : ∀ status, .connectionChanged status ∈ es → status.Truthful) :
    (s.after es).connection.Truthful := by
  induction es generalizing s with
  | nil => exact truthful
  | cons e es ih =>
      refine ih ?_ fun status member => told status (List.mem_cons_of_mem _ member)
      rcases (sameGround_react s e).connection with same | changed
      · rw [same]
        exact truthful
      · exact told _ (by rw [← changed]; exact List.mem_cons_self)

/-! ## Permission -/

/-- **Nothing is asked for without permission.**  Whenever a run sends a request,
the connection serves, and the request was made from a snapshot in a language of
the table: the one that suggestions were asked for with by hand, or the one that
typing was waited for with, and then the automatic trigger is on, the snapshot is
of the active document, and no session is live.  And if the run was told the
truth about the connection, as a manager tells it, nothing at all is waited for
over a connection that does not serve. -/
theorem requests_are_permitted (settings : Settings) (languages : LanguageTable)
    (es : List Event) :
    let s := (new settings languages).after es
    (∀ e seq request, .requestCompletion seq request ∈ (s.react e).effects →
        (s.connection.connected = true ∧ s.connection.valid = true ∧
          s.connection.expired = false) ∧
        ∃ snapshot, languages.supports snapshot.languageId = true ∧
          request = .ofSnapshot snapshot languages s.settings request.trigger
            request.sinceLastModification ∧
          (request.trigger = .manual ∧ e = .invoked snapshot ∨
            request.trigger = .auto ∧
              (∃ now deadline, e = .tick now ∧ deadline ≤ now ∧
                s.trigger.phase = .debouncing deadline snapshot) ∧
              s.settings.autoTriggerEnabled = true ∧
              s.activeDocument = some snapshot.document ∧ s.offering.session = none)) ∧
      ((∀ status, .connectionChanged status ∈ es → status.Truthful) →
        s.trigger.phase ≠ .idle →
          s.connection.connected = true ∧ s.connection.valid = true ∧
            s.connection.expired = false) ∧
      ∀ m : ConnectionManager, (ConnectionStatus.ofSnapshot m.snapshot).Truthful := by
  intro s
  have table : s.languages = languages := languages_after _ es
  have entitled : s.Entitled := (entitled_new settings languages).after es
  have coherent : Coherent s.trigger s.offering :=
    coherent_after (coherent_new settings languages) es
  refine ⟨?_, ?_, ConnectionManager.truthful_of_snapshot⟩
  · intro e seq request sent
    obtain ⟨snapshot, asks⟩ := asking?_of_requestCompletion sent
    obtain ⟨-, serves, byHand | byItself⟩ := asking?_cases asks
    · obtain ⟨asked, supported, made⟩ := byHand
      dsimp only at asked supported made
      refine ⟨(ConnectionStatus.serves_iff _).mp serves, snapshot, table ▸ supported, ?_, .inl ?_⟩
      · rw [made, table]
        rfl
      · rw [made]
        exact ⟨rfl, asked⟩
    · obtain ⟨now, deadline, passed, waiting, due, -, made⟩ := byItself
      dsimp only at waiting made
      obtain ⟨automatic, active, supported⟩ := entitled.waiting deadline snapshot waiting
      have gone : s.offering.session = none := coherent.session_of_not_idle (by simp [waiting])
      refine ⟨(ConnectionStatus.serves_iff _).mp serves, snapshot, table ▸ supported, ?_, .inr ?_⟩
      · rw [made, table]
        rfl
      · rw [made]
        exact ⟨rfl, ⟨now, deadline, passed, due, waiting⟩, automatic, active, gone⟩
  · intro told busy
    have valid := entitled.valid busy
    have truthful : s.connection.Truthful :=
      truthful_after (s := new settings languages) (fun valid => by cases valid) told
    exact ⟨(truthful valid).1, valid, (truthful valid).2⟩

end Controller

end InlineCompletion
