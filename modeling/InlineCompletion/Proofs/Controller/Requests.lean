import InlineCompletion.Proofs.Controller.Numbering
import InlineCompletion.Proofs.Controller.Typing

/-!
# The requests that begin

A request that is sent shows the service a window of a document, and of the
document itself no more than that.  Statements about where suggestions were
asked for need the document, and so they need the *snapshot* that the request
was made from.  `Controller.asking?` says which request an event begins: its
number, its snapshot, and what is sent.

There are two ways to begin one.  A user asks by hand, and the snapshot comes
with the event; or typing was waited for and has settled, and the snapshot is
the one the trigger has kept.  `requestsIn_react` says that these are **exactly
the requests that a reaction sends**, so that the log of a run (`asked`) is a
record of what the service was asked and not a reading of it.
-/

namespace InlineCompletion

/-- Requests may be sent: there is a connection, it is valid and has not expired. -/
def ConnectionStatus.serves (c : ConnectionStatus) : Bool :=
  c.connected && c.valid && !c.expired

theorem ConnectionStatus.serves_iff (c : ConnectionStatus) :
    c.serves = true ↔ c.connected = true ∧ c.valid = true ∧ c.expired = false := by
  simp [serves, and_assoc]

theorem Gate.reasonAgainstConnection_eq_none_iff_serves (g : Gate) :
    g.reasonAgainstConnection = none ↔ g.connection.serves = true := by
  rw [g.reasonAgainstConnection_eq_none_iff, g.connection.serves_iff,
    and_comm (a := g.connection.expired = false)]

/-- Typing may be waited for in a document of a supported language, if typing asks
for suggestions at all and they could be asked for now. -/
theorem Gate.reasonAgainstTrigger_eq_none_iff (g : Gate) (languageId : String) :
    g.reasonAgainstTrigger languageId = none ↔
      g.languages.supports languageId = true ∧ g.autoTriggerEnabled = true ∧
        g.connection.serves = true := by
  rw [← g.reasonAgainstConnection_eq_none_iff_serves]
  unfold reasonAgainstTrigger
  cases g.languages.supports languageId <;> cases g.autoTriggerEnabled <;> simp

/-! ## What effects say of requests -/

/-- The request that an effect sends, with its number. -/
def Effect.request? : Effect → Option (Nat × Request)
  | .requestCompletion seq request => some (seq, request)
  | _ => none

/-- The requests that effects send, in order, each with its number. -/
def requestsIn (effects : List Effect) : List (Nat × Request) := effects.filterMap Effect.request?

theorem mem_requestsIn {effects : List Effect} {seq : Nat} {request : Request} :
    (seq, request) ∈ requestsIn effects ↔ .requestCompletion seq request ∈ effects := by
  unfold requestsIn
  rw [List.mem_filterMap]
  constructor
  · rintro ⟨effect, member, sent⟩
    cases effect with
    | requestCompletion n r =>
        obtain ⟨rfl, rfl⟩ := Prod.mk.inj (Option.some.inj sent)
        exact member
    | _ => cases sent
  · exact fun member => ⟨_, member, rfl⟩

@[simp] theorem requestsIn_append (es fs : List Effect) :
    requestsIn (es ++ fs) = requestsIn es ++ requestsIn fs :=
  List.filterMap_append

@[simp] theorem requestsIn_prompts (prompts : List Prompt) :
    requestsIn (prompts.map .prompt) = [] :=
  filterMap_prompts (fun _ => rfl) prompts

@[simp] theorem requestsIn_rejections (o : Offering) : requestsIn o.rejections = [] :=
  filterMap_rejections (fun _ => rfl) o

/-- The numbers of the requests that effects send. -/
theorem map_fst_requestsIn (effects : List Effect) :
    (requestsIn effects).map Prod.fst = requestSeqs effects := by
  rw [requestsIn, List.map_filterMap]
  refine congrArg (List.filterMap · effects) (funext fun effect => ?_)
  cases effect <;> rfl

theorem Effect.IsCalm.request?_eq_none {effect : Effect} (calm : effect.IsCalm) :
    effect.request? = none := by
  cases effect with
  | recordDecision _ | prompt _ => rfl
  | requestCompletion _ _ | insertText _ => exact calm.elim

/-- A request as it begins. -/
structure Asking where
  seq : Nat
  /-- The document that it is about, as it was when suggestions were wanted. -/
  snapshot : Snapshot
  /-- What is sent. -/
  request : Request

/-- A request as effects say it. -/
def Asking.sent (a : Asking) : Nat × Request := (a.seq, a.request)

/-- A course sends the request that it begins; in flight is that one, or one that
was in flight before. -/
theorem Course.inFlight_cases {t t' : Trigger} {o o' : Offering} {e : Event}
    {effects : List Effect} (course : Course t o e t' o' effects) :
    (∃ snapshot request, t' = t.begin snapshot ∧
        requestsIn effects = [(t.lastSeq + 1, request)]) ∨
      requestsIn effects = [] ∧ ∀ q, t'.phase = .inFlight q → t.phase = .inFlight q := by
  have resting (rests : t.RestsAs t') : ∀ q, t'.phase = .inFlight q → t.phase = .inFlight q :=
    fun q flying => rests.phase.elim (fun same => same ▸ flying)
      fun idle => by simp [idle] at flying
  cases course with
  | rest prompts rests _ _ told | reject prompts rests _ _ told =>
      exact .inr ⟨by simp [told], resting rests⟩
  | move _ _ same _ _ _ _ _ told | accept _ _ _ _ same _ _ _ told =>
      exact .inr ⟨by rw [told]; rfl, fun q flying => same ▸ flying⟩
  | wait _ _ phase _ _ _ told =>
      exact .inr ⟨by rw [told, requestsIn_rejections], fun q flying => by simp [phase] at flying⟩
  | ask snapshot request begun _ _ told =>
      refine .inl ⟨snapshot, request, begun, ?_⟩
      rw [told, requestsIn_append, requestsIn_rejections]
      rfl
  | drop _ _ _ dropped _ _ told | opening _ _ _ _ _ dropped _ _ _ told =>
      exact .inr ⟨by rw [told]; rfl, fun q flying => by simp [dropped] at flying⟩

namespace Controller

variable {s : Controller}

/-- The request that an event begins. -/
def asking? (s : Controller) : Event → Option Asking
  | .invoked snapshot =>
      if s.languages.supports snapshot.languageId && s.connection.serves then
        some ⟨s.trigger.lastSeq + 1, snapshot,
          .ofSnapshot snapshot s.languages s.settings .manual none⟩
      else none
  | .tick now =>
      match (s.trigger.poll now s.offering.isVisible).1 with
      | some firing =>
          if s.connection.serves then
            some ⟨firing.seq, firing.snapshot,
              .ofSnapshot firing.snapshot s.languages s.settings .auto s.sinceLastModification⟩
          else none
      | none => none
  | _ => none

/-- **The two ways to begin a request**: by hand, or because typing has settled. -/
theorem asking?_cases {e : Event} {a : Asking} (asks : s.asking? e = some a) :
    a.seq = s.trigger.lastSeq + 1 ∧ s.connection.serves = true ∧
      (e = .invoked a.snapshot ∧ s.languages.supports a.snapshot.languageId = true ∧
          a.request = .ofSnapshot a.snapshot s.languages s.settings .manual none ∨
        ∃ now deadline, e = .tick now ∧ s.trigger.phase = .debouncing deadline a.snapshot ∧
          deadline ≤ now ∧ s.offering.isVisible = false ∧
          a.request =
            .ofSnapshot a.snapshot s.languages s.settings .auto s.sinceLastModification) := by
  cases e with
  | invoked snapshot =>
      simp only [asking?, Bool.and_eq_true, Option.ite_none_right_eq_some] at asks
      obtain ⟨⟨supported, serves⟩, same⟩ := asks
      obtain rfl := Option.some.inj same
      exact ⟨rfl, serves, .inl ⟨rfl, supported, rfl⟩⟩
  | tick now =>
      unfold asking? at asks
      dsimp only at asks
      obtain still | ⟨deadline, snapshot, waiting, due, ⟨-, polled⟩ | ⟨unseen, polled⟩⟩ :=
        s.trigger.poll_cases now s.offering.isVisible
      · simp [still] at asks
      · simp [polled] at asks
      · simp only [polled, Option.ite_none_right_eq_some] at asks
        obtain ⟨serves, same⟩ := asks
        obtain rfl := Option.some.inj same
        exact ⟨rfl, serves, .inr ⟨now, deadline, rfl, waiting, due, unseen, rfl⟩⟩
  | _ => cases asks

/-- A request is made from the snapshot that came with the event, or from the one
that was waited for. -/
theorem snapshot_of_asking {e : Event} {a : Asking} (asks : s.asking? e = some a) :
    e = .invoked a.snapshot ∨
      ∃ now deadline, e = .tick now ∧ s.trigger.phase = .debouncing deadline a.snapshot := by
  obtain ⟨-, -, ⟨asked, -⟩ | ⟨now, deadline, passed, waiting, -⟩⟩ := asking?_cases asks
  · exact .inl asked
  · exact .inr ⟨now, deadline, passed, waiting⟩

/-! ## They are the requests that are sent -/

/-- The rules find nothing against a request exactly over a connection that serves. -/
theorem serves_of_granted {t : Controller} (same : t.connection = s.connection)
    (granted : t.gate.reasonAgainstConnection = none) : s.connection.serves = true := by
  rw [← same]
  exact (Gate.reasonAgainstConnection_eq_none_iff_serves _).mp granted

theorem not_serves_of_refused {t : Controller} (same : t.connection = s.connection)
    {reason : Suppression} (refused : t.gate.reasonAgainstConnection = some reason) :
    s.connection.serves = false := by
  rw [← same, ← Bool.not_eq_true]
  intro serves
  have granted : t.gate.reasonAgainstConnection = none :=
    (Gate.reasonAgainstConnection_eq_none_iff_serves _).mpr serves
  rw [refused] at granted
  cases granted

theorem requestsIn_of_calm {r : Reaction} (calm : s.Calm r) : requestsIn r.effects = [] :=
  calm.filterMap_eq_nil fun _ => Effect.IsCalm.request?_eq_none

theorem requestsIn_reactToEdit (s : Controller) (change : Change) (now : Instant) :
    requestsIn (s.reactToEdit change now).effects = [] := by
  obtain ⟨-, typing⟩ | deletion | unseen := s.reactToEdit_cases change now
  · rw [typing]
    cases (s.noteTyping now).typed change now with
    | along x y text live place narrowed next => rw [next]; rfl
    | wait granted next told => rw [told, requestsIn_rejections]
    | suppress calm gone idle => exact requestsIn_of_calm calm
  · rw [deletion]
    exact requestsIn_of_calm (calm_abandon _)
  · rw [unseen]
    rfl

theorem requestsIn_reactToChange (s : Controller) (change : Change) (now : Instant) :
    requestsIn (s.reactToChange change now).effects = [] := by
  cases seen : s.offering.recognizeEcho change with
  | mk isEcho o =>
      cases isEcho with
      | true => rw [reactToChange_of_echo seen]; rfl
      | false => rw [reactToChange_of_not_echo seen, requestsIn_reactToEdit]

/-- Asking by hand sends the request that it begins, after the rejection of what
was on offer. -/
theorem requestsIn_reactToInvocation (s : Controller) (snapshot : Snapshot) :
    requestsIn (s.reactToInvocation snapshot).effects =
      (s.asking? (.invoked snapshot)).toList.map Asking.sent := by
  obtain ⟨supported, passes⟩ | ⟨reason, -, refused, next⟩ | ⟨supported, granted, begins⟩ :=
    s.reactToInvocation_cases snapshot
  · rw [passes]
    simp [supported, asking?, Reaction.unchanged, requestsIn]
  · have nothing : s.asking? (.invoked snapshot) = none := by
      simp [asking?, not_serves_of_refused (s := s) rfl refused]
    rw [next, nothing]
    cases promptOf reason with
    | none => simp [Reaction.alsoDo, ending]
    | some prompt =>
        simp only [Reaction.alsoDo, ending, requestsIn_append, ↓reduceIte, requestsIn_rejections]
        rfl
  · rw [begins]
    simp only [asking?, supported, serves_of_granted (s := s) rfl granted, requestsIn_append,
      requestsIn_rejections]
    rfl

/-- The passing of time sends the request that it begins. -/
theorem requestsIn_reactToTime (s : Controller) (now : Instant) :
    requestsIn (s.reactToTime now).effects =
      (s.asking? (.tick now)).toList.map Asking.sent := by
  unfold reactToTime asking?
  dsimp only
  obtain still | ⟨deadline, snapshot, waiting, -, ⟨-, polled⟩ | ⟨-, polled⟩⟩ :=
    s.trigger.poll_cases now s.offering.isVisible
  · rw [still]; rfl
  · rw [polled]; rfl
  · rw [polled]
    dsimp only
    split
    · next reason refused =>
      rw [not_serves_of_refused (s := s) rfl refused]
      rfl
    · next granted =>
      rw [serves_of_granted (s := s) rfl granted]
      rfl

/-- **A reaction sends exactly the request that the event begins.** -/
theorem requestsIn_react (s : Controller) (e : Event) :
    requestsIn (s.react e).effects = (s.asking? e).toList.map Asking.sent := by
  cases e with
  | documentChanged change now => exact requestsIn_reactToChange s change now
  | selectionMoved selection => exact requestsIn_of_calm (calm_reactToSelection s selection)
  | editorFocused editor => exact requestsIn_of_calm (calm_reactToEditor s editor)
  | windowFocused focused => exact requestsIn_of_calm (calm_reactToFocus s focused)
  | documentClosed document => exact requestsIn_of_calm (calm_reactToClosing s document)
  | invoked snapshot => exact requestsIn_reactToInvocation s snapshot
  | tick now => exact requestsIn_reactToTime s now
  | answered seq outcome =>
      rw [react, effects_reactToAnswer]
      rfl
  | navigated forward => rfl
  | accepted =>
      show requestsIn (s.react .accepted).effects = []
      simp only [react]
      split <;> rfl
  | insertionHandedOver => rfl
  | rejected => exact requestsIn_of_calm (calm_rejectLive s)
  | connectionChanged status =>
      rw [react, effects_reactToConnection]
      rfl
  | settingsChanged settings =>
      rw [react, effects_reactToSettings]
      rfl
  | shutDown => exact requestsIn_of_calm (calm_abandon s)

/-- A request that is sent is the one that the event begins. -/
theorem asking?_of_requestCompletion {e : Event} {seq : Nat} {request : Request}
    (sent : .requestCompletion seq request ∈ (s.react e).effects) :
    ∃ snapshot, s.asking? e = some ⟨seq, snapshot, request⟩ := by
  rw [← mem_requestsIn, requestsIn_react] at sent
  obtain ⟨a, asks, same⟩ := List.mem_map.mp sent
  obtain ⟨rfl, rfl⟩ := Prod.mk.inj same
  exact ⟨a.snapshot, Option.mem_toList.mp asks⟩

/-- The requests that a run begins, in order. -/
def asked (s : Controller) (es : List Event) : List Asking :=
  collect (fun s e => (s.asking? e).toList) s es

/-- **A run sends exactly the requests that it begins**, in the same order. -/
theorem requestsIn_effectsOf (s : Controller) (es : List Event) :
    requestsIn (s.effectsOf es) = (s.asked es).map Asking.sent := by
  induction es generalizing s with
  | nil => rfl
  | cons e es ih =>
      simp only [effectsOf_cons, requestsIn_append, requestsIn_react, ih, asked, collect_cons,
        List.map_append]

/-- A request that a run begins is begun by one of its events. -/
theorem exists_asking_of_mem_asked {es : List Event} {a : Asking} (member : a ∈ s.asked es) :
    ∃ before e later, es = before ++ e :: later ∧ (s.after before).asking? e = some a := by
  obtain ⟨before, e, later, split, said⟩ := mem_collect.mp member
  exact ⟨before, e, later, split, Option.mem_toList.mp said⟩

/-! ## They are the requests in flight -/

/-- **A request that begins is in flight**, and no other is unless it was before. -/
theorem inFlight_react (coherent : Coherent s.trigger s.offering) (e : Event) :
    (∀ a, s.asking? e = some a → ∃ q, (s.react e).controller.trigger.phase = .inFlight q ∧
        q.seq = a.seq) ∧
      (s.asking? e = none → ∀ q, (s.react e).controller.trigger.phase = .inFlight q →
        s.trigger.phase = .inFlight q) := by
  have sent := requestsIn_react s e
  rcases (course coherent e).inFlight_cases with ⟨snapshot, request, begun, asked⟩ | ⟨none', kept⟩
  · rw [asked] at sent
    refine ⟨fun a asks => ⟨_, congrArg Trigger.phase begun, ?_⟩, fun none' => ?_⟩
    · simp only [asks, Option.toList_some, List.map_cons, List.map_nil, Asking.sent] at sent
      exact (Prod.mk.inj (List.cons.inj sent).1).1
    · simp [none'] at sent
  · refine ⟨fun a asks => ?_, fun _ => kept⟩
    simp [asks, none'] at sent

/-- **The trigger begins the request from the very snapshot** that it is made from. -/
theorem trigger_of_asking {e : Event} {a : Asking} (asks : s.asking? e = some a) :
    (s.react e).controller.trigger = s.trigger.begin a.snapshot := by
  obtain ⟨-, serves, ⟨rfl, supported, -⟩ | ⟨now, deadline, rfl, waiting, due, unseen, -⟩⟩ :=
    asking?_cases asks
  · obtain ⟨passes, -⟩ | ⟨reason, -, refused, -⟩ | ⟨-, -, begins⟩ :=
      s.reactToInvocation_cases a.snapshot
    · rw [supported] at passes
      cases passes
    · rw [not_serves_of_refused (s := s) rfl refused] at serves
      cases serves
    · rw [react, begins]
  · have polled : s.trigger.poll now s.offering.isVisible =
        (some ⟨s.trigger.lastSeq + 1, a.snapshot⟩, s.trigger.begin a.snapshot) := by
      simp [Trigger.poll, waiting, Nat.not_lt.mpr due, unseen]
    have granted : ({ s with trigger := s.trigger.begin a.snapshot } :
        Controller).gate.reasonAgainstConnection = none :=
      (Gate.reasonAgainstConnection_eq_none_iff_serves _).mpr serves
    simp only [react, reactToTime, polled, granted]

end Controller

end InlineCompletion
