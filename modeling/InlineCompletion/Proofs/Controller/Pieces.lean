import InlineCompletion.Proofs.Controller.Course

/-!
# The pieces of the handlers

A handler of the controller is put together from a few pieces.  This module says
what each piece and each handler answers, with equations for the whole `Reaction`.
What is to be shown of all events is then read off these equations, case by case,
instead of off the handlers.

* `Controller.ending` is what all handlers that only end something come to.  Two
  questions are left to a handler: is the wait over, and is the session.  The state
  looks different, an ending says, exactly if something was there to end.
* Typing either goes on with the session or rejects it and starts the wait anew
  (`reactToTyping_cases`, `rejectAndWait_cases`); where the wait may not start, a
  prompt may come up.
* Asking by hand ends everything first (`reactToInvocation_cases`), and the passing
  of time needs nothing to be ended (`Passes`).  These two begin requests.
* An answer is taken or passes unheard, and the rest is told by the outside: the
  connection and the settings.

Which prompts have come up is a set that only grows while typing: `Grows` is one
step of that, and it composes.
-/

namespace InlineCompletion

/-! ## The prompts that typing has brought up -/

namespace PromptsShown

/-- Typing has brought up this prompt. -/
def has (shown : PromptsShown) : Prompt → Bool
  | .connect => shown.connectShown
  | .reauthenticate => shown.reauthenticateShown

/-- **Prompts come up one after another**, none of them a second time. -/
structure Grows (before : PromptsShown) (prompts : List Prompt) (after : PromptsShown) :
    Prop where
  distinct : prompts.Nodup
  unseen : ∀ prompt ∈ prompts, before.has prompt = false
  seen : ∀ prompt, after.has prompt = true ↔ before.has prompt = true ∨ prompt ∈ prompts

theorem Grows.refl (shown : PromptsShown) : shown.Grows [] shown :=
  ⟨.nil, by simp, by simp⟩

theorem Grows.trans {first second third : PromptsShown} {prompts more : List Prompt}
    (early : first.Grows prompts second) (late : second.Grows more third) :
    first.Grows (prompts ++ more) third := by
  refine ⟨List.nodup_append.mpr ⟨early.distinct, late.distinct, ?_⟩, ?_, ?_⟩
  · rintro prompt up _ again rfl
    have seen : second.has prompt = true := (early.seen prompt).mpr (.inr up)
    rw [late.unseen prompt again] at seen
    cases seen
  · intro prompt member
    rcases List.mem_append.mp member with up | later
    · exact early.unseen prompt up
    · -- what had come up at first would have come up by then
      rw [← Bool.not_eq_true]
      intro had
      have seen : second.has prompt = true := (early.seen prompt).mpr (.inl had)
      rw [late.unseen prompt later] at seen
      cases seen
  · intro prompt
    rw [late.seen, early.seen, List.mem_append, or_assoc]

end PromptsShown

/-! ## The answer to the request in flight -/

namespace Offering

/-- The offering after the answer to `q`. -/
def afterAnswer (o : Offering) (q : InFlight) : RequestOutcome → Offering
  | .failed _ => o
  | .suggestions response => (o.offer q.seq q.document q.cursor response).2

/-- An answer opens a session, or leaves the offering. -/
theorem afterAnswer_cases (o : Offering) (q : InFlight) (outcome : RequestOutcome) :
    o.afterAnswer q outcome = o ∨
      ∃ response y, outcome = .suggestions response ∧
        Session.open? q.seq q.document q.cursor response = some y ∧
        o.afterAnswer q outcome = { o with session := some y } := by
  cases outcome with
  | failed reason => exact .inl rfl
  | suggestions response =>
      cases opened : Session.open? q.seq q.document q.cursor response with
      | none => exact .inl (by simp [afterAnswer, offer, opened])
      | some y => exact .inr ⟨response, y, rfl, opened, by simp [afterAnswer, offer, opened]⟩

end Offering

@[simp] theorem Reaction.alsoChanged_controller (r : Reaction) (changed : Bool) :
    (r.alsoChanged changed).controller = r.controller := rfl

@[simp] theorem Reaction.alsoChanged_effects (r : Reaction) (changed : Bool) :
    (r.alsoChanged changed).effects = r.effects := rfl

namespace Controller

variable {s : Controller}

/-- Of the reasons against typing, a prompt comes up at most once for each. -/
theorem promptOnce_cases (s : Controller) (reason : Suppression) :
    ∃ (prompt : Option Prompt) (shown : PromptsShown), s.prompts.Grows prompt.toList shown ∧
      s.promptOnce reason = (prompt.map .prompt, { s with prompts := shown }) := by
  -- whether it came up before is looked up, and noted if it did not
  have once {prompt : Prompt} {shown : PromptsShown} (unseen : s.prompts.has prompt = false)
      (seen : ∀ p, shown.has p = true ↔ s.prompts.has p = true ∨ p = prompt) :
      s.prompts.Grows (some prompt).toList shown :=
    ⟨by simp, by simpa using unseen, by simpa using seen⟩
  unfold promptOnce
  split
  · split
    · exact ⟨none, s.prompts, .refl _, rfl⟩
    · next unseen =>
      refine ⟨some .connect, _, once (Bool.eq_false_iff.mpr unseen) ?_, rfl⟩
      intro p
      cases p <;> simp [PromptsShown.has]
  · split
    · exact ⟨none, s.prompts, .refl _, rfl⟩
    · next unseen =>
      refine ⟨some .reauthenticate, _, once (Bool.eq_false_iff.mpr unseen) ?_, rfl⟩
      intro p
      cases p <;> simp [PromptsShown.has]
  · exact ⟨none, s.prompts, .refl _, rfl⟩

/-! ## Endings -/

/-- **What ends something answers**: the wait ends if `wait`, and the session is
rejected if `session`. -/
def ending (s : Controller) (wait session : Bool) : Reaction where
  controller := { s with
    trigger := if wait then s.trigger.cancel else s.trigger
    offering := if session then s.offering.withoutSession else s.offering }
  effects := if session then s.offering.rejections else []
  changed := wait && !s.trigger.isIdle || session && s.offering.session.isSome

theorem unchanged_eq_ending (s : Controller) : Reaction.unchanged s = s.ending false false := rfl

theorem stopWaiting_eq (s : Controller) :
    s.stopWaiting = ⟨{ s with trigger := s.trigger.cancel }, [], !s.trigger.isIdle⟩ := rfl

theorem stopWaiting_eq_ending (s : Controller) : s.stopWaiting = s.ending true false := by
  simp [stopWaiting_eq, ending]

theorem rejectLive_eq (s : Controller) :
    s.rejectLive = ⟨{ s with offering := s.offering.withoutSession }, s.offering.rejections,
      s.offering.session.isSome⟩ := by
  unfold rejectLive
  rw [Offering.reject_eq]
  cases live : s.offering.session with
  | none =>
      simp [Reaction.unchanged, Offering.withoutSession_of_none live, live]
  | some x => simp [live]

theorem rejectLive_eq_ending (s : Controller) : s.rejectLive = s.ending false true := by
  simp [rejectLive_eq, ending]

theorem abandon_eq (s : Controller) :
    s.abandon = ⟨{ s with
        trigger := s.trigger.cancel
        offering := s.offering.withoutSession }, s.offering.rejections,
      s.offering.session.isSome || !s.trigger.isIdle⟩ := by
  simp only [abandon, stopWaiting_eq, rejectLive_eq]
  rfl

theorem abandon_eq_ending (s : Controller) : s.abandon = s.ending true true := by
  simp [abandon_eq, ending, Bool.or_comm]

/-- Ending the wait if `p`, and then the session if `q`. -/
theorem ite_eq_ending (s : Controller) (p q : Prop) [Decidable p] [Decidable q] :
    (if q then (if p then s.stopWaiting else .unchanged s).controller.rejectLive.alsoChanged
        (if p then s.stopWaiting else .unchanged s).changed
      else if p then s.stopWaiting else .unchanged s) = s.ending p q := by
  simp only [stopWaiting_eq, rejectLive_eq]
  split <;> split <;> simp [*, ending, Reaction.alsoChanged, Reaction.unchanged, Bool.or_comm]

/-- Stopping to wait leaves the session. -/
theorem offering_ite_stopWaiting (s : Controller) (p : Prop) [Decidable p] :
    (if p then s.stopWaiting else .unchanged s).controller.offering = s.offering := by
  split <;> rfl

/-- **A moved selection** ends everything if it was made by hand, and else what is
about another place of its document.  During an insertion it ends nothing. -/
theorem reactToSelection_eq_ending (s : Controller) (selection : Selection) :
    s.reactToSelection selection = s.ending
      (s.offering.editing = false ∧ (selection.kind = .mouse ∨
        s.trigger.document? = some selection.document ∧
          s.trigger.cursor? ≠ some selection.cursor))
      (s.offering.editing = false ∧ (selection.kind = .mouse ∨
        (s.offering.session.any fun x =>
          x.document == selection.document && x.expectedCursor != selection.cursor) = true)) := by
  unfold reactToSelection
  cases editing : s.offering.editing with
  | true => simp [unchanged_eq_ending]
  | false =>
      by_cases mouse : selection.kind = .mouse
      · simp [mouse, abandon_eq_ending]
      · simp only [mouse, Bool.false_eq_true, ↓reduceIte, offering_ite_stopWaiting, ite_eq_ending,
          true_and, false_or]

/-- Another active editor ends everything. -/
theorem reactToEditor_eq_ending (s : Controller) (editor : Option FocusedEditor) :
    s.reactToEditor editor =
      (({ s with active := editor } : Controller).ending true true).alsoChanged
        (s.active != editor) := by
  rw [reactToEditor, abandon_eq_ending]

/-- Losing the focus ends everything, gaining it nothing. -/
theorem reactToFocus_eq_ending (s : Controller) (focused : Bool) :
    s.reactToFocus focused =
      (({ s with windowFocused := focused } : Controller).ending (!focused) (!focused)).alsoChanged
        (s.windowFocused != focused) := by
  unfold reactToFocus
  cases focused with
  | true => simp [ending, Reaction.alsoChanged, Reaction.quiet]
  | false => simp [abandon_eq_ending]

/-- The active editor after a document was closed. -/
def activeWithout (s : Controller) (document : DocumentId) : Option FocusedEditor :=
  if s.activeDocument = some document then none else s.active

/-- Closing a document ends the wait in it, and the session in it. -/
theorem reactToClosing_eq_ending (s : Controller) (document : DocumentId) :
    s.reactToClosing document =
      (({ s with active := s.activeWithout document } : Controller).ending
          (s.trigger.document? = some document)
          (s.offering.session.any fun x => x.document == document)).alsoChanged
        (s.activeDocument == some document) := by
  have closing (t : Controller) :
      (let first := if t.trigger.document? = some document then t.stopWaiting else .unchanged t
      if first.controller.offering.session.any fun x => x.document == document then
        first.controller.rejectLive.alsoChanged first.changed else first) =
      t.ending (t.trigger.document? = some document)
        (t.offering.session.any fun x => x.document == document) := by
    simp only [offering_ite_stopWaiting, ite_eq_ending, Bool.decide_eq_true]
  unfold reactToClosing activeWithout
  by_cases active : s.activeDocument = some document
  · simp only [active, beq_self_eq_true, ↓reduceIte]
    rw [← closing { s with active := none }]
  · simp only [beq_eq_false_iff_ne.mpr active, active, Bool.false_eq_true, ↓reduceIte]
    rw [← closing s]

/-! ## Typing -/

/-- **Typing is waited for, or the wait is given up** and a prompt may come up. -/
theorem scheduleOrSuppress_cases (s : Controller) (change : Change) (now : Instant) :
    (s.gate.reasonAgainstTrigger change.snapshot.languageId = none ∧
        s.scheduleOrSuppress change now =
          .quiet { s with trigger := s.trigger.schedule change.snapshot now } true) ∨
      ∃ (prompt : Option Prompt) (shown : PromptsShown), s.prompts.Grows prompt.toList shown ∧
        s.scheduleOrSuppress change now =
          ⟨{ s with trigger := s.trigger.cancel, prompts := shown },
            prompt.toList.map .prompt, !s.trigger.isIdle⟩ := by
  unfold scheduleOrSuppress
  split
  · next reason _ =>
    obtain ⟨prompt, shown, grows, once⟩ := promptOnce_cases s.stopWaiting.controller reason
    refine .inr ⟨prompt, shown, grows, ?_⟩
    simp only [once]
    cases prompt <;> rfl
  · next granted => exact .inl ⟨granted, rfl⟩

/-- Where there is no session, typing starts the wait or may not start it. -/
theorem reactToTyping_of_none (gone : s.offering.session = none) (change : Change)
    (now : Instant) : s.reactToTyping change now = s.scheduleOrSuppress change now := by
  simp [reactToTyping, gone]

/-- **Typing along** goes on with the session and does nothing else. -/
theorem reactToTyping_of_narrowed {x y : Session} {change : Change} {text : String}
    (live : s.offering.session = some x)
    (place : change.insertion? = some (x.expectedCursor, text))
    (narrowed : x.narrow? text = some y) (now : Instant) :
    s.reactToTyping change now =
      .quiet { s with offering := { s.offering with session := some y } } true := by
  simp [reactToTyping, typeAlong, Offering.typeAlong, live, place, narrowed]

/-- Rejecting the session and starting the wait anew. -/
def rejectAndWait (s : Controller) (change : Change) (now : Instant) : Reaction :=
  let next := s.rejectLive.controller.scheduleOrSuppress change now
  ⟨next.controller, s.rejectLive.effects ++ next.effects, s.rejectLive.changed || next.changed⟩

/-- **Typing goes on with the session, or rejects it and starts the wait anew.** -/
theorem reactToTyping_cases (s : Controller) (change : Change) (now : Instant) :
    (∃ x y text, s.offering.session = some x ∧
        change.insertion? = some (x.expectedCursor, text) ∧ x.narrow? text = some y ∧
        s.reactToTyping change now =
          .quiet { s with offering := { s.offering with session := some y } } true) ∨
      s.reactToTyping change now = s.rejectAndWait change now := by
  cases live : s.offering.session with
  | none =>
      refine .inr ?_
      simp [reactToTyping_of_none live, rejectAndWait, rejectLive_eq, live,
        Offering.withoutSession_of_none live]
  | some x =>
      -- only one insertion at the expected cursor can be typing along
      by_cases along : ∃ text y, change.insertion? = some (x.expectedCursor, text) ∧
          x.narrow? text = some y
      · obtain ⟨text, y, place, narrowed⟩ := along
        exact .inl ⟨x, y, text, rfl, place, narrowed,
          reactToTyping_of_narrowed live place narrowed now⟩
      · have result : s.typeAlong change x = (.diverged, s) := by
          unfold typeAlong
          split
          · next offset text inserted =>
            split
            · next here =>
              subst here
              cases narrowed : x.narrow? text with
              | none => simp [Offering.typeAlong, live, narrowed]
              | some y => exact absurd ⟨text, y, inserted, narrowed⟩ along
            · rfl
          · rfl
        exact .inr (by simp only [reactToTyping, live, result, rejectAndWait])

/-- Where the wait starts anew, there is no session, and it was rejected. -/
theorem rejectAndWait_cases (s : Controller) (change : Change) (now : Instant) :
    (s.gate.reasonAgainstTrigger change.snapshot.languageId = none ∧
        s.rejectAndWait change now =
          ⟨{ s with
              trigger := s.trigger.schedule change.snapshot now
              offering := s.offering.withoutSession }, s.offering.rejections, true⟩) ∨
      ∃ (prompt : Option Prompt) (shown : PromptsShown), s.prompts.Grows prompt.toList shown ∧
        s.rejectAndWait change now =
          ⟨{ s with
              trigger := s.trigger.cancel
              offering := s.offering.withoutSession
              prompts := shown }, s.offering.rejections ++ prompt.toList.map .prompt,
            s.offering.session.isSome || !s.trigger.isIdle⟩ := by
  unfold rejectAndWait
  simp only [rejectLive_eq]
  obtain ⟨granted, next⟩ | ⟨prompt, shown, grows, next⟩ :=
    scheduleOrSuppress_cases { s with offering := s.offering.withoutSession } change now
  · refine .inl ⟨granted, ?_⟩
    rw [next]
    simp [Reaction.quiet]
  · refine .inr ⟨prompt, shown, grows, ?_⟩
    rw [next]

/-! ## Asking by hand -/

/-- **Asking by hand** passes unheard in other languages; elsewhere it ends
everything, and then a request begins or there is a prompt. -/
theorem reactToInvocation_cases (s : Controller) (snapshot : Snapshot) :
    (s.languages.supports snapshot.languageId = false ∧
        s.reactToInvocation snapshot = .unchanged s) ∨
      (∃ reason, s.languages.supports snapshot.languageId = true ∧
        s.gate.reasonAgainstConnection = some reason ∧
        s.reactToInvocation snapshot =
          (s.ending true true).alsoDo ((promptOf reason).map .prompt)) ∨
      s.languages.supports snapshot.languageId = true ∧ s.gate.reasonAgainstConnection = none ∧
        s.reactToInvocation snapshot =
          ⟨{ s with
              trigger := s.trigger.begin snapshot
              offering := s.offering.withoutSession },
            s.offering.rejections ++ [.requestCompletion (s.trigger.lastSeq + 1)
              (.ofSnapshot snapshot s.languages s.settings .manual none)], true⟩ := by
  unfold reactToInvocation
  simp only [stopWaiting_eq, rejectLive_eq]
  cases supported : s.languages.supports snapshot.languageId with
  | false => exact .inl ⟨rfl, rfl⟩
  | true =>
      refine .inr ?_
      -- the rules on the connection do not ask what has just been ended
      have same : ({ s with
          trigger := s.trigger.cancel
          offering := s.offering.withoutSession } : Controller).gate.reasonAgainstConnection =
        s.gate.reasonAgainstConnection := rfl
      simp only [Bool.not_true, Bool.false_eq_true, ↓reduceIte, same]
      split
      · next reason refused =>
        refine .inl ⟨reason, trivial, refused, ?_⟩
        simp [ending, Bool.or_comm]
      · next granted => exact .inr ⟨trivial, granted, rfl⟩

/-! ## The passing of time, and answers -/

/-- **What the passing of time can do.** -/
inductive Passes (s : Controller) (now : Instant) (r : Reaction) : Prop
  /-- Nothing is due. -/
  | still (next : r = .unchanged s)
  /-- Typing has settled, but suggestions are in sight. -/
  | hidden (deadline : Instant) (snapshot : Snapshot)
      (waiting : s.trigger.phase = .debouncing deadline snapshot)
      (next : r = .quiet { s with trigger := s.trigger.cancel } true)
  /-- Typing has settled, but the connection has gone bad. -/
  | refused (deadline : Instant) (snapshot : Snapshot)
      (waiting : s.trigger.phase = .debouncing deadline snapshot)
      (next : r = .quiet { s with trigger := (s.trigger.begin snapshot).cancel } true)
  /-- Typing has settled, and the request begins. -/
  | asks (deadline : Instant) (snapshot : Snapshot)
      (waiting : s.trigger.phase = .debouncing deadline snapshot) (due : deadline ≤ now)
      (granted : s.gate.reasonAgainstConnection = none)
      (next : r =
        ⟨{ s with
            trigger := s.trigger.begin snapshot
            offering := s.offering.withoutSession },
          [.requestCompletion (s.trigger.lastSeq + 1)
            (.ofSnapshot snapshot s.languages s.settings .auto s.sinceLastModification)], true⟩)

theorem passes (s : Controller) (now : Instant) : s.Passes now (s.reactToTime now) := by
  unfold reactToTime
  obtain still | ⟨deadline, snapshot, waiting, due, ⟨-, polled⟩ | ⟨-, polled⟩⟩ :=
    s.trigger.poll_cases now s.offering.isVisible
  · rw [still]
    refine .still ?_
    simp only [Reaction.quiet, Reaction.unchanged]
    cases s.trigger.deadline? <;> rfl
  · rw [polled]
    refine .hidden deadline snapshot waiting ?_
    simp [Trigger.deadline?, waiting]
  · rw [polled]
    -- the rules on the connection do not ask what is waited for
    have same : ({ s with trigger := s.trigger.begin snapshot } :
        Controller).gate.reasonAgainstConnection = s.gate.reasonAgainstConnection := rfl
    simp only [same]
    split
    · exact .refused deadline snapshot waiting rfl
    · next granted => exact .asks deadline snapshot waiting due granted rfl

/-- The answer to the request in flight is taken. -/
theorem reactToAnswer_of_inFlight {q : InFlight} (phase : s.trigger.phase = .inFlight q)
    (outcome : RequestOutcome) :
    s.reactToAnswer q.seq outcome =
      .quiet { s with
        trigger := s.trigger.cancel
        offering := s.offering.afterAnswer q outcome } true := by
  rw [reactToAnswer, Trigger.complete_of_inFlight phase]
  cases outcome <;> rfl

/-- Every other answer passes unheard. -/
theorem reactToAnswer_of_ne {seq : Nat} (stale : s.trigger.seqInFlight? ≠ some seq)
    (outcome : RequestOutcome) : s.reactToAnswer seq outcome = .unchanged s := by
  rw [reactToAnswer, Trigger.complete_of_ne stale]

/-- **An answer is taken if its request is in flight**, and passes unheard if not. -/
theorem reactToAnswer_cases (s : Controller) (seq : Nat) (outcome : RequestOutcome) :
    (s.trigger.seqInFlight? ≠ some seq ∧ s.reactToAnswer seq outcome = .unchanged s) ∨
      ∃ q, s.trigger.phase = .inFlight q ∧ q.seq = seq ∧
        s.reactToAnswer seq outcome =
          .quiet { s with
            trigger := s.trigger.cancel
            offering := s.offering.afterAnswer q outcome } true := by
  by_cases flying : s.trigger.seqInFlight? = some seq
  · obtain ⟨q, phase, rfl⟩ := Trigger.seqInFlight?_eq_some_iff.mp flying
    exact .inr ⟨q, phase, rfl, reactToAnswer_of_inFlight phase outcome⟩
  · exact .inl ⟨flying, reactToAnswer_of_ne flying outcome⟩

/-- An answer asks for nothing. -/
theorem effects_reactToAnswer (s : Controller) (seq : Nat) (outcome : RequestOutcome) :
    (s.reactToAnswer seq outcome).effects = [] := by
  obtain ⟨-, next⟩ | ⟨q, -, -, next⟩ := s.reactToAnswer_cases seq outcome <;> rw [next] <;> rfl

/-- Without a live session there is nothing to accept. -/
theorem react_accepted_of_none (gone : s.offering.session = none) :
    s.react .accepted = .unchanged s := by
  simp only [react, Offering.accept, gone]

/-! ## Connection and settings -/

/-- **A valid connection lets every prompt come up again**, any other one ends the
wait. -/
theorem reactToConnection_cases (s : Controller) (status : ConnectionStatus) :
    (status.valid = true ∧
        s.reactToConnection status =
          .quiet { s with connection := status, prompts := .none } (s.connection != status)) ∨
      status.valid = false ∧
        s.reactToConnection status =
          (({ s with connection := status } : Controller).ending true false).alsoChanged
            (s.connection != status) := by
  unfold reactToConnection
  cases valid : status.valid with
  | true => exact .inl ⟨rfl, rfl⟩
  | false => exact .inr ⟨rfl, by simp [stopWaiting_eq_ending]⟩

/-- News of the connection ask for nothing. -/
theorem effects_reactToConnection (s : Controller) (status : ConnectionStatus) :
    (s.reactToConnection status).effects = [] := by
  obtain ⟨-, next⟩ | ⟨-, next⟩ := s.reactToConnection_cases status <;> rw [next] <;> rfl

/-- **Other settings** bring the pause that is waited for, and end the wait for typing
where typing does not ask for suggestions any more. -/
theorem reactToSettings_cases (s : Controller) (settings : Settings) :
    (settings = s.settings ∧ s.reactToSettings settings = .unchanged s) ∨
      ∃ trigger, (trigger = { s.trigger with settleDelay := settings.settleDelay } ∧
            (settings.autoTriggerEnabled = true ∨ s.trigger.deadline? = none) ∨
          trigger = { s.trigger with settleDelay := settings.settleDelay }.cancel) ∧
        s.reactToSettings settings =
          .quiet { s with trigger := trigger, settings := settings } true := by
  unfold reactToSettings
  split
  · next same => exact .inl ⟨same, rfl⟩
  · refine .inr ⟨_, ?_, rfl⟩
    split
    · exact .inr rfl
    · next kept =>
      refine .inl ⟨rfl, ?_⟩
      cases automatic : settings.autoTriggerEnabled with
      | true => exact .inl rfl
      | false =>
          have still : ({ s.trigger with settleDelay := settings.settleDelay } :
              Trigger).deadline? = none := by simpa [automatic] using kept
          exact .inr still

/-- Other settings ask for nothing. -/
theorem effects_reactToSettings (s : Controller) (settings : Settings) :
    (s.reactToSettings settings).effects = [] := by
  obtain ⟨-, next⟩ | ⟨trigger, -, next⟩ := s.reactToSettings_cases settings <;> rw [next] <;> rfl

end Controller

end InlineCompletion
