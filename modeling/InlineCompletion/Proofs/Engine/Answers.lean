import Mathlib.Data.List.Perm.Basic
import Mathlib.Logic.Relation
import InlineCompletion.Proofs.Controller.Accepting
import InlineCompletion.Proofs.Engine.Invariants
import InlineCompletion.Proofs.Request.Asking

/-!
# What a decision's position points into

A decision names an accepted suggestion by its position.  A session's items bear
the positions that they had in the answer the controller was given, and typing
along and navigating move items about but never renumber them.  What the
controller is given is not what the service said, though: suggestions with code
references may have been taken out on the way, and those that are left count
anew.  **A position points into the wanted suggestions**
(`Engine.accepted_position_among_wanted`), and into the service's own answer
only where nothing was taken out.

The argument follows one request.  At any time it is in at most one place: it
waits as a task, its outcome is on the bus, or its session is live (`placesOf`).
So once its outcome is on the bus nothing else will ever bear its number
(`AnsweredBy`), and a session that does was opened by that outcome.
-/

namespace InlineCompletion

/-! ## What is wanted of a reply -/

/-- Where nothing is taken out, all suggestions are wanted. -/
theorem RequestPolicy.wanted_eq_self {policy : RequestPolicy}
    {response : List Suggestion}
    (all : policy.includeReferences = true ∨ ∀ x ∈ response, x.hasReferences = false) :
    policy.wanted response = response := by
  unfold RequestPolicy.wanted
  split
  · rfl
  · next some' =>
    have plain := all.resolve_left some'
    exact List.filter_eq_self.mpr fun x member => by simp [plain x member]

/-! ## The places of a request -/

/-- The number of the request that is to be made. -/
def BackgroundTask.seq? : BackgroundTask → Option Nat
  | .request seq _ _ => some seq
  | .post _ => none

/-- The number of the request that is answered. -/
def Event.answeredSeq? : Event → Option Nat
  | .answered seq _ => some seq
  | _ => none

/-- The number of the request that the live session answers. -/
def Offering.liveSeqs (o : Offering) : List Nat := o.session.toList.map (·.requestSeq)

/-- The number of places where request `seq` is. -/
def placesOf (seq : Nat) (o : Offering) (bus : List Event) (tasks : List BackgroundTask) : Nat :=
  (tasks.filterMap BackgroundTask.seq?).count seq +
    (bus.filterMap Event.answeredSeq?).count seq + o.liveSeqs.count seq

section Places

variable {t t' : Trigger} {o o' : Offering} {e : Event} {effects : List Effect}
  {bus : List Event} {tasks : List BackgroundTask}

@[simp] theorem filterMap_seq?_tasksOf (policy : RequestPolicy) (effects : List Effect) :
    (tasksOf policy effects).filterMap BackgroundTask.seq? = requestSeqs effects := by
  rw [tasksOf, requestSeqs, List.filterMap_filterMap]
  congr 1
  funext effect
  cases effect <;> rfl

@[simp] theorem filterMap_answeredSeq?_wordsOf (effects : List Effect) :
    (wordsOf effects).filterMap Event.answeredSeq? = [] := by
  rw [wordsOf, List.filterMap_filterMap, List.filterMap_eq_nil_iff]
  intro effect _
  cases effect <;> rfl

/-- Taking out a task takes out its number. -/
theorem seqs_eraseIdx_perm {place seq : Nat} {request : Request} {policy : RequestPolicy}
    (task : tasks[place]? = some (.request seq request policy)) :
    (seq :: (tasks.eraseIdx place).filterMap BackgroundTask.seq?).Perm
      (tasks.filterMap BackgroundTask.seq?) := by
  obtain ⟨inside, found⟩ := List.getElem?_eq_some_iff.mp task
  have taken := (List.getElem_cons_eraseIdx_perm inside).filterMap BackgroundTask.seq?
  rw [found] at taken
  exact taken

/-- Only the answer to a request opens its session. -/
theorem Course.count_liveSeqs_le (course : Course t o e t' o' effects) (seq : Nat) :
    o'.liveSeqs.count seq ≤ o.liveSeqs.count seq + e.answeredSeq?.toList.count seq := by
  unfold Offering.liveSeqs
  cases course with
  | rest _ _ session | drop _ _ _ _ session => rw [session]; exact Nat.le_add_right _ _
  | reject _ _ gone | wait _ _ _ _ gone | ask _ _ _ gone | accept _ _ _ _ _ _ gone =>
      rw [gone]
      exact Nat.zero_le _
  | move x y _ before after same => simp [before, after, same.requestSeq]
  | opening q response y event _ _ opened after =>
      obtain ⟨shape, -⟩ := Session.eq_of_open? opened
      rw [after, event, shape]
      exact Nat.le_add_left _ _

/-- A reaction puts a request in a new place only if it sends it, or is told its
outcome. -/
theorem Course.placesOf_le (course : Course t o e t' o' effects) (bus : List Event)
    (tasks : List BackgroundTask) (seq : Nat) (policy : RequestPolicy) :
    placesOf seq o' (bus ++ wordsOf effects) (tasks ++ tasksOf policy effects) ≤
      placesOf seq o bus tasks + (requestSeqs effects).count seq +
        e.answeredSeq?.toList.count seq := by
  have live := course.count_liveSeqs_le seq
  simp only [placesOf, List.filterMap_append, List.count_append, filterMap_seq?_tasksOf,
    filterMap_answeredSeq?_wordsOf, List.count_nil]
  omega

/-- A request that has not begun is nowhere. -/
theorem Orderly.placesOf_eq_zero (orderly : Orderly t o bus tasks) {seq : Nat}
    (later : t.lastSeq < seq) : placesOf seq o bus tasks = 0 := by
  have noTask : seq ∉ tasks.filterMap BackgroundTask.seq? := by
    intro member
    obtain ⟨k, member, same⟩ := List.mem_filterMap.mp member
    obtain ⟨n, request, policy, rfl, bound⟩ := orderly.requests k member
    obtain rfl := Option.some.inj same
    omega
  have noAnswer : seq ∉ bus.filterMap Event.answeredSeq? := by
    intro member
    obtain ⟨m, member, same⟩ := List.mem_filterMap.mp member
    obtain rfl | ⟨n, bound, outcome, rfl⟩ := orderly.messages m member
    · cases same
    · obtain rfl := Option.some.inj same
      omega
  have noSession : seq ∉ o.liveSeqs := by
    intro member
    obtain ⟨x, live, rfl⟩ := List.mem_map.mp member
    have bound := orderly.coherent.seq_of_live x (Option.mem_toList.mp live)
    omega
  simp [placesOf, List.count_eq_zero_of_not_mem noTask, List.count_eq_zero_of_not_mem noAnswer,
    List.count_eq_zero_of_not_mem noSession]

end Places

namespace Engine

open Playback (Backend)

/-- Every request is in one place at most. -/
def InOnePlace (s : Controller) (bus : List Event) (tasks : List BackgroundTask) : Prop :=
  ∀ seq, placesOf seq s.offering bus tasks ≤ 1

theorem invariant_inOnePlace : Invariant InOnePlace where
  report {s bus tasks} e orderly host once seq := by
    have course := Controller.course orderly.coherent e
    have bound := course.placesOf_le bus tasks seq (.ofSettings (s.react e).controller.settings)
    have told : e.answeredSeq? = none := by cases e <;> first | rfl | cases host
    rw [told, Option.toList_none, List.count_nil, Nat.add_zero] at bound
    refine Nat.le_trans bound ?_
    rcases course.requestSeqs_cases with silent | ⟨sent, -⟩
    · rw [silent]
      exact once seq
    · -- the number that is handed out is new
      rw [sent]
      by_cases same : seq = s.trigger.lastSeq + 1
      · subst same
        simp [orderly.placesOf_eq_zero (Nat.lt_succ_self _)]
      · rw [List.count_singleton, if_neg (by simpa using Ne.symm same)]
        exact once seq
  message {s m rest tasks} orderly once seq := by
    have course := Controller.course orderly.coherent m
    have live := course.count_liveSeqs_le seq
    have bound := once seq
    cases answer : m.answeredSeq? <;>
      simp_all only [placesOf, List.filterMap_cons, Option.toList_none, Option.toList_some,
        List.count_nil, List.count_cons] <;>
      omega
  finish {s bus tasks place seq' request policy} outcome orderly task once seq := by
    have bound := once seq
    have taken := (seqs_eraseIdx_perm task).count_eq seq
    rw [List.count_cons] at taken
    simp only [placesOf, List.filterMap_append, List.filterMap_cons, List.filterMap_nil,
      Event.answeredSeq?, List.count_append, List.count_singleton] at bound ⊢
    omega

/-- In a reachable engine every request is in one place at most. -/
theorem Reachable.inOnePlace {e : Engine} (reachable : e.Reachable) : e.Has InOnePlace :=
  invariant_inOnePlace.reachable (fun _ _ _ => Nat.zero_le _) reachable

/-! ## A request whose outcome is known -/

/-- **Request `seq` came to its end, and what it was answered, if anything, is
`response`.** -/
structure AnsweredBy (seq : Nat) (response : List Suggestion) (s : Controller)
    (bus : List Event) (tasks : List BackgroundTask) : Prop where
  begun : seq ≤ s.trigger.lastSeq
  /-- It does not wait any more. -/
  finished : ∀ request policy, .request seq request policy ∉ tasks
  /-- No other answer to it is on the bus. -/
  answer : ∀ given, .answered seq (.suggestions given) ∈ bus → given = response
  /-- The items of its session are the suggestions at their positions. -/
  items : ∀ x, s.offering.session = some x → x.requestSeq = seq →
    ∀ item ∈ x.items, response[item.responseIndex]? = some item.suggestion

namespace AnsweredBy

variable {seq : Nat} {response : List Suggestion} {s : Controller} {bus : List Event}
  {tasks : List BackgroundTask}

/-- The items of the next session, if the event is told the right answer. -/
theorem items_react (answered : AnsweredBy seq response s bus tasks)
    (coherent : Coherent s.trigger s.offering) {e : Event}
    (told : ∀ given, e = .answered seq (.suggestions given) → given = response) (x : Session)
    (live : (s.react e).controller.offering.session = some x) (same : x.requestSeq = seq) :
    ∀ item ∈ x.items, response[item.responseIndex]? = some item.suggestion := by
  intro item member
  cases Controller.course coherent e with
  | rest _ _ session | drop _ _ _ _ session =>
      exact answered.items x (session ▸ live) same item member
  | reject _ _ gone | wait _ _ _ _ gone | ask _ _ _ gone | accept _ _ _ _ _ _ gone =>
      simp [gone] at live
  | move y z _ before after offer =>
      obtain rfl := Option.some.inj (after.symm.trans live)
      exact answered.items y before (offer.requestSeq.symm.trans same) item
        (offer.items item member)
  | opening q given y event _ _ opened after =>
      obtain rfl := Option.some.inj (after.symm.trans live)
      obtain ⟨shape, -⟩ := Session.eq_of_open? opened
      subst shape
      obtain rfl := told given (same ▸ event)
      exact (Session.mem_itemsOf.mp member).1

/-- No reaction sends a request that has begun. -/
theorem finished_react (answered : AnsweredBy seq response s bus tasks)
    (coherent : Coherent s.trigger s.offering) (e : Event) (options : RequestPolicy)
    (request : Request) (policy : RequestPolicy) :
    .request seq request policy ∉ tasks ++ tasksOf options (s.react e).effects := by
  rw [List.mem_append, not_or]
  refine ⟨answered.finished request policy, fun member => ?_⟩
  have sent : seq ∈ requestSeqs (s.react e).effects := by
    rw [← filterMap_seq?_tasksOf options]
    exact List.mem_filterMap.mpr ⟨_, member, rfl⟩
  have begun := answered.begun
  rcases (Controller.course coherent e).requestSeqs_cases with silent | ⟨next, -⟩
  · simp [silent] at sent
  · rw [next, List.mem_singleton] at sent
    omega

end AnsweredBy

theorem invariant_answeredBy (seq : Nat) (response : List Suggestion) :
    Invariant (AnsweredBy seq response) where
  report {s bus tasks} e orderly host answered := by
    refine ⟨?_, answered.finished_react orderly.coherent e _, ?_,
      answered.items_react orderly.coherent fun given same => ?_⟩
    · exact Nat.le_trans answered.begun (Controller.course orderly.coherent e).lastSeq_le
    · intro given member
      rcases List.mem_append.mp member with old | new
      · exact answered.answer given old
      · -- no effect puts an answer on the bus
        have none' := filterMap_answeredSeq?_wordsOf (s.react e).effects
        rw [List.filterMap_eq_nil_iff] at none'
        cases none' _ new
    · rw [same] at host
      cases host
  message {s m rest tasks} orderly answered := by
    refine ⟨?_, answered.finished, ?_, answered.items_react orderly.coherent fun given same => ?_⟩
    · exact Nat.le_trans answered.begun (Controller.course orderly.coherent m).lastSeq_le
    · exact fun given member => answered.answer given (List.mem_cons_of_mem _ member)
    · exact answered.answer given (same ▸ List.mem_cons_self)
  finish {s bus tasks place seq' request policy} outcome orderly task answered := by
    refine ⟨answered.begun, ?_, ?_, answered.items⟩
    · exact fun request policy member =>
        answered.finished request policy (List.mem_of_mem_eraseIdx member)
    · intro given member
      rcases List.mem_append.mp member with old | new
      · exact answered.answer given old
      · -- the request that ends is another one
        obtain ⟨rfl, -⟩ := Event.answered.inj (List.mem_singleton.mp new)
        exact absurd (List.mem_of_getElem? task) (answered.finished _ _)

/-! ## The outcome of a request -/

/-- Whatever credential is found for the request, the service replies `response`. -/
def Replies {σ : Type} (p : Provider σ) (c : CompletionService σ) (m : ConnectionManager)
    (request : Request) (s : σ) (response : List Suggestion) : Prop :=
  ∀ credential s', m.credential p s = (.ok credential, s') →
    (c.generate request credential s').1.result = .ok response

/-- Of a reply that is not given up the wanted suggestions are answered. -/
theorem eq_wanted_of_outcomeOf {σ : Type} {p : Provider σ} {c : CompletionService σ}
    {m : ConnectionManager} {request : Request} {policy : RequestPolicy} {s : σ}
    {response given : List Suggestion} (replies : Replies p c m request s response)
    (answered : outcomeOf (askForSuggestions p c m request policy s).1 = .suggestions given) :
    given = policy.wanted response := by
  cases found : (m.credential p s).1 with
  | error e =>
    rw [askForSuggestions_of_error found] at answered
    cases answered
  | ok credential =>
    have result := replies credential _ (Prod.ext found rfl)
    rw [askForSuggestions_of_ok found] at answered
    cases expired : c.timer.expires policy.timeout
        (c.generate request credential (m.credential p s).2).1 with
    | true =>
      rw [Reply.answer_of_expired expired] at answered
      cases answered
    | false =>
      rw [Reply.answer_of_ok expired result] at answered
      exact (RequestOutcome.suggestions.inj answered).symm

variable {σ : Type} {p : Provider σ} {c : CompletionService σ} {e e₁ e₂ : Engine} {place seq : Nat}
  {request : Request} {policy : RequestPolicy} {s s' : σ} {response : List Suggestion}

/-- A request that came to its end was answered, if anything, the wanted
suggestions of the service's reply: it was in one place, and now it is on the bus. -/
theorem answeredBy_of_runTask (reachable : e₁.Reachable)
    (task : e₁.tasks[place]? = some (.request seq request policy))
    (ran : e₁.runTask p c place s = some (e₂, s'))
    (replies : Replies p c e₁.manager request s response) :
    e₂.Has (AnsweredBy seq (policy.wanted response)) := by
  have waits := List.mem_of_getElem? task
  have ended := runTask_request task ran
  obtain ⟨_, _, _, same, begun⟩ := reachable.inOrder.requests _ waits
  obtain ⟨rfl, -, -⟩ := BackgroundTask.request.inj same
  -- before it was among the tasks, and so nowhere else
  have before : placesOf seq e₁.controller.offering e₁.bus e₁.tasks ≤ 1 := reachable.inOnePlace seq
  have counted : 0 < (e₁.tasks.filterMap BackgroundTask.seq?).count seq :=
    List.count_pos_iff.mpr (List.mem_filterMap.mpr ⟨_, waits, rfl⟩)
  -- and now it is on the bus
  have after : placesOf seq e₂.controller.offering e₂.bus e₂.tasks ≤ 1 :=
    (reachable.move (.runTask p c e₁ e₂ place s s' ran)).inOnePlace seq
  rw [ended] at after ⊢
  simp only [placesOf, List.filterMap_append, List.filterMap_cons, List.filterMap_nil,
    Event.answeredSeq?, List.count_append, List.count_singleton_self] at before after
  refine ⟨begun, ?_, ?_, ?_⟩
  · intro request policy member
    have : 0 < ((e₁.tasks.eraseIdx place).filterMap BackgroundTask.seq?).count seq :=
      List.count_pos_iff.mpr (List.mem_filterMap.mpr ⟨_, member, rfl⟩)
    omega
  · intro given member
    rcases List.mem_append.mp member with old | new
    · have : 0 < (e₁.bus.filterMap Event.answeredSeq?).count seq :=
        List.count_pos_iff.mpr (List.mem_filterMap.mpr ⟨_, old, rfl⟩)
      omega
    · obtain ⟨-, outcome⟩ := Event.answered.inj (List.mem_singleton.mp new)
      exact eq_wanted_of_outcomeOf replies outcome.symm
  · intro x live same
    have : 0 < e₁.controller.offering.liveSeqs.count seq := by
      refine List.count_pos_iff.mpr (List.mem_map.mpr ⟨x, Option.mem_toList.mpr live, same⟩)
    omega

/-- A request's answer stays what it is, whatever moves follow. -/
theorem answeredBy_later (reachable : e₁.Reachable) (answered : e₁.Has (AnsweredBy seq response))
    (moves : Relation.ReflTransGen Move e₁ e₂) :
    e₂.Reachable ∧ e₂.Has (AnsweredBy seq response) := by
  induction moves with
  | refl => exact ⟨reachable, answered⟩
  | tail _ step ih =>
      obtain ⟨reachable, answered⟩ := ih
      exact ⟨reachable.move step,
        (invariant_answeredBy seq response).move reachable.inOrder step answered⟩

/-- **A decision's position points into the wanted suggestions.**  Let the service
reply to request `seq`, and let anything happen after the request came to its
end.  If then the acceptance of a suggestion at some position is recorded for
that request, the suggestion is at that position among the wanted ones: what was
typed along and what the editor is asked to insert are together its content.
Where no suggestion was taken out of the reply, it is at that position of the
reply itself. -/
theorem accepted_position_among_wanted (reachable : e₁.Reachable)
    (task : e₁.tasks[place]? = some (.request seq request policy))
    (ran : e₁.runTask p c place s = some (e₂, s'))
    (replies : Replies p c e₁.manager request s response)
    (later : Relation.ReflTransGen Move e₂ e) {event : Event} {document : DocumentId}
    {position : Nat}
    (recorded : .recordDecision ⟨seq, document, .accepted position⟩ ∈
      (e.controller.react event).effects) :
    ∃ x text suggestion, e.controller.offering.session = some x ∧ x.requestSeq = seq ∧
      .insertText ⟨document, x.expectedCursor, text⟩ ∈ (e.controller.react event).effects ∧
      (policy.wanted response)[position]? = some suggestion ∧
      suggestion.content = x.typed ++ text ∧
      ((policy.includeReferences = true ∨ ∀ y ∈ response, y.hasReferences = false) →
        response[position]? = some suggestion) := by
  have answered := answeredBy_of_runTask reachable task ran replies
  obtain ⟨reached, answered⟩ :=
    answeredBy_later (reachable.move (.runTask p c e₁ e₂ place s s' ran)) answered later
  have coherent := reached.inOrder.coherent
  obtain ⟨rfl, x, live⟩ := (Controller.course coherent event).event_of_accepts recorded rfl
  obtain ⟨item, text, current, whole, -, reaction⟩ := Controller.react_accepted coherent live
  -- the decision that is recorded is the one on the live session
  have decision : seq = x.requestSeq ∧ document = x.document ∧ position = item.responseIndex := by
    rw [reaction] at recorded
    simpa using recorded
  obtain ⟨rfl, rfl, rfl⟩ := decision
  have found := answered.items x live rfl item (List.mem_of_getElem? current)
  refine ⟨x, text, item.suggestion, live, rfl, ?_, found, whole, fun all => ?_⟩
  · rw [reaction]
    exact List.mem_cons_self
  · rw [← RequestPolicy.wanted_eq_self all]
    exact found

/-- A reply whose first suggestion comes with a code reference. -/
def mixedReply : List Suggestion :=
  [⟨" panic!()", [⟨some "MIT", none, none, none⟩]⟩, .plain " main() {}"]

/-- A user who does not want suggestions with code references asks by hand. -/
def askedForPlain : Engine :=
  ((new { Settings.standard with includeSuggestionsWithReferences := false } .standard
    signedIn.manager).handle (.invoked ⟨⟨"main.rs"⟩, "rust", "main.rs", "fn", 2⟩)).2

/-- The service replies, and what is wanted of the reply is on the bus. -/
def answeredPlain : Engine :=
  { askedForPlain with tasks := [], bus := [.answered 1 (.suggestions [.plain " main() {}"])] }

/-- The world that the service replies in. -/
def mixedWorld : Backend := { signedIn.provider with replies := [mixedReply] }

theorem reachable_askedForPlain : askedForPlain.Reachable :=
  (Reachable.new _ _ _).move (.report _ _ rfl)

/-- The credential is found, and the service replies what the world has for it. -/
theorem replies_mixed (request : Request) :
    Replies Backend.provider Backend.service askedForPlain.manager request mixedWorld
      mixedReply := by
  intro credential s' found
  obtain ⟨-, rfl⟩ : _ ∧ mixedWorld = s' := Prod.mk.inj found
  rfl

/-- The suggestion that is accepted is the first of the wanted ones. -/
theorem accepted_position_among_wanted_mixed :
    ∃ x text suggestion, answeredPlain.pollBus.2.controller.offering.session = some x ∧
      x.requestSeq = 1 ∧
      .insertText ⟨⟨"main.rs"⟩, x.expectedCursor, text⟩ ∈
        (answeredPlain.pollBus.2.controller.react .accepted).effects ∧
      ((RequestPolicy.mk (.ofMillis 5000) false).wanted mixedReply)[0]? = some suggestion ∧
      suggestion.content = x.typed ++ text := by
  have task : askedForPlain.tasks[0]? = some (.request 1
      (.ofSnapshot ⟨⟨"main.rs"⟩, "rust", "main.rs", "fn", 2⟩ .standard .standard .manual none)
      ⟨.ofMillis 5000, false⟩) := rfl
  have recorded : .recordDecision ⟨1, ⟨"main.rs"⟩, .accepted 0⟩ ∈
      (answeredPlain.pollBus.2.controller.react .accepted).effects := by decide
  obtain ⟨x, text, suggestion, live, seq, inserted, found, whole, -⟩ :=
    accepted_position_among_wanted reachable_askedForPlain task rfl (replies_mixed _)
      (.single (.pollBus answeredPlain)) recorded
  exact ⟨x, text, suggestion, live, seq, inserted, found, whole⟩

/-- **The position may miss the service's reply.**  Here the second suggestion of
the reply is accepted, and the position that is recorded is that of the first. -/
theorem accepted_position_misses_reply :
    askedForPlain.Reachable ∧
      Replies Backend.provider Backend.service askedForPlain.manager
        (.ofSnapshot ⟨⟨"main.rs"⟩, "rust", "main.rs", "fn", 2⟩ .standard .standard .manual none)
        mixedWorld mixedReply ∧
      (askedForPlain.runTask Backend.provider Backend.service 0 mixedWorld).map Prod.fst =
        some answeredPlain ∧
      (answeredPlain.pollBus.2.controller.react .accepted).effects =
        [.insertText ⟨⟨"main.rs"⟩, 2, " main() {}"⟩,
          .recordDecision ⟨1, ⟨"main.rs"⟩, .accepted 0⟩] ∧
      mixedReply[0]?.map (·.content) = some " panic!()" :=
  ⟨reachable_askedForPlain, replies_mixed _, by decide, by decide, by decide⟩

end Engine

end InlineCompletion
