import InlineCompletion.Proofs.Controller.Numbering

/-!
# Every session is decided exactly once

A session and the decision on it have a *subject* in common: the number of the
request that was answered, and the document.  Three lists of subjects belong to
a run: those of the sessions it opened, those of the decisions it asks to be
recorded, and that of the session that is live at its end.
`opened_eq_decided_append_live` says that **the first list is the second followed
by the third**.  A session that got lost, was replaced in silence or was decided
twice would break the equation, and so would a decision without a session.

One event satisfies the same equation (`subjects_step`), with the session that
was live before it in front on the left; the rest is induction on the events.
-/

namespace InlineCompletion

/-! ## Subjects -/

/-- What a session is about: the request that was answered, and the document. -/
def Session.subject (x : Session) : Nat × DocumentId := (x.requestSeq, x.document)

/-- What a decision is about. -/
def Decision.subject (d : Decision) : Nat × DocumentId := (d.requestSeq, d.document)

/-- The decision that an effect records. -/
def Effect.decision? : Effect → Option Decision
  | .recordDecision d => some d
  | _ => none

/-- The decisions that effects record, in order. -/
def decisionsIn (effects : List Effect) : List Decision := effects.filterMap Effect.decision?

@[simp] theorem decisionsIn_append (es fs : List Effect) :
    decisionsIn (es ++ fs) = decisionsIn es ++ decisionsIn fs :=
  List.filterMap_append

@[simp] theorem decisionsIn_prompts (prompts : List Prompt) :
    decisionsIn (prompts.map .prompt) = [] :=
  filterMap_prompts (fun _ => rfl) prompts

/-- The subjects of the decisions that effects record. -/
def decidedSubjects (effects : List Effect) : List (Nat × DocumentId) :=
  (decisionsIn effects).map Decision.subject

@[simp] theorem decidedSubjects_nil : decidedSubjects [] = [] := rfl

@[simp] theorem decidedSubjects_append (es fs : List Effect) :
    decidedSubjects (es ++ fs) = decidedSubjects es ++ decidedSubjects fs := by
  simp [decidedSubjects]

@[simp] theorem decidedSubjects_prompts (prompts : List Prompt) :
    decidedSubjects (prompts.map .prompt) = [] := by
  simp [decidedSubjects]

namespace Offering

/-- The subject of the live session, if there is one. -/
def liveSubjects (o : Offering) : List (Nat × DocumentId) :=
  o.session.toList.map Session.subject

theorem liveSubjects_of_none {o : Offering} (gone : o.session = none) : o.liveSubjects = [] := by
  simp [liveSubjects, gone]

theorem liveSubjects_of_some {o : Offering} {x : Session} (live : o.session = some x) :
    o.liveSubjects = [x.subject] := by
  simp [liveSubjects, live]

/-- Rejecting the live session decides on it. -/
@[simp] theorem decidedSubjects_rejections (o : Offering) :
    decidedSubjects o.rejections = o.liveSubjects := by
  cases live : o.session with
  | none => simp [liveSubjects, live]
  | some x =>
      simp only [rejections_of_some live, liveSubjects_of_some live]
      rfl

end Offering

namespace Controller

variable {s : Controller} {e : Event}

/-! ## Openings -/

/-- The subject of the session that an event opens: it brings the answer to the
request in flight, and the answer offers something. -/
def opening? (s : Controller) : Event → Option (Nat × DocumentId)
  | .answered seq (.suggestions response) =>
      match (s.trigger.complete seq).1 with
      | some q =>
          if (s.offering.offer seq q.document q.cursor response).1 then some (seq, q.document)
          else none
      | none => none
  | _ => none

/-- The subjects of the sessions that a run opens, in order. -/
def openings (s : Controller) (es : List Event) : List (Nat × DocumentId) :=
  collect (fun s e => (s.opening? e).toList) s es

theorem opening?_eq_some_iff {m : Nat × DocumentId} :
    s.opening? e = some m ↔
      ∃ q response y, e = .answered q.seq (.suggestions response) ∧
        s.trigger.phase = .inFlight q ∧
        Session.open? q.seq q.document q.cursor response = some y ∧ m = y.subject := by
  constructor
  · intro opens
    unfold opening? at opens
    split at opens
    · next seq response =>
      split at opens
      · next q taken =>
        -- only the request in flight is completed, and under its own number
        obtain ⟨q', phase, rfl⟩ : ∃ q', s.trigger.phase = .inFlight q' ∧ q'.seq = seq := by
          refine Trigger.seqInFlight?_eq_some_iff.mp (Decidable.byContradiction fun stale => ?_)
          rw [Trigger.complete_of_ne stale] at taken
          cases taken
        rw [Trigger.complete_of_inFlight phase] at taken
        obtain rfl := Option.some.inj taken
        cases opened : Session.open? q'.seq q'.document q'.cursor response with
        | none => simp [Offering.offer, opened] at opens
        | some y =>
            obtain ⟨shape, -⟩ := Session.eq_of_open? opened
            have subject : y.subject = (q'.seq, q'.document) := by rw [shape]; rfl
            refine ⟨q', response, y, rfl, phase, opened, ?_⟩
            simpa [Offering.offer, opened, subject] using opens.symm
      · cases opens
    · cases opens
  · rintro ⟨q, response, y, rfl, phase, opened, rfl⟩
    obtain ⟨shape, -⟩ := Session.eq_of_open? opened
    have subject : y.subject = (q.seq, q.document) := by rw [shape]; rfl
    simp [opening?, Trigger.complete_of_inFlight phase, Offering.offer, opened, subject]

/-- Openings are among the answers that are taken, so their numbers increase. -/
theorem openings_sublist_answersTaken (s : Controller) (es : List Event) :
    ((s.openings es).map Prod.fst).Sublist (s.answersTaken es) := by
  induction es generalizing s with
  | nil => exact .slnil
  | cons e es ih =>
      have first : ((s.opening? e).toList.map Prod.fst).Sublist (s.answerTaken? e).toList := by
        cases opens : s.opening? e with
        | none => exact List.nil_sublist _
        | some m =>
            obtain ⟨q, response, y, rfl, phase, opened, rfl⟩ := opening?_eq_some_iff.mp opens
            obtain ⟨shape, -⟩ := Session.eq_of_open? opened
            have taken : s.answerTaken? (.answered q.seq (.suggestions response)) = some q.seq :=
              answerTaken?_eq_some_iff.mpr ⟨⟨_, rfl⟩, Trigger.seqInFlight?_of_inFlight phase⟩
            have number : y.subject.1 = q.seq := by rw [shape]; rfl
            simp [taken, number]
      have later := ih (s.react e).controller
      simp only [openings, answersTaken, collect_cons, List.map_append]
      exact first.append later

/-! ## The equation -/

/-- The session that an opening opens, and nothing else to do. -/
theorem react_of_opened {q : InFlight} {response : List Suggestion} {y : Session}
    (phase : s.trigger.phase = .inFlight q)
    (opened : Session.open? q.seq q.document q.cursor response = some y) :
    (s.react (.answered q.seq (.suggestions response))).controller.offering.session = some y ∧
      (s.react (.answered q.seq (.suggestions response))).effects = [] := by
  rw [react, reactToAnswer_of_inFlight phase]
  simp [Offering.afterAnswer, Offering.offer, opened, Reaction.quiet]

/-- **One event conserves the subjects**: what was live and what is opened is
decided or live afterwards. -/
theorem subjects_step (coherent : Coherent s.trigger s.offering) (e : Event) :
    s.offering.liveSubjects ++ (s.opening? e).toList =
      decidedSubjects (s.react e).effects ++ (s.react e).controller.offering.liveSubjects := by
  cases opens : s.opening? e with
  | some m =>
      obtain ⟨q, response, y, rfl, phase, opened, rfl⟩ := opening?_eq_some_iff.mp opens
      obtain ⟨session, told⟩ := react_of_opened phase opened
      -- a request is in flight, so the session that opens replaces none
      have gone : s.offering.session = none := coherent.session_of_not_idle (by simp [phase])
      rw [Offering.liveSubjects_of_none gone, Offering.liveSubjects_of_some session, told]
      rfl
  | none =>
      rw [Option.toList_none, List.append_nil]
      cases course coherent e with
      | rest prompts trigger session editing told =>
          simp [told, Offering.liveSubjects, session]
      | reject prompts trigger session editing told =>
          simp [told, Offering.liveSubjects_of_none session]
      | move x y trigger before session same sound editing told =>
          have subject : x.subject = y.subject :=
            Prod.ext same.requestSeq.symm same.document.symm
          rw [told, Offering.liveSubjects_of_some before, Offering.liveSubjects_of_some session,
            subject]
          rfl
      | wait deadline snapshot phase lastSeq session editing told =>
          simp [told, Offering.liveSubjects_of_none session]
      | ask snapshot request trigger session editing told =>
          rw [told, Offering.liveSubjects_of_none session, decidedSubjects_append,
            Offering.decidedSubjects_rejections]
          simp [decidedSubjects, decisionsIn, Effect.decision?]
      | drop deadline snapshot phase trigger session editing told =>
          simp [told, Offering.liveSubjects, session]
      | opening q response y event phase trigger opened session editing told =>
          have some : s.opening? e = some y.subject :=
            opening?_eq_some_iff.mpr ⟨q, response, y, event, phase, opened, rfl⟩
          rw [some] at opens
          cases opens
      | accept x insert place event trigger before session editing told =>
          rw [told, Offering.liveSubjects_of_some before, Offering.liveSubjects_of_none session]
          rfl

/-- The equation for a run that may begin with a live session. -/
theorem subjects_run (coherent : Coherent s.trigger s.offering) (es : List Event) :
    s.offering.liveSubjects ++ s.openings es =
      decidedSubjects (s.effectsOf es) ++ (s.after es).offering.liveSubjects := by
  induction es generalizing s with
  | nil => simp [openings]
  | cons e es ih =>
      have later := ih (coherent_react coherent e)
      calc s.offering.liveSubjects ++ s.openings (e :: es)
          = (s.offering.liveSubjects ++ (s.opening? e).toList) ++
              (s.react e).controller.openings es := by
            simp [openings]
        _ = decidedSubjects (s.react e).effects ++
              ((s.react e).controller.offering.liveSubjects ++
                (s.react e).controller.openings es) := by
            rw [subjects_step coherent e, List.append_assoc]
        _ = decidedSubjects (s.effectsOf (e :: es)) ++
              (s.after (e :: es)).offering.liveSubjects := by
            rw [later, effectsOf_cons, decidedSubjects_append, after_cons, List.append_assoc]

/-- **Every session is decided exactly once.**  Over any run from a fresh
controller, the subjects of the recorded decisions, followed by that of the
session that is still live, are those of the sessions opened, in the order they
were opened; and these come in the strictly increasing order of their numbers. -/
theorem opened_eq_decided_append_live (settings : Settings) (languages : LanguageTable)
    (es : List Event) :
    decidedSubjects ((new settings languages).effectsOf es) ++
        ((new settings languages).after es).offering.liveSubjects =
      (new settings languages).openings es ∧
    (((new settings languages).openings es).map Prod.fst).Pairwise (· < ·) := by
  have fresh := coherent_new settings languages
  refine ⟨(subjects_run fresh es).symm, ?_⟩
  exact (answersTaken_increasing fresh es).sublist (openings_sublist_answersTaken _ es)

/-- Two sessions one after the other: the first is accepted, and the second is
still on offer. -/
example :
    let ask : Event := .invoked ⟨⟨"main.rs"⟩, "rust", "main.rs", "fn", 2⟩
    let run : List Event := [.connectionChanged ⟨true, true, false, false⟩, ask,
      .answered 1 (.suggestions [.plain " main() {}"]), .accepted, .insertionHandedOver, ask,
      .answered 2 (.suggestions [.plain "x"])]
    let s₀ := new .standard .standard
    decidedSubjects (s₀.effectsOf run) = [(1, ⟨"main.rs"⟩)] ∧
      s₀.openings run = [(1, ⟨"main.rs"⟩), (2, ⟨"main.rs"⟩)] := by decide

end Controller

end InlineCompletion
