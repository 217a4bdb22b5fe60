import InlineCompletion.Controller
import InlineCompletion.Proofs.Session.Sound

/-!
# What one event can do

Fifteen kinds of events reach the controller, and most of them can do several
things.  Seen from the trigger and the offering, however, there are only eight
*courses* that a reaction can take, and every statement about requests,
sessions and decisions is a statement about those.  `Course` lists them, and
`Controller.course` shows that there is no other.

### What the list rests on

Two courses could be worse than they are.  A tick that begins a request drops
whatever session there is, and accepting drops a session that has nothing left
to insert; either would end a session without a decision.  Neither happens,
because of what `Coherent` says: a live session leaves the trigger idle, and it
is sound.  So the list of courses is proved *from* coherence, and
`Course.coherent` closes the circle: every course keeps it.

`Course` speaks of a trigger and an offering instead of a controller.  A handler
that changes some other part of the controller first and hands on the rest is
then covered as it stands.
-/

namespace InlineCompletion

/-! ## The trigger, call by call -/

namespace Trigger

/-- The number of the request in flight. -/
def seqInFlight? (t : Trigger) : Option Nat := t.inFlight?.map (·.seq)

/-- `t'` waits for what `t` waits for, or for nothing. -/
structure RestsAs (t t' : Trigger) : Prop where
  phase : t'.phase = t.phase ∨ t'.phase = .idle
  lastSeq : t'.lastSeq = t.lastSeq

theorem RestsAs.refl (t : Trigger) : t.RestsAs t := ⟨.inl rfl, rfl⟩

theorem RestsAs.cancel (t : Trigger) : t.RestsAs t.cancel := ⟨.inr rfl, rfl⟩

theorem seqInFlight?_of_inFlight {t : Trigger} {q : InFlight} (flying : t.phase = .inFlight q) :
    t.seqInFlight? = some q.seq := by
  simp [seqInFlight?, inFlight?, flying]

theorem seqInFlight?_eq_some_iff {t : Trigger} {seq : Nat} :
    t.seqInFlight? = some seq ↔ ∃ q, t.phase = .inFlight q ∧ q.seq = seq := by
  unfold seqInFlight? inFlight?
  cases t.phase with
  | idle => simp
  | debouncing deadline snapshot => simp
  | inFlight q => simp

/-- The answer to the request in flight is taken. -/
theorem complete_of_inFlight {t : Trigger} {q : InFlight} (flying : t.phase = .inFlight q) :
    t.complete q.seq = (some q, t.cancel) := by
  simp [complete, flying]

/-- Every other answer finds no one waiting. -/
theorem complete_of_ne {t : Trigger} {seq : Nat} (stale : t.seqInFlight? ≠ some seq) :
    t.complete seq = (none, t) := by
  unfold complete
  split
  · next q flying =>
    rw [if_neg]
    rintro rfl
    exact stale (seqInFlight?_of_inFlight flying)
  · rfl

/-- A poll does nothing, drops the wait because suggestions are visible, or fires. -/
theorem poll_cases (t : Trigger) (now : Instant) (visible : Bool) :
    t.poll now visible = (none, t) ∨
      ∃ deadline snapshot, t.phase = .debouncing deadline snapshot ∧ deadline ≤ now ∧
        (visible = true ∧ t.poll now visible = (none, t.cancel) ∨
          visible = false ∧
            t.poll now visible = (some ⟨t.lastSeq + 1, snapshot⟩, t.begin snapshot)) := by
  unfold poll
  split
  · next deadline snapshot waiting =>
    by_cases early : now < deadline
    · exact .inl (by simp [early])
    · refine .inr ⟨deadline, snapshot, waiting, Nat.le_of_not_lt early, ?_⟩
      cases visible with
      | true => exact .inl ⟨rfl, by simp [early]⟩
      | false => exact .inr ⟨rfl, by simp [early]⟩
  · exact .inl rfl

end Trigger

/-! ## The offering, call by call -/

namespace Offering

/-- What is said when the live session is rejected. -/
def rejections (o : Offering) : List Effect :=
  (o.session.map fun x => Effect.recordDecision x.rejection).toList

@[simp] theorem rejections_of_none {o : Offering} (gone : o.session = none) :
    o.rejections = [] := by
  simp [rejections, gone]

@[simp] theorem rejections_of_some {o : Offering} {x : Session} (live : o.session = some x) :
    o.rejections = [.recordDecision x.rejection] := by
  simp [rejections, live]

@[simp] theorem recognizeEcho_session (o : Offering) (c : Change) :
    (o.recognizeEcho c).2.session = o.session := by
  unfold recognizeEcho
  split
  · rfl
  · split
    · rfl
    · split <;> rfl

/-- Looking for an echo never begins an insertion. -/
theorem editing_of_recognizeEcho {o : Offering} {c : Change}
    (under : (o.recognizeEcho c).2.editing = true) : o.editing = true := by
  unfold recognizeEcho at under
  split at under
  · exact under
  · split at under
    · cases under
    · split at under <;> exact under

end Offering

/-! ## What effects say of one kind

A list of effects is read with a partial function, one for each kind of thing
that effects may say.  About prompts and rejections most such functions have
nothing to say. -/

section Readings

variable {α : Type} {read : Effect → Option α}

theorem filterMap_prompts (silent : ∀ p, read (.prompt p) = none) (prompts : List Prompt) :
    (prompts.map Effect.prompt).filterMap read = [] := by
  rw [List.filterMap_map, List.filterMap_eq_nil_iff]
  intro prompt _
  exact silent prompt

theorem filterMap_rejections (silent : ∀ d, read (.recordDecision d) = none) (o : Offering) :
    o.rejections.filterMap read = [] := by
  cases live : o.session <;> simp [live, silent]

end Readings

/-! ## Coherence -/

/-- **A trigger and an offering at one with each other.**  The live session is
the answer to the last request, can be seen and can be decided, and nothing is
waited for beside it; a request in flight is the last one that began. -/
structure Coherent (t : Trigger) (o : Offering) : Prop where
  idle_of_live : ∀ x, o.session = some x → t.phase = .idle
  seq_of_inFlight : ∀ q, t.phase = .inFlight q → q.seq = t.lastSeq
  seq_of_live : ∀ x, o.session = some x → x.requestSeq = t.lastSeq
  visible_of_live : ∀ x, o.session = some x → x.visible = true
  sound_of_live : ∀ x, o.session = some x → x.Sound

/-- While anything is waited for there is no session. -/
theorem Coherent.session_of_not_idle {t : Trigger} {o : Offering} (coherent : Coherent t o)
    (busy : t.phase ≠ .idle) : o.session = none := by
  cases live : o.session with
  | none => rfl
  | some x => exact absurd (coherent.idle_of_live x live) busy

/-- Without a session, only the number of the request in flight matters. -/
theorem coherent_of_none {t : Trigger} {o : Offering} (gone : o.session = none)
    (seq : ∀ q, t.phase = .inFlight q → q.seq = t.lastSeq) : Coherent t o where
  idle_of_live x live := by simp [gone] at live
  seq_of_inFlight := seq
  seq_of_live x live := by simp [gone] at live
  visible_of_live x live := by simp [gone] at live
  sound_of_live x live := by simp [gone] at live

/-! ## The courses -/

/-- **What a reaction can do** to a trigger `t` and an offering `o`, and what it
then asks for.  Prompts say nothing about either and may come with the first
two courses. -/
inductive Course (t : Trigger) (o : Offering) (e : Event) (t' : Trigger) (o' : Offering)
    (effects : List Effect) : Prop
  /-- Nothing begins, and the session stays as it is. -/
  | rest (prompts : List Prompt) (trigger : t.RestsAs t') (session : o'.session = o.session)
      (editing : o'.editing = true → o.editing = true) (told : effects = prompts.map .prompt)
  /-- Nothing begins, and the session is rejected. -/
  | reject (prompts : List Prompt) (trigger : t.RestsAs t') (session : o'.session = none)
      (editing : o'.editing = true → o.editing = true)
      (told : effects = o.rejections ++ prompts.map .prompt)
  /-- The session goes on, narrowed or with another current item. -/
  | move (x y : Session) (trigger : t' = t) (before : o.session = some x)
      (session : o'.session = some y) (same : x.SameOffer y) (sound : y.Sound)
      (editing : o'.editing = true → o.editing = true) (told : effects = [])
  /-- Typing is waited for, and the session is rejected. -/
  | wait (deadline : Instant) (snapshot : Snapshot)
      (phase : t'.phase = .debouncing deadline snapshot) (lastSeq : t'.lastSeq = t.lastSeq)
      (session : o'.session = none) (editing : o'.editing = true → o.editing = true)
      (told : effects = o.rejections)
  /-- A request begins, and the session is rejected. -/
  | ask (snapshot : Snapshot) (request : Request) (trigger : t' = t.begin snapshot)
      (session : o'.session = none) (editing : o'.editing = true → o.editing = true)
      (told : effects = o.rejections ++ [.requestCompletion (t.lastSeq + 1) request])
  /-- A request that typing asked for uses up a number and is not sent. -/
  | drop (deadline : Instant) (snapshot : Snapshot)
      (phase : t.phase = .debouncing deadline snapshot) (trigger : t' = (t.begin snapshot).cancel)
      (session : o'.session = o.session) (editing : o'.editing = true → o.editing = true)
      (told : effects = [])
  /-- The answer to the request in flight opens a session. -/
  | opening (q : InFlight) (response : List Suggestion) (y : Session)
      (event : e = .answered q.seq (.suggestions response)) (phase : t.phase = .inFlight q)
      (trigger : t' = t.cancel)
      (opened : Session.open? q.seq q.document q.cursor response = some y)
      (session : o'.session = some y) (editing : o'.editing = true → o.editing = true)
      (told : effects = [])
  /-- The session is accepted. -/
  | accept (x : Session) (insert : Insertion) (place : Nat) (event : e = .accepted)
      (trigger : t' = t) (before : o.session = some x) (session : o'.session = none)
      (editing : o'.editing = true)
      (told : effects = [.insertText insert,
        .recordDecision ⟨x.requestSeq, x.document, .accepted place⟩])

namespace Course

variable {t t' : Trigger} {o o' : Offering} {e : Event} {effects : List Effect}

/-- Nothing at all happens. -/
theorem refl (t : Trigger) (o : Offering) (e : Event) : Course t o e t o [] :=
  .rest [] (.refl t) rfl id rfl

/-- A course may start from an offering that differs in the awaited insertion
alone, or in that no insertion is under way any more. -/
theorem of_offering {o₁ : Offering} (session : o₁.session = o.session)
    (editing : o₁.editing = true → o.editing = true)
    (course : Course t o₁ e t' o' effects) : Course t o e t' o' effects := by
  have same : o₁.rejections = o.rejections := by simp [Offering.rejections, session]
  cases course with
  | rest prompts trigger stays under told =>
      exact .rest prompts trigger (stays.trans session) (editing ∘ under) told
  | reject prompts trigger gone under told =>
      exact .reject prompts trigger gone (editing ∘ under) (same ▸ told)
  | move x y trigger before after offer sound under told =>
      exact .move x y trigger (session ▸ before) after offer sound (editing ∘ under) told
  | wait deadline snapshot phase lastSeq gone under told =>
      exact .wait deadline snapshot phase lastSeq gone (editing ∘ under) (same ▸ told)
  | ask snapshot request trigger gone under told =>
      exact .ask snapshot request trigger gone (editing ∘ under) (same ▸ told)
  | drop deadline snapshot phase trigger stays under told =>
      exact .drop deadline snapshot phase trigger (stays.trans session) (editing ∘ under) told
  | opening q response y event phase trigger opened after under told =>
      exact .opening q response y event phase trigger opened after (editing ∘ under) told
  | accept x insert place event trigger before gone up told =>
      exact .accept x insert place event trigger (session ▸ before) gone up told

/-- **Every course keeps coherence.** -/
theorem coherent (course : Course t o e t' o' effects) (before : Coherent t o) :
    Coherent t' o' := by
  cases course with
  | rest prompts trigger session editing told =>
      -- whatever is waited for now was waited for before
      have phase {p : Trigger.Phase} (busy : p ≠ .idle) (h : t'.phase = p) : t.phase = p := by
        rcases trigger.phase with same | idle
        · exact same.symm.trans h
        · exact absurd (h.symm.trans idle) busy
      refine ⟨?_, ?_, ?_, ?_, ?_⟩
      · intro x live
        rw [session] at live
        rcases trigger.phase with same | idle
        · rw [same]
          exact before.idle_of_live x live
        · exact idle
      · intro q flying
        rw [trigger.lastSeq]
        exact before.seq_of_inFlight q (phase (by simp) flying)
      · intro x live
        rw [session] at live
        rw [trigger.lastSeq]
        exact before.seq_of_live x live
      · intro x live
        rw [session] at live
        exact before.visible_of_live x live
      · intro x live
        rw [session] at live
        exact before.sound_of_live x live
  | reject prompts trigger session editing told =>
      refine coherent_of_none session fun q flying => ?_
      rcases trigger.phase with same | idle
      · rw [same] at flying
        rw [trigger.lastSeq]
        exact before.seq_of_inFlight q flying
      · simp [idle] at flying
  | move x y trigger was session same sound editing told =>
      subst trigger
      refine ⟨?_, before.seq_of_inFlight, ?_, ?_, ?_⟩ <;> intro z live <;>
        obtain rfl := Option.some.inj (session.symm.trans live)
      · exact before.idle_of_live x was
      · exact same.requestSeq.trans (before.seq_of_live x was)
      · exact same.visible.trans (before.visible_of_live x was)
      · exact sound
  | wait deadline snapshot phase lastSeq session editing told =>
      exact coherent_of_none session fun q flying => by simp [phase] at flying
  | ask snapshot request trigger session editing told =>
      subst trigger
      refine coherent_of_none session fun q flying => ?_
      simp only [Trigger.begin_phase, Trigger.Phase.inFlight.injEq] at flying
      rw [← flying, Trigger.begin_lastSeq]
  | drop deadline snapshot phase trigger session editing told =>
      have gone : o'.session = none :=
        session.trans (before.session_of_not_idle (by simp [phase]))
      subst trigger
      exact coherent_of_none gone fun q flying => by simp at flying
  | opening q response y event phase trigger opened session editing told =>
      obtain ⟨shape, -⟩ := Session.eq_of_open? opened
      have seq : y.requestSeq = t.lastSeq := by
        rw [shape]
        exact before.seq_of_inFlight q phase
      subst trigger
      refine ⟨fun _ _ => rfl, fun q flying => by simp at flying, ?_, ?_, ?_⟩ <;> intro z live <;>
        obtain rfl := Option.some.inj (session.symm.trans live)
      · exact seq
      · rw [shape]
      · exact Session.sound_of_open? opened
  | accept x insert place event trigger was session editing told =>
      subst trigger
      exact coherent_of_none session before.seq_of_inFlight

end Course

end InlineCompletion
