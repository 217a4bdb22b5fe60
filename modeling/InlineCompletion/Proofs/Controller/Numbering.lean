import InlineCompletion.Proofs.Controller.Handlers

/-!
# Requests and answers in the order of their numbers

A number is handed out once, when its request begins, and its answer is taken at
most once.  Both are instances of one argument.  Something is said along a run,
in numbers; there is a *floor* that no later number lies below; no event lowers
the floor, and an event that says numbers says them above the old floor and
below the new one.  Then all the numbers of a run increase
(`Controller.collect_increasing`).

* For the requests that are sent the floor is the number after the last one.
* For the answers that are taken it is `Trigger.nextAnswer`: the number in
  flight, or the number after the last one when none is in flight.

The second floor decides, too, which requests are over: those below it.
-/

namespace InlineCompletion

/-! ## What effects say of requests -/

/-- The number of the request that an effect sends. -/
def Effect.requestSeq? : Effect → Option Nat
  | .requestCompletion seq _ => some seq
  | _ => none

/-- The numbers of the requests that effects send, in order. -/
def requestSeqs (effects : List Effect) : List Nat := effects.filterMap Effect.requestSeq?

@[simp] theorem requestSeqs_append (es fs : List Effect) :
    requestSeqs (es ++ fs) = requestSeqs es ++ requestSeqs fs :=
  List.filterMap_append

@[simp] theorem requestSeqs_prompts (prompts : List Prompt) :
    requestSeqs (prompts.map .prompt) = [] :=
  filterMap_prompts (fun _ => rfl) prompts

@[simp] theorem requestSeqs_rejections (o : Offering) : requestSeqs o.rejections = [] :=
  filterMap_rejections (fun _ => rfl) o

/-! ## The two floors -/

namespace Trigger

/-- The least number whose answer may still be taken. -/
def nextAnswer (t : Trigger) : Nat :=
  match t.phase with
  | .inFlight q => q.seq
  | _ => t.lastSeq + 1

theorem nextAnswer_of_inFlight {t : Trigger} {q : InFlight} (flying : t.phase = .inFlight q) :
    t.nextAnswer = q.seq := by
  simp [nextAnswer, flying]

theorem nextAnswer_of_ne {t : Trigger} (still : ∀ q, t.phase ≠ .inFlight q) :
    t.nextAnswer = t.lastSeq + 1 := by
  unfold nextAnswer
  split
  · next q flying => exact absurd flying (still q)
  · rfl

@[simp] theorem nextAnswer_cancel (t : Trigger) : t.cancel.nextAnswer = t.lastSeq + 1 := rfl

@[simp] theorem nextAnswer_begin (t : Trigger) (s : Snapshot) :
    (t.begin s).nextAnswer = t.lastSeq + 1 := rfl

end Trigger

section Floors

variable {t t' : Trigger} {o o' : Offering} {e : Event} {effects : List Effect}

theorem Coherent.nextAnswer_le (coherent : Coherent t o) : t.nextAnswer ≤ t.lastSeq + 1 := by
  unfold Trigger.nextAnswer
  split
  · next q flying =>
    rw [coherent.seq_of_inFlight q flying]
    exact Nat.le_succ _
  · exact Nat.le_refl _

/-- **The requests that are over are those below `nextAnswer`**: they began, and
they are not in flight. -/
theorem Coherent.lt_nextAnswer_iff (coherent : Coherent t o) {seq : Nat} :
    seq < t.nextAnswer ↔ seq ≤ t.lastSeq ∧ t.seqInFlight? ≠ some seq := by
  by_cases flying : ∃ q, t.phase = .inFlight q
  · obtain ⟨q, flying⟩ := flying
    rw [Trigger.nextAnswer_of_inFlight flying, Trigger.seqInFlight?_of_inFlight flying,
      ← coherent.seq_of_inFlight q flying, ne_eq, Option.some.injEq]
    omega
  · have still : ∀ q, t.phase ≠ .inFlight q := fun q h => flying ⟨q, h⟩
    have none : t.seqInFlight? ≠ some seq := fun h =>
      let ⟨q, h, _⟩ := Trigger.seqInFlight?_eq_some_iff.mp h
      still q h
    rw [Trigger.nextAnswer_of_ne still, Nat.lt_succ_iff, and_iff_left none]

namespace Course

/-- No course takes a number back. -/
theorem lastSeq_le (course : Course t o e t' o' effects) : t.lastSeq ≤ t'.lastSeq := by
  cases course with
  | rest _ trigger _ _ _ | reject _ trigger _ _ _ => exact Nat.le_of_eq trigger.lastSeq.symm
  | move _ _ trigger _ _ _ _ _ _ | accept _ _ _ _ trigger _ _ _ _ =>
      exact Nat.le_of_eq (congrArg _ trigger.symm)
  | wait _ _ _ lastSeq _ _ _ => exact Nat.le_of_eq lastSeq.symm
  | ask _ _ trigger _ _ _ | drop _ _ _ trigger _ _ _ => simp [trigger]
  | opening _ _ _ _ _ trigger _ _ _ _ => simp [trigger]

/-- A course sends the request with the next number, or none. -/
theorem requestSeqs_cases (course : Course t o e t' o' effects) :
    requestSeqs effects = [] ∨
      requestSeqs effects = [t.lastSeq + 1] ∧ t'.lastSeq = t.lastSeq + 1 := by
  cases course with
  | rest _ _ _ _ told | reject _ _ _ _ told => exact .inl (by simp [told])
  | move _ _ _ _ _ _ _ _ told | drop _ _ _ _ _ _ told => exact .inl (by rw [told]; rfl)
  | wait _ _ _ _ _ _ told => exact .inl (by simp [told])
  | ask _ _ trigger _ _ told => exact .inr ⟨by simp [told]; rfl, by rw [trigger]; rfl⟩
  | opening _ _ _ _ _ _ _ _ _ told | accept _ _ _ _ _ _ _ _ told =>
      exact .inl (by rw [told]; rfl)

/-- No course lets an answer be taken again. -/
theorem nextAnswer_le (course : Course t o e t' o' effects) (coherent : Coherent t o) :
    t.nextAnswer ≤ t'.nextAnswer := by
  have bound : t.nextAnswer ≤ t.lastSeq + 1 := coherent.nextAnswer_le
  -- a course that leaves the trigger idle or waiting goes to the upper bound
  have resting {p : Trigger.Phase} (h : t'.phase = p) (still : ∀ q, p ≠ .inFlight q) :
      t.nextAnswer ≤ t'.nextAnswer := by
    have idle : ∀ q, t'.phase ≠ .inFlight q := fun q flying => still q (h.symm.trans flying)
    rw [Trigger.nextAnswer_of_ne idle]
    exact Nat.le_trans bound (Nat.succ_le_succ course.lastSeq_le)
  have rests (trigger : t.RestsAs t') : t.nextAnswer ≤ t'.nextAnswer := by
    rcases trigger.phase with same | idle
    · simp only [Trigger.nextAnswer, same, trigger.lastSeq, Nat.le_refl]
    · exact resting idle (by simp)
  cases course with
  | rest _ trigger _ _ _ | reject _ trigger _ _ _ => exact rests trigger
  | move _ _ trigger _ _ _ _ _ _ | accept _ _ _ _ trigger _ _ _ _ =>
      exact Nat.le_of_eq (congrArg _ trigger.symm)
  | wait _ _ phase _ _ _ _ => exact resting phase (by simp)
  | ask _ _ trigger _ _ _ =>
      rw [trigger, Trigger.nextAnswer_begin]
      exact bound
  | drop _ _ _ trigger _ _ _ => exact resting (p := .idle) (by rw [trigger]; rfl) (by simp)
  | opening _ _ _ _ _ trigger _ _ _ _ =>
      rw [trigger, Trigger.nextAnswer_cancel]
      exact bound

end Course

end Floors

/-! ## Numbers along a run -/

namespace Controller

variable {s : Controller}

/-- What `f` says of each event of a run, in order. -/
def collect {α : Type} (f : Controller → Event → List α) (s : Controller) : List Event → List α
  | [] => []
  | e :: rest => f s e ++ collect f (s.react e).controller rest

@[simp] theorem collect_nil {α : Type} (f : Controller → Event → List α) (s : Controller) :
    collect f s [] = [] := rfl

@[simp] theorem collect_cons {α : Type} (f : Controller → Event → List α) (s : Controller)
    (e : Event) (es : List Event) :
    collect f s (e :: es) = f s e ++ collect f (s.react e).controller es := rfl

/-- What is said along a run is said at one of its events. -/
theorem mem_collect {α : Type} {f : Controller → Event → List α} {es : List Event} {x : α} :
    x ∈ collect f s es ↔
      ∃ before e later, es = before ++ e :: later ∧ x ∈ f (s.after before) e := by
  induction es generalizing s with
  | nil => simp
  | cons e es ih =>
      rw [collect_cons, List.mem_append, ih]
      constructor
      · rintro (now | ⟨before, e', later, rfl, said⟩)
        · exact ⟨[], e, es, rfl, now⟩
        · exact ⟨e :: before, e', later, rfl, said⟩
      · rintro ⟨before, e', later, split, said⟩
        cases before with
        | nil =>
            obtain ⟨rfl, rfl⟩ := List.cons.inj split
            exact .inl said
        | cons first before =>
            obtain ⟨rfl, rest⟩ := List.cons.inj split
            exact .inr ⟨before, e', later, rest, said⟩

/-- **Numbers between one floor and the next increase along a run**, and all of
them lie between the first floor and the last. -/
theorem collect_increasing {f : Controller → Event → List Nat} (floor : Trigger → Nat)
    (rises : ∀ (s : Controller) (e : Event), Coherent s.trigger s.offering →
      floor s.trigger ≤ floor (s.react e).controller.trigger)
    (between : ∀ (s : Controller) (e : Event), Coherent s.trigger s.offering →
      (f s e).Pairwise (· < ·) ∧
        ∀ n ∈ f s e, floor s.trigger ≤ n ∧ n < floor (s.react e).controller.trigger)
    (coherent : Coherent s.trigger s.offering) (es : List Event) :
    (collect f s es).Pairwise (· < ·) ∧ floor s.trigger ≤ floor (s.after es).trigger ∧
      ∀ n ∈ collect f s es, floor s.trigger ≤ n ∧ n < floor (s.after es).trigger := by
  induction es generalizing s with
  | nil => simp
  | cons e es ih =>
      obtain ⟨later, higher, bounds⟩ := ih (coherent_react coherent e)
      obtain ⟨now, within⟩ := between s e coherent
      have step := rises s e coherent
      refine ⟨List.pairwise_append.mpr ⟨now, later, ?_⟩, Nat.le_trans step higher, ?_⟩
      -- the floor after the first event separates its numbers from all later ones
      · intro n first m second
        exact Nat.lt_of_lt_of_le (within n first).2 (bounds m second).1
      · intro n member
        rcases List.mem_append.mp member with first | second
        · exact ⟨(within n first).1, Nat.lt_of_lt_of_le (within n first).2 higher⟩
        · exact ⟨Nat.le_trans step (bounds n second).1, (bounds n second).2⟩

/-! ### Requests -/

theorem requestSeqs_effectsOf (s : Controller) (es : List Event) :
    requestSeqs (s.effectsOf es) = collect (fun s e => requestSeqs (s.react e).effects) s es := by
  induction es generalizing s with
  | nil => rfl
  | cons e es ih => simp [ih]

/-- **Requests are sent in the order of their numbers**, each number at most
once, and every one of them has begun by the end. -/
theorem requestSeqs_increasing (coherent : Coherent s.trigger s.offering) (es : List Event) :
    (requestSeqs (s.effectsOf es)).Pairwise (· < ·) ∧
      ∀ n ∈ requestSeqs (s.effectsOf es), n ≤ (s.after es).trigger.lastSeq := by
  rw [requestSeqs_effectsOf]
  obtain ⟨increasing, -, bounds⟩ := collect_increasing (s := s)
    (f := fun s e => requestSeqs (s.react e).effects) (fun t => t.lastSeq + 1)
    (fun s e coherent => Nat.succ_le_succ (course coherent e).lastSeq_le)
    (fun s e coherent => by
      rcases (course coherent e).requestSeqs_cases with silent | ⟨one, next⟩
      · simp [silent]
      · simp [one, next])
    coherent es
  exact ⟨increasing, fun n member => Nat.le_of_lt_succ (bounds n member).2⟩

/-! ### Answers -/

/-- The number of the request whose answer an event brings, if that answer is
taken. -/
def answerTaken? (s : Controller) : Event → Option Nat
  | .answered seq _ => (s.trigger.complete seq).1.map (·.seq)
  | _ => none

/-- The numbers of the requests whose answers are taken along a run. -/
def answersTaken (s : Controller) (es : List Event) : List Nat :=
  collect (fun s e => (s.answerTaken? e).toList) s es

theorem answerTaken?_eq_some_iff {e : Event} {n : Nat} :
    s.answerTaken? e = some n ↔
      (∃ outcome, e = .answered n outcome) ∧ s.trigger.seqInFlight? = some n := by
  cases e with
  | answered seq outcome =>
      by_cases flying : s.trigger.seqInFlight? = some seq
      · obtain ⟨q, phase, rfl⟩ := Trigger.seqInFlight?_eq_some_iff.mp flying
        simp [answerTaken?, Trigger.complete_of_inFlight phase, flying]
      · simp only [answerTaken?, Trigger.complete_of_ne flying, Option.map_none, reduceCtorEq,
          false_iff, Event.answered.injEq]
        rintro ⟨⟨_, rfl, -⟩, same⟩
        exact flying same
  | _ => simp [answerTaken?]

/-- Taking an answer leaves the trigger idle. -/
theorem trigger_of_answer {q : InFlight} (flying : s.trigger.phase = .inFlight q)
    (outcome : RequestOutcome) :
    (s.react (.answered q.seq outcome)).controller.trigger = s.trigger.cancel := by
  rw [react, reactToAnswer_of_inFlight flying]
  rfl

/-- **Answers are taken in the order of their requests**, each at most once. -/
theorem answersTaken_increasing (coherent : Coherent s.trigger s.offering) (es : List Event) :
    (s.answersTaken es).Pairwise (· < ·) := by
  refine (collect_increasing Trigger.nextAnswer
    (fun s e coherent => (course coherent e).nextAnswer_le coherent) ?_ coherent es).1
  intro s e coherent
  refine ⟨by cases s.answerTaken? e <;> simp, ?_⟩
  intro n taken
  obtain ⟨⟨outcome, rfl⟩, flying⟩ := answerTaken?_eq_some_iff.mp (Option.mem_toList.mp taken)
  obtain ⟨q, phase, rfl⟩ := Trigger.seqInFlight?_eq_some_iff.mp flying
  rw [Trigger.nextAnswer_of_inFlight phase, trigger_of_answer phase, Trigger.nextAnswer_cancel,
    coherent.seq_of_inFlight q phase]
  exact ⟨Nat.le_refl _, Nat.lt_succ_self _⟩

/-- The least number whose answer may still be taken never falls. -/
theorem nextAnswer_after (coherent : Coherent s.trigger s.offering) (es : List Event) :
    s.trigger.nextAnswer ≤ (s.after es).trigger.nextAnswer := by
  induction es generalizing s with
  | nil => exact Nat.le_refl _
  | cons e es ih =>
      exact Nat.le_trans ((course coherent e).nextAnswer_le coherent)
        (ih (coherent_react coherent e))

end Controller

end InlineCompletion
