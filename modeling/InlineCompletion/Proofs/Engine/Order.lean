import InlineCompletion.Proofs.Controller.Numbering
import InlineCompletion.Proofs.Engine.Runs

/-!
# The order of the bus

Accepting a suggestion raises a flag in the controller and puts a word on the
bus, and the flag comes down when the word is handled.  The word carries no name,
so it could lower the flag of a later acceptance.

## The controller alone does not exclude it

To the controller an answer may come at any time, also between an acceptance and
its acknowledgement, and then a session is live with the flag up.  What excludes
that is the order of the bus.  The request that the session answers began after
the acceptance, so its outcome was put on the bus behind the acknowledgement.

`Orderly` is this argument as an invariant.  Its load-bearing clause is `order`:
**no acknowledgement stands behind the answer to the request in flight**.  It
holds when a request begins, because every answer on the bus and every task
bears an older number; it survives what is put on the bus later, because that
goes to the back, and an acknowledgement goes there only while a session is
live; and it is what a session that opens needs.

Like `Course`, the invariant speaks of parts instead of an engine, so that an
engine may change in its other parts without a proof.
-/

namespace InlineCompletion

/-- An event brings the answer to request `seq`. -/
def Event.Answers (seq : Nat) (m : Event) : Prop := ∃ outcome, m = .answered seq outcome

/-- No acknowledgement stands behind an answer to request `seq`. -/
def AnsweredLast (seq : Nat) (bus : List Event) : Prop :=
  bus.Pairwise fun m later => m.Answers seq → later ≠ .insertionHandedOver

namespace AnsweredLast

variable {seq : Nat} {bus : List Event}

/-- A number without an answer on the bus has nothing behind its answer. -/
theorem of_fresh (fresh : ∀ m ∈ bus, ¬ m.Answers seq) : AnsweredLast seq bus :=
  List.pairwise_of_forall_mem_list fun m member _ _ answers => absurd answers (fresh m member)

theorem tail {m : Event} (last : AnsweredLast seq (m :: bus)) : AnsweredLast seq bus :=
  (List.pairwise_cons.mp last).2

/-- Behind the answer at the head there is no acknowledgement at all. -/
theorem notMem_of_head {outcome : RequestOutcome}
    (last : AnsweredLast seq (.answered seq outcome :: bus)) :
    Event.insertionHandedOver ∉ bus := fun member =>
  (List.pairwise_cons.mp last).1 _ member ⟨outcome, rfl⟩ rfl

/-- An answer may be put behind everything else. -/
theorem append_answer (last : AnsweredLast seq bus) (n : Nat) (outcome : RequestOutcome) :
    AnsweredLast seq (bus ++ [.answered n outcome]) := by
  refine List.pairwise_append.mpr ⟨last, List.pairwise_singleton _ _, ?_⟩
  intro m _ later behind _
  rw [List.mem_singleton.mp behind]
  simp

end AnsweredLast

/-! ## The words of a reaction -/

section Words

variable {t t' : Trigger} {o o' : Offering} {e : Event} {effects : List Effect}

/-- **Only an acceptance puts a word on the bus**: it ends a live session, raises
the flag, and announces that the insertion is handed over. -/
theorem Course.wordsOf_cases (course : Course t o e t' o' effects) :
    wordsOf effects = [] ∨
      wordsOf effects = [.insertionHandedOver] ∧ o'.editing = true ∧
        ∃ x, o.session = some x := by
  cases course with
  | rest _ _ _ _ told | reject _ _ _ _ told => exact .inl (by simp [told])
  | move _ _ _ _ _ _ _ _ told | drop _ _ _ _ _ _ told => exact .inl (by rw [told]; rfl)
  | wait _ _ _ _ _ _ told => exact .inl (by simp [told])
  | ask _ _ _ _ _ told => exact .inl (by simp [told]; rfl)
  | opening _ _ _ _ _ _ _ _ _ told => exact .inl (by rw [told]; rfl)
  | accept x _ _ _ _ before _ editing told => exact .inr ⟨by rw [told]; rfl, editing, x, before⟩

/-- What is inserted is announced. -/
theorem mem_wordsOf_of_insertText {insert : Insertion} (told : .insertText insert ∈ effects) :
    Event.insertionHandedOver ∈ wordsOf effects :=
  List.mem_filterMap.mpr ⟨_, told, rfl⟩

end Words

/-! ## The invariant -/

/-- **The order of the bus**, between a trigger, an offering, the bus and the
waiting tasks. -/
structure Orderly (t : Trigger) (o : Offering) (bus : List Event)
    (tasks : List BackgroundTask) : Prop where
  coherent : Coherent t o
  /-- The bus holds acknowledgements and answers to requests that began. -/
  messages : ∀ m ∈ bus, m = .insertionHandedOver ∨ ∃ n ≤ t.lastSeq, m.Answers n
  /-- The tasks are requests that began. -/
  requests : ∀ k ∈ tasks, ∃ seq request policy, k = .request seq request policy ∧ seq ≤ t.lastSeq
  /-- While the flag is up, the acknowledgement is on its way. -/
  pending : o.editing = true → Event.insertionHandedOver ∈ bus
  /-- There is one acknowledgement at most. -/
  once : bus.count .insertionHandedOver ≤ 1
  /-- While a session is live there is none. -/
  quiet : ∀ x, o.session = some x → Event.insertionHandedOver ∉ bus
  /-- There is none behind the answer to the request in flight. -/
  order : ∀ q, t.phase = .inFlight q → AnsweredLast q.seq bus

namespace Orderly

variable {t t' : Trigger} {o o' : Offering} {bus : List Event} {tasks : List BackgroundTask}
  {e : Event} {effects : List Effect}

/-- A number that was not handed out yet is not on the bus. -/
theorem fresh (orderly : Orderly t o bus tasks) :
    ∀ m ∈ bus, ¬ m.Answers (t.lastSeq + 1) := by
  rintro m member ⟨outcome, rfl⟩
  obtain same | ⟨n, bound, outcome', same⟩ := orderly.messages _ member
  · cases same
  · obtain ⟨rfl, -⟩ := Event.answered.inj same
    exact absurd bound (Nat.not_succ_le_self _)

/-- Without an acknowledgement on the bus the flag is down. -/
theorem editing_of_notMem (orderly : Orderly t o bus tasks)
    (quiet : Event.insertionHandedOver ∉ bus) : o.editing = false :=
  Bool.eq_false_iff.mpr fun up => quiet (orderly.pending up)

/-- While a session is live the flag is down. -/
theorem editing_of_live (orderly : Orderly t o bus tasks) {x : Session}
    (live : o.session = some x) : o.editing = false :=
  orderly.editing_of_notMem (orderly.quiet x live)

/-- The same bus and tasks beside another trigger and offering. -/
theorem beside (orderly : Orderly t o bus tasks) (coherent : Coherent t' o')
    (lastSeq : t.lastSeq ≤ t'.lastSeq) (editing : o'.editing = true → o.editing = true)
    (quiet : ∀ x, o'.session = some x → Event.insertionHandedOver ∉ bus)
    (order : ∀ q, t'.phase = .inFlight q → AnsweredLast q.seq bus) :
    Orderly t' o' bus tasks where
  coherent := coherent
  messages m member := (orderly.messages m member).imp_right
    fun ⟨n, bound, answers⟩ => ⟨n, Nat.le_trans bound lastSeq, answers⟩
  requests k member :=
    let ⟨seq, request, policy, same, bound⟩ := orderly.requests k member
    ⟨seq, request, policy, same, Nat.le_trans bound lastSeq⟩
  pending := orderly.pending ∘ editing
  once := orderly.once
  quiet := quiet
  order := order

/-- One more request may wait, if it began. -/
theorem spawn (orderly : Orderly t o bus tasks) {seq : Nat} (begun : seq ≤ t.lastSeq)
    (request : Request) (policy : RequestPolicy) :
    Orderly t o bus (tasks ++ [.request seq request policy]) :=
  { orderly with
    requests := by
      intro k member
      rcases List.mem_append.mp member with old | new
      · exact orderly.requests k old
      · exact ⟨seq, request, policy, List.mem_singleton.mp new, begun⟩ }

/-- Tasks may go. -/
theorem fewer_tasks (orderly : Orderly t o bus tasks) {tasks' : List BackgroundTask}
    (fewer : ∀ k ∈ tasks', k ∈ tasks) : Orderly t o bus tasks' :=
  { orderly with requests := fun k member => orderly.requests k (fewer k member) }

/-- An answer may be put on the bus at any time, if its request began. -/
theorem send_answer (orderly : Orderly t o bus tasks) {seq : Nat} (begun : seq ≤ t.lastSeq)
    (outcome : RequestOutcome) : Orderly t o (bus ++ [.answered seq outcome]) tasks :=
  { orderly with
    messages := by
      intro m member
      rcases List.mem_append.mp member with old | new
      · exact orderly.messages m old
      · exact .inr ⟨seq, begun, outcome, List.mem_singleton.mp new⟩
    pending := fun up => List.mem_append_left _ (orderly.pending up)
    once := by simpa using orderly.once
    quiet := fun x live => by simpa using orderly.quiet x live
    order := fun q flying => (orderly.order q flying).append_answer seq outcome }

/-- An acceptance finds no acknowledgement on the bus, and puts its own there. -/
theorem accept (orderly : Orderly t o bus tasks) {x : Session} (live : o.session = some x)
    (gone : o'.session = none) :
    Orderly t o' (bus ++ [.insertionHandedOver]) tasks := by
  have quiet : Event.insertionHandedOver ∉ bus := orderly.quiet x live
  have idle : t.phase = .idle := orderly.coherent.idle_of_live x live
  refine ⟨coherent_of_none gone orderly.coherent.seq_of_inFlight, ?_, orderly.requests, ?_, ?_,
    ?_, ?_⟩
  · intro m member
    rcases List.mem_append.mp member with old | new
    · exact orderly.messages m old
    · exact .inl (List.mem_singleton.mp new)
  · exact fun _ => List.mem_append_right _ List.mem_cons_self
  · rw [List.count_append, List.count_eq_zero.mpr quiet]
    exact Nat.le_refl 1
  · intro y after
    simp [gone] at after
  · intro q flying
    simp [idle] at flying

/-- **A reaction keeps the order**, its words going to the back of the bus and its
requests among the tasks.  The reaction to an answer that is awaited needs to be
told that no acknowledgement is left. -/
theorem react (orderly : Orderly t o bus tasks) (course : Course t o e t' o' effects)
    (policy : RequestPolicy)
    (awaited : ∀ seq outcome, e = .answered seq outcome → t.seqInFlight? = some seq →
      Event.insertionHandedOver ∉ bus) :
    Orderly t' o' (bus ++ wordsOf effects) (tasks ++ tasksOf policy effects) := by
  have coherent := course.coherent orderly.coherent
  have lastSeq := course.lastSeq_le
  -- a trigger that rests awaits no other answer than before
  have resting (trigger : t.RestsAs t') :
      ∀ q, t'.phase = .inFlight q → AnsweredLast q.seq bus := by
    intro q flying
    rcases trigger.phase with same | idle
    · rw [same] at flying
      exact orderly.order q flying
    · simp [idle] at flying
  have ended (session : o'.session = none) :
      ∀ x, o'.session = some x → Event.insertionHandedOver ∉ bus := by
    intro x live
    simp [session] at live
  cases course with
  | rest prompts trigger session editing told =>
      simpa [told] using orderly.beside coherent lastSeq editing
        (fun x live => orderly.quiet x (session ▸ live)) (resting trigger)
  | reject prompts trigger session editing told =>
      simpa [told] using
        orderly.beside coherent lastSeq editing (ended session) (resting trigger)
  | move x y trigger before session same sound editing told =>
      subst trigger
      simpa [told] using orderly.beside coherent lastSeq editing
        (fun _ _ => orderly.quiet x before) orderly.order
  | wait deadline snapshot phase _ session editing told =>
      simpa [told] using orderly.beside coherent lastSeq editing (ended session)
        (fun q flying => by simp [phase] at flying)
  | ask snapshot request trigger session editing told =>
      -- the number is new, so no answer to it is on the bus yet
      have order : ∀ q, t'.phase = .inFlight q → AnsweredLast q.seq bus := by
        intro q flying
        rw [trigger, Trigger.begin_phase, Trigger.Phase.inFlight.injEq] at flying
        rw [← flying]
        exact AnsweredLast.of_fresh orderly.fresh
      have begun : t.lastSeq + 1 ≤ t'.lastSeq := by
        rw [trigger]
        exact Nat.le_refl _
      have kept := orderly.beside coherent lastSeq editing (ended session) order
      have words : wordsOf effects = [] := by
        rw [told, wordsOf_append, wordsOf_rejections]
        rfl
      have tasks : tasksOf policy effects = [.request (t.lastSeq + 1) request policy] := by
        rw [told, tasksOf_append, tasksOf_rejections]
        rfl
      rw [words, tasks, List.append_nil]
      exact kept.spawn begun request policy
  | drop deadline snapshot phase trigger session editing told =>
      simpa [told] using orderly.beside coherent lastSeq editing
        (fun x live => orderly.quiet x (session ▸ live))
        (fun q flying => by simp [trigger] at flying)
  | opening q response y event phase trigger opened session editing told =>
      have quiet := awaited q.seq _ event (Trigger.seqInFlight?_of_inFlight phase)
      simpa [told] using orderly.beside coherent lastSeq editing (fun _ _ => quiet)
        (fun q flying => by simp [trigger] at flying)
  | accept x insert place event trigger before session editing told =>
      subst trigger
      have words : wordsOf effects = [.insertionHandedOver] := by rw [told]; rfl
      have tasks : tasksOf policy effects = [] := by rw [told]; rfl
      rw [words, tasks, List.append_nil]
      exact orderly.accept before session

/-- Taking an answer off the front of the bus. -/
theorem pop_answer {seq : Nat} {outcome : RequestOutcome}
    (orderly : Orderly t o (.answered seq outcome :: bus) tasks) : Orderly t o bus tasks :=
  { orderly with
    messages := fun m member => orderly.messages m (List.mem_cons_of_mem _ member)
    pending := fun up => by simpa using orderly.pending up
    once := by simpa [List.count_cons] using orderly.once
    quiet := fun x live member => orderly.quiet x live (List.mem_cons_of_mem _ member)
    order := fun q flying => (orderly.order q flying).tail }

/-- Taking the acknowledgement off the front of the bus, the flag coming down. -/
theorem pop_acknowledgement
    (orderly : Orderly t o (.insertionHandedOver :: bus) tasks) :
    Orderly t { o with editing := false } bus tasks := by
  have last : bus.count .insertionHandedOver = 0 := by
    have once := orderly.once
    rw [List.count_cons_self] at once
    exact Nat.le_zero.mp (Nat.le_of_succ_le_succ once)
  have gone : o.session = none := by
    cases live : o.session with
    | none => rfl
    | some x => exact absurd List.mem_cons_self (orderly.quiet x live)
  refine ⟨coherent_of_none gone orderly.coherent.seq_of_inFlight, ?_, orderly.requests, ?_, ?_,
    ?_, ?_⟩
  · exact fun m member => orderly.messages m (List.mem_cons_of_mem _ member)
  · exact fun up => by cases up
  · rw [last]
    exact Nat.zero_le 1
  · exact fun x live => by simp [gone] at live
  · exact fun q flying => (orderly.order q flying).tail

end Orderly

end InlineCompletion
