import Mathlib.Data.List.Nodup
import Mathlib.Data.List.Perm.Basic
import Mathlib.Logic.Function.Iterate
import InlineCompletion.Proofs.Engine.Answers
import InlineCompletion.Proofs.Engine.News

/-!
# The carrier of a request

A request in flight keeps the controller from asking again until its answer comes.
If the answer could get lost, it would wait forever.  **While a request is in flight
exactly one thing carries it**: the task that will answer it, or the answer on the bus
(`Engine.request_in_flight_has_carrier`).

The invariant is an equation, `Carried`: the tasks for the request in flight and the
answers to it are together one.  A request that begins has a new number, so nothing
carries it but the task that begins with it; a task that ends gives way to an answer,
whatever became of the request; and an answer that is handled is the end of its
request, or belongs to another one.

A request that was given up is carried on all the same, until its answer is handled and
finds no one waiting.  Of those the invariant says nothing.  So a run also keeps a
`Ledger`: the requests that effects asked for, the tasks that began, and the answers that
were put on the bus, as they are observed of the engine stroke by stroke.  The three
balance (`Accounted`): a task begins for every request that is asked for, and every
request that is asked for waits as a task or was answered.
-/

namespace InlineCompletion

/-- How many of the tasks are for request `seq`. -/
def tasksFor (seq : Nat) (tasks : List BackgroundTask) : Nat :=
  (tasks.filterMap BackgroundTask.seq?).count seq

/-- How many answers to request `seq` are on the bus. -/
def answersTo (seq : Nat) (bus : List Event) : Nat :=
  (bus.filterMap Event.answeredSeq?).count seq

section Places

variable {t : Trigger} {o : Offering} {bus : List Event} {tasks : List BackgroundTask} {seq : Nat}

/-- A number that was not handed out yet is carried by nothing. -/
theorem Orderly.carried_eq_zero (orderly : Orderly t o bus tasks) (later : t.lastSeq < seq) :
    tasksFor seq tasks = 0 ∧ answersTo seq bus = 0 := by
  have nowhere := orderly.placesOf_eq_zero later
  unfold placesOf at nowhere
  unfold tasksFor answersTo
  constructor <;> omega

@[simp] theorem tasksFor_nil (seq : Nat) : tasksFor seq [] = 0 := rfl

@[simp] theorem answersTo_nil (seq : Nat) : answersTo seq [] = 0 := rfl

@[simp] theorem tasksFor_append (seq : Nat) (ks ks' : List BackgroundTask) :
    tasksFor seq (ks ++ ks') = tasksFor seq ks + tasksFor seq ks' := by
  simp [tasksFor]

@[simp] theorem answersTo_append (seq : Nat) (ms ms' : List Event) :
    answersTo seq (ms ++ ms') = answersTo seq ms + answersTo seq ms' := by
  simp [answersTo]

@[simp] theorem tasksFor_request (seq n : Nat) (request : Request) (policy : RequestPolicy) :
    tasksFor seq [.request n request policy] = if n = seq then 1 else 0 := by
  simp [tasksFor, BackgroundTask.seq?, List.count_singleton]

@[simp] theorem answersTo_answered (seq n : Nat) (outcome : RequestOutcome) :
    answersTo seq [.answered n outcome] = if n = seq then 1 else 0 := by
  simp [answersTo, Event.answeredSeq?, List.count_singleton]

/-- No effect puts an answer on the bus. -/
@[simp] theorem answersTo_wordsOf (seq : Nat) (effects : List Effect) :
    answersTo seq (wordsOf effects) = 0 := by
  simp [answersTo]

/-- A task that is taken out was one of the tasks for its request. -/
theorem tasksFor_eraseIdx {place n : Nat} {request : Request} {policy : RequestPolicy}
    (task : tasks[place]? = some (.request n request policy)) (seq : Nat) :
    tasksFor seq tasks = tasksFor seq (tasks.eraseIdx place) + if n = seq then 1 else 0 := by
  have taken := (seqs_eraseIdx_perm task).count_eq seq
  simpa [tasksFor, List.count_cons] using taken.symm

end Places

namespace Engine

open Playback (Backend)

variable {e e' : Engine}

/-! ## Carriers -/

/-- The request in flight has one carrier. -/
def Carried (s : Controller) (bus : List Event) (tasks : List BackgroundTask) : Prop :=
  ∀ q, s.trigger.phase = .inFlight q → tasksFor q.seq tasks + answersTo q.seq bus = 1

theorem invariant_carried : Invariant Carried where
  report {s bus tasks} event orderly host carried := by
    intro q flying
    rw [tasksOf_eq_map, answersTo_append, answersTo_wordsOf]
    rcases (Controller.course orderly.coherent event).inFlight_cases with
      ⟨snapshot, request, begun, sent⟩ | ⟨silent, before⟩
    · -- the number is new, and its task is the only one that carries it
      obtain ⟨task, answer⟩ := orderly.carried_eq_zero (Nat.lt_succ_self s.trigger.lastSeq)
      rw [begun, Trigger.begin_phase, Trigger.Phase.inFlight.injEq] at flying
      rw [← flying, sent]
      simp [task, answer]
    · rw [silent, List.map_nil, List.append_nil]
      exact carried q (before q flying)
  message {s m rest tasks} orderly carried := by
    intro q flying
    rcases (Controller.course orderly.coherent m).inFlight_cases with
      ⟨snapshot, request, -, sent⟩ | ⟨-, before⟩
    · rw [orderly.silent] at sent
      cases sent
    have carrier := carried q (before q flying)
    -- the answer to the request in flight would have ended it
    have other : m.answeredSeq? ≠ some q.seq := by
      intro answer
      obtain rfl | ⟨n, -, outcome, rfl⟩ := orderly.messages m List.mem_cons_self
      · cases answer
      obtain rfl := Option.some.inj answer
      rw [Controller.trigger_of_answer (before q flying) outcome] at flying
      cases flying
    have same : answersTo q.seq (m :: rest) = answersTo q.seq rest := by
      unfold answersTo
      cases answer : m.answeredSeq? with
      | none => rw [List.filterMap_cons_none answer]
      | some n =>
          rw [List.filterMap_cons_some answer, List.count_cons_of_ne]
          rintro rfl
          exact other answer
    rw [← same]
    exact carrier
  finish {s bus tasks place seq request policy} outcome _ task carried := by
    intro q flying
    have carrier := carried q flying
    rw [tasksFor_eraseIdx task] at carrier
    rw [answersTo_append, answersTo_answered]
    omega

/-! ## Runs with a ledger -/

/-- **What became of requests along a run**, each by its number, in order. -/
structure Ledger where
  /-- The requests that effects asked for. -/
  sent : List Nat
  /-- The requests for which a task was left to the background. -/
  begun : List Nat
  /-- The requests to which an answer was put on the bus. -/
  answered : List Nat
  deriving DecidableEq, Repr

/-- Nothing happened yet. -/
def Ledger.blank : Ledger := ⟨[], [], []⟩

/-- The ledger after `e` has become `e'` by carrying out effects.  New tasks and new
messages are those behind the ones that were there. -/
def Ledger.note (l : Ledger) (effects : List Effect) (e e' : Engine) : Ledger where
  sent := l.sent ++ requestSeqs effects
  begun := l.begun ++ (e'.tasks.drop e.tasks.length).filterMap BackgroundTask.seq?
  answered := l.answered ++ (e'.bus.drop e.bus.length).filterMap Event.answeredSeq?

/-- The ledger after `e` has handled an event. -/
def Ledger.handling (l : Ledger) (e : Engine) (event : Event) : Ledger :=
  l.note (e.controller.react event).effects e (e.handle event).2

/-- **A run, stroke by stroke**, that leads to the engine `e`, and its ledger. -/
inductive Run : Engine → Ledger → Prop
  | new (settings : Settings) (languages : LanguageTable) (manager : ConnectionManager) :
      Run (.new settings languages manager) .blank
  /-- The host reports an event. -/
  | report {e : Engine} {l : Ledger} (run : Run e l) (event : Event)
      (host : event.isAnswer = false) :
      Run (e.handle event).2 (l.handling e event)
  /-- The oldest message of the bus is handled. -/
  | message {e : Engine} {l : Ledger} {m : Event} {rest : List Event} (run : Run e l)
      (waiting : e.bus = m :: rest) :
      Run (({ e with bus := rest } : Engine).handle m).2 (l.handling { e with bus := rest } m)
  /-- A task comes to its end. -/
  | runTask {σ : Type} {p : Provider σ} {c : CompletionService σ} {e e' : Engine} {l : Ledger}
      {place : Nat} {s s' : σ} (run : Run e l) (ran : e.runTask p c place s = some (e', s')) :
      Run e' (l.note [] e e')
  /-- Something else changes. -/
  | aside {e e' : Engine} {l : Ledger} (run : Run e l) (controller : e'.controller = e.controller)
      (bus : e'.bus = e.bus) (tasks : e'.tasks = e.tasks) : Run e' l

/-- What is kept stroke by stroke holds at the end of a run. -/
theorem Run.keeps {Q : Engine → Prop} (kept : Kept Q)
    (new : ∀ settings languages manager, Q (.new settings languages manager)) {l : Ledger}
    (run : Run e l) : Q e := by
  induction run with
  | new settings languages manager => exact new settings languages manager
  | report _ event host ih => exact kept.report event host ih
  | message _ waiting ih => exact kept.message waiting ih
  | runTask _ ran ih => exact kept.runTask ran ih
  | aside _ controller bus tasks ih => exact kept.aside controller bus tasks ih

theorem kept_run : Kept fun e => ∃ l, Run e l where
  report event host := fun ⟨_, run⟩ => ⟨_, run.report event host⟩
  message waiting := fun ⟨_, run⟩ => ⟨_, run.message waiting⟩
  runTask ran := fun ⟨_, run⟩ => ⟨_, run.runTask ran⟩
  aside controller bus tasks := fun ⟨l, run⟩ => ⟨l, run.aside controller bus tasks⟩

/-- **Moves make a run.** -/
theorem Reachable.exists_run (reachable : e.Reachable) : ∃ l, Run e l := by
  induction reachable with
  | new settings languages manager => exact ⟨_, .new settings languages manager⟩
  | move _ step ih => exact kept_run.move step ih

/-! ## The ledger balances -/

/-- The entry for an event that is handled. -/
theorem handling_eq (l : Ledger) (e : Engine) (event : Event) :
    l.handling e event =
      { l with
        sent := l.sent ++ requestSeqs (e.controller.react event).effects
        begun := l.begun ++ requestSeqs (e.controller.react event).effects } := by
  unfold Ledger.handling Ledger.note
  rw [handle_tasks, handle_bus, List.drop_left, List.drop_left, filterMap_seq?_tasksOf,
    filterMap_answeredSeq?_wordsOf, List.append_nil]

/-- The entry for a task that comes to its end. -/
theorem note_runTask (l : Ledger) {σ : Type} {p : Provider σ} {c : CompletionService σ}
    {place seq : Nat} {request : Request} {policy : RequestPolicy} {s s' : σ}
    (task : e.tasks[place]? = some (.request seq request policy))
    (ran : e.runTask p c place s = some (e', s')) :
    l.note [] e e' = { l with answered := l.answered ++ [seq] } := by
  have fewer : (e.tasks.eraseIdx place).length ≤ e.tasks.length :=
    List.length_eraseIdx_le ..
  rw [runTask_request task ran]
  unfold Ledger.note
  simp only [List.drop_left, List.drop_eq_nil_of_le fewer, List.filterMap_nil, List.append_nil,
    requestSeqs, List.filterMap_cons, Event.answeredSeq?]

/-- **The ledger balances**, with `lastSeq` the number of the last request and these
tasks waiting. -/
structure Accounted (lastSeq : Nat) (tasks : List BackgroundTask) (l : Ledger) : Prop where
  begun : l.begun = l.sent
  increasing : l.sent.Pairwise (· < ·)
  upTo : ∀ n ∈ l.sent, n ≤ lastSeq
  balance : (l.answered ++ tasks.filterMap BackgroundTask.seq?).Perm l.sent

/-- Handling an event enters the request that it begins, or nothing. -/
theorem Accounted.handle {l : Ledger} (event : Event)
    (coherent : Coherent e.controller.trigger e.controller.offering)
    (accounted : Accounted e.controller.trigger.lastSeq e.tasks l) :
    Accounted (e.handle event).2.controller.trigger.lastSeq (e.handle event).2.tasks
      (l.handling e event) := by
  have course := Controller.course coherent event
  rw [handling_eq, handle_tasks, handle_controller]
  refine ⟨congrArg (· ++ _) accounted.begun, ?_, ?_, ?_⟩
  · refine List.pairwise_append.mpr ⟨accounted.increasing, ?_, ?_⟩
    · rcases course.requestSeqs_cases with silent | ⟨next, -⟩
      · rw [silent]
        exact .nil
      · rw [next]
        exact List.pairwise_singleton _ _
    · intro n before m now
      have bound := accounted.upTo n before
      rcases course.requestSeqs_cases with silent | ⟨next, -⟩
      · simp [silent] at now
      · rw [next, List.mem_singleton] at now
        omega
  · intro n member
    rcases List.mem_append.mp member with before | now
    · exact Nat.le_trans (accounted.upTo n before) course.lastSeq_le
    · rcases course.requestSeqs_cases with silent | ⟨next, last⟩
      · simp [silent] at now
      · rw [next, List.mem_singleton] at now
        omega
  · rw [List.filterMap_append, filterMap_seq?_tasksOf, ← List.append_assoc]
    exact accounted.balance.append_right _

/-- **The ledger of every run balances.** -/
theorem Run.accounted {l : Ledger} (run : Run e l) :
    Accounted e.controller.trigger.lastSeq e.tasks l := by
  induction run with
  | new settings languages manager =>
      rw [new_eq]
      exact ⟨rfl, .nil, nofun, .refl _⟩
  | report run event host ih => exact ih.handle event (run.keeps kept_inOrder inOrder_new).coherent
  | @message e l m rest run waiting ih =>
      exact Accounted.handle (e := { e with bus := rest }) m
        (run.keeps kept_inOrder inOrder_new).coherent ih
  | @runTask _ p c e e' l place s s' run ran ih =>
      obtain ⟨seq, request, policy, task⟩ :=
        (run.keeps kept_inOrder inOrder_new).request_of_runTask ran
      rw [note_runTask l task ran, runTask_request task ran]
      refine ⟨ih.begun, ih.increasing, ih.upTo, ?_⟩
      rw [List.append_assoc]
      exact ((seqs_eraseIdx_perm task).append_left _).trans ih.balance
  | aside _ controller bus tasks ih =>
      rw [controller, tasks]
      exact ih

/-! ## Running all tasks -/

/-- A task comes to its end, with the surroundings in any state. -/
inductive Ends {σ : Type} (p : Provider σ) (c : CompletionService σ) : Engine → Engine → Prop
  | run (e e' : Engine) (place : Nat) (s s' : σ) (ran : e.runTask p c place s = some (e', s')) :
      Ends p c e e'

theorem Reachable.ends {σ : Type} {p : Provider σ} {c : CompletionService σ}
    (reachable : e.Reachable) (ended : Relation.ReflTransGen (Ends p c) e e') : e'.Reachable := by
  induction ended with
  | refl => exact reachable
  | tail _ ends ih =>
      obtain ⟨place, s, s', ran⟩ := ends
      exact ih.move (.runTask p c _ _ place s s' ran)

/-- A task that has come to its end is no longer among the tasks. -/
theorem finish_tasks {σ : Type} (p : Provider σ) (c : CompletionService σ) (e : Engine)
    (task : BackgroundTask) (s : σ) : (e.finish p c task s).1.tasks = e.tasks := by
  cases task <;> rfl

/-- **All tasks can be run**, in any surroundings. -/
theorem exists_ends {σ : Type} (p : Provider σ) (c : CompletionService σ) (e : Engine) (s : σ) :
    ∃ e', Relation.ReflTransGen (Ends p c) e e' ∧ e'.tasks = [] := by
  induction tasks : e.tasks generalizing e s with
  | nil => exact ⟨e, .refl, tasks⟩
  | cons task rest ih =>
      let next := Engine.finish p c { e with tasks := rest } task s
      have ran : e.runTask p c 0 s = some (next.1, next.2) := by
        simp only [runTask, takeTask, tasks, List.getElem?_cons_zero, List.eraseIdx_cons_zero]
        rfl
      obtain ⟨e', ended, none'⟩ := ih next.1 next.2 (finish_tasks p c _ task s)
      exact ⟨e', .head (.run e next.1 0 s next.2 ran) ended, none'⟩

/-! ## Draining the bus -/

/-- A pass over a bus in order leaves the tasks alone. -/
theorem InOrder.drain_tasks (n : Nat) (inOrder : e.InOrder) :
    (Engine.drain n e).2.tasks = e.tasks := by
  refine (drain_keeps (Q := fun e' => e'.InOrder ∧ e'.tasks = e.tasks) ?_ n ⟨inOrder, rfl⟩).2
  intro e' m rest waiting ⟨ordered, same⟩
  have whole : Orderly e'.controller.trigger e'.controller.offering (m :: rest) e'.tasks :=
    waiting ▸ ordered
  refine ⟨(ordered.handle_message waiting).1, ?_⟩
  rw [handle_tasks, whole.silent, ← same]
  exact List.append_nil _

/-- **Looking at the bus `k` times** takes so many messages from it, each time up to the
bound. -/
theorem Reachable.pollBus_iterate (k : Nat) (reachable : e.Reachable) :
    let e' := (fun e => e.pollBus.2)^[k] e
    e'.Reachable ∧ e'.bus = e.bus.drop (maxDrain * k) ∧ e'.tasks = e.tasks := by
  induction k with
  | zero => exact ⟨reachable, rfl, rfl⟩
  | succ k ih =>
      obtain ⟨reached, bus, tasks⟩ := ih
      obtain ⟨-, left⟩ := reached.inOrder.drain maxDrain
      rw [Function.iterate_succ_apply']
      refine ⟨reached.move (.pollBus _), left.trans ?_,
        (reached.inOrder.drain_tasks maxDrain).trans tasks⟩
      rw [bus, List.drop_drop, Nat.mul_succ]

/-- Where no task waits and nothing is on the bus, no request is in flight. -/
theorem not_inFlight_of_nil (carried : e.Has Carried) (tasks : e.tasks = []) (bus : e.bus = []) :
    ∀ q, e.controller.trigger.phase ≠ .inFlight q := by
  intro q flying
  have carrier := carried q flying
  rw [tasks, bus] at carrier
  cases carrier

theorem Reachable.carried (reachable : e.Reachable) : e.Has Carried :=
  invariant_carried.reachable (fun _ _ => nofun) reachable

/-- **A request in flight always has a carrier.**  Whatever the host, the background, the
manager and the settings file did, and whatever became of each request:

* While a request is in flight, one task waits for it and no answer to it is on the bus,
  or no task waits for it and one answer to it is.
* Along the run, stroke by stroke, each request is asked for once at most; one task begins
  for each that is asked for; and either this task waits, or one answer was put on the bus.
* All waiting tasks can be run, in any surroundings.  Once they have run, in any order, it
  takes as many passes over the bus as its messages need, and then nothing waits, nothing
  is on the bus and no request is in flight. -/
theorem request_in_flight_has_carrier (reachable : e.Reachable) :
    (∀ q, e.controller.trigger.phase = .inFlight q →
      tasksFor q.seq e.tasks = 1 ∧ answersTo q.seq e.bus = 0 ∨
        tasksFor q.seq e.tasks = 0 ∧ answersTo q.seq e.bus = 1) ∧
    (∃ l, Run e l) ∧
    (∀ l, Run e l → ∀ seq, l.sent.count seq ≤ 1 ∧ l.begun.count seq = l.sent.count seq ∧
      l.answered.count seq + tasksFor seq e.tasks = l.sent.count seq) ∧
    ∀ {σ : Type} (p : Provider σ) (c : CompletionService σ),
      (∀ _ : σ, ∃ e₁, Relation.ReflTransGen (Ends p c) e e₁ ∧ e₁.tasks = []) ∧
      ∀ e₁, Relation.ReflTransGen (Ends p c) e e₁ → e₁.tasks = [] →
        ∀ k, e₁.bus.length ≤ maxDrain * k →
          let e₂ := (fun e => e.pollBus.2)^[k] e₁
          e₂.tasks = [] ∧ e₂.bus = [] ∧ ∀ q, e₂.controller.trigger.phase ≠ .inFlight q := by
  refine ⟨?carrier, reachable.exists_run, ?ledger, fun p c => ⟨exists_ends p c e, ?drained⟩⟩
  case carrier =>
    intro q flying
    have carrier := reachable.carried q flying
    omega
  case ledger =>
    intro l run seq
    have accounted := run.accounted
    have once : l.sent.Nodup := accounted.increasing.imp fun less => Nat.ne_of_lt less
    refine ⟨List.nodup_iff_count_le_one.mp once seq, by rw [accounted.begun], ?_⟩
    rw [← accounted.balance.count_eq seq, List.count_append]
    rfl
  case drained =>
    intro e₁ ended tasks k enough e₂
    obtain ⟨looked, bus, same⟩ := (reachable.ends ended).pollBus_iterate k
    have empty : e₂.bus = [] := bus.trans (List.drop_eq_nil_of_le enough)
    have none' : e₂.tasks = [] := same.trans tasks
    exact ⟨none', empty, not_inFlight_of_nil looked.carried none' empty⟩

/-- The user asks twice, and the first request is given up for the second. -/
def askedTwice : Engine :=
  (asked.handle (.invoked ⟨⟨"main.rs"⟩, "rust", "main.rs", "fn", 2⟩)).2

/-- The two requests have come to their ends, the second before the first. -/
def answeredTwice : Engine :=
  { askedTwice with
    tasks := []
    bus := [.answered 2 (.suggestions [.plain " main() {}"]), .answered 1 (.suggestions [])] }

/-- The second request is in flight, and its task carries it beside that of the first;
once both have run, a single pass over the bus leaves nothing in flight. -/
theorem request_in_flight_has_carrier_twice :
    askedTwice.controller.trigger.seqInFlight? = some 2 ∧
      tasksFor 2 askedTwice.tasks = 1 ∧ answersTo 2 askedTwice.bus = 0 ∧
      tasksFor 1 askedTwice.tasks = 1 ∧
      ∀ q, answeredTwice.pollBus.2.controller.trigger.phase ≠ .inFlight q := by
  have reachable : askedTwice.Reachable :=
    ((Reachable.new .standard .standard signedIn.manager).move (.report _ _ rfl)).move
      (.report _ _ rfl)
  obtain ⟨carrier, -, -, all⟩ := request_in_flight_has_carrier reachable
  have flying : askedTwice.controller.trigger.phase = .inFlight ⟨2, ⟨"main.rs"⟩, 2⟩ := by decide
  let between : Engine :=
    { askedTwice with
      tasks := askedTwice.tasks.take 1
      bus := [.answered 2 (.suggestions [.plain " main() {}"])] }
  have second : Ends Backend.provider Backend.service askedTwice between :=
    .run _ _ 1 signedIn.provider _ rfl
  have first : Ends Backend.provider Backend.service between answeredTwice :=
    .run _ _ 0 Backend.empty _ rfl
  obtain ⟨-, drained⟩ := all Backend.provider Backend.service
  obtain ⟨-, -, still⟩ := drained answeredTwice (.tail (.single second) first) rfl 1 (by decide)
  obtain ⟨task, answer⟩ | ⟨task, -⟩ := carrier _ flying
  · exact ⟨by decide, task, answer, by decide, still⟩
  · exact absurd task (by decide)

end Engine

end InlineCompletion
