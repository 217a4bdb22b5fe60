import InlineCompletion.Proofs.Engine.Acknowledgement

/-!
# Invariants of engines

Most of what is said about an engine concerns three of its parts: the
controller, the bus and the waiting tasks.  To them only three things ever
happen.  The host reports an event, which is no answer; the oldest message of
the bus is handled; a request comes to its end and its outcome goes to the back
of the bus.  Every other stroke leaves the three alone, so a property that these keep
is kept by every move (`Engine.Invariant.move`).
-/

namespace InlineCompletion

namespace Engine

/-- **What happens to a controller `s`, a bus and the tasks keeps `P`.**  The
three may be taken to be in order. -/
structure Invariant (P : Controller → List Event → List BackgroundTask → Prop) : Prop where
  /-- The host reports an event. -/
  report : ∀ {s bus tasks} (e : Event), Orderly s.trigger s.offering bus tasks →
    e.isAnswer = false → P s bus tasks →
      P (s.react e).controller (bus ++ wordsOf (s.react e).effects)
        (tasks ++ tasksOf (.ofSettings (s.react e).controller.settings) (s.react e).effects)
  /-- The oldest message is handled; it leads to no effect. -/
  message : ∀ {s m rest tasks}, Orderly s.trigger s.offering (m :: rest) tasks →
    P s (m :: rest) tasks → P (s.react m).controller rest tasks
  /-- A request comes to its end. -/
  finish : ∀ {s bus tasks} {place seq : Nat} {request policy} (outcome : RequestOutcome),
    Orderly s.trigger s.offering bus tasks →
    tasks[place]? = some (.request seq request policy) → P s bus tasks →
      P s (bus ++ [.answered seq outcome]) (tasks.eraseIdx place)

/-- The property, of an engine. -/
def Has (e : Engine) (P : Controller → List Event → List BackgroundTask → Prop) : Prop :=
  P e.controller e.bus e.tasks

/-- Ending a request takes it from the tasks and puts its outcome on the bus. -/
theorem runTask_request {σ : Type} {p : Provider σ} {c : CompletionService σ} {e e' : Engine}
    {place seq : Nat} {request : Request} {policy : RequestPolicy} {s s' : σ}
    (task : e.tasks[place]? = some (.request seq request policy))
    (ran : e.runTask p c place s = some (e', s')) :
    e' = { e with
      tasks := e.tasks.eraseIdx place
      bus := e.bus ++
        [.answered seq (outcomeOf (askForSuggestions p c e.manager request policy s).1)] } := by
  simp only [runTask, takeTask, task, finish, Option.some.injEq] at ran
  exact (congrArg Prod.fst ran).symm

/-- Whatever runs is a request that waits. -/
theorem InOrder.request_of_runTask {σ : Type} {p : Provider σ} {c : CompletionService σ}
    {e e' : Engine} {place : Nat} {s s' : σ} (inOrder : e.InOrder)
    (ran : e.runTask p c place s = some (e', s')) :
    ∃ seq request policy, e.tasks[place]? = some (.request seq request policy) := by
  cases found : e.tasks[place]? with
  | none => simp [Engine.runTask, takeTask, found] at ran
  | some task =>
      obtain ⟨seq, request, policy, rfl, -⟩ := inOrder.requests task (List.mem_of_getElem? found)
      exact ⟨seq, request, policy, rfl⟩

namespace Invariant

variable {P : Controller → List Event → List BackgroundTask → Prop} {e e' : Engine}

theorem handle (inv : Invariant P) (inOrder : e.InOrder) {event : Event}
    (host : event.isAnswer = false) (has : e.Has P) : (e.handle event).2.Has P := by
  unfold Has
  rw [handle_controller, handle_bus, handle_tasks]
  exact inv.report event inOrder host has

theorem handle_message (inv : Invariant P) (inOrder : e.InOrder) {m : Event} {rest : List Event}
    (waiting : e.bus = m :: rest) (has : e.Has P) :
    (({ e with bus := rest } : Engine).handle m).2.Has P := by
  have whole : Orderly e.controller.trigger e.controller.offering (m :: rest) e.tasks :=
    waiting ▸ inOrder
  have silent := whole.silent
  unfold Has
  rw [handle_controller, handle_bus, handle_tasks]
  simp only [silent, wordsOf_nil, tasksOf_nil, List.append_nil]
  exact inv.message whole (waiting ▸ has)

theorem runTask (inv : Invariant P) (inOrder : e.InOrder) {σ : Type} {p : Provider σ}
    {c : CompletionService σ} {place : Nat} {s s' : σ}
    (ran : e.runTask p c place s = some (e', s')) (has : e.Has P) : e'.Has P := by
  obtain ⟨seq, request, policy, task⟩ := inOrder.request_of_runTask ran
  rw [runTask_request task ran]
  exact inv.finish _ inOrder task has

/-- **An invariant is kept stroke by stroke**, together with the order of the bus. -/
theorem kept (inv : Invariant P) : Kept fun e => e.InOrder ∧ e.Has P where
  report event host := fun ⟨inOrder, has⟩ =>
    ⟨inOrder.report host, inv.handle inOrder host has⟩
  message waiting := fun ⟨inOrder, has⟩ =>
    ⟨(inOrder.handle_message waiting).1, inv.handle_message inOrder waiting has⟩
  runTask ran := fun ⟨inOrder, has⟩ => ⟨inOrder.runTask ran, inv.runTask inOrder ran has⟩
  aside controller bus tasks := fun ⟨inOrder, has⟩ => by
    refine ⟨kept_inOrder.aside controller bus tasks inOrder, ?_⟩
    unfold Has
    rw [controller, bus, tasks]
    exact has

/-- **An invariant is kept by every move** of an engine in order. -/
theorem move (inv : Invariant P) (inOrder : e.InOrder) (step : Move e e') (has : e.Has P) :
    e'.Has P :=
  (inv.kept.move step ⟨inOrder, has⟩).2

/-- An invariant of a new engine holds of every reachable one. -/
theorem reachable (inv : Invariant P)
    (new : ∀ settings languages, P (.new settings languages) [] []) (reachable : e.Reachable) :
    e.Has P := by
  induction reachable with
  | new settings languages manager =>
      have fresh : (fresh settings languages manager).InOrder := inOrder_fresh ..
      exact inv.handle fresh rfl (new settings languages)
  | move reachable step ih => exact inv.move reachable.inOrder step ih

end Invariant

end Engine

end InlineCompletion
