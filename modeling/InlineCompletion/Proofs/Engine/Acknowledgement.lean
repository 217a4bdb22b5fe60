import InlineCompletion.Playback.Backend
import InlineCompletion.Proofs.Engine.Order

/-!
# The acknowledgement of an insertion

Every stroke of an engine keeps the order of the bus (`Engine.kept_inOrder`), and
so every reachable engine has it.  `Engine.acknowledgement_awaited` is what this
says of acknowledgements: there is one on the bus whenever the flag is up, there
are never two, there is none while a session is live, and so the next one to be
handled belongs to the last acceptance.

A pass over the bus is one message after the other, and a message puts nothing
on the bus (`Controller.effects_of_message`), so a pass handles what the bus held
when it began and nothing else.
-/

namespace InlineCompletion

/-- A message of the bus leads to no effect, whatever it finds. -/
theorem Controller.effects_of_message (s : Controller) {m : Event}
    (message : m = .insertionHandedOver ∨ ∃ seq, m.Answers seq) : (s.react m).effects = [] := by
  obtain rfl | ⟨seq, outcome, rfl⟩ := message
  · rfl
  · exact effects_reactToAnswer s seq outcome

/-- On a bus in order the oldest message leads to no effect. -/
theorem Orderly.silent {s : Controller} {m : Event} {rest : List Event}
    {tasks : List BackgroundTask} (orderly : Orderly s.trigger s.offering (m :: rest) tasks) :
    (s.react m).effects = [] :=
  s.effects_of_message
    ((orderly.messages m List.mem_cons_self).imp_right fun ⟨n, _, answers⟩ => ⟨n, answers⟩)

namespace Engine

open Playback (Backend)

/-- The order of the bus, of an engine. -/
def InOrder (e : Engine) : Prop :=
  Orderly e.controller.trigger e.controller.offering e.bus e.tasks

variable {e : Engine}

namespace InOrder

/-! ## Handling events -/

/-- An event keeps the order, if it does not bring the awaited answer past an
acknowledgement. -/
theorem handle (inOrder : e.InOrder) (event : Event)
    (awaited : ∀ seq outcome, event = .answered seq outcome →
      e.controller.trigger.seqInFlight? = some seq → Event.insertionHandedOver ∉ e.bus) :
    (e.handle event).2.InOrder := by
  unfold InOrder
  rw [handle_controller, handle_bus, handle_tasks]
  exact Orderly.react inOrder (Controller.course inOrder.coherent event) _ awaited

/-- What the host reports is no answer and keeps the order. -/
theorem report (inOrder : e.InOrder) {event : Event} (host : event.isAnswer = false) :
    (e.handle event).2.InOrder :=
  inOrder.handle event fun seq outcome same => by
    rw [same] at host
    cases host

/-- **The oldest message keeps the order**, and nothing takes its place. -/
theorem handle_message (inOrder : e.InOrder) {m : Event} {rest : List Event}
    (waiting : e.bus = m :: rest) :
    (({ e with bus := rest } : Engine).handle m).2.InOrder ∧
      (({ e with bus := rest } : Engine).handle m).2.bus = rest := by
  have whole : Orderly e.controller.trigger e.controller.offering (m :: rest) e.tasks := by
    rw [← waiting]
    exact inOrder
  have message := whole.messages m List.mem_cons_self
  have silent := whole.silent
  refine ⟨?_, by rw [handle_bus, silent, wordsOf_nil, List.append_nil]⟩
  obtain rfl | ⟨n, -, outcome, rfl⟩ := message
  · unfold InOrder
    rw [handle_controller, handle_bus, handle_tasks, silent, wordsOf_nil, tasksOf_nil,
      List.append_nil, List.append_nil]
    exact whole.pop_acknowledgement
  · -- the answer that is awaited stands behind the last acknowledgement
    refine InOrder.handle (e := { e with bus := rest }) whole.pop_answer _ ?_
    intro seq outcome' same awaited
    obtain ⟨rfl, -⟩ := Event.answered.inj same
    obtain ⟨q, flying, rfl⟩ := Trigger.seqInFlight?_eq_some_iff.mp awaited
    exact (whole.order q flying).notMem_of_head

/-- **A pass over the bus keeps the order**, and takes as many messages as it is
told to, or all. -/
theorem drain (n : Nat) (inOrder : e.InOrder) :
    (Engine.drain n e).2.InOrder ∧ (Engine.drain n e).2.bus = e.bus.drop n := by
  induction n generalizing e with
  | zero => exact ⟨inOrder, rfl⟩
  | succ n ih =>
      rw [drain_succ]
      cases waiting : e.bus with
      | nil =>
          have nothing : e.handleNext = none := by simp [handleNext, waiting]
          rw [nothing, List.drop_nil]
          exact ⟨inOrder, waiting⟩
      | cons m rest =>
          obtain ⟨kept, taken⟩ := inOrder.handle_message waiting
          obtain ⟨later, left⟩ := ih kept
          simp only [handleNext, waiting, List.drop_succ_cons]
          exact ⟨later, left.trans (congrArg _ taken)⟩

/-! ## Moves -/

/-- A task that ends puts the answer to a request that began on the bus. -/
theorem runTask (inOrder : e.InOrder) {σ : Type} {p : Provider σ} {c : CompletionService σ}
    {e' : Engine} {index : Nat} {s s' : σ} (ran : e.runTask p c index s = some (e', s')) :
    e'.InOrder := by
  unfold Engine.runTask takeTask at ran
  cases found : e.tasks[index]? with
  | none => simp [found] at ran
  | some task =>
      obtain ⟨seq, request, policy, rfl, begun⟩ :=
        inOrder.requests task (List.mem_of_getElem? found)
      simp only [found, Option.some.injEq] at ran
      obtain ⟨outcome, finished⟩ := finish_request p c
        { e with tasks := e.tasks.eraseIdx index } seq request policy s
      have same : e' = ({ e with tasks := e.tasks.eraseIdx index } : Engine).send
          (.answered seq outcome) := by
        rw [← finished, ran]
      rw [same]
      exact (inOrder.fewer_tasks fun k => List.mem_of_mem_eraseIdx).send_answer begun outcome

end InOrder

/-- At first there is nothing on the bus. -/
theorem inOrder_fresh (settings : Settings) (languages : LanguageTable)
    (manager : ConnectionManager) : (fresh settings languages manager).InOrder := by
  refine ⟨Controller.coherent_new settings languages, ?_, ?_, ?_, ?_, ?_, ?_⟩ <;>
    simp [Engine.fresh, Controller.new, Trigger.new, Offering.empty]

theorem inOrder_new (settings : Settings) (languages : LanguageTable)
    (manager : ConnectionManager) : (new settings languages manager).InOrder :=
  (inOrder_fresh settings languages manager).report rfl

/-- **Every stroke keeps the order of the bus.** -/
theorem kept_inOrder : Kept InOrder where
  report event host inOrder := inOrder.report host
  message waiting inOrder := (inOrder.handle_message waiting).1
  runTask ran inOrder := inOrder.runTask ran
  aside controller bus tasks inOrder := by
    unfold InOrder
    rw [controller, bus, tasks]
    exact inOrder

theorem Reachable.inOrder (reachable : e.Reachable) : e.InOrder := by
  induction reachable with
  | new settings languages manager => exact inOrder_new settings languages manager
  | move _ step ih => exact kept_inOrder.move step ih

/-! ## Acknowledgements -/

/-- **The acknowledgement protocol** of every reachable engine.  While a session
is live no acknowledgement is awaited and none is on the bus; the flag is up only
while exactly one is on the bus, and there are never two.  So a reaction that
inserts finds none on the bus and leaves its own, which is the next one to be
handled; and a pass that handles all the bus holds lowers the flag. -/
theorem acknowledgement_awaited (reachable : e.Reachable) :
    (∀ x, e.controller.offering.session = some x →
        e.controller.offering.editing = false ∧ Event.insertionHandedOver ∉ e.bus) ∧
      (e.controller.offering.editing = true → e.bus.count .insertionHandedOver = 1) ∧
      e.bus.count .insertionHandedOver ≤ 1 ∧
      (∀ event insert, .insertText insert ∈ (e.controller.react event).effects →
        Event.insertionHandedOver ∉ e.bus ∧
          (e.handle event).2.bus = e.bus ++ [.insertionHandedOver] ∧
          (e.handle event).2.controller.offering.editing = true) ∧
      ∀ n, e.bus.length ≤ n →
        (drain n e).2.bus = [] ∧ (drain n e).2.controller.offering.editing = false := by
  have inOrder := reachable.inOrder
  refine ⟨?_, ?_, inOrder.once, ?_, ?_⟩
  · intro x live
    exact ⟨Orderly.editing_of_live inOrder live, inOrder.quiet x live⟩
  · intro up
    exact Nat.le_antisymm inOrder.once (List.count_pos_iff.mpr (inOrder.pending up))
  · intro event insert told
    have word := mem_wordsOf_of_insertText told
    obtain silent | ⟨words, up, x, live⟩ := (Controller.course inOrder.coherent event).wordsOf_cases
    · rw [silent] at word
      cases word
    · rw [handle_bus, handle_controller, words]
      exact ⟨inOrder.quiet x live, rfl, up⟩
  · intro n enough
    obtain ⟨later, left⟩ := inOrder.drain n
    have empty : (drain n e).2.bus = [] := left.trans (List.drop_eq_nil_of_le enough)
    exact ⟨empty, Orderly.editing_of_notMem later (by simp [empty])⟩

/-- A host that has signed in, with a world that has one answer to give. -/
def signedIn : Attempt Backend Connection :=
  (ConnectionManager.new false).connect Backend.provider .builderId
    (Backend.empty.respond [.plain " main() {}"])

/-- Its engine, asked for suggestions by hand. -/
def asked : Engine :=
  ((new .standard .standard signedIn.manager).handle
    (.invoked ⟨⟨"main.rs"⟩, "rust", "main.rs", "fn", 2⟩)).2

/-- The same engine after the request has come to its end. -/
def answered : Engine :=
  { asked with tasks := [], bus := [.answered 1 (.suggestions [.plain " main() {}"])] }

/-- The suggestion is shown and accepted, and one acknowledgement is on the bus. -/
theorem acknowledgement_awaited_accepted :
    ∃ e : Engine, e.Reachable ∧ e.controller.offering.editing = true ∧
      e.bus.count .insertionHandedOver = 1 := by
  have begun : asked.Reachable :=
    (Reachable.new .standard .standard signedIn.manager).move (.report _ _ rfl)
  have ended : answered.Reachable :=
    begun.move (.runTask Backend.provider Backend.service _ _ 0 signedIn.provider _ rfl)
  have accepted : (answered.pollBus.2.handle .accepted).2.Reachable :=
    (ended.move (.pollBus _)).move (.report _ _ rfl)
  exact ⟨_, accepted, by decide, (acknowledgement_awaited accepted).2.1 (by decide)⟩

end Engine

end InlineCompletion
