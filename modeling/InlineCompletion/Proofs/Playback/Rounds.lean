import InlineCompletion.Playback.Player
import InlineCompletion.Proofs.Engine.News
import InlineCompletion.Proofs.Request.Asking

/-!
# What the pieces of a step do

A step tells the engine something, brings to its end what that set going, lets
the host make one pass, and brings to its end what the pass set going.  Each of
these pieces is given by an equation here: which parts of the player it changes,
and to what.

Between the pieces a player is `Quiet`: the editor has reported what it did,
nothing is on the bus, and the editor has nothing left to do.  What may be left
is a single request, and `finishWork_of_request` says what becomes of it.
-/

namespace InlineCompletion

section Calls

variable {effects : List Effect} (inserts : ∀ i, .insertText i ∉ effects)
include inserts

/-- Effects without an insertion show prompts at most. -/
theorem exists_prompts : ∃ prompts : List Prompt,
    effects.filterMap Effect.call? = prompts.map .prompt := by
  induction effects with
  | nil => exact ⟨[], rfl⟩
  | cons effect effects ih =>
      obtain ⟨prompts, told⟩ := ih fun i member => inserts i (List.mem_cons_of_mem _ member)
      cases effect with
      | insertText i => exact absurd List.mem_cons_self (inserts i)
      | prompt prompt => exact ⟨prompt :: prompts, by simp [Effect.call?, told]⟩
      | requestCompletion | recordDecision => exact ⟨prompts, told⟩

/-- Effects without an insertion put nothing on the bus. -/
theorem wordsOf_eq_nil : wordsOf effects = [] :=
  List.filterMap_eq_nil_iff.mpr fun effect member => by
    cases effect with
    | insertText i => exact absurd member (inserts i)
    | _ => rfl

end Calls

namespace Engine

/-- A bus with a single message is done with after that. -/
theorem pollBus_of_single {e : Engine} {m : Event} (single : e.bus = [m])
    (silent : (e.controller.react m).effects = []) :
    e.pollBus.2 = { e with controller := (e.controller.react m).controller, bus := [] } := by
  have handled := handle_of_silent { e with bus := [] } m silent
  unfold pollBus maxDrain
  rw [drain_succ]
  simp only [handleNext, single, handled]
  rw [drain_of_empty _ rfl]

/-- Waiting for the only message comes to the same as looking at the bus. -/
theorem waitForMessage_of_single {e : Engine} {m : Event} (single : e.bus = [m])
    (silent : (e.controller.react m).effects = []) : e.waitForMessage.2 = e.pollBus.2 := by
  rw [pollBus_of_single single silent]
  simp only [waitForMessage, handleNext, single]
  exact handle_of_silent { e with bus := [] } m silent

end Engine

namespace Playback

namespace Backend

/-- Looking for a credential asks nothing of the service. -/
theorem credential_snd (m : ConnectionManager) (b : Backend) : (m.credential provider b).2 = b := by
  unfold ConnectionManager.credential ConnectionManager.bearerToken ConnectionManager.accessKeys
  cases m.active with
  | none => rfl
  | some c => cases kind : c.kind <;> simp only [kind] <;> rfl

theorem create_requests (profile : ConnectionProfile) (b : Backend) :
    (create profile b).2.requests = b.requests := by
  cases profile <;> rfl

/-- Signing in asks nothing of the service. -/
theorem connect_requests (m : ConnectionManager) (profile : ConnectionProfile) (b : Backend) :
    (m.connect provider profile b).provider.requests = b.requests := by
  have made := fun profile => create_requests profile b
  have new : (m.adoptNew provider profile b).provider.requests = b.requests := by
    rw [ConnectionManager.adoptNew_eq]
    split
    · exact made profile
    · rw [ConnectionManager.adopt_provider]
      exact made profile
  have replaced (c : Connection) : (m.replace provider c b).provider.requests = b.requests := by
    cases like : ConnectionManager.profileLike c with
    | error e => simp only [ConnectionManager.replace, like]
    | ok again =>
        rw [ConnectionManager.replace_eq like]
        split
        · exact made again
        · split
          · exact made again
          · rw [ConnectionManager.adopt_provider]
            exact made again
  have sso (stored : List Connection) :
      (m.connectSso provider profile stored b).provider.requests = b.requests := by
    unfold ConnectionManager.connectSso
    split
    · exact new
    · split
      · rw [ConnectionManager.adopt_provider]
      · exact replaced _
  have iam (stored : List Connection) :
      (m.connectIam profile stored b).provider.requests = b.requests := by
    rw [ConnectionManager.connectIam_provider]
  cases profile with
  | iam => exact iam b.connections
  | builderId | enterprise => exact sso b.connections

/-- Signing in again asks nothing of the service. -/
theorem reauthenticate_requests (m : ConnectionManager) (b : Backend) :
    (m.reauthenticate provider b).provider.requests = b.requests := by
  have renewed (id : ConnectionId) : (reauthenticate id b).2.requests = b.requests := by
    unfold reauthenticate
    split <;> rfl
  unfold ConnectionManager.reauthenticate
  split
  · rfl
  · split
    · rfl
    · next c _ =>
      split
      · next found => rw [← renewed c.id]; exact congrArg (·.2.requests) found.symm
      · next found =>
        rw [← renewed c.id]
        split <;> exact congrArg (·.2.requests) found.symm

/-- **A request reaches the service, or fails.**  The store is left alone. -/
theorem ask_cases (m : ConnectionManager) (request : Request) (policy : RequestPolicy)
    (b : Backend) :
    let asked := askForSuggestions provider service m request policy b
    asked.2 = b ∧ (∃ e, asked.1 = .error e) ∨
      ∃ replies, asked.2 = { b with replies := replies, requests := b.requests ++ [request] } := by
  intro asked
  have same := credential_snd m b
  cases found : (m.credential provider b).1 with
  | error e =>
    have failed : asked = _ := askForSuggestions_of_error found
    rw [failed]
    exact .inl ⟨same, _, rfl⟩
  | ok credential =>
    have sent : asked = _ := askForSuggestions_of_ok found
    rw [sent, same]
    exact .inr ⟨_, rfl⟩

end Backend

namespace Player

variable {p q : Player}

/-- **Nothing is on its way** between the editor and the engine. -/
structure Quiet (p : Player) : Prop where
  /-- The editor has reported what it did. -/
  pending : p.pending = []
  bus : p.engine.bus = []
  /-- The editor has done what it was asked to. -/
  editorCalls : p.engine.editorCalls = []
  /-- No settings file is watched. -/
  watch : p.engine.watch = none

/-! ## What a step comes to -/

/-- A step is performed, and then what it set going is brought to its end, before and
after a pass of the host's loop. -/
theorem step_eq_ok_iff {s : Step} : p.step s = .ok q ↔
    ∃ r, p.perform s = .ok r ∧ (r.finishWork.tickAt r.finishWork.clock).finishWork = q := by
  unfold step
  cases p.perform s <;> simp

/-- Steps are done one after the other, and the prompts are looked at after each. -/
theorem after_cons_eq_ok_iff {s : Step} {steps : List Step} : p.after (s :: steps) = .ok q ↔
    ∃ r, p.step s = .ok r ∧ ({ r with prompts := [] } : Player).after steps = .ok q := by
  rw [after]
  cases p.step s <;> simp

/-- What the manager does changes the manager and the store. -/
theorem eq_of_manage {α : Type} {operation : ConnectionManager → Backend → Attempt Backend α}
    (managed : p.manage operation = .ok q) :
    q = { p with
      engine := { p.engine with manager := (operation p.engine.manager p.backend).manager }
      backend := (operation p.engine.manager p.backend).provider } := by
  unfold manage at managed
  dsimp only at managed
  split at managed
  · cases managed
  · exact (Except.ok.inj managed).symm

/-! ## Telling the engine something -/

/-- Prompts only come up. -/
theorem foldl_carryOut_prompts (prompts : List Prompt) (p : Player) :
    (prompts.map EditorCall.prompt).foldl carryOut p =
      { p with prompts := p.prompts ++ prompts } := by
  induction prompts generalizing p with
  | nil => simp
  | cons prompt prompts ih => simp [ih, carryOut]

/-- An editor that is asked nothing does nothing. -/
theorem act_of_no_calls {operation : Engine → Bool × Engine}
    (none' : (operation p.engine).2.editorCalls = []) :
    p.act operation = { p with engine := (operation p.engine).2 } := by
  have same : ({ (operation p.engine).2 with editorCalls := [] } : Engine) =
      (operation p.engine).2 := by
    generalize (operation p.engine).2 = e at none'
    obtain ⟨controller, manager, seen, bus, tasks, decisions, calls, watch⟩ := e
    obtain rfl : calls = [] := none'
    rfl
  simp [act, Engine.takeEditorCalls, none', same]

/-- **Telling the engine something** that leads to no insertion. -/
theorem tell_frame (editorCalls : p.engine.editorCalls = []) {e : Event}
    (inserts : ∀ i, .insertText i ∉ (p.engine.controller.react e).effects) :
    ∃ decisions prompts, p.tell e = { p with
      engine := { p.engine with
        controller := (p.engine.controller.react e).controller
        tasks := p.engine.tasks ++ tasksOf
          (.ofSettings (p.engine.controller.react e).controller.settings)
          (p.engine.controller.react e).effects
        decisions := decisions }
      prompts := prompts } := by
  obtain ⟨decisions, handled⟩ := p.engine.handle_frame e
  obtain ⟨prompts, calls⟩ := exists_prompts inserts
  refine ⟨decisions, p.prompts ++ prompts, ?_⟩
  rw [wordsOf_eq_nil inserts, calls, editorCalls] at handled
  simp only [tell, act, handled, Engine.takeEditorCalls, List.nil_append, foldl_carryOut_prompts,
    List.append_nil, editorCalls]

/-- Telling the engine something without an effect. -/
theorem tell_of_silent (editorCalls : p.engine.editorCalls = []) {e : Event}
    (silent : (p.engine.controller.react e).effects = []) :
    p.tell e = { p with
      engine := { p.engine with controller := (p.engine.controller.react e).controller } } := by
  rw [tell, act_of_no_calls] <;> rw [Engine.handle_of_silent _ _ silent]
  exact editorCalls

/-- Reporting events without an effect. -/
theorem report_of_silent (events : List Event) (editorCalls : p.engine.editorCalls = [])
    (silent : p.engine.controller.effectsOf events = []) :
    p.report events = { p with
      engine := { p.engine with controller := p.engine.controller.after events } } := by
  induction events generalizing p with
  | nil => rfl
  | cons e events ih =>
      obtain ⟨first, later⟩ := List.append_eq_nil_iff.mp silent
      rw [report, List.foldl_cons, tell_of_silent editorCalls first]
      exact ih editorCalls later

/-! ## Finishing -/

/-- Where nothing is unreported nothing is delivered. -/
theorem deliver_of_none (pending : p.pending = []) : p.deliver = p := by
  obtain ⟨engine, backend, document, pending', prompts, clock⟩ := p
  obtain rfl : pending' = [] := pending
  rfl

/-- Where nothing waits nothing is run. -/
theorem runBackground_of_none (tasks : p.engine.tasks = []) : p.runBackground = p := by
  obtain ⟨⟨controller, manager, seen, bus, tasks', decisions, calls, watch⟩, _, _, _, _, _⟩ := p
  obtain rfl : tasks' = [] := tasks
  rfl

/-- An empty bus has nothing to tell. -/
theorem Quiet.look (quiet : p.Quiet) :
    p.engine.pollBus = (false, p.engine) ∧ p.act (·.pollBus) = p := by
  have same : p.engine.pollBus = (false, p.engine) := Engine.drain_of_empty _ quiet.bus
  refine ⟨same, ?_⟩
  rw [act_of_no_calls] <;> rw [same]
  exact quiet.editorCalls

/-- Where nothing is under way finishing does nothing. -/
theorem finishWork_of_rest (quiet : p.Quiet) (rest : p.engine.tasks = []) : p.finishWork = p := by
  rw [finishWork, deliver_of_none quiet.pending, runBackground_of_none rest, quiet.look.2]

/-- **Only events without an effect are left**: those that the editor has not reported,
and one that is on the bus. -/
structure Silent (m : Event) (p : Player) : Prop where
  tasks : p.engine.tasks = []
  editorCalls : p.engine.editorCalls = []
  bus : p.engine.bus = [m]
  effects : p.engine.controller.effectsOf (p.pending ++ [m]) = []

namespace Silent

variable {m : Event}

/-- What the editor has not reported is reported without an effect. -/
theorem deliver (silent : Silent m p) :
    p.deliver = { p with
      engine := { p.engine with controller := p.engine.controller.after p.pending }
      pending := [] } ∧ Silent m p.deliver := by
  obtain ⟨reported, last⟩ := List.append_eq_nil_iff.mp
    ((Controller.effectsOf_append _ _ _).symm.trans silent.effects)
  have delivered : p.deliver = { p with
      engine := { p.engine with controller := p.engine.controller.after p.pending }
      pending := [] } :=
    report_of_silent (p := { p with pending := [] }) p.pending silent.editorCalls reported
  refine ⟨delivered, ?_⟩
  rw [delivered]
  exact ⟨silent.tasks, silent.editorCalls, silent.bus, last⟩

/-- **Finishing where events without an effect are left** lets the controller know of
them. -/
theorem finishWork_eq (silent : Silent m p) :
    p.finishWork = { p with
      engine := { p.engine with
        controller := p.engine.controller.after (p.pending ++ [m])
        bus := [] }
      pending := [] } := by
  obtain ⟨delivered, still⟩ := silent.deliver
  have none' : p.deliver.pending = [] := by rw [delivered]
  have last := still.effects
  rw [none', List.nil_append, Controller.effectsOf_cons, Controller.effectsOf_nil,
    List.append_nil] at last
  have looked := Engine.pollBus_of_single still.bus last
  rw [finishWork, runBackground_of_none still.tasks, act_of_no_calls] <;> rw [looked, delivered]
  · rw [Controller.after_append]
    rfl
  · exact silent.editorCalls

end Silent

section Request

variable {seq : Nat} {request : Request} {policy : RequestPolicy}

/-- **Running a request**: it reaches the service or fails, and which of them is put on
the bus. -/
theorem runBackground_of_request (quiet : p.Quiet)
    (waiting : p.engine.tasks = [.request seq request policy]) :
    ∃ outcome backend, p.runBackground = { p with
        engine := { p.engine with tasks := [], bus := [.answered seq outcome] }
        backend := backend } ∧
      (backend.requests = p.backend.requests ∧ (∃ reason, outcome = .failed reason) ∨
        backend.requests = p.backend.requests ++ [request]) := by
  let asked := askForSuggestions Backend.provider Backend.service p.engine.manager request policy
    p.backend
  refine ⟨Engine.outcomeOf asked.1, asked.2, ?_, ?_⟩
  · simp only [runBackground, waiting, finishAll, List.foldl_cons, List.foldl_nil, Engine.finish,
      Engine.send, quiet.bus, List.nil_append]
    rfl
  · rcases Backend.ask_cases p.engine.manager request policy p.backend with
      ⟨same, e, failed⟩ | ⟨replies, reached⟩
    · refine .inl ⟨congrArg _ same, e.message, ?_⟩
      show Engine.outcomeOf (askForSuggestions _ _ _ _ _ _).1 = _
      rw [failed]
      rfl
    · exact .inr (congrArg _ reached)

/-- **Bringing a request to its end**: it reaches the service or fails, and the
controller hears which. -/
theorem finishWork_of_request (quiet : p.Quiet)
    (waiting : p.engine.tasks = [.request seq request policy]) :
    ∃ outcome backend, p.finishWork = { p with
        engine := { p.engine with
          controller := (p.engine.controller.react (.answered seq outcome)).controller
          tasks := [] }
        backend := backend } ∧
      (backend.requests = p.backend.requests ∧ (∃ reason, outcome = .failed reason) ∨
        backend.requests = p.backend.requests ++ [request]) := by
  obtain ⟨outcome, backend, run, reached⟩ := runBackground_of_request quiet waiting
  have silent := p.engine.controller.effects_of_message (m := .answered seq outcome)
    (.inr ⟨seq, _, rfl⟩)
  have looked := Engine.pollBus_of_single (e := p.runBackground.engine)
    (m := .answered seq outcome) (by rw [run]) (by rw [run]; exact silent)
  refine ⟨outcome, backend, ?_, reached⟩
  rw [finishWork, deliver_of_none quiet.pending, act_of_no_calls] <;> rw [looked, run]
  · simp [quiet.bus]
  · exact quiet.editorCalls

end Request

/-- **One pass of the host's loop**: the news, and the time. -/
theorem tickAt_eq (quiet : p.Quiet) (now : Instant) :
    p.tickAt now = ({ p with
      engine := { p.engine with
        controller := p.engine.controller.after p.engine.news
        seen := p.engine.manager.publications }
      clock := now } : Player).tell (.tick now) := by
  have news := p.engine.pollConnection_eq
  -- the file and the bus have nothing to tell
  have settings : p.engine.pollConnection.2.pollSettings now none =
      (false, p.engine.pollConnection.2) := by
    simp only [Engine.pollSettings, news, quiet.watch]
  have bus : p.engine.pollConnection.2.pollBus = (false, p.engine.pollConnection.2) :=
    Engine.drain_of_empty _ (by rw [news]; exact quiet.bus)
  have pass : (p.engine.tick now none).2 = (p.engine.pollConnection.2.handle (.tick now)).2 := by
    simp only [Engine.tick, settings, bus]
  rw [tickAt, act, pass, news]
  rfl

end Player

end Playback

end InlineCompletion
