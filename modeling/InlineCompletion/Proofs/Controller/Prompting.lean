import Mathlib.Data.List.Nodup
import InlineCompletion.Proofs.Controller.Settling

/-!
# When a prompt comes up

Without a connection that serves there is nothing to ask the service, and the user
is told so by a prompt.  A prompt at every keystroke would be a nuisance, and none
at a command would leave the user waiting.  So there are two rules: typing brings
up each prompt once until there is a valid connection again, and asking by hand
brings one up each time and takes no part in the counting.

Counting over a run comes down to one relation.  `PromptsShown.Grows` says of two
states which prompts came up between them, none twice and none that had come up
before; one event of typing is an instance of it (`grows_reactToChange`), any other
event that does not bring a valid connection leaves what has come up alone
(`Reserved`), and a stretch of a run composes the two (`grows_after`).  That the
flag is set with the prompt and not before it, and that nothing but a valid
connection takes it back, is all contained in that relation.
-/

namespace InlineCompletion

/-! ## What effects say of prompts -/

/-- The prompt that an effect brings up. -/
def Effect.prompt? : Effect → Option Prompt
  | .prompt p => some p
  | _ => none

/-- The prompts that effects bring up, in order. -/
def promptsIn (effects : List Effect) : List Prompt := effects.filterMap Effect.prompt?

@[simp] theorem promptsIn_append (es fs : List Effect) :
    promptsIn (es ++ fs) = promptsIn es ++ promptsIn fs :=
  List.filterMap_append

@[simp] theorem promptsIn_prompts (prompts : List Prompt) :
    promptsIn (prompts.map .prompt) = prompts := by
  induction prompts with
  | nil => rfl
  | cons prompt prompts ih => exact congrArg (prompt :: ·) ih

@[simp] theorem promptsIn_rejections (o : Offering) : promptsIn o.rejections = [] :=
  filterMap_rejections (fun _ => rfl) o

/-- Of a connection that does not serve, the rules say what is wrong with it. -/
theorem Gate.reasonAgainstConnection_of_not_serves {g : Gate}
    (refused : g.connection.serves = false) :
    g.reasonAgainstConnection =
      some (if g.connection.connected then .connectionExpired else .noConnection) := by
  unfold ConnectionStatus.serves at refused
  unfold reasonAgainstConnection
  cases connected : g.connection.connected <;> cases expired : g.connection.expired <;>
    cases valid : g.connection.valid <;> simp_all

namespace Controller

variable {s : Controller}

/-! ## Typing -/

/-- What ends something brings up no prompt. -/
@[simp] theorem promptsIn_ending (s : Controller) (wait session : Bool) :
    promptsIn (s.ending wait session).effects = [] := by
  cases session with
  | false => rfl
  | true => exact promptsIn_rejections _

theorem grows_reactToTyping (s : Controller) (change : Change) (now : Instant) :
    s.prompts.Grows (promptsIn (s.reactToTyping change now).effects)
      (s.reactToTyping change now).controller.prompts := by
  obtain ⟨x, y, text, -, -, -, along⟩ | anew := s.reactToTyping_cases change now
  · rw [along]
    exact .refl _
  · rw [anew]
    obtain ⟨-, waits⟩ | ⟨prompt, shown, grows, stops⟩ := s.rejectAndWait_cases change now
    · rw [waits, promptsIn_rejections]
      exact .refl _
    · rw [stops, promptsIn_append, promptsIn_rejections, promptsIn_prompts]
      exact grows

theorem grows_reactToEdit (s : Controller) (change : Change) (now : Instant) :
    s.prompts.Grows (promptsIn (s.reactToEdit change now).effects)
      (s.reactToEdit change now).controller.prompts := by
  obtain ⟨-, typing⟩ | deletion | unseen := s.reactToEdit_cases change now
  · rw [typing]
    exact grows_reactToTyping (s.noteTyping now) change now
  · rw [deletion, abandon_eq_ending, promptsIn_ending]
    exact .refl _
  · rw [unseen]
    exact .refl _

/-- **A change of a document brings up at most what has not come up yet.** -/
theorem grows_reactToChange (s : Controller) (change : Change) (now : Instant) :
    s.prompts.Grows (promptsIn (s.reactToChange change now).effects)
      (s.reactToChange change now).controller.prompts := by
  cases seen : s.offering.recognizeEcho change with
  | mk isEcho o =>
      cases isEcho with
      | true =>
          rw [reactToChange_of_echo seen]
          exact .refl _
      | false =>
          rw [reactToChange_of_not_echo seen]
          exact grows_reactToEdit { s with offering := o } change now

/-! ## Other events -/

/-- **A reaction of `s` that has nothing to do with prompts.** -/
structure Reserved (s : Controller) (r : Reaction) : Prop where
  silent : promptsIn r.effects = []
  kept : r.controller.prompts = s.prompts

/-- Asking by hand leaves the count of prompts alone. -/
theorem prompts_reactToInvocation (s : Controller) (snapshot : Snapshot) :
    (s.reactToInvocation snapshot).controller.prompts = s.prompts := by
  obtain ⟨-, next⟩ | ⟨reason, -, -, next⟩ | ⟨-, -, next⟩ := s.reactToInvocation_cases snapshot <;>
    rw [next] <;> rfl

/-- **Nothing but typing and asking by hand has to do with prompts**, unless it
brings a valid connection. -/
theorem reserved_react {e : Event} (typing : ∀ change now, e ≠ .documentChanged change now)
    (byHand : ∀ snapshot, e ≠ .invoked snapshot)
    (still : ∀ status, e = .connectionChanged status → status.valid = false) :
    s.Reserved (s.react e) := by
  cases e with
  | documentChanged change now => exact absurd rfl (typing change now)
  | invoked snapshot => exact absurd rfl (byHand snapshot)
  | selectionMoved selection =>
      rw [react, reactToSelection_eq_ending]
      exact ⟨promptsIn_ending _ _ _, rfl⟩
  | editorFocused editor =>
      rw [react, reactToEditor_eq_ending]
      exact ⟨by simp, rfl⟩
  | windowFocused focused =>
      rw [react, reactToFocus_eq_ending]
      exact ⟨by simp, rfl⟩
  | documentClosed document =>
      rw [react, reactToClosing_eq_ending]
      exact ⟨by simp, rfl⟩
  | rejected =>
      rw [react, rejectLive_eq_ending]
      exact ⟨promptsIn_ending _ _ _, rfl⟩
  | shutDown =>
      rw [react, abandon_eq_ending]
      exact ⟨promptsIn_ending _ _ _, rfl⟩
  | tick now =>
      rw [react]
      cases s.passes now with
      | still next | hidden _ _ _ next | refused _ _ _ next | asks _ _ _ _ _ next =>
          rw [next]
          exact ⟨rfl, rfl⟩
  | answered seq outcome =>
      rw [react]
      obtain ⟨-, next⟩ | ⟨q, -, -, next⟩ := s.reactToAnswer_cases seq outcome <;>
        rw [next] <;> exact ⟨rfl, rfl⟩
  | accepted =>
      simp only [react]
      split <;> exact ⟨rfl, rfl⟩
  | connectionChanged status =>
      obtain ⟨valid, -⟩ | ⟨-, ends⟩ := s.reactToConnection_cases status
      · rw [still status rfl] at valid
        cases valid
      · rw [react, ends]
        exact ⟨rfl, rfl⟩
  | settingsChanged settings =>
      rw [react]
      obtain ⟨-, next⟩ | ⟨trigger, -, next⟩ := s.reactToSettings_cases settings <;>
        rw [next] <;> exact ⟨rfl, rfl⟩
  | navigated forward | insertionHandedOver => exact ⟨rfl, rfl⟩

/-- **Only typing and asking by hand bring up prompts.** -/
theorem promptsIn_react_eq_nil {e : Event} (typing : ∀ change now, e ≠ .documentChanged change now)
    (byHand : ∀ snapshot, e ≠ .invoked snapshot) : promptsIn (s.react e).effects = [] := by
  by_cases told : ∃ status, e = .connectionChanged status
  · obtain ⟨status, rfl⟩ := told
    rw [react, effects_reactToConnection]
    rfl
  · exact (reserved_react typing byHand fun status changed => absurd ⟨status, changed⟩ told).silent

/-! ## A stretch of a run -/

/-- The prompts that an event brings up by typing. -/
def typingPrompts (s : Controller) : Event → List Prompt
  | .documentChanged change now => promptsIn (s.react (.documentChanged change now)).effects
  | _ => []

/-- The prompts that typing brings up along a run, in order. -/
def typingPromptsOf (s : Controller) (es : List Event) : List Prompt :=
  collect typingPrompts s es

/-- One event brings up, by typing, at most what has not come up yet. -/
theorem grows_react {e : Event}
    (still : ∀ status, e = .connectionChanged status → status.valid = false) :
    s.prompts.Grows (s.typingPrompts e) (s.react e).controller.prompts := by
  have kept (other : s.typingPrompts e = [])
      (same : (s.react e).controller.prompts = s.prompts) :
      s.prompts.Grows (s.typingPrompts e) (s.react e).controller.prompts := by
    rw [other, same]
    exact .refl _
  cases e with
  | documentChanged change now => exact grows_reactToChange s change now
  | invoked snapshot => exact kept rfl (prompts_reactToInvocation s snapshot)
  | _ => exact kept rfl (reserved_react (by simp) (by simp) still).kept

/-- **Over a stretch of a run without a valid connection, typing brings up at most
what had not come up before it**, and each prompt once. -/
theorem grows_after {es : List Event}
    (still : ∀ status, .connectionChanged status ∈ es → status.valid = false) :
    s.prompts.Grows (s.typingPromptsOf es) (s.after es).prompts := by
  induction es generalizing s with
  | nil => exact .refl _
  | cons e es ih =>
      have now : s.prompts.Grows (s.typingPrompts e) (s.react e).controller.prompts :=
        grows_react fun status told => still status (told ▸ List.mem_cons_self)
      exact now.trans (ih fun status member => still status (List.mem_cons_of_mem _ member))

/-- **Asking by hand without a connection that serves** brings up one prompt. -/
theorem promptsIn_reactToInvocation_of_refused {snapshot : Snapshot}
    (supported : s.languages.supports snapshot.languageId = true)
    (refused : s.connection.serves = false) :
    promptsIn (s.reactToInvocation snapshot).effects =
      [if s.connection.connected then .reauthenticate else .connect] := by
  have against := Gate.reasonAgainstConnection_of_not_serves (g := s.gate) refused
  obtain ⟨unheard, -⟩ | ⟨reason, -, against', next⟩ | ⟨-, granted, -⟩ :=
    s.reactToInvocation_cases snapshot
  · rw [supported] at unheard
    cases unheard
  · obtain rfl := Option.some.inj (against.symm.trans against')
    rw [next, Reaction.alsoDo, promptsIn_append, promptsIn_ending]
    cases connected : s.connection.connected <;> simp [gate, connected, promptOf] <;> rfl
  · cases against.symm.trans granted

/-- **Typing brings up each prompt once, asking by hand each time.**  Over every
stretch of a run that brings no valid connection, typing brings up each prompt at
most once: only what had not come up before, and afterwards what has come up is
what had and what typing has brought up meanwhile.  No event but a change of a
document and asking by hand brings up a prompt.  And asking by hand in a supported
language without a connection that serves brings up exactly one, sends no request,
and leaves what typing has brought up as it is.

A stretch may begin in any state, whichever run has led there. -/
theorem typing_prompts_once (s : Controller) :
    (∀ es, (∀ status, .connectionChanged status ∈ es → status.valid = false) →
        (∀ prompt, (s.typingPromptsOf es).count prompt ≤ 1) ∧
        (∀ prompt ∈ s.typingPromptsOf es, s.prompts.has prompt = false) ∧
        ∀ prompt, (s.after es).prompts.has prompt = true ↔
          s.prompts.has prompt = true ∨ prompt ∈ s.typingPromptsOf es) ∧
      (∀ e, (∀ change now, e ≠ .documentChanged change now) →
        (∀ snapshot, e ≠ .invoked snapshot) → promptsIn (s.react e).effects = []) ∧
      ∀ snapshot, s.languages.supports snapshot.languageId = true →
        (s.connection.connected = false ∨ s.connection.expired = true ∨
          s.connection.valid = false) →
        promptsIn (s.react (.invoked snapshot)).effects =
            [if s.connection.connected then .reauthenticate else .connect] ∧
          requestsIn (s.react (.invoked snapshot)).effects = [] ∧
          (s.react (.invoked snapshot)).controller.prompts = s.prompts := by
  refine ⟨?_, fun e => promptsIn_react_eq_nil, ?_⟩
  · intro es still
    have grows := grows_after (s := s) still
    exact ⟨List.nodup_iff_count_le_one.mp grows.distinct, grows.unseen, grows.seen⟩
  · intro snapshot supported bad
    have refused : s.connection.serves = false := by
      rcases bad with missing | expired | invalid <;> simp [ConnectionStatus.serves, *]
    refine ⟨promptsIn_reactToInvocation_of_refused supported refused, ?_,
      prompts_reactToInvocation s snapshot⟩
    rw [requestsIn_react]
    simp [asking?, refused]

/-- The connection comes and goes while a user types and asks by hand, and is never
valid. -/
def flappingRun : List Event :=
  [.editorFocused (some ⟨⟨"main.rs"⟩, "rust"⟩),
    .documentChanged (typedUpTo "f" 0 "f") 0, .documentChanged (typedUpTo "fn" 1 "n") 0,
    .connectionChanged ⟨true, false, true, false⟩, .documentChanged (typedUpTo "fn " 2 " ") 0,
    .connectionChanged ⟨false, false, false, false⟩, .documentChanged (typedUpTo "fn m" 3 "m") 0,
    .invoked ⟨⟨"main.rs"⟩, "rust", "main.rs", "fn m", 4⟩,
    .connectionChanged ⟨true, false, false, false⟩, .documentChanged (typedUpTo "fn ma" 4 "a") 0]

/-- Five changes bring up two prompts, and asking by hand brings up a third. -/
theorem typing_prompts_once_flapping :
    let s := new .standard .standard
    s.typingPromptsOf flappingRun = [.connect, .reauthenticate] ∧
      promptsIn (s.effectsOf flappingRun) = [.connect, .reauthenticate, .connect] ∧
      (s.typingPromptsOf flappingRun).count .connect ≤ 1 := by
  intro s
  refine ⟨by decide, by decide, ?_⟩
  exact ((typing_prompts_once s).1 flappingRun (by simp [flappingRun])).1 .connect

end Controller

end InlineCompletion
