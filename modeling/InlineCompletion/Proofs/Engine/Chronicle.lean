import InlineCompletion.Proofs.Engine.History

/-!
# The remembered decisions are the latest ones

A `Chronicle` is a run of an engine, stroke by stroke, with a log of what was told: for
each event that was handled, the decisions it led to and the limit that held afterwards.
What is remembered is compared with the log here.

A limit of zero makes a gap, for under it a decision is told and not remembered, while
those before it stay.  Without such a limit there is none: **what is remembered is the end
of what was told** (`history_is_end_of_told`).  How long an end it is depends on the
limits on the way, since a limit that was raised again does not bring back what was
dropped.  If the limit stays the same it depends on nothing else.

An event leads to one decision at most (`handle_cases`), so it is enough to see what
`remember` does to an end of a list.
-/

namespace InlineCompletion

open Relation (ReflTransGen)

/-! ## Remembering, and the end of a list -/

namespace Engine

section Remembering

variable {limit : Nat} {decisions told : List Decision}

/-- What is remembered stays an end of what was told. -/
theorem remember_suffix (room : 0 < limit) (isEnd : decisions <:+ told) (d : Decision) :
    remember limit decisions d <:+ told ++ [d] := by
  rw [remember, if_neg (Nat.ne_of_gt room)]
  obtain ⟨before, whole⟩ := (List.drop_suffix _ decisions).trans isEnd
  exact ⟨before, by rw [← List.append_assoc, whole]⟩

/-- The new decision comes last. -/
theorem getLast?_remember (room : 0 < limit) (decisions : List Decision) (d : Decision) :
    (remember limit decisions d).getLast? = some d := by
  rw [remember, if_neg (Nat.ne_of_gt room)]
  exact List.getLast?_concat

/-- The last `limit` decisions stay the last ones, also if there is no room at all. -/
theorem remember_drop (limit : Nat) (told : List Decision) (d : Decision) :
    remember limit (told.drop (told.length - limit)) d =
      (told ++ [d]).drop ((told ++ [d]).length - limit) := by
  obtain rfl | room := Nat.eq_zero_or_pos limit
  · simp
  · rw [remember, if_neg (Nat.ne_of_gt room), List.drop_drop, List.length_drop,
      List.length_append, List.length_singleton, List.drop_append_of_le_length (by omega)]
    congr 2
    omega

end Remembering

end Engine

/-! ## One event -/

/-- A rejection is the decision on the live session. -/
theorem Offering.decisionsIn_rejections (o : Offering) :
    decisionsIn o.rejections = (o.session.map Session.rejection).toList := by
  cases live : o.session with
  | none => simp [live, decisionsIn]
  | some x => simp [live, decisionsIn, Effect.decision?]

/-- **An event leads to one decision at most**, on the session that was live before. -/
theorem Course.decisionsIn_cases {t t' : Trigger} {o o' : Offering} {e : Event}
    {effects : List Effect} (course : Course t o e t' o' effects) :
    decisionsIn effects = [] ∨ o.session ≠ none ∧ ∃ d, decisionsIn effects = [d] := by
  have rejected : decisionsIn o.rejections = [] ∨
      o.session ≠ none ∧ ∃ d, decisionsIn o.rejections = [d] := by
    rw [Offering.decisionsIn_rejections]
    cases o.session with
    | none => exact .inl rfl
    | some x => exact .inr ⟨nofun, x.rejection, rfl⟩
  cases course with
  | rest prompts _ _ _ told => exact .inl (told ▸ decisionsIn_prompts prompts)
  | move _ _ _ _ _ _ _ _ told | drop _ _ _ _ _ _ told | opening _ _ _ _ _ _ _ _ _ told =>
      exact .inl (told ▸ rfl)
  | reject prompts _ _ _ told =>
      rw [told, decisionsIn_append, decisionsIn_prompts, List.append_nil]
      exact rejected
  | wait _ _ _ _ _ _ told =>
      rw [told]
      exact rejected
  | ask _ _ _ _ _ told =>
      rw [told, decisionsIn_append, show decisionsIn [.requestCompletion _ _] = [] from rfl,
        List.append_nil]
      exact rejected
  | accept x _ _ _ _ before _ _ told =>
      rw [told]
      exact .inr ⟨by simp [before], _, rfl⟩

namespace Engine

variable {e e' start : Engine}

/-- **What handling an event does to what is remembered**: nothing, or a decision is
remembered under the limit that held before. -/
theorem handle_cases (coherent : Coherent e.controller.trigger e.controller.offering)
    (event : Event) :
    decisionsIn (e.controller.react event).effects = [] ∧
        (e.handle event).2.decisions = e.decisions ∨
      ∃ d, decisionsIn (e.controller.react event).effects = [d] ∧
        (e.handle event).2.limit = e.limit ∧
        (e.handle event).2.decisions = remember e.limit e.decisions d := by
  obtain none' | ⟨-, d, one⟩ := (Controller.course coherent event).decisionsIn_cases
  · exact .inl ⟨none', by rw [handle_decisions, none']; rfl⟩
  · have same : (e.handle event).2.limit = e.limit := by
      apply limit_handle
      rintro settings rfl
      have silent := e.controller.effects_reactToSettings settings
      rw [Controller.react, silent] at one
      cases one
    exact .inr ⟨d, one, same, by rw [handle_decisions, one, same]; rfl⟩

/-! ## Chronicles -/

/-- What is entered for an event: the limit that holds afterwards, and the decisions that
the event led to. -/
structure Entry where
  limit : Nat
  told : List Decision

/-- The entry for an event. -/
def entry (e : Engine) (event : Event) : Entry :=
  ⟨(e.handle event).2.limit, decisionsIn (e.controller.react event).effects⟩

/-- **A run from `start`, stroke by stroke**, with a log of the events that were handled. -/
inductive Chronicle (start : Engine) : List Entry → Engine → Prop
  | start : Chronicle start [] start
  | handle {log : List Entry} {e : Engine} (run : Chronicle start log e) (event : Event) :
      Chronicle start (log ++ [e.entry event]) (e.handle event).2
  | beside {log : List Entry} {e e' : Engine} (run : Chronicle start log e)
      (controller : e'.controller = e.controller) (decisions : e'.decisions = e.decisions) :
      Chronicle start log e'

/-- All the decisions of a log, in order. -/
def toldIn (log : List Entry) : List Decision := log.flatMap Entry.told

/-- The limits that held on the way. -/
def limits (start : Engine) (log : List Entry) : List Nat := start.limit :: log.map Entry.limit

@[simp] theorem toldIn_concat (log : List Entry) (x : Entry) :
    toldIn (log ++ [x]) = toldIn log ++ x.told := by
  simp [toldIn]

theorem limits_concat (start : Engine) (log : List Entry) (x : Entry) :
    start.limits (log ++ [x]) = start.limits log ++ [x.limit] := by
  simp [limits]

namespace Chronicle

variable {log : List Entry}

/-- The limit that holds is among those that held. -/
theorem limit_mem (run : Chronicle start log e) : e.limit ∈ start.limits log := by
  induction run with
  | start => exact List.mem_cons_self
  | handle run event =>
      rw [limits_concat]
      exact List.mem_append_right _ List.mem_cons_self
  | beside run controller _ ih =>
      unfold limit
      rw [controller]
      exact ih

/-- The controller stays coherent. -/
theorem coherent (coherent : Coherent start.controller.trigger start.controller.offering)
    (run : Chronicle start log e) : Coherent e.controller.trigger e.controller.offering := by
  induction run with
  | start => exact coherent
  | handle _ event ih =>
      rw [handle_controller]
      exact Controller.coherent_react ih event
  | beside _ controller _ ih =>
      rw [controller]
      exact ih

/-- **Every run of strokes has a chronicle.** -/
theorem of_strokes (strokes : ReflTransGen Stroke start e) : ∃ log, Chronicle start log e := by
  induction strokes with
  | refl => exact ⟨[], .start⟩
  | tail _ stroke ih =>
      obtain ⟨log, run⟩ := ih
      cases stroke with
      | handle event => exact ⟨_, run.handle event⟩
      | beside controller decisions => exact ⟨log, run.beside controller decisions⟩

/-- **As long as no limit is zero**, what is remembered is an end of what was told. -/
theorem suffix (coherent : Coherent start.controller.trigger start.controller.offering)
    (fresh : start.decisions = []) (run : Chronicle start log e)
    (rooms : ∀ limit ∈ start.limits log, 0 < limit) : e.decisions <:+ toldIn log := by
  induction run with
  | start => rw [fresh]; exact List.nil_suffix
  | @handle log e run event ih =>
      rw [limits_concat] at rooms
      have before : ∀ limit ∈ start.limits log, 0 < limit :=
        fun limit member => rooms limit (List.mem_append_left _ member)
      rw [toldIn_concat]
      obtain ⟨none', same⟩ | ⟨d, one, -, next⟩ := handle_cases (run.coherent coherent) event
      · rw [same, entry, none', List.append_nil]
        exact ih before
      · rw [next, entry, one]
        exact remember_suffix (before _ run.limit_mem) (ih before) d
  | beside _ _ decisions ih =>
      rw [decisions]
      exact ih rooms

/-- **Under a limit that stays the same**, it is the end that has room. -/
theorem eq_drop (coherent : Coherent start.controller.trigger start.controller.offering)
    (fresh : start.decisions = []) (run : Chronicle start log e) {limit : Nat}
    (constant : ∀ l ∈ start.limits log, l = limit) :
    e.decisions = (toldIn log).drop ((toldIn log).length - limit) := by
  induction run with
  | start => simp [fresh, toldIn]
  | @handle log e run event ih =>
      rw [limits_concat] at constant
      have before : ∀ l ∈ start.limits log, l = limit :=
        fun l member => constant l (List.mem_append_left _ member)
      rw [toldIn_concat]
      obtain ⟨none', same⟩ | ⟨d, one, -, next⟩ := handle_cases (run.coherent coherent) event
      · rw [same, entry, none', List.append_nil]
        exact ih before
      · rw [next, entry, one, ih before, before _ run.limit_mem]
        exact remember_drop limit (toldIn log) d
  | beside _ _ decisions ih =>
      rw [decisions]
      exact ih constant

end Chronicle

/-- A new engine remembers nothing. -/
theorem decisions_new (settings : Settings) (languages : LanguageTable)
    (manager : ConnectionManager) : (new settings languages manager).decisions = [] := by
  have coherent := Controller.coherent_new settings languages
  obtain ⟨-, same⟩ | ⟨d, one, -⟩ :=
    handle_cases (e := fresh settings languages manager) coherent
      (.connectionChanged (.ofSnapshot manager.published))
  · exact same
  · -- there is no session to decide on
    obtain none' | ⟨live, -⟩ := (Controller.course coherent
      (.connectionChanged (.ofSnapshot manager.published))).decisionsIn_cases
    · exact absurd (none'.symm.trans one) (by simp)
    · exact absurd rfl live

/-- **What is remembered is the end of what was told.**  Whatever acts come after an engine
is made have a chronicle, and if no limit in it is zero then

* what is remembered is an end of all that was told;
* when a decision is told it is the only one, it is the last that is remembered, and those
  before it are remembered as far as the limit leaves room for it.

Under a limit that stays the same, what is remembered is the end of that length, or all that
was told if that is less. -/
theorem history_is_end_of_told (settings : Settings) (languages : LanguageTable)
    (manager : ConnectionManager) :
    let start := new settings languages manager
    (∀ e, ReflTransGen Act start e → ∃ log, Chronicle start log e) ∧
      ∀ log e, Chronicle start log e →
        ((∀ limit ∈ start.limits log, 0 < limit) →
          e.decisions <:+ toldIn log ∧
            ∀ event, ∀ d ∈ decisionsIn (e.controller.react event).effects,
              decisionsIn (e.controller.react event).effects = [d] ∧
                (e.handle event).2.decisions.length =
                  min (e.handle event).2.limit (e.decisions.length + 1) ∧
                (e.handle event).2.decisions.getLast? = some d) ∧
          ∀ limit, (∀ l ∈ start.limits log, l = limit) →
            e.decisions = (toldIn log).drop ((toldIn log).length - limit) := by
  intro start
  have fresh : start.decisions = [] := decisions_new settings languages manager
  have coherent : Coherent start.controller.trigger start.controller.offering := by
    simp only [start, new, handle_controller]
    exact Controller.coherent_react (Controller.coherent_new settings languages) _
  refine ⟨fun e acts => Chronicle.of_strokes (strokes_of_acts acts), fun log e run => ⟨?_, ?_⟩⟩
  · intro rooms
    refine ⟨run.suffix coherent fresh rooms, fun event d told => ?_⟩
    obtain ⟨none', -⟩ | ⟨d', one, same, next⟩ := handle_cases (run.coherent coherent) event
    · rw [none'] at told
      cases told
    · rw [one, List.mem_singleton] at told
      obtain rfl := told
      have room := rooms _ run.limit_mem
      rw [next, same]
      exact ⟨one, length_remember room _ d, getLast?_remember room _ d⟩
  · intro limit constant
    exact run.eq_drop coherent fresh constant

/-- The settings of a user who wants the latest decision to be remembered alone. -/
def latestOnly : Settings := { Settings.standard with decisionHistoryLimit := 1 }

/-- The user asks for suggestions by hand. -/
def asksByHand : Event := .invoked ⟨⟨"main.rs"⟩, "rust", "main.rs", "fn", 2⟩

/-- The request with the number `seq` is answered with a suggestion. -/
def suggestsMain (seq : Nat) : Event := .answered seq (.suggestions [.plain " main() {}"])

/-- The user says no twice, and the second no is remembered. -/
theorem history_is_end_of_told_twice :
    let start := new latestOnly .standard signedIn.manager
    ∃ log e, Chronicle start log e ∧ (toldIn log).length = 2 ∧ e.decisions.length = 1 ∧
      e.decisions <:+ toldIn log ∧
        e.decisions = (toldIn log).drop ((toldIn log).length - 1) := by
  intro start
  have begun : Chronicle start [] start := .start
  have shown := begun.handle asksByHand |>.handle (suggestsMain 1) |>.handle .rejected
    |>.handle asksByHand |>.handle (suggestsMain 2)
  have declined := shown.handle .rejected
  obtain ⟨-, along⟩ := history_is_end_of_told latestOnly .standard signedIn.manager
  obtain ⟨-, length, -⟩ := ((along _ _ shown).1 (by decide +kernel)).2 .rejected
    ⟨2, ⟨"main.rs"⟩, .rejected⟩ (by decide +kernel)
  obtain ⟨isEnd, end'⟩ := along _ _ declined
  exact ⟨_, _, declined, by decide +kernel, length.trans (by decide +kernel),
    (isEnd (by decide +kernel)).1, end' 1 (by decide +kernel)⟩

end Engine

end InlineCompletion
