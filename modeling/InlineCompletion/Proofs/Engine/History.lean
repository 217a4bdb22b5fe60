import Mathlib.Logic.Relation
import InlineCompletion.Proofs.Controller.Conservation
import InlineCompletion.Proofs.Controller.Permission
import InlineCompletion.Proofs.Engine.Acknowledgement

/-!
# The remembered decisions

An engine remembers decisions up to a limit, and the limit is one of the settings,
so it changes while the engine runs.  Room is made where a decision is remembered:
as many of the oldest go as leave room for the new one.  Nothing else makes room.
In particular new settings do not, and with a limit of zero nothing is remembered
and nothing goes.

So what is remembered is not always within the limit that holds.  What is true is
said by `history_exceeds_lowered_limit_only`.  A limit that is never lowered is kept
to, and whenever a decision is remembered the limit that holds is kept to, whatever
it was before.  What exceeds the limit is left over from the moment the limit was
lowered, and nothing was remembered since.

## Strokes

A pass of the host's loop may bring several limits and several decisions, so the
moves of a host are too coarse for this.  A `Stroke` handles a single event, or
leaves the controller and what is remembered alone, and every act around an engine
is made of strokes (`Act.strokes`).  Three things can come of a stroke
(`Stroke.history_cases`); the rest is by these cases and induction on the strokes.
-/

namespace InlineCompletion

namespace Engine

open Playback (Backend)
open Relation (ReflTransGen)

/-! ## Remembering -/

section Remembering

variable {limit : Nat} {decisions : List Decision}

@[simp] theorem remember_zero (decisions : List Decision) (d : Decision) :
    remember 0 decisions d = decisions := rfl

/-- Where there is room at all, the new decision is remembered, and up to the limit
those before it. -/
theorem length_remember (room : 0 < limit) (decisions : List Decision) (d : Decision) :
    (remember limit decisions d).length = min limit (decisions.length + 1) := by
  rw [remember, if_neg (Nat.ne_of_gt room), List.length_append, List.length_drop,
    List.length_singleton]
  omega

/-- Without room nothing is remembered and nothing goes. -/
theorem foldl_remember_zero (told : List Decision) :
    told.foldl (remember 0) decisions = decisions := by
  induction told with
  | nil => rfl
  | cons d told ih => rw [List.foldl_cons, remember_zero, ih]

/-- Decisions that are remembered one after another leave as many as there is room for. -/
theorem length_foldl_remember (room : 0 < limit) {told : List Decision} (some : told ≠ []) :
    (told.foldl (remember limit) decisions).length =
      min limit (decisions.length + told.length) := by
  induction told generalizing decisions with
  | nil => exact absurd rfl some
  | cons d told ih =>
      rw [List.foldl_cons, List.length_cons]
      cases told with
      | nil => exact length_remember room decisions d
      | cons d' told =>
          rw [ih (List.cons_ne_nil d' told), length_remember room]
          omega

end Remembering

/-! ## The history of an engine -/

/-- How many decisions the settings let an engine remember. -/
def limit (e : Engine) : Nat := e.controller.settings.decisionHistoryLimit.toNat

/-- What is remembered is within the limit. -/
def Bounded (e : Engine) : Prop := e.decisions.length ≤ e.limit

variable {e e' start : Engine}

@[simp] theorem perform_controller (e : Engine) (effect : Effect) :
    (e.perform effect).controller = e.controller := by
  cases effect <;> rfl

/-- Carrying out effects remembers the decisions among them, one after another. -/
theorem foldl_perform_decisions (effects : List Effect) (e : Engine) :
    (effects.foldl perform e).decisions =
      (decisionsIn effects).foldl (remember e.limit) e.decisions := by
  induction effects generalizing e with
  | nil => rfl
  | cons effect effects ih =>
      rw [List.foldl_cons, ih, limit, perform_controller]
      cases effect <;> rfl

/-- **Handling an event** remembers the decisions it leads to, under the limit that
holds afterwards. -/
theorem handle_decisions (e : Engine) (event : Event) :
    (e.handle event).2.decisions =
      (decisionsIn (e.controller.react event).effects).foldl
        (remember (e.handle event).2.limit) e.decisions := by
  rw [limit, handle_controller]
  exact foldl_perform_decisions _ _

/-- A decision that finds room leaves no more than there is room for. -/
theorem bounded_of_decided {event : Event} (room : 0 < (e.handle event).2.limit)
    (decided : decisionsIn (e.controller.react event).effects ≠ []) :
    (e.handle event).2.Bounded := by
  rw [Bounded, handle_decisions, length_foldl_remember room decided]
  exact Nat.min_le_left _ _

/-- New settings make no room. -/
theorem handle_settingsChanged (e : Engine) (settings : Settings) :
    (e.handle (.settingsChanged settings)).2.decisions = e.decisions ∧
      (e.handle (.settingsChanged settings)).2.limit = settings.decisionHistoryLimit.toNat := by
  have silent : (e.controller.react (.settingsChanged settings)).effects = [] :=
    e.controller.effects_reactToSettings settings
  refine ⟨by rw [handle_decisions, silent]; rfl, ?_⟩
  rw [limit, handle_controller, Controller.settings_of_settingsChanged]

/-- Other events leave the limit as it is. -/
theorem limit_handle {event : Event} (other : ∀ settings, event ≠ .settingsChanged settings) :
    (e.handle event).2.limit = e.limit := by
  have same := (Controller.sameGround_react e.controller event).settings.resolve_right (other _)
  rw [limit, handle_controller, same, limit]

/-! ## Strokes -/

/-- **One stroke of an engine**: an event is handled, or something changes beside the
controller and what is remembered. -/
inductive Stroke : Engine → Engine → Prop
  | handle (e : Engine) (event : Event) : Stroke e (e.handle event).2
  | beside {e e' : Engine} (controller : e'.controller = e.controller)
      (decisions : e'.decisions = e.decisions) : Stroke e e'

/-- An engine that strokes lead to goes on being one. -/
theorem keptByStrokes_strokes (start : Engine) : KeptByStrokes (ReflTransGen Stroke start) where
  report event _ run := run.tail (.handle _ event)
  message {e m rest} _ run := by
    have taken : Stroke e { e with bus := rest } := .beside rfl rfl
    exact (run.tail taken).tail (.handle _ m)
  runTask ran run := by
    obtain ⟨bus, tasks, rfl⟩ := runTask_frame ran
    exact run.tail (.beside rfl rfl)
  aside controller _ _ decisions run := run.tail (.beside controller decisions)

/-- **Every act is made of strokes.** -/
theorem Act.strokes (act : Act e e') : ReflTransGen Stroke e e' := by
  cases act with
  | dispatch _ event => exact .single (.handle e event)
  | move step _ => exact (keptByStrokes_strokes e).move step .refl
  | send | spawn | operate => exact .single (.beside rfl rfl)

theorem strokes_of_acts (acts : ReflTransGen Act e e') : ReflTransGen Stroke e e' := by
  induction acts with
  | refl => exact .refl
  | tail _ act ih => exact ih.trans act.strokes

/-- **What can come of a stroke**: what is remembered and the limit stay as they are, or
a decision was remembered within the limit, or new settings bring a limit. -/
theorem Stroke.history_cases (stroke : Stroke e e') :
    e'.decisions = e.decisions ∧ e'.limit = e.limit ∨
      e'.Bounded ∧ e'.limit = e.limit ∨
        ∃ settings, e' = (e.handle (.settingsChanged settings)).2 ∧
          e'.decisions = e.decisions ∧ e'.limit = settings.decisionHistoryLimit.toNat := by
  cases stroke with
  | beside controller decisions => exact .inl ⟨decisions, by rw [limit, controller, limit]⟩
  | handle event =>
      by_cases news : ∃ settings, event = .settingsChanged settings
      · obtain ⟨settings, rfl⟩ := news
        exact .inr (.inr ⟨settings, rfl, e.handle_settingsChanged settings⟩)
      have same : (e.handle event).2.limit = e.limit :=
        limit_handle fun settings told => news ⟨settings, told⟩
      by_cases decided : decisionsIn (e.controller.react event).effects = []
      · exact .inl ⟨by rw [handle_decisions, decided]; rfl, same⟩
      obtain none | room := Nat.eq_zero_or_pos (e.handle event).2.limit
      · exact .inl ⟨by rw [handle_decisions, none, foldl_remember_zero], same⟩
      · exact .inr (.inl ⟨bounded_of_decided room decided, same⟩)

/-- A stroke from within the limit stays within it exactly where what was remembered
is within the limit that holds then. -/
theorem Stroke.bounded_iff (stroke : Stroke e e') (bounded : e.Bounded) :
    e'.Bounded ↔ e.decisions.length ≤ e'.limit := by
  unfold Bounded at *
  obtain ⟨decisions, -⟩ | ⟨within, limit⟩ | ⟨_, -, decisions, -⟩ := stroke.history_cases
  · rw [decisions]
  · exact iff_of_true within (limit ▸ bounded)
  · rw [decisions]

/-- A limit that is kept to is broken by new settings with a limit below what is
remembered, and by nothing else. -/
theorem limit_lt_handle_iff (within : e.Bounded) (event : Event) :
    (e.handle event).2.limit < (e.handle event).2.decisions.length ↔
      ∃ lower : Settings, event = .settingsChanged lower ∧
        lower.decisionHistoryLimit.toNat < e.decisions.length := by
  have kept : (e.handle event).2.Bounded ↔ e.decisions.length ≤ (e.handle event).2.limit :=
    (Stroke.handle e event).bounded_iff within
  constructor
  · intro exceeded
    have lowered := mt kept.mpr (Nat.not_le_of_lt exceeded)
    by_cases news : ∃ settings, event = .settingsChanged settings
    · obtain ⟨lower, rfl⟩ := news
      rw [(e.handle_settingsChanged lower).2] at lowered
      exact ⟨lower, rfl, Nat.lt_of_not_le lowered⟩
    · have same : (e.handle event).2.limit = e.limit :=
        limit_handle fun settings told => news ⟨settings, told⟩
      exact absurd (same ▸ within) lowered
  · rintro ⟨lower, rfl, less⟩
    obtain ⟨same, limit⟩ := e.handle_settingsChanged lower
    rw [same, limit]
    exact less

/-- A limit that is never lowered is kept to. -/
theorem bounded_of_never_lowered (bounded : start.Bounded)
    (run : ReflTransGen (fun a b => Stroke a b ∧ a.limit ≤ b.limit) start e) : e.Bounded := by
  induction run with
  | refl => exact bounded
  | tail _ step within => exact (step.1.bounded_iff within).mpr (Nat.le_trans within step.2)

/-- **What is left over**: `e` remembers what was remembered, within the limit, when a
lower limit was set on the way from `start`. -/
def Leftover (start e : Engine) : Prop :=
  ∃ m settings, ReflTransGen Stroke start m ∧ m.Bounded ∧
    settings.decisionHistoryLimit.toNat < m.decisions.length ∧
    ReflTransGen Stroke (m.handle (.settingsChanged settings)).2 e ∧
    e.decisions = m.decisions

/-- What is left over stays so as long as nothing is remembered. -/
theorem Leftover.stroke (left : Leftover start e) (stroke : Stroke e e')
    (same : e'.decisions = e.decisions) : Leftover start e' := by
  obtain ⟨m, settings, before, within, lowered, since, still⟩ := left
  exact ⟨m, settings, before, within, lowered, since.tail stroke, same.trans still⟩

theorem bounded_or_leftover (bounded : start.Bounded) (run : ReflTransGen Stroke start e) :
    e.Bounded ∨ Leftover start e := by
  induction run with
  | refl => exact .inl bounded
  | @tail m e before stroke ih =>
      by_cases kept : e.Bounded
      · exact .inl kept
      refine .inr ?_
      obtain within | left := ih
      · -- the limit was within and is exceeded now: new settings have lowered it
        have lowered := mt (stroke.bounded_iff within).mpr kept
        obtain ⟨-, limit⟩ | ⟨now, -⟩ | ⟨settings, rfl, decisions, limit⟩ := stroke.history_cases
        · exact absurd (limit ▸ within) lowered
        · exact absurd now kept
        · exact ⟨m, settings, before, within, limit ▸ Nat.lt_of_not_le lowered, .refl, decisions⟩
      · obtain ⟨decisions, -⟩ | ⟨now, -⟩ | ⟨_, -, decisions, -⟩ := stroke.history_cases
        · exact left.stroke stroke decisions
        · exact absurd now kept
        · exact left.stroke stroke decisions

/-- A new engine remembers nothing. -/
theorem bounded_new (settings : Settings) (languages : LanguageTable)
    (manager : ConnectionManager) : (new settings languages manager).Bounded := by
  have fresh : (fresh settings languages manager).Bounded := Nat.zero_le _
  exact ((Stroke.handle _ _).bounded_iff fresh).mpr (Nat.zero_le _)

/-- **What is remembered exceeds only a limit that was lowered.**  Whatever acts come
after an engine is made, they are strokes, and along strokes

* a limit that is never lowered is kept to;
* the limit is exceeded only by what is left over from when it was lowered: what was
  remembered then, and nothing since;
* an event breaks a limit that is kept to exactly if it brings settings with a limit
  below what is remembered;
* and a decision that finds room brings what is remembered within the limit again. -/
theorem history_exceeds_lowered_limit_only (settings : Settings) (languages : LanguageTable)
    (manager : ConnectionManager) :
    let start := new settings languages manager
    (∀ e, ReflTransGen Act start e → ReflTransGen Stroke start e) ∧
      (∀ e, ReflTransGen (fun a b => Stroke a b ∧ a.limit ≤ b.limit) start e →
        e.decisions.length ≤ e.limit) ∧
      ∀ e, ReflTransGen Stroke start e →
        (e.decisions.length ≤ e.limit ∨ Leftover start e) ∧
          ∀ event,
            (e.decisions.length ≤ e.limit →
              ((e.handle event).2.limit < (e.handle event).2.decisions.length ↔
                ∃ lower : Settings, event = .settingsChanged lower ∧
                  lower.decisionHistoryLimit.toNat < e.decisions.length)) ∧
            (0 < (e.handle event).2.limit →
              decisionsIn (e.controller.react event).effects ≠ [] →
                (e.handle event).2.decisions.length ≤ (e.handle event).2.limit) := by
  intro start
  have bounded : start.Bounded := bounded_new settings languages manager
  refine ⟨fun _ => strokes_of_acts, fun _ => bounded_of_never_lowered bounded, ?_⟩
  intro e run
  exact ⟨bounded_or_leftover bounded run, fun event =>
    ⟨fun within => limit_lt_handle_iff within event, bounded_of_decided⟩⟩

/-- The user of `asked` is shown the suggestion and says no to it. -/
def declined : Engine := (answered.pollBus.2.handle .rejected).2

theorem acts_declined :
    ReflTransGen Act (new .standard .standard signedIn.manager) declined := by
  have begun : Act (new .standard .standard signedIn.manager) asked := .dispatch _ _
  have ended : Act asked answered :=
    .move (.runTask Backend.provider Backend.service _ _ 0 signedIn.provider _ rfl) rfl
  have shown : Act answered answered.pollBus.2 := .move (.pollBus _) (drain_manager _ _)
  exact (((ReflTransGen.single begun).tail ended).tail shown).tail (.dispatch _ .rejected)

/-- The settings of a user who wants nothing to be remembered. -/
def forgetful : Settings := { Settings.standard with decisionHistoryLimit := 0 }

/-- One decision is remembered within the limit, and left over when the limit becomes
zero. -/
theorem history_exceeds_lowered_limit_only_declined :
    let left := (declined.handle (.settingsChanged forgetful)).2
    declined.decisions.length = 1 ∧ left.limit < left.decisions.length ∧
      Leftover (new .standard .standard signedIn.manager) left := by
  intro left
  obtain ⟨strokes, -, along⟩ :=
    history_exceeds_lowered_limit_only .standard .standard signedIn.manager
  have exceeded : left.limit < left.decisions.length :=
    (((along declined (strokes _ acts_declined)).2 (.settingsChanged forgetful)).1
      (by decide)).mpr ⟨forgetful, rfl, by decide⟩
  have lowered := acts_declined.tail (.dispatch _ (.settingsChanged forgetful))
  exact ⟨by decide, exceeded,
    (along left (strokes _ lowered)).1.resolve_left (Nat.not_le_of_lt exceeded)⟩

/-- So an engine may remember a decision under a limit of zero. -/
theorem history_exceeds_limit_of_zero :
    ∃ e, ReflTransGen Act (new .standard .standard signedIn.manager) e ∧
      e.limit = 0 ∧ e.decisions.length = 1 :=
  ⟨_, acts_declined.tail (.dispatch _ (.settingsChanged forgetful)), by decide, by decide⟩

end Engine

end InlineCompletion
