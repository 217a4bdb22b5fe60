import InlineCompletion.Proofs.Controller.Handlers

/-!
# Reactions that begin nothing

Most of what the controller does ends something: it stops waiting, it rejects
the live session, it shows a prompt.  `Controller.Calm` says this of a reaction
as a whole: **beside the trigger, the session and the prompts nothing changes**,
the trigger waits for what it waited for or for nothing, the session is the same
or gone, and all that is asked for is to record decisions and to show prompts.

`Course` says what becomes of the trigger and the offering, and leaves open what
becomes of the rest.  Here it is the other way round: the clause that carries
the weight is `frame`, an equation of controllers, from which the settings, the
connection, the active editor and the insertion under way are read off by
projecting it.
-/

namespace InlineCompletion

/-- An effect that only records a decision or shows a prompt. -/
def Effect.IsCalm : Effect → Prop
  | .recordDecision _ | .prompt _ => True
  | _ => False

namespace Controller

variable {s : Controller}

/-- **A reaction of `s` that begins nothing.** -/
structure Calm (s : Controller) (r : Reaction) : Prop where
  rests : s.trigger.RestsAs r.controller.trigger
  session : r.controller.offering.session = s.offering.session ∨
    r.controller.offering.session = none
  /-- Nothing else changes. -/
  frame : r.controller = { s with
    trigger := r.controller.trigger
    prompts := r.controller.prompts
    offering := { s.offering with session := r.controller.offering.session } }
  told : ∀ effect ∈ r.effects, effect.IsCalm

/-! ## What a calm reaction keeps -/

namespace Calm

variable {r : Reaction}

theorem settings (calm : s.Calm r) : r.controller.settings = s.settings := by
  rw [calm.frame]

theorem languages (calm : s.Calm r) : r.controller.languages = s.languages := by
  rw [calm.frame]

theorem connection (calm : s.Calm r) : r.controller.connection = s.connection := by
  rw [calm.frame]

theorem active (calm : s.Calm r) : r.controller.active = s.active := by
  rw [calm.frame]

theorem editing (calm : s.Calm r) : r.controller.offering.editing = s.offering.editing := by
  rw [calm.frame]

theorem awaited (calm : s.Calm r) : r.controller.offering.awaited = s.offering.awaited := by
  rw [calm.frame]

/-- Whether the state looks different says nothing about what is begun. -/
theorem alsoChanged (calm : s.Calm r) (changed : Bool) : s.Calm (r.alsoChanged changed) :=
  ⟨calm.rests, calm.session, calm.frame, calm.told⟩

/-- What a reading of effects passes over when it has nothing to say of decisions
and prompts. -/
theorem filterMap_eq_nil {α : Type} {read : Effect → Option α} (calm : s.Calm r)
    (silent : ∀ effect, effect.IsCalm → read effect = none) :
    r.effects.filterMap read = [] :=
  List.filterMap_eq_nil_iff.mpr fun effect member => silent effect (calm.told effect member)

end Calm

/-! ## Endings -/

theorem isCalm_of_mem_rejections {o : Offering} {effect : Effect}
    (member : effect ∈ o.rejections) : effect.IsCalm := by
  cases live : o.session with
  | none => simp [live] at member
  | some x =>
      rw [Offering.rejections_of_some live, List.mem_singleton] at member
      rw [member]
      trivial

/-- What only ends something is calm. -/
theorem calm_ending (s : Controller) (wait session : Bool) : s.Calm (s.ending wait session) := by
  have rests : s.trigger.RestsAs (s.ending wait session).controller.trigger := by
    cases wait with
    | false => exact .refl _
    | true => exact .cancel _
  cases session with
  | false => exact ⟨rests, .inl rfl, rfl, by simp [ending]⟩
  | true => exact ⟨rests, .inr rfl, rfl, fun _ => isCalm_of_mem_rejections⟩

theorem calm_rejectLive (s : Controller) : s.Calm s.rejectLive := by
  rw [rejectLive_eq_ending]
  exact calm_ending s _ _

theorem calm_abandon (s : Controller) : s.Calm s.abandon := by
  rw [abandon_eq_ending]
  exact calm_ending s _ _

/-! ## Handlers that begin nothing -/

theorem calm_reactToSelection (s : Controller) (selection : Selection) :
    s.Calm (s.reactToSelection selection) := by
  rw [reactToSelection_eq_ending]
  exact calm_ending s _ _

/-- Another active editor: all that is not calm about it is the editor. -/
theorem calm_reactToEditor (s : Controller) (editor : Option FocusedEditor) :
    ({ s with active := editor } : Controller).Calm (s.reactToEditor editor) := by
  rw [reactToEditor_eq_ending]
  exact (calm_ending _ _ _).alsoChanged _

theorem calm_reactToFocus (s : Controller) (focused : Bool) :
    ({ s with windowFocused := focused } : Controller).Calm (s.reactToFocus focused) := by
  rw [reactToFocus_eq_ending]
  exact (calm_ending _ _ _).alsoChanged _

theorem calm_reactToClosing (s : Controller) (document : DocumentId) :
    ({ s with active := s.activeWithout document } : Controller).Calm
      (s.reactToClosing document) := by
  rw [reactToClosing_eq_ending]
  exact (calm_ending _ _ _).alsoChanged _

/-- **Nothing is left of what was about a closed document**: it is not waited for,
and no session is about it. -/
theorem ended_of_closing (s : Controller) (document : DocumentId) :
    (s.reactToClosing document).controller.trigger.document? ≠ some document ∧
      ∀ x, (s.reactToClosing document).controller.offering.session = some x →
        x.document ≠ document := by
  rw [reactToClosing_eq_ending]
  refine ⟨?_, ?_⟩
  · dsimp only [Reaction.alsoChanged, ending]
    split
    · nofun
    · next other => simpa using other
  · intro x live
    dsimp only [Reaction.alsoChanged, ending] at live
    split at live
    · cases live
    · next other =>
      rintro rfl
      simp [live] at other

end Controller

end InlineCompletion
