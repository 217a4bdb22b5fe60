import InlineCompletion.Proofs.Controller.Typing
import Mathlib.Logic.ExistsUnique

/-!
# The shapes of a change

A change is a list of edits of any kind: some insert, some remove, some do both, some do
nothing.  Two of its shapes are asked for by name, that nothing changes at all and that
something is only removed; the third is what remains for the rules on typing, when they have
found neither.  Here the third is said on its own, that text is put in somewhere, and **every
change has one shape and no other** (`Change.existsUnique_shape`).

What decides is whether any edit puts text in and whether any edit removes some.  An edit
that does both counts as one that puts text in, and an edit that does nothing counts for
nothing, so neither can keep a list from having a shape.

The rules on typing look at the shape last.  Whoever sees a change gives the reason that
belongs to its shape, and whoever does not see it gives a reason that belongs to none
(`Gate.reasonAgainstEdit_eq_iff`).
-/

namespace InlineCompletion

/-- An edit without text does nothing or removes something. -/
theorem Edit.doesNothing_or_deletes (e : Edit) :
    (e.doesNothing || e.deletes) = (e.text == "") := by
  unfold doesNothing deletes bne
  cases e.removed == 0 <;> cases e.text == "" <;> rfl

namespace Change

variable (c : Change)

/-- Text is put in at some place. -/
def AddsText : Prop := ∃ e ∈ c.edits, e.text ≠ ""

/-- Text is removed at some place. -/
def RemovesText : Prop := ∃ e ∈ c.edits, e.removed ≠ 0

theorem not_addsText_iff : ¬ c.AddsText ↔ ∀ e ∈ c.edits, e.text = "" := by
  simp [AddsText]

theorem changesNothing_iff : c.changesNothing = true ↔ ¬ c.AddsText ∧ ¬ c.RemovesText := by
  simp only [changesNothing, List.all_eq_true, Edit.doesNothing, Bool.and_eq_true, beq_iff_eq,
    AddsText, RemovesText, not_exists, not_and, Decidable.not_not]
  constructor
  · intro all
    exact ⟨fun e member => (all e member).2, fun e member => (all e member).1⟩
  · rintro ⟨texts, removals⟩ e member
    exact ⟨removals e member, texts e member⟩

theorem onlyDeletes_iff : c.onlyDeletes = true ↔ ¬ c.AddsText ∧ c.RemovesText := by
  have texts : (c.edits.all fun e => e.doesNothing || e.deletes) = true ↔ ¬ c.AddsText := by
    simp only [Edit.doesNothing_or_deletes, List.all_eq_true, beq_iff_eq, not_addsText_iff]
  rw [onlyDeletes, Bool.and_eq_true, texts, Bool.not_eq_true', ← Bool.not_eq_true,
    changesNothing_iff]
  constructor
  · rintro ⟨something, adds⟩
    exact ⟨adds, Classical.not_not.mp fun removes => something ⟨adds, removes⟩⟩
  · rintro ⟨adds, removes⟩
    exact ⟨fun nothing => nothing.2 removes, adds⟩

/-! ## Three shapes -/

/-- The shapes a change can have. -/
inductive Shape
  | empty
  | deletion
  | insertion
  deriving DecidableEq, Repr

/-- What it is to have a shape. -/
def HasShape : Shape → Prop
  | .empty => c.changesNothing = true
  | .deletion => c.onlyDeletes = true
  | .insertion => c.AddsText

/-- **Every change has exactly one shape.** -/
theorem existsUnique_shape : ∃! shape, c.HasShape shape := by
  by_cases adds : c.AddsText
  · refine ⟨.insertion, adds, fun shape has => ?_⟩
    cases shape with
    | empty => exact absurd adds (c.changesNothing_iff.mp has).1
    | deletion => exact absurd adds (c.onlyDeletes_iff.mp has).1
    | insertion => rfl
  · by_cases removes : c.RemovesText
    · refine ⟨.deletion, c.onlyDeletes_iff.mpr ⟨adds, removes⟩, fun shape has => ?_⟩
      cases shape with
      | empty => exact absurd removes (c.changesNothing_iff.mp has).2
      | deletion => rfl
      | insertion => exact absurd has adds
    · refine ⟨.empty, c.changesNothing_iff.mpr ⟨adds, removes⟩, fun shape has => ?_⟩
      cases shape with
      | empty => rfl
      | deletion => exact absurd (c.onlyDeletes_iff.mp has).2 removes
      | insertion => exact absurd has adds

/-- The reason against a change of this shape, where the shape is what decides. -/
def Shape.reasonAgainst : Shape → Option Suppression
  | .empty => some .emptyDelta
  | .deletion => some .deletionOnly
  | .insertion => none

theorem Shape.reasonAgainst_injective : Function.Injective reasonAgainst := by
  intro a b same
  cases a <;> cases b <;> simp_all [reasonAgainst]

/-- A change that inserts at one place puts text in. -/
theorem addsText_of_insertion? {offset : Nat} {text : String}
    (inserted : c.insertion? = some (offset, text)) : c.AddsText := by
  obtain ⟨edits, filled⟩ := insertion?_eq_some_iff.mp inserted
  exact ⟨.insertion offset text, by rw [edits]; exact List.mem_singleton_self _, filled⟩

end Change

namespace Gate

/-- Of a change that is seen, the shape decides. -/
theorem Sees.reasonAgainstEdit_of_hasShape {g : Gate} {c : Change} (sees : g.Sees c)
    {shape : Change.Shape} (has : c.HasShape shape) :
    g.reasonAgainstEdit c = shape.reasonAgainst := by
  rw [sees.reasonAgainstEdit]
  cases shape with
  | empty => exact if_pos has
  | deletion =>
      have something : ¬ c.changesNothing = true := fun nothing =>
        (c.changesNothing_iff.mp nothing).2 (c.onlyDeletes_iff.mp has).2
      rw [if_neg something]
      exact if_pos has
  | insertion =>
      rw [if_neg fun nothing => (c.changesNothing_iff.mp nothing).1 has,
        if_neg fun deletes => (c.onlyDeletes_iff.mp deletes).1 has]
      rfl

/-- **The reason that belongs to a shape is given for changes of that shape that are seen**,
and for no others. -/
theorem reasonAgainstEdit_eq_iff (g : Gate) (c : Change) (shape : Change.Shape) :
    g.reasonAgainstEdit c = shape.reasonAgainst ↔ g.Sees c ∧ c.HasShape shape := by
  constructor
  · intro against
    by_cases sees : g.Sees c
    · obtain ⟨actual, has, -⟩ := c.existsUnique_shape
      have same := (sees.reasonAgainstEdit_of_hasShape has).symm.trans against
      exact ⟨sees, Change.Shape.reasonAgainst_injective same ▸ has⟩
    · obtain ⟨reason, other, something, undeleted⟩ := reasonAgainstEdit_of_not_sees sees
      rw [other] at against
      cases shape with
      | empty => exact absurd (Option.some.inj against) something
      | deletion => exact absurd (Option.some.inj against) undeleted
      | insertion => cases against
  · rintro ⟨sees, has⟩
    exact sees.reasonAgainstEdit_of_hasShape has

theorem sees_iff (g : Gate) (c : Change) :
    g.Sees c ↔ g.activeDocument = some c.document ∧ g.editing = false ∧ c.origin = .user :=
  ⟨fun sees => ⟨sees.active, sees.settled, sees.byUser⟩,
    fun ⟨active, settled, byUser⟩ => ⟨active, settled, byUser⟩⟩

end Gate

/-- **Changes are divided by their shapes**, whatever edits they are made of: each does
nothing, or only removes, or puts text in, and no two of these.

So a change is typing exactly if the user made it, in the active document and not while an
accepted suggestion is being inserted, and some edit puts text in.  It is a deletion to the
rules exactly if the same holds, no edit puts text in and some edit removes some.  And what
counts as an insertion at one place has the third shape. -/
theorem Change.shapes_divide_changes (c : Change) :
    (∃! shape, c.HasShape shape) ∧
      (∀ g : Gate,
        (g.reasonAgainstEdit c = none ↔
          g.activeDocument = some c.document ∧ g.editing = false ∧ c.origin = .user ∧
            ∃ e ∈ c.edits, e.text ≠ "") ∧
        (g.reasonAgainstEdit c = some .deletionOnly ↔
          g.activeDocument = some c.document ∧ g.editing = false ∧ c.origin = .user ∧
            (∀ e ∈ c.edits, e.text = "") ∧ ∃ e ∈ c.edits, e.removed ≠ 0)) ∧
      (c.insertion?.isSome = true → c.HasShape .insertion) := by
  refine ⟨c.existsUnique_shape, fun g => ⟨?typing, ?deletion⟩, ?insertion⟩
  case typing =>
    calc g.reasonAgainstEdit c = none
      _ ↔ g.Sees c ∧ c.HasShape .insertion :=
          g.reasonAgainstEdit_eq_iff c .insertion
      _ ↔ _ := by rw [Gate.sees_iff, and_assoc, and_assoc]; rfl
  case deletion =>
    calc g.reasonAgainstEdit c = some .deletionOnly
      _ ↔ g.Sees c ∧ c.HasShape .deletion :=
          g.reasonAgainstEdit_eq_iff c .deletion
      _ ↔ _ := by
        rw [Gate.sees_iff, HasShape, onlyDeletes_iff, not_addsText_iff, and_assoc, and_assoc]
        rfl
  case insertion =>
    intro present
    obtain ⟨⟨offset, text⟩, inserted⟩ := Option.isSome_iff_exists.mp present
    exact c.addsText_of_insertion? inserted

/-- A character is typed into a document. -/
theorem Change.shapes_divide_changes_typed :
    let c : Change :=
      ⟨⟨⟨"main.rs"⟩, "rust", "main.rs", "fn x", 4⟩, [.insertion 3 "x"], .user⟩
    c.insertion?.isSome = true ∧ c.HasShape .insertion :=
  ⟨by decide, (Change.shapes_divide_changes _).2.2 (by decide)⟩

end InlineCompletion
