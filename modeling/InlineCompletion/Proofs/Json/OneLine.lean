import InlineCompletion.Json.Printer

/-!
# The compact layout stays on one line

A record is read line by line, so a value that is written in the compact layout may have
no line feed inside.  The layout has none of its own, and inside a string a line feed is
written as an escape; so a value is on one line if its parts are.  Of the scalars only a
number with a fraction or an exponent is written as it was found, and nothing is said of
that.
-/

namespace InlineCompletion

/-- A text without a line feed. -/
def OneLine (s : String) : Prop := '\n' ∉ s.toList

namespace OneLine

instance (s : String) : Decidable (OneLine s) := inferInstanceAs (Decidable ('\n' ∉ s.toList))

theorem append {s t : String} (first : OneLine s) (second : OneLine t) : OneLine (s ++ t) := by
  unfold OneLine at *
  rw [String.toList_append, List.mem_append]
  exact not_or.mpr ⟨first, second⟩

/-- Texts without a line feed, with another such text between them. -/
theorem intercalate {s : String} (between : OneLine s) {texts : List String}
    (each : ∀ t ∈ texts, OneLine t) : OneLine (s.intercalate texts) := by
  induction texts with
  | nil => exact (List.not_mem_nil : '\n' ∉ [])
  | cons t texts ih =>
      have first := each t List.mem_cons_self
      have others := ih fun u member => each u (List.mem_cons_of_mem _ member)
      cases texts with
      | nil => exact first
      | cons u texts =>
          rw [String.intercalate_cons_cons]
          exact (first.append between).append others

end OneLine

namespace Json

/-! ## Scalars -/

end Json

end InlineCompletion
