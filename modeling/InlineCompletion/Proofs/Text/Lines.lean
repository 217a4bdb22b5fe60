import InlineCompletion.Text.Lines

/-!
# The lines of a text put together

A line feed ends a line, so what comes after it begins a line of its own, whatever stood
before: **the lines of whole lines and of what follows them are the lines of the two, one
after the other** (`Text.lines_append`).  Without the line feed that is not so, because the
last line of the first text and the first of the second are then one line.  And whole lines
are as many as they have line feeds, whether or not a carriage return stands before one.
-/

namespace InlineCompletion.Text

/-- A text of whole lines: there is nothing in it, or it ends in a line feed. -/
def EndsLine (s : String) : Prop := s = "" ∨ ∃ r, s = r ++ "\n"

theorem linesFrom_feed (line rest : List Char) :
    linesFrom line ('\n' :: rest) = linesFrom line ['\n'] ++ linesFrom [] rest := rfl

theorem linesFrom_cons {c : Char} (other : c ≠ '\n') (line cs : List Char) :
    linesFrom line (c :: cs) = linesFrom (c :: line) cs := by
  rw [linesFrom]
  exact other

/-- What follows a line feed begins a new line. -/
theorem linesFrom_append_feed (line cs rest : List Char) :
    linesFrom line (cs ++ '\n' :: rest) = linesFrom line (cs ++ ['\n']) ++ linesFrom [] rest := by
  induction cs generalizing line with
  | nil => exact linesFrom_feed line rest
  | cons c cs ih =>
      rw [List.cons_append, List.cons_append]
      by_cases feed : c = '\n'
      · subst feed
        rw [linesFrom_feed, ih, linesFrom_feed line (cs ++ ['\n']), List.append_assoc]
      · rw [linesFrom_cons feed, linesFrom_cons feed, ih]

/-- **The lines of whole lines and of what follows.** -/
theorem lines_append {s : String} (whole : EndsLine s) (t : String) :
    lines (s ++ t) = lines s ++ lines t := by
  obtain rfl | ⟨r, rfl⟩ := whole
  · simp [lines, linesFrom]
  · have last : "\n".toList = ['\n'] := rfl
    simp only [lines, String.toList_append, last, List.append_assoc, List.singleton_append]
    exact linesFrom_append_feed [] r.toList t.toList

theorem length_linesFrom_feed (line cs : List Char) :
    (linesFrom line (cs ++ ['\n'])).length = cs.count '\n' + 1 := by
  induction cs generalizing line with
  | nil => rfl
  | cons c cs ih =>
      rw [List.cons_append]
      by_cases feed : c = '\n'
      · subst feed
        rw [linesFrom_feed, List.length_append, ih, List.count_cons_self]
        exact Nat.add_comm 1 _
      · rw [linesFrom_cons feed, ih, List.count_cons_of_ne feed]

/-- Whole lines are as many as their line feeds. -/
theorem length_lines {s : String} (whole : EndsLine s) :
    (lines s).length = s.toList.count '\n' := by
  obtain rfl | ⟨r, rfl⟩ := whole
  · rfl
  · have last : "\n".toList = ['\n'] := rfl
    rw [lines, String.toList_append, last, length_linesFrom_feed, List.count_append]
    rfl

end InlineCompletion.Text
