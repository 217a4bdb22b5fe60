import InlineCompletion.Proofs.Text.Lines
import InlineCompletion.Script
import Mathlib.Algebra.BigOperators.Intervals
import Mathlib.Data.List.DropRight

/-!
# Which line of a script is reported

Reading a script goes over its lines once, and counts every line whether it is meant to be
a step or not.  So two things can be told apart.  *What is read* depends on the lines that
are steps alone (`Script.readFrom_eq_ok_iff`), and *where it fails* on all the lines before
the first one that is no step (`Script.readFrom_eq_error_iff`): lines that are passed over
make no difference to the first and move the second.

`withGaps gaps lines` puts lines in before each line and after the last.  **What stands
before a given line is then the same construction over the lines before it**
(`withGaps_append_cons`), so how far a line has moved is how much longer that has become,
which is the number of lines put in up to there.
-/

namespace InlineCompletion

/-! ## Lines that are meant to be steps -/

/-- The characters of a text without the blank ones at both of its ends. -/
def Text.trim (cs : List Char) : List Char := (trimStart cs).rdropWhile isBlank

/-- What is left begins with a character that is not blank. -/
theorem Text.isBlank_of_trimStart {c : Char} {cs rest : List Char}
    (left : trimStart cs = c :: rest) : isBlank c = false := by
  have first := List.head?_dropWhile_not isBlank cs
  rw [show cs.dropWhile isBlank = c :: rest from left] at first
  exact first

/-- Trimming the end leaves the first character, if that is not blank. -/
theorem Text.rdropWhile_cons {c : Char} (solid : isBlank c = false) (cs : List Char) :
    (c :: cs).rdropWhile isBlank = c :: cs.rdropWhile isBlank := by
  unfold List.rdropWhile
  rw [List.reverse_cons, List.dropWhile_append]
  split
  · next gone => simp [solid, List.isEmpty_iff.mp gone]
  · simp

namespace Script

/-- A line is meant to be a step if something is left when it is trimmed at both ends, and
that does not begin with `#`. -/
theorem isContent_iff (line : String) :
    isContent line = true ↔
      Text.trim line.toList ≠ [] ∧ (Text.trim line.toList).head? ≠ some '#' := by
  unfold isContent Text.trim
  cases left : Text.trimStart line.toList with
  | nil => simp
  | cons c cs =>
      rw [Text.rdropWhile_cons (Text.isBlank_of_trimStart left)]
      simp

/-! ## What is read, and where it fails -/

section Reading

variable {α : Type} {step? : String → Option α} {number : Nat} {lines : List String}
  {line : String} {e : LineError}

/-- Reading goes on after a step. -/
theorem readFrom_cons_of_step {a : α} (content : isContent line = true) (step : step? line = some a)
    (rest : List String) :
    readFrom step? number (line :: rest) = (readFrom step? (number + 1) rest).map (a :: ·) := by
  rw [readFrom, if_pos content, step]
  cases readFrom step? (number + 1) rest <;> rfl

/-- Reading ends at a line that should be a step and is none. -/
theorem readFrom_cons_of_failure (content : isContent line = true) (failure : step? line = none)
    (rest : List String) : readFrom step? number (line :: rest) = .error ⟨number⟩ := by
  rw [readFrom, if_pos content, failure]

/-- **What is read is what the lines that are steps say**, in their order. -/
theorem readFrom_eq_ok_iff {as : List α} :
    readFrom step? number lines = .ok as ↔ (lines.filter isContent).map step? = as.map some := by
  induction lines generalizing number as with
  | nil => cases as <;> simp
  | cons line rest ih =>
      by_cases content : isContent line = true
      · rw [List.filter_cons_of_pos content, List.map_cons]
        cases step : step? line with
        | none =>
            rw [readFrom_cons_of_failure content step]
            cases as <;> simp
        | some a =>
            rw [readFrom_cons_of_step content step]
            constructor
            · intro done
              cases read : readFrom step? (number + 1) rest with
              | error e => rw [read] at done; cases done
              | ok bs =>
                  rw [read] at done
                  obtain rfl := Except.ok.inj done
                  rw [ih.mp read, List.map_cons]
            · intro same
              cases as with
              | nil => cases same
              | cons b bs =>
                  obtain ⟨first, others⟩ := List.cons.inj same
                  rw [ih.mpr others, Option.some.inj first]
                  rfl
      · rw [List.filter_cons_of_neg content,
          readFrom_cons_of_not_content _ _ _ (by simpa using content), ih]

/-- The line with this number, counted from `number`, should be a step and is none, and it is
the first such line. -/
def FailsFirst (step? : String → Option α) (number : Nat) (lines : List String) (found : Nat) :
    Prop :=
  ∃ before line after, lines = before ++ line :: after ∧ found = number + before.length ∧
    isContent line = true ∧ step? line = none ∧
    ∀ earlier ∈ before, isContent earlier = true → step? earlier ≠ none

theorem failsFirst_here (content : isContent line = true) (failure : step? line = none)
    (rest : List String) {found : Nat} :
    FailsFirst step? number (line :: rest) found ↔ found = number := by
  constructor
  · rintro ⟨before, other, after, same, rfl, -, -, passes⟩
    cases before with
    | nil => rfl
    | cons first before =>
        obtain ⟨rfl, -⟩ := List.cons.inj same
        exact absurd failure (passes line List.mem_cons_self content)
  · rintro rfl
    exact ⟨[], line, rest, rfl, rfl, content, failure, nofun⟩

theorem failsFirst_later (passes : isContent line = true → step? line ≠ none)
    (rest : List String) {found : Nat} :
    FailsFirst step? number (line :: rest) found ↔ FailsFirst step? (number + 1) rest found := by
  constructor
  · rintro ⟨before, other, after, same, rfl, content, failure, earlier⟩
    cases before with
    | nil =>
        obtain ⟨rfl, -⟩ := List.cons.inj same
        exact absurd failure (passes content)
    | cons first before =>
        obtain ⟨rfl, rfl⟩ := List.cons.inj same
        refine ⟨before, other, after, rfl, ?_, content, failure, fun l member => ?_⟩
        · rw [List.length_cons, Nat.add_assoc, Nat.add_comm 1]
        · exact earlier l (List.mem_cons_of_mem _ member)
  · rintro ⟨before, other, after, rfl, rfl, content, failure, earlier⟩
    refine ⟨line :: before, other, after, rfl, ?_, content, failure, fun l member => ?_⟩
    · rw [List.length_cons, Nat.add_assoc, Nat.add_comm 1]
    · rcases List.mem_cons.mp member with rfl | member
      · exact passes
      · exact earlier l member

/-- **Reading fails at the first line that should be a step and is none.** -/
theorem readFrom_eq_error_iff :
    readFrom step? number lines = .error e ↔ FailsFirst step? number lines e.line := by
  induction lines generalizing number with
  | nil => simp [FailsFirst]
  | cons line rest ih =>
      by_cases content : isContent line = true
      · cases step : step? line with
        | none =>
            rw [readFrom_cons_of_failure content step, failsFirst_here content step]
            exact ⟨fun same => congrArg LineError.line (Except.error.inj same).symm,
              fun same => same ▸ rfl⟩
        | some a =>
            rw [readFrom_cons_of_step content step, failsFirst_later (by simp [step]), ← ih]
            cases readFrom step? (number + 1) rest <;> simp [Except.map]
      · rw [readFrom_cons_of_not_content _ _ _ (by simpa using content), ih,
          failsFirst_later fun holds => absurd holds content]

end Reading

/-! ## Lines that are put in -/

/-- The lines with those of `gaps i` put in before the line that `i` lines stand before, and
those of the last gap at the end. -/
def withGaps (gaps : Nat → List String) : List String → List String
  | [] => gaps 0
  | line :: rest => gaps 0 ++ line :: withGaps (fun i => gaps (i + 1)) rest

/-- How many lines are put in before the line of number `n`, counted from one. -/
def putInBefore (gaps : Nat → List String) (n : Nat) : Nat :=
  ∑ i ∈ Finset.range n, (gaps i).length

variable {gaps : Nat → List String}

/-- What stands before a line after the lines are put in. -/
theorem withGaps_append_cons (before : List String) (line : String) (after : List String) :
    withGaps gaps (before ++ line :: after) =
      withGaps gaps before ++ line :: withGaps (fun i => gaps (i + (before.length + 1))) after := by
  induction before generalizing gaps with
  | nil => rfl
  | cons first before ih =>
      simp only [List.cons_append, withGaps, ih, List.append_assoc, List.length_cons,
        Nat.add_assoc]

theorem length_withGaps (lines : List String) :
    (withGaps gaps lines).length = lines.length + putInBefore gaps (lines.length + 1) := by
  induction lines generalizing gaps with
  | nil => simp [withGaps, putInBefore]
  | cons line rest ih =>
      rw [withGaps, List.length_append, List.length_cons, ih, List.length_cons, putInBefore,
        putInBefore, Finset.sum_range_succ' _ (rest.length + 1)]
      omega

/-- A line is one of the old ones or one that was put in. -/
theorem mem_withGaps {line : String} {lines : List String} (member : line ∈ withGaps gaps lines) :
    line ∈ lines ∨ ∃ i, line ∈ gaps i := by
  induction lines generalizing gaps with
  | nil => exact .inr ⟨0, member⟩
  | cons first rest ih =>
      rcases List.mem_append.mp member with put | member
      · exact .inr ⟨0, put⟩
      · rcases List.mem_cons.mp member with rfl | member
        · exact .inl List.mem_cons_self
        · exact (ih member).imp (List.mem_cons_of_mem _) fun ⟨i, put⟩ => ⟨i + 1, put⟩

/-- Lines that are passed over leave the others. -/
theorem filter_withGaps (skipped : ∀ i, ∀ line ∈ gaps i, isContent line = false)
    (lines : List String) : (withGaps gaps lines).filter isContent = lines.filter isContent := by
  have nothing (i : Nat) : (gaps i).filter isContent = [] :=
    List.filter_eq_nil_iff.mpr fun line put => by simp [skipped i line put]
  induction lines generalizing gaps with
  | nil => exact nothing 0
  | cons line rest ih =>
      rw [withGaps, List.filter_append, nothing 0, List.nil_append, List.filter_cons,
        List.filter_cons, ih (fun i => skipped (i + 1)) fun i => nothing (i + 1)]

/-- One gap alone is a place between two parts of the lines. -/
theorem withGaps_single (before inserted after : List String) :
    withGaps (fun i => if i = before.length then inserted else []) (before ++ after) =
      before ++ inserted ++ after := by
  induction before with
  | nil =>
      have none (lines : List String) : withGaps (fun _ => []) lines = lines := by
        induction lines with
        | nil => rfl
        | cons line rest ih => simp [withGaps, ih]
      cases after with
      | nil => simp [withGaps]
      | cons line after => simp [withGaps, none]
  | cons line before ih => simpa [withGaps] using ih

theorem putInBefore_single (k : Nat) (inserted : List String) (n : Nat) :
    putInBefore (fun i => if i = k then inserted else []) n =
      if k < n then inserted.length else 0 := by
  unfold putInBefore
  simp only [apply_ite List.length, List.length_nil, Finset.sum_ite_eq', Finset.mem_range]

/-- The error where lines were put in before. -/
def LineError.moved (gaps : Nat → List String) (e : LineError) : LineError :=
  ⟨e.line + putInBefore gaps e.line⟩

/-- **Lines that are passed over change nothing but where reading fails**, and there by their
number. -/
theorem readFrom_withGaps {α : Type} (step? : String → Option α)
    (skipped : ∀ i, ∀ line ∈ gaps i, isContent line = false) (lines : List String) :
    readFrom step? 1 (withGaps gaps lines) = (readFrom step? 1 lines).mapError (·.moved gaps) := by
  cases read : readFrom step? 1 lines with
  | ok as =>
      have same := readFrom_eq_ok_iff.mp read
      rw [← filter_withGaps skipped] at same
      exact readFrom_eq_ok_iff.mpr same
  | error e =>
      obtain ⟨before, line, after, rfl, found, content, failure, earlier⟩ :=
        readFrom_eq_error_iff.mp read
      refine readFrom_eq_error_iff.mpr ⟨withGaps gaps before, line, _,
        withGaps_append_cons before line after, ?_, content, failure, fun l member holds => ?_⟩
      · change e.line + putInBefore gaps e.line = 1 + (withGaps gaps before).length
        rw [length_withGaps, found, Nat.add_comm 1 before.length]
        omega
      · rcases mem_withGaps member with old | ⟨i, put⟩
        · exact earlier l old holds
        · rw [skipped i l put] at holds
          cases holds

/-! ## Scripts -/

/-- **A script is read line by line, and the first line that is no step is reported.**
Whatever function reads a single line,

* a line is meant to be a step if something is left when it is trimmed, and that does not
  begin with `#`;
* what is read is what those lines say, in their order, and there is something to read
  exactly if all of them are steps;
* otherwise the number of the first one that is none is reported, where the lines before it
  count whether they are passed over or not, and whole lines are as many as they have line
  feeds;
* lines that are passed over may be put in anywhere: what is read stays the same, and a
  reported line has the number that it has with those before it counted in;
* in the text that means: whole lines of the kind, put in between whole lines and the rest,
  move a line that is reported in the rest by their number and no other. -/
theorem read_reports_first_failure {α : Type} (step? : String → Option α) :
    (∀ line, isContent line = true ↔
      Text.trim line.toList ≠ [] ∧ (Text.trim line.toList).head? ≠ some '#') ∧
    (∀ text as, read step? text = .ok as ↔
      ((Text.lines text).filter isContent).map step? = as.map some) ∧
    (∀ text e, read step? text = .error e ↔
      ∃ before line after, Text.lines text = before ++ line :: after ∧
        e.line = before.length + 1 ∧ isContent line = true ∧ step? line = none ∧
        ∀ earlier ∈ before, isContent earlier = true → step? earlier ≠ none) ∧
    (∀ text, Text.EndsLine text → (Text.lines text).length = text.toList.count '\n') ∧
    (∀ gaps text text', (∀ i, ∀ line ∈ gaps i, isContent line = false) →
      Text.lines text' = withGaps gaps (Text.lines text) →
      read step? text' = (read step? text).mapError (·.moved gaps)) ∧
    ∀ first inserted last, Text.EndsLine first → Text.EndsLine inserted →
      (∀ line ∈ Text.lines inserted, isContent line = false) →
      read step? (first ++ inserted ++ last) =
        (read step? (first ++ last)).mapError fun e =>
          if e.line ≤ (Text.lines first).length then e
          else ⟨e.line + (Text.lines inserted).length⟩ := by
  have anywhere (gaps : Nat → List String) (text text' : String)
      (skipped : ∀ i, ∀ line ∈ gaps i, isContent line = false)
      (put : Text.lines text' = withGaps gaps (Text.lines text)) :
      read step? text' = (read step? text).mapError (·.moved gaps) := by
    rw [read, put]
    exact readFrom_withGaps step? skipped _
  refine ⟨isContent_iff, fun text as => readFrom_eq_ok_iff, fun text e => ?_,
    fun text whole => Text.length_lines whole, anywhere, ?_⟩
  · rw [read, readFrom_eq_error_iff]
    simp only [FailsFirst, Nat.add_comm 1]
  · intro first inserted last wholeFirst wholeInserted skipped
    let gaps (i : Nat) : List String :=
      if i = (Text.lines first).length then Text.lines inserted else []
    have skippedAll : ∀ i, ∀ line ∈ gaps i, isContent line = false := by
      intro i line put
      by_cases place : i = (Text.lines first).length
      · exact skipped line (by simpa [gaps, place] using put)
      · simp [gaps, place] at put
    have put :
        Text.lines (first ++ inserted ++ last) = withGaps gaps (Text.lines (first ++ last)) := by
      rw [String.append_assoc, Text.lines_append wholeFirst, Text.lines_append wholeInserted,
        Text.lines_append wholeFirst, withGaps_single, List.append_assoc]
    rw [anywhere gaps _ _ skippedAll put]
    congr 1
    funext e
    rw [LineError.moved, putInBefore_single]
    by_cases late : (Text.lines first).length < e.line
    · rw [if_pos late, if_neg (by omega)]
    · rw [if_neg late, if_pos (by omega), Nat.add_zero]

/-- The second of two steps is none; a comment, a blank line and a line that looks like a
comment behind blanks are put in between them. -/
theorem read_reports_first_failure_later :
    let step? : String → Option String := fun line => if line = "fly" then none else some line
    Text.EndsLine "next\r\n" ∧ Text.EndsLine "# now\n\r\n \t#\n" ∧
      (∀ line ∈ Text.lines "# now\n\r\n \t#\n", isContent line = false) ∧
      read step? ("next\r\n" ++ "fly\nfly") = .error ⟨2⟩ ∧
      read step? ("next\r\n" ++ "# now\n\r\n \t#\n" ++ "fly\nfly") = .error ⟨5⟩ := by
  intro step?
  have whole : Text.EndsLine "next\r\n" := .inr ⟨"next\r", by decide⟩
  have whole' : Text.EndsLine "# now\n\r\n \t#\n" := .inr ⟨"# now\n\r\n \t#", by decide⟩
  have skipped : ∀ line ∈ Text.lines "# now\n\r\n \t#\n", isContent line = false := by decide
  have read : read step? ("next\r\n" ++ "fly\nfly") = .error ⟨2⟩ := by decide
  refine ⟨whole, whole', skipped, read, ?_⟩
  rw [(read_reports_first_failure step?).2.2.2.2.2 _ _ _ whole whole' skipped, read]
  rfl

end Script

end InlineCompletion
