/-!
# Text by code points

Offsets, cursors and lengths count the Unicode scalar values of a text, and
`\r\n` counts as two.  The operations below cut and join text at such offsets;
each one is stated through the list of characters, which is the view that
theorems about text use.

An offset beyond the end is treated as the end, so cutting never fails.  An editor
does not treat it so, and whoever edits a text has to see to it that the offsets are
in it.
-/

namespace InlineCompletion.Text

/-- The first `n` characters. -/
def take (n : Nat) (s : String) : String := String.ofList (s.toList.take n)

/-- What is left after the first `n` characters. -/
def drop (n : Nat) (s : String) : String := String.ofList (s.toList.drop n)

/-- The characters from offset `start` up to offset `stop`. -/
def slice (start stop : Nat) (s : String) : String := drop start (take stop s)

/-- `s` with `piece` put in at offset `offset`. -/
def insert (offset : Nat) (piece s : String) : String :=
  take offset s ++ piece ++ drop offset s

/-- `s` without the `count` characters from offset `start` on. -/
def remove (start count : Nat) (s : String) : String :=
  take start s ++ drop (start + count) s

/-- Whether `s` begins with `start`. -/
def beginsWith (start s : String) : Bool := start.toList.isPrefixOf s.toList

@[simp] theorem toList_take (n : Nat) (s : String) : (take n s).toList = s.toList.take n := by
  simp [take]

@[simp] theorem toList_drop (n : Nat) (s : String) : (drop n s).toList = s.toList.drop n := by
  simp [drop]

@[simp] theorem toList_slice (start stop : Nat) (s : String) :
    (slice start stop s).toList = (s.toList.take stop).drop start := by
  simp [slice]

@[simp] theorem toList_insert (offset : Nat) (piece s : String) :
    (insert offset piece s).toList =
      s.toList.take offset ++ piece.toList ++ s.toList.drop offset := by
  simp [insert]

@[simp] theorem toList_remove (start count : Nat) (s : String) :
    (remove start count s).toList = s.toList.take start ++ s.toList.drop (start + count) := by
  simp [remove]

theorem beginsWith_iff (start s : String) :
    beginsWith start s = true ↔ ∃ rest, s.toList = start.toList ++ rest := by
  rw [beginsWith, List.isPrefixOf_iff_prefix]
  exact ⟨fun ⟨rest, h⟩ => ⟨rest, h.symm⟩, fun ⟨rest, h⟩ => ⟨rest, h.symm⟩⟩

/-- Cutting a text in two loses nothing. -/
theorem take_append_drop (n : Nat) (s : String) : take n s ++ drop n s = s := by
  apply String.toList_injective
  simp

end InlineCompletion.Text
