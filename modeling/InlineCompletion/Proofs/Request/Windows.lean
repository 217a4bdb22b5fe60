import InlineCompletion.Request

/-!
# The windows of a request

A request cuts two windows out of a text, which meet at the cursor.  The slices that
make them are given by their ends, and the ends are clipped at the text's; here it is
said what comes out.  The text falls into four pieces, of which the two in the middle
are the windows, and each of these is as long as the limit and the text allow
(`FileWindow.IsAround`).

The rest is read off the four pieces: the left window ends and the right one begins the
part of the text on its side of the cursor, and with a limit that the text does not
exceed nothing is left out (`request_windows_meet_at_cursor`).
-/

namespace InlineCompletion

namespace Text

theorem length_take (n : Nat) (s : String) : (take n s).length = min n s.length := by
  rw [← String.length_toList, toList_take, List.length_take, String.length_toList]

theorem length_slice (start stop : Nat) (s : String) :
    (slice start stop s).length = min stop s.length - start := by
  rw [← String.length_toList, toList_slice, List.length_drop, List.length_take,
    String.length_toList]

/-- What comes before a place, with what follows it up to another place. -/
theorem take_append_slice {start stop : Nat} (ordered : start ≤ stop) (s : String) :
    take start s ++ slice start stop s = take stop s := by
  apply String.toList_injective
  have front : (s.toList.take stop).take start = s.toList.take start := by
    rw [List.take_take, Nat.min_eq_left ordered]
  rw [String.toList_append, toList_take, toList_slice, toList_take, ← front,
    List.take_append_drop]

end Text

namespace FileWindow

/-- **The windows around a cursor in a text**: two pieces of the text that meet at the
cursor, each as long as the limit and the text allow. -/
structure IsAround (w : FileWindow) (text : String) (place limit : Nat) : Prop where
  cursor : w.cursor = place
  pieces : ∃ before after, text = before ++ w.leftContent ++ w.rightContent ++ after ∧
    before.length + w.leftContent.length = place
  left : w.leftContent.length = min limit place
  right : w.rightContent.length = min limit (text.length - place)

/-- **A request shows the windows around the cursor**; a cursor beyond the text counts
as its end. -/
theorem isAround_ofSnapshot (s : Snapshot) (languages : LanguageTable) (limit : Nat) :
    (ofSnapshot s languages limit).IsAround s.text (min s.cursor s.text.length) limit := by
  let cursor := min s.cursor s.text.length
  let stop := min (cursor + limit) s.text.length
  have inside : cursor ≤ s.text.length := Nat.min_le_right _ _
  have ordered : cursor ≤ stop := Nat.le_min.mpr ⟨Nat.le_add_right _ _, inside⟩
  refine ⟨rfl, ⟨Text.take (cursor - limit) s.text, Text.drop stop s.text, ?_, ?_⟩, ?_, ?_⟩
  · show s.text = Text.take (cursor - limit) s.text ++ Text.slice (cursor - limit) cursor s.text ++
      Text.slice cursor stop s.text ++ Text.drop stop s.text
    rw [Text.take_append_slice (Nat.sub_le _ _), Text.take_append_slice ordered,
      Text.take_append_drop]
  · show (Text.take (cursor - limit) s.text).length +
      (Text.slice (cursor - limit) cursor s.text).length = cursor
    rw [Text.length_take, Text.length_slice]
    omega
  · show (Text.slice (cursor - limit) cursor s.text).length = min limit cursor
    rw [Text.length_slice]
    omega
  · show (Text.slice cursor stop s.text).length = min limit (s.text.length - cursor)
    rw [Text.length_slice]
    omega

namespace IsAround

variable {w : FileWindow} {text : String} {place limit : Nat}

/-- What comes before the cursor ends in the left window, and what comes after it begins
with the right one. -/
theorem halves (around : w.IsAround text place limit) : ∃ before after,
    text.toList.take place = before ++ w.leftContent.toList ∧
      text.toList.drop place = w.rightContent.toList ++ after := by
  obtain ⟨before, after, split, rfl⟩ := around.pieces
  have parted : text.toList =
      (before.toList ++ w.leftContent.toList) ++ (w.rightContent.toList ++ after.toList) := by
    simp [split]
  have length : (before.toList ++ w.leftContent.toList).length =
      before.length + w.leftContent.length := by
    rw [List.length_append, String.length_toList, String.length_toList]
  refine ⟨before.toList, after.toList, ?_, ?_⟩
  · rw [parted, List.take_left' length]
  · rw [parted, List.drop_left' length]

theorem left_suffix (around : w.IsAround text place limit) :
    w.leftContent.toList <:+ text.toList.take place := by
  obtain ⟨before, -, left, -⟩ := around.halves
  exact ⟨before, left.symm⟩

theorem right_prefix (around : w.IsAround text place limit) :
    w.rightContent.toList <+: text.toList.drop place := by
  obtain ⟨-, after, -, right⟩ := around.halves
  exact ⟨after, right.symm⟩

/-- Within the limit the windows are the whole text. -/
theorem whole (around : w.IsAround text place limit) (inside : place ≤ text.length)
    (short : text.length ≤ limit) : w.leftContent ++ w.rightContent = text := by
  obtain ⟨before, after, split, upTo⟩ := around.pieces
  have lengths := congrArg String.length split
  have left := around.left
  have right := around.right
  simp only [String.length_append] at lengths
  -- what is before and after the windows has no length left
  obtain rfl : before = "" := String.length_eq_zero_iff.mp (by omega)
  obtain rfl : after = "" := String.length_eq_zero_iff.mp (by omega)
  simpa using split.symm

end IsAround

end FileWindow

/-- **The windows of a request meet at the cursor**, whatever the text, the cursor and the
limit are.  A cursor beyond the text counts as its end.

* The left window is the end of the text before the cursor, and the right one is the
  beginning of the text after it; each is as long as the limit and the text allow.
* Together they are one piece of the text, parted at the cursor.
* They are slices of the text.  The ends of both are in order and inside the text, and it
  makes no difference to the last one if the sum in it is cut off at a bound that the
  text's length does not exceed.
* With a limit that the text does not exceed they are the whole text. -/
theorem request_windows_meet_at_cursor (s : Snapshot) (languages : LanguageTable)
    (settings : Settings) (trigger : TriggerKind) (since : Option Duration) :
    let w := (Request.ofSnapshot s languages settings trigger since).window
    let limit := settings.maxContextChars.toNat
    let length := s.text.length
    let place := min s.cursor length
    let start := place - limit
    let stop := min (place + limit) length
    w.cursor = place ∧
      (w.leftContent.length = min limit place ∧
        w.leftContent.toList <:+ s.text.toList.take place) ∧
      (w.rightContent.length = min limit (length - place) ∧
        w.rightContent.toList <+: s.text.toList.drop place) ∧
      (∃ before after, s.text = before ++ w.leftContent ++ w.rightContent ++ after ∧
        before.length + w.leftContent.length = place) ∧
      (w.leftContent = Text.slice start place s.text ∧
        w.rightContent = Text.slice place stop s.text ∧
        start ≤ place ∧ place ≤ stop ∧ stop ≤ length ∧
        ∀ bound, length ≤ bound → min (min (place + limit) bound) length = stop) ∧
      (length ≤ limit → w.leftContent ++ w.rightContent = s.text) := by
  intro w limit length place start stop
  have around : w.IsAround s.text place limit := FileWindow.isAround_ofSnapshot s languages limit
  have inside : place ≤ length := Nat.min_le_right _ _
  have ordered : place ≤ stop := Nat.le_min.mpr ⟨Nat.le_add_right _ _, inside⟩
  have bounded (bound : Nat) (within : length ≤ bound) :
      min (min (place + limit) bound) length = stop := by
    rw [Nat.min_assoc, Nat.min_eq_right within]
  exact ⟨around.cursor, ⟨around.left, around.left_suffix⟩, ⟨around.right, around.right_prefix⟩,
    around.pieces, ⟨rfl, rfl, Nat.sub_le _ _, ordered, Nat.min_le_right _ _, bounded⟩,
    around.whole inside⟩

/-- With a limit of four, four characters are shown on either side. -/
example :
    let s : Snapshot := ⟨⟨"file:///src/app.py"⟩, "python", "app.py", "abcdefghij", 5⟩
    let w := FileWindow.ofSnapshot s .standard 4
    (w.leftContent, w.rightContent, w.cursor) = ("bcde", "fghi", 5) := by decide

end InlineCompletion
