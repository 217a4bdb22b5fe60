import InlineCompletion.Session.Offering

/-!
# Sessions that can always be decided

A session ends with a decision, and accepting asks two things of it: that its
index names an item, and that what was typed is the beginning of that item's
suggestion.  `Session.Sound` says a little more than that of *all* its items,
because navigation may make any of them the current one.

The three functions that make a session out of an answer or of another session
give sound ones: `open?`, `navigate` and `narrow?`.  None of the last two
changes which request a session answers and which document it is about, and
that is `Session.SameOffer`.  What they are for is `Offering.accept_of_sound`:
**accepting a sound session always yields an insertion and a decision**, so
its two early ends are never taken.
-/

namespace InlineCompletion

/-- A text begins with `start` exactly if it is `start` and a rest. -/
theorem Text.beginsWith_iff_append {start s : String} :
    beginsWith start s = true ↔ ∃ rest, s = start ++ rest := by
  rw [beginsWith_iff]
  constructor
  · rintro ⟨rest, split⟩
    refine ⟨String.ofList rest, String.toList_injective ?_⟩
    rw [split, String.toList_append, String.toList_ofList]
  · rintro ⟨rest, rfl⟩
    exact ⟨rest.toList, String.toList_append⟩

namespace Session

/-! ## What is kept of a session -/

/-- A session whose every item goes on after what was typed, one of them being
the current one. -/
structure Sound (s : Session) : Prop where
  /-- The index names an item. -/
  index_lt : s.index < s.items.length
  /-- Every item goes on after what was typed. -/
  continues : ∀ item ∈ s.items, Session.continues s.typed item = true

/-- `t` offers suggestions of the same answer, in the same place, as `s` does. -/
structure SameOffer (s t : Session) : Prop where
  requestSeq : t.requestSeq = s.requestSeq
  document : t.document = s.document
  anchor : t.anchor = s.anchor
  visible : t.visible = s.visible
  /-- Its items are among those of `s`. -/
  items : ∀ item ∈ t.items, item ∈ s.items

/-! ## Going on -/

/-- A suggestion goes on after what was typed if that and something more make it up. -/
theorem continues_iff {typed : String} {item : Session.Item} :
    continues typed item = true ↔
      ∃ rest, rest ≠ "" ∧ item.suggestion.content = typed ++ rest := by
  simp only [continues, Bool.and_eq_true, Text.beginsWith_iff_append, decide_eq_true_eq]
  constructor
  · rintro ⟨⟨rest, content⟩, longer⟩
    refine ⟨rest, ?_, content⟩
    rintro rfl
    rw [content, String.append_empty] at longer
    exact Nat.lt_irrefl _ longer
  · rintro ⟨rest, something, content⟩
    have pos : rest.length ≠ 0 := fun h => something (String.length_eq_zero_iff.mp h)
    refine ⟨⟨rest, content⟩, ?_⟩
    rw [content, String.length_append]
    exact Nat.lt_add_of_pos_right (Nat.pos_of_ne_zero pos)

/-- Before anything is typed, everything with content goes on. -/
theorem continues_empty_iff {item : Session.Item} :
    continues "" item = true ↔ item.suggestion.content ≠ "" := by
  rw [continues_iff]
  constructor
  · rintro ⟨rest, something, content⟩
    rw [content, String.empty_append]
    exact something
  · intro filled
    exact ⟨item.suggestion.content, filled, String.empty_append.symm⟩

/-! ## Opening -/

/-- The items of an answer are its suggestions with content, each at its own
position. -/
theorem mem_itemsOf {response : List Suggestion} {item : Session.Item} :
    item ∈ itemsOf response ↔
      response[item.responseIndex]? = some item.suggestion ∧
        item.suggestion.content ≠ "" := by
  unfold itemsOf
  simp only [List.mem_map, List.mem_filter, bne_iff_ne, ne_eq]
  constructor
  · rintro ⟨⟨suggestion, place⟩, ⟨member, filled⟩, rfl⟩
    exact ⟨List.mk_mem_zipIdx_iff_getElem?.mp member, filled⟩
  · rintro ⟨found, filled⟩
    refine ⟨(item.suggestion, item.responseIndex), ⟨?_, filled⟩, rfl⟩
    exact List.mk_mem_zipIdx_iff_getElem?.mpr found

/-- What an opened session looks like. -/
theorem eq_of_open? {seq : Nat} {document : DocumentId} {anchor : Nat}
    {response : List Suggestion} {s : Session}
    (opened : open? seq document anchor response = some s) :
    s = ⟨seq, document, anchor, itemsOf response, 0, true, ""⟩ ∧ itemsOf response ≠ [] := by
  unfold open? at opened
  split at opened
  · cases opened
  · next items => exact ⟨(Option.some.inj opened).symm, items⟩

/-- A session that was just opened is sound. -/
theorem sound_of_open? {seq : Nat} {document : DocumentId} {anchor : Nat}
    {response : List Suggestion} {s : Session}
    (opened : open? seq document anchor response = some s) : s.Sound := by
  obtain ⟨rfl, nonempty⟩ := eq_of_open? opened
  refine ⟨List.length_pos_iff.mpr nonempty, ?_⟩
  intro item member
  -- nothing is typed yet
  exact continues_empty_iff.mpr (mem_itemsOf.mp member).2

/-! ## Navigating and narrowing -/

theorem Sound.navigate {s t : Session} (sound : s.Sound) {forward : Bool}
    (moved : s.navigate forward = some t) : t.Sound ∧ s.SameOffer t := by
  have pos : 0 < s.items.length := Nat.lt_of_le_of_lt (Nat.zero_le _) sound.index_lt
  unfold Session.navigate at moved
  split at moved
  · cases moved
  · split at moved <;> obtain rfl := Option.some.inj moved
    · exact ⟨⟨Nat.mod_lt _ pos, sound.continues⟩, ⟨rfl, rfl, rfl, rfl, fun _ => id⟩⟩
    · exact ⟨⟨Nat.mod_lt _ pos, sound.continues⟩, ⟨rfl, rfl, rfl, rfl, fun _ => id⟩⟩

/-- The place looked for in a nonempty list, or the first one, is a place of
that list. -/
private theorem findIdx?_getD_lt {α : Type} {l : List α} (nonempty : l ≠ []) (p : α → Bool) :
    (l.findIdx? p).getD 0 < l.length := by
  cases found : l.findIdx? p with
  | none => exact List.length_pos_iff.mpr nonempty
  | some place =>
      obtain ⟨inside, -⟩ := List.findIdx?_eq_some_iff_getElem.mp found
      exact inside

/-- Narrowing needs no sound session: it keeps only the items that go on. -/
theorem sound_of_narrow? {s t : Session} {inserted : String}
    (narrowed : s.narrow? inserted = some t) : t.Sound ∧ s.SameOffer t := by
  simp only [narrow?] at narrowed
  split at narrowed
  · cases narrowed
  · next nonempty =>
    obtain rfl := Option.some.inj narrowed
    refine ⟨⟨findIdx?_getD_lt nonempty _, ?_⟩, ⟨rfl, rfl, rfl, rfl, ?_⟩⟩ <;> intro item member
    · exact (List.mem_filter.mp member).2
    · exact (List.mem_filter.mp member).1

/-- Narrowing adds to what was typed. -/
theorem typed_of_narrow? {s t : Session} {inserted : String}
    (narrowed : s.narrow? inserted = some t) : t.typed = s.typed ++ inserted := by
  simp only [narrow?] at narrowed
  split at narrowed
  · cases narrowed
  · obtain rfl := Option.some.inj narrowed
    rfl

/-- Navigating leaves the place of a session, and what was typed. -/
theorem place_of_navigate {s t : Session} {forward : Bool}
    (moved : s.navigate forward = some t) :
    t.requestSeq = s.requestSeq ∧ t.document = s.document ∧ t.anchor = s.anchor ∧
      t.typed = s.typed := by
  unfold navigate at moved
  split at moved
  · cases moved
  · split at moved <;> obtain rfl := Option.some.inj moved <;> exact ⟨rfl, rfl, rfl, rfl⟩

/-! ## Deciding -/

/-- A sound session has a current item, and something of it is still to be
typed. -/
theorem Sound.current {s : Session} (sound : s.Sound) :
    ∃ item, s.current? = some item ∧ Session.continues s.typed item = true := by
  have inside := sound.index_lt
  refine ⟨s.items[s.index], ?_, ?_⟩
  · exact List.getElem?_eq_getElem inside
  · exact sound.continues _ (List.getElem_mem inside)

/-- The decision that rejects a session. -/
def rejection (s : Session) : Decision := ⟨s.requestSeq, s.document, .rejected⟩

end Session

namespace Offering

/-- The offering with no session. -/
def withoutSession (o : Offering) : Offering := { o with session := none }

/-- Without a session there is none to take away. -/
theorem withoutSession_of_none {o : Offering} (gone : o.session = none) :
    o.withoutSession = o := by
  obtain ⟨session, editing, awaited⟩ := o
  cases gone
  rfl

/-- Rejecting decides on the session, if there is one, and takes it away. -/
theorem reject_eq (o : Offering) :
    o.reject = (o.session.map Session.rejection, o.withoutSession) := by
  unfold reject
  cases live : o.session with
  | none => simp [withoutSession_of_none live]
  | some s => rfl

/-- **Accepting a sound session ends it with an insertion and a decision.** -/
theorem accept_of_sound {o : Offering} {s : Session} (live : o.session = some s)
    (sound : s.Sound) :
    ∃ item text, s.current? = some item ∧ s.remaining? = some text ∧
      o.accept =
        (some (⟨s.document, s.expectedCursor, text⟩,
            ⟨s.requestSeq, s.document, .accepted item.responseIndex⟩),
          ⟨none, true, some ⟨s.document, s.expectedCursor, text⟩⟩) := by
  obtain ⟨item, current, goesOn⟩ := sound.current
  have begins : Text.beginsWith s.typed item.suggestion.content = true := by
    simp only [Session.continues, Bool.and_eq_true] at goesOn
    exact goesOn.1
  have remaining : s.remaining? =
      some (Text.drop s.typed.length item.suggestion.content) := by
    simp [Session.remaining?, current, begins]
  refine ⟨item, _, current, remaining, ?_⟩
  simp [accept, live, current, remaining]

end Offering

end InlineCompletion
