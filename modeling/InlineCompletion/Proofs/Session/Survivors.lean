import InlineCompletion.Proofs.Session.Sound

/-!
# What is left of an answer

Typing along filters the items of a session again and again, each time those that
the last time left.  **It comes to filtering the answer once**, with all that was typed
(`Offering.session_holds_survivors`): the items are at any time the suggestions of the
answer that begin with what was typed and are longer, each with its own position, in
the order of the positions.  Nothing of it depends on when the user navigated, or on
how the typing was cut into pieces.

The reason is that going on is inherited by what was typed before (`continues_append`):
a suggestion that goes on after `t ++ u` goes on after `t`, so the earlier filter takes
nothing out that the later one would keep.  `Holds` is what one call keeps.

Going on is told by the text that is still missing (`continues_iff`), which is not empty.
So it makes no difference whether lengths are compared in characters or in bytes, as
long as the one text begins with the other (`continues_iff_bytes`).  The expected cursor
counts characters.
-/

namespace InlineCompletion

namespace Session

variable {seq : Nat} {document : DocumentId} {anchor : Nat} {response : List Suggestion}
variable {t u : String} {item : Session.Item} {x y : Session}

/-! ## Going on -/

/-- **Lengths may as well be compared in bytes.** -/
theorem continues_iff_bytes :
    continues t item = true ↔ Text.beginsWith t item.suggestion.content = true ∧
      t.utf8ByteSize < item.suggestion.content.utf8ByteSize := by
  simp only [continues, Bool.and_eq_true, decide_eq_true_eq]
  refine and_congr_right fun begins => ?_
  obtain ⟨rest, content⟩ := Text.beginsWith_iff_append.mp begins
  -- either way the rest must not be empty
  rw [content, String.length_append, String.utf8ByteSize_append, Nat.lt_add_right_iff_pos,
    Nat.lt_add_right_iff_pos, Nat.pos_iff_ne_zero, Nat.pos_iff_ne_zero, ne_eq, ne_eq,
    String.length_eq_zero_iff, String.utf8ByteSize_eq_zero_iff]

/-- **What goes on after more goes on after less.** -/
theorem continues_of_append (goesOn : continues (t ++ u) item = true) :
    continues t item = true := by
  obtain ⟨rest, something, content⟩ := continues_iff.mp goesOn
  refine continues_iff.mpr ⟨u ++ rest, ?_, by rw [content, String.append_assoc]⟩
  intro nothing
  exact something (String.append_eq_empty_iff.mp nothing).2

/-- **Filtering again comes to filtering once.** -/
theorem filter_continues_append (items : List Session.Item) (t u : String) :
    (items.filter (continues t)).filter (continues (t ++ u)) =
      items.filter (continues (t ++ u)) := by
  rw [List.filter_filter]
  refine List.filter_congr fun item _ => ?_
  cases goesOn : continues (t ++ u) item with
  | false => rfl
  | true => rw [continues_of_append goesOn]; rfl

/-! ## Survivors -/

/-- The items of an answer that are left once `typed` was typed along. -/
def survivors (response : List Suggestion) (typed : String) : List Session.Item :=
  (itemsOf response).filter (continues typed)

/-- Before anything is typed, all items are left. -/
theorem survivors_empty (response : List Suggestion) :
    survivors response "" = itemsOf response :=
  List.filter_eq_self.mpr fun _ member => continues_empty_iff.mpr (mem_itemsOf.mp member).2

/-- So it does for the survivors. -/
theorem filter_survivors (response : List Suggestion) (t u : String) :
    (survivors response t).filter (continues (t ++ u)) = survivors response (t ++ u) :=
  filter_continues_append (itemsOf response) t u

/-- The survivors are the suggestions that begin with what was typed and are longer, each
at its own position. -/
theorem mem_survivors :
    item ∈ survivors response t ↔
      response[item.responseIndex]? = some item.suggestion ∧
        Text.beginsWith t item.suggestion.content = true ∧
        t.utf8ByteSize < item.suggestion.content.utf8ByteSize := by
  rw [survivors, List.mem_filter, mem_itemsOf, ← continues_iff_bytes]
  refine ⟨fun ⟨⟨found, _⟩, goesOn⟩ => ⟨found, goesOn⟩, fun ⟨found, goesOn⟩ => ⟨⟨found, ?_⟩, goesOn⟩⟩
  refine continues_empty_iff.mp (continues_of_append (u := t) ?_)
  rwa [String.empty_append]

/-- The positions of the survivors increase. -/
theorem survivors_increasing (response : List Suggestion) (typed : String) :
    (survivors response typed).Pairwise fun a b => a.responseIndex < b.responseIndex := by
  have positions : response.zipIdx.Pairwise fun a b => a.2 < b.2 := by
    apply List.pairwise_map.mp
    rw [List.zipIdx_map_snd]
    exact List.pairwise_lt_range' 1
  have items : (itemsOf response).Pairwise fun a b => a.responseIndex < b.responseIndex :=
    List.pairwise_map.mpr (positions.filter _)
  exact items.filter _

/-- Something of an answer can be offered exactly if a suggestion has content. -/
theorem itemsOf_ne_nil_iff :
    itemsOf response ≠ [] ↔ ∃ suggestion ∈ response, suggestion.content ≠ "" := by
  constructor
  · intro filled
    obtain ⟨item, member⟩ := List.exists_mem_of_ne_nil _ filled
    obtain ⟨found, content⟩ := mem_itemsOf.mp member
    exact ⟨item.suggestion, List.mem_of_getElem? found, content⟩
  · rintro ⟨suggestion, member, content⟩
    obtain ⟨place, found⟩ := List.getElem?_of_mem member
    exact List.ne_nil_of_mem (a := ⟨place, suggestion⟩) (mem_itemsOf.mpr ⟨found, content⟩)

/-! ## Sessions that hold survivors -/

/-- **The session holds what is left of the answer** to request `seq`, which was asked for
at `anchor` in `document`. -/
structure Holds (seq : Nat) (document : DocumentId) (anchor : Nat) (response : List Suggestion)
    (x : Session) : Prop where
  requestSeq : x.requestSeq = seq
  document : x.document = document
  anchor : x.anchor = anchor
  items : x.items = survivors response x.typed
  index_lt : x.index < x.items.length

theorem holds_of_open? (opened : open? seq document anchor response = some x) :
    x.Holds seq document anchor response := by
  have sound := sound_of_open? opened
  obtain ⟨rfl, -⟩ := eq_of_open? opened
  exact ⟨rfl, rfl, rfl, (survivors_empty response).symm, sound.index_lt⟩

/-- Navigating chooses another of the same items. -/
theorem items_of_navigate {forward : Bool} (moved : x.navigate forward = some y) :
    y.items = x.items := by
  unfold navigate at moved
  split at moved
  · cases moved
  · split at moved <;> obtain rfl := Option.some.inj moved <;> rfl

theorem Holds.navigate (holds : x.Holds seq document anchor response) {forward : Bool}
    (moved : x.navigate forward = some y) : y.Holds seq document anchor response := by
  obtain ⟨requestSeq, place, cursor, typed⟩ := place_of_navigate moved
  have items := items_of_navigate moved
  refine ⟨requestSeq.trans holds.requestSeq, place.trans holds.document,
    cursor.trans holds.anchor, ?_, ?_⟩
  · rw [items, typed]
    exact holds.items
  · have pos : 0 < x.items.length := Nat.lt_of_le_of_lt (Nat.zero_le _) holds.index_lt
    unfold Session.navigate at moved
    split at moved
    · cases moved
    · split at moved <;> obtain rfl := Option.some.inj moved <;> exact Nat.mod_lt _ pos

/-- Narrowing keeps the items that go on. -/
theorem items_of_narrow? (narrowed : x.narrow? u = some y) :
    y.items = x.items.filter (continues (x.typed ++ u)) := by
  simp only [narrow?] at narrowed
  split at narrowed
  · cases narrowed
  · obtain rfl := Option.some.inj narrowed
    rfl

theorem Holds.narrow (holds : x.Holds seq document anchor response)
    (narrowed : x.narrow? u = some y) : y.Holds seq document anchor response := by
  obtain ⟨sound, same⟩ := sound_of_narrow? narrowed
  refine ⟨same.requestSeq.trans holds.requestSeq, same.document.trans holds.document,
    same.anchor.trans holds.anchor, ?_, sound.index_lt⟩
  rw [items_of_narrow? narrowed, typed_of_narrow? narrowed, holds.items, filter_survivors]

/-- What was typed along is shorter than some suggestion of the answer. -/
theorem Holds.exists_longer (holds : x.Holds seq document anchor response) :
    ∃ suggestion ∈ response, x.typed.length < suggestion.content.length := by
  have some' := holds.index_lt
  obtain ⟨item, member⟩ : ∃ item, item ∈ x.items := ⟨_, List.getElem_mem some'⟩
  rw [holds.items, survivors, List.mem_filter, mem_itemsOf] at member
  obtain ⟨⟨found, -⟩, goesOn⟩ := member
  simp only [continues, Bool.and_eq_true, decide_eq_true_eq] at goesOn
  exact ⟨item.suggestion, List.mem_of_getElem? found, goesOn.2⟩

end Session

/-! ## Calls -/

namespace Offering

/-- What the user does with a session that is shown. -/
inductive Call
  | navigate (forward : Bool)
  | typeAlong (inserted : String)
  deriving DecidableEq, Repr

/-- The offering after a call, whatever the call says. -/
def call (o : Offering) : Call → Offering
  | .navigate forward => (o.navigate forward).2
  | .typeAlong inserted => (o.typeAlong inserted).2

/-- What a call adds to what was typed along: the insertion, if some suggestion goes on
with it. -/
def matching (o : Offering) : Call → String
  | .navigate _ => ""
  | .typeAlong inserted => if (o.typeAlong inserted).1 = .matched then inserted else ""

/-- The offering after a list of calls. -/
def afterCalls (o : Offering) : List Call → Offering
  | [] => o
  | call :: calls => (o.call call).afterCalls calls

/-- The insertions of a list of calls that some suggestion went on with, put together. -/
def matchings (o : Offering) : List Call → String
  | [] => ""
  | call :: calls => o.matching call ++ (o.call call).matchings calls

variable {seq : Nat} {document : DocumentId} {anchor : Nat} {response : List Suggestion}
variable {o : Offering} {x : Session}

/-- **One call keeps what the session holds**, and adds to what was typed. -/
theorem holds_call (live : o.session = some x) (holds : x.Holds seq document anchor response)
    (call : Call) :
    ∃ y, (o.call call).session = some y ∧ y.Holds seq document anchor response ∧
      y.typed = x.typed ++ o.matching call := by
  cases call with
  | navigate forward =>
      cases moved : x.navigate forward with
      | none => exact ⟨x, by simp [Offering.call, navigate, live, moved], holds, by simp [matching]⟩
      | some y =>
          refine ⟨y, by simp [Offering.call, navigate, live, moved], holds.navigate moved, ?_⟩
          rw [matching, String.append_empty]
          exact (Session.place_of_navigate moved).2.2.2
  | typeAlong inserted =>
      cases narrowed : x.narrow? inserted with
      | none =>
          exact ⟨x, by simp [Offering.call, typeAlong, live, narrowed], holds,
            by simp [matching, typeAlong, live, narrowed]⟩
      | some y =>
          refine ⟨y, by simp [Offering.call, typeAlong, live, narrowed], holds.narrow narrowed, ?_⟩
          simp only [matching, typeAlong, live, narrowed, ↓reduceIte]
          exact Session.typed_of_narrow? narrowed

/-- So does any number of calls. -/
theorem holds_afterCalls (live : o.session = some x)
    (holds : x.Holds seq document anchor response) (calls : List Call) :
    ∃ y, (o.afterCalls calls).session = some y ∧ y.Holds seq document anchor response ∧
      y.typed = x.typed ++ o.matchings calls := by
  induction calls generalizing o x with
  | nil => exact ⟨x, live, holds, by simp [matchings]⟩
  | cons call calls ih =>
      obtain ⟨y, shown, held, typed⟩ := holds_call live holds call
      obtain ⟨z, shown', held', typed'⟩ := ih shown held
      refine ⟨z, shown', held', ?_⟩
      rw [typed', typed, matchings, String.append_assoc]

/-- What an offering says of an answer, and the session that it then shows. -/
theorem offer_cases (o : Offering) (seq : Nat) (document : DocumentId) (anchor : Nat)
    (response : List Suggestion) :
    Session.itemsOf response = [] ∧ (o.offer seq document anchor response).1 = false ∨
      Session.itemsOf response ≠ [] ∧ (o.offer seq document anchor response).1 = true ∧
        ∃ x, (o.offer seq document anchor response).2.session = some x ∧
          x.Holds seq document anchor response ∧ x.typed = "" := by
  unfold offer
  cases opened : Session.open? seq document anchor response with
  | none =>
      refine .inl ⟨?_, rfl⟩
      unfold Session.open? at opened
      split at opened
      · next nothing => exact nothing
      · cases opened
  | some x =>
      obtain ⟨same, filled⟩ := Session.eq_of_open? opened
      exact .inr ⟨filled, rfl, x, rfl, Session.holds_of_open? opened, by rw [same]⟩

/-- **A session holds exactly what is left of its answer.**  An answer opens a session
exactly if one of its suggestions has content.  After any calls on that session, let `t`
be the insertions that some suggestion went on with, put together.  Then

* `t` is what was typed;
* if every suggestion would end at a place that a word of 64 bits can hold, so is the cursor
  expected at one, behind `t`, counted in characters;
* the items are the suggestions of the answer that begin with `t` and are longer, each
  unchanged and with its position, and their positions increase;
* there is at least one, and the index names one. -/
theorem session_holds_survivors (o : Offering) (seq : Nat) (document : DocumentId)
    (anchor : Nat) (response : List Suggestion) :
    let shown := o.offer seq document anchor response
    (shown.1 = true ↔ ∃ suggestion ∈ response, suggestion.content ≠ "") ∧
      (shown.1 = true → ∀ calls,
        let t := shown.2.matchings calls
        ∃ x, (shown.2.afterCalls calls).session = some x ∧
          x.requestSeq = seq ∧ x.document = document ∧ x.anchor = anchor ∧
          x.typed = t ∧
          ((∀ suggestion ∈ response, anchor + suggestion.content.length < UInt64.size) →
            x.expectedCursor = anchor + t.length ∧ x.expectedCursor < UInt64.size) ∧
          (∀ item, item ∈ x.items ↔
            response[item.responseIndex]? = some item.suggestion ∧
              Text.beginsWith t item.suggestion.content = true ∧
              t.utf8ByteSize < item.suggestion.content.utf8ByteSize) ∧
          x.items.Pairwise (fun a b => a.responseIndex < b.responseIndex) ∧
          x.items ≠ [] ∧ x.index < x.items.length) := by
  intro shown
  rw [← Session.itemsOf_ne_nil_iff]
  obtain ⟨nothing, refused⟩ | ⟨filled, opens, y, live, holds, fresh⟩ :=
    o.offer_cases seq document anchor response
  · exact ⟨by simp [shown, refused, nothing], fun opens => absurd (refused.symm.trans opens) nofun⟩
  · refine ⟨⟨fun _ => filled, fun _ => opens⟩, fun _ calls => ?_⟩
    obtain ⟨x, after, held, typed⟩ := holds_afterCalls live holds calls
    rw [fresh, String.empty_append] at typed
    have items := held.items
    rw [typed] at items
    refine ⟨x, after, held.requestSeq, held.document, held.anchor, typed, ?_, ?_, ?_, ?_,
      held.index_lt⟩
    · intro fits
      obtain ⟨suggestion, member, longer⟩ := held.exists_longer
      have place : x.expectedCursor = anchor + x.typed.length := by
        rw [Session.expectedCursor, held.anchor]
      refine ⟨by rw [place, typed], ?_⟩
      calc x.expectedCursor
        _ = anchor + x.typed.length := place
        _ < anchor + suggestion.content.length := Nat.add_lt_add_left longer anchor
        _ < UInt64.size := fits suggestion member
    · intro item
      rw [items]
      exact Session.mem_survivors
    · rw [items]
      exact Session.survivors_increasing response _
    · exact List.ne_nil_of_length_pos (Nat.lt_of_le_of_lt (Nat.zero_le _) held.index_lt)

/-- Four suggestions, one of them empty; two begin alike, with a character of two bytes. -/
def accentedReply : List Suggestion :=
  [.plain "été()", .plain "", .plain "étage", .plain "é"]

/-- The user goes on to the second of three suggestions, types what two of them begin with,
and then what none of them goes on with. -/
theorem session_holds_survivors_accented :
    let o := (Offering.empty.offer 1 ⟨"main.rs"⟩ 4 accentedReply).2
    let calls : List Call := [.navigate true, .typeAlong "é", .typeAlong "x", .typeAlong "t"]
    (Offering.empty.offer 1 ⟨"main.rs"⟩ 4 accentedReply).1 = true ∧
      ∃ x, (o.afterCalls calls).session = some x ∧ x.typed = "ét" ∧ x.expectedCursor = 6 ∧
        ⟨2, .plain "étage"⟩ ∈ x.items ∧ ⟨3, .plain "é"⟩ ∉ x.items := by
  intro o calls
  have opens : (Offering.empty.offer 1 ⟨"main.rs"⟩ 4 accentedReply).1 = true := by decide
  have along : o.matchings calls = "ét" := by decide
  obtain ⟨x, live, -, -, -, typed, cursor, items, -⟩ :=
    (session_holds_survivors .empty 1 ⟨"main.rs"⟩ 4 accentedReply).2 opens calls
  have fits : ∀ suggestion ∈ accentedReply, 4 + suggestion.content.length < UInt64.size := by
    decide
  refine ⟨opens, x, live, typed.trans along, (cursor fits).1.trans ?_, (items _).mpr ?_,
    fun member => ?_⟩
  · rw [along]
    decide
  · rw [along]
    decide
  · have longer := ((items _).mp member).2.2
    rw [along] at longer
    exact absurd longer (by decide)

end Offering

end InlineCompletion
