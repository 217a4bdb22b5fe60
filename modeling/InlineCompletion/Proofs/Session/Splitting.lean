import InlineCompletion.Proofs.Session.Survivors

/-!
# Typing in pieces

An editor reports typing as it likes: letter by letter, or a whole word at once.  What
becomes of a session does not depend on it
(`Offering.typing_along_is_seamless`): it is narrowed by one text exactly as by the
pieces of that text, one after the other, and where the pieces lead nowhere the text
does not either.

That the same items are left is what `filter_continues_append` says.  That the same one
of them is the current one takes more, for each piece looks for the current item among
those that it has left, and chooses the first where it is not found.  So a later piece
may look for an item that an earlier one has chosen.  **That changes nothing, because
the first of a list is also the first of what a filter leaves of it, if it is left at
all** (`placeOf_filter`).  Items are looked for by their position in the answer, so no
two of them may have the same one.
-/

namespace InlineCompletion

namespace Session

variable {seq : Nat} {document : DocumentId} {anchor : Nat} {response : List Suggestion}
variable {x : Session} {u : String} {items : List Session.Item} {selected : Option Nat}

/-! ## Looking for the current item -/

/-- The place of the item with the selected position among the items; the first place
if there is none. -/
def placeOf (selected : Option Nat) (items : List Session.Item) : Nat :=
  (items.findIdx? fun item => some item.responseIndex == selected).getD 0

theorem placeOf_of_forall_ne
    (missing : ∀ item ∈ items, some item.responseIndex ≠ selected) :
    placeOf selected items = 0 := by
  have nowhere : items.findIdx? (fun item => some item.responseIndex == selected) = none :=
    List.findIdx?_eq_none_iff.mpr fun item member => by simpa using missing item member
  rw [placeOf, nowhere, Option.getD_none]

/-- What is found has the selected position. -/
theorem placeOf_cases (selected : Option Nat) (items : List Session.Item) :
    (∃ item, items[placeOf selected items]? = some item ∧ some item.responseIndex = selected) ∨
      (∀ item ∈ items, some item.responseIndex ≠ selected) ∧ placeOf selected items = 0 := by
  unfold placeOf
  cases found : items.findIdx? fun item => some item.responseIndex == selected with
  | some place =>
      obtain ⟨inside, same, -⟩ := List.findIdx?_eq_some_iff_getElem.mp found
      exact .inl ⟨items[place], List.getElem?_eq_getElem inside, by simpa using same⟩
  | none =>
      have missing := List.findIdx?_eq_none_iff.mp found
      exact .inr ⟨fun item member => by simpa using missing item member, rfl⟩

/-- **The first item is the first of what a filter leaves**, if it is left at all. -/
theorem placeOf_head {head : Session.Item} {tail : List Session.Item}
    (increasing : (head :: tail).Pairwise fun a b => a.responseIndex < b.responseIndex)
    (p : Session.Item → Bool) :
    placeOf (some head.responseIndex) ((head :: tail).filter p) = 0 := by
  cases left : p head with
  | true =>
      rw [List.filter_cons_of_pos left, placeOf, List.findIdx?_cons]
      simp
  | false =>
      rw [List.filter_cons_of_neg (by simp [left])]
      refine placeOf_of_forall_ne fun item member => ?_
      have less := List.rel_of_pairwise_cons increasing (List.mem_filter.mp member).1
      simpa using Nat.ne_of_gt less

/-- **Looking twice comes to looking once**: among the items that a filter leaves, the item
that was found before is found where the selected one is. -/
theorem placeOf_filter (increasing : items.Pairwise fun a b => a.responseIndex < b.responseIndex)
    (p : Session.Item → Bool) {item : Session.Item}
    (found : items[placeOf selected items]? = some item) :
    placeOf (some item.responseIndex) (items.filter p) = placeOf selected (items.filter p) := by
  obtain ⟨same, found', chosen⟩ | ⟨missing, first⟩ := placeOf_cases selected items
  · rw [Option.some.inj (found.symm.trans found'), chosen]
  · -- the selected item was not there, so the first one was chosen
    rw [placeOf_of_forall_ne fun other left => missing other (List.mem_filter.mp left).1]
    rw [first] at found
    cases items with
    | nil => cases found
    | cons head tail =>
        obtain rfl := Option.some.inj found
        exact placeOf_head increasing p

/-- An item is found at its own place. -/
theorem placeOf_getElem (increasing : items.Pairwise fun a b => a.responseIndex < b.responseIndex)
    {place : Nat} {item : Session.Item} (there : items[place]? = some item) :
    placeOf (some item.responseIndex) items = place := by
  obtain ⟨inside, rfl⟩ := List.getElem?_eq_some_iff.mp there
  have found : items.findIdx? (fun other => some other.responseIndex ==
      some items[place].responseIndex) = some place := by
    refine List.findIdx?_eq_some_iff_getElem.mpr ⟨inside, by simp, fun earlier before => ?_⟩
    have less := List.pairwise_iff_getElem.mp increasing earlier place
      (Nat.lt_trans before inside) inside before
    simpa using Nat.ne_of_lt less
  rw [placeOf, found, Option.getD_some]

/-! ## Narrowing twice -/

/-- The session that narrowing leaves, if an item goes on. -/
def narrowed (x : Session) (u : String) : Session :=
  let items := x.items.filter (continues (x.typed ++ u))
  { x with
    items := items
    index := placeOf (x.current?.map (·.responseIndex)) items
    typed := x.typed ++ u }

/-- Narrowing fails exactly where no item goes on. -/
theorem narrow?_eq (x : Session) (u : String) :
    x.narrow? u = if (x.narrowed u).items = [] then none else some (x.narrowed u) := by
  simp only [narrow?]
  split
  · next nothing => rw [if_pos (show (x.narrowed u).items = [] from nothing)]
  · next something => rw [if_neg (show (x.narrowed u).items ≠ [] from something)]; rfl

theorem items_narrowed_narrowed (x : Session) (u v : String) :
    ((x.narrowed u).narrowed v).items = (x.narrowed (u ++ v)).items := by
  show List.filter _ (List.filter _ x.items) = List.filter _ x.items
  rw [← String.append_assoc]
  exact filter_continues_append x.items (x.typed ++ u) v

/-- Narrowing goes on exactly where some item does. -/
theorem exists_narrow?_iff :
    (∃ y, x.narrow? u = some y) ↔ ∃ item ∈ x.items, continues (x.typed ++ u) item = true := by
  have items : (x.narrowed u).items = [] ↔
      ¬∃ item ∈ x.items, continues (x.typed ++ u) item = true := by
    show x.items.filter (continues (x.typed ++ u)) = [] ↔ _
    simp [List.filter_eq_nil_iff]
  rw [narrow?_eq]
  by_cases goesOn : ∃ item ∈ x.items, continues (x.typed ++ u) item = true
  · simp [items, goesOn]
  · simp [items, goesOn]

/-- What narrowing leaves has a current item, if it has any. -/
theorem current?_narrowed (x : Session) (something : (x.narrowed u).items ≠ []) :
    ∃ item, (x.narrowed u).current? = some item := by
  have left : x.narrow? u = some (x.narrowed u) := by rw [narrow?_eq, if_neg something]
  obtain ⟨item, current, -⟩ := (sound_of_narrow? left).1.current
  exact ⟨item, current⟩

/-- **What narrowing twice leaves is what narrowing once does.** -/
theorem narrowed_narrowed
    (increasing : x.items.Pairwise fun a b => a.responseIndex < b.responseIndex)
    (something : (x.narrowed u).items ≠ []) (v : String) :
    (x.narrowed u).narrowed v = x.narrowed (u ++ v) := by
  have items := items_narrowed_narrowed x u v
  have index : ((x.narrowed u).narrowed v).index = (x.narrowed (u ++ v)).index := by
    obtain ⟨item, current⟩ := current?_narrowed x something
    show placeOf ((x.narrowed u).current?.map (·.responseIndex)) ((x.narrowed u).narrowed v).items =
      placeOf (x.current?.map (·.responseIndex)) (x.narrowed (u ++ v)).items
    rw [current, Option.map_some, ← items]
    exact placeOf_filter (increasing.filter _) _ current
  simp only [narrowed, Session.mk.injEq, true_and]
  exact ⟨items, index, String.append_assoc ..⟩

/-- **Narrowing by a text is narrowing by its pieces.** -/
theorem narrow?_append (increasing : x.items.Pairwise fun a b => a.responseIndex < b.responseIndex)
    (u v : String) : (x.narrow? u).bind (·.narrow? v) = x.narrow? (u ++ v) := by
  rw [narrow?_eq x u, narrow?_eq x (u ++ v), ← items_narrowed_narrowed]
  by_cases nothing : (x.narrowed u).items = []
  · have none' : ((x.narrowed u).narrowed v).items = [] := by
      show List.filter _ (x.narrowed u).items = []
      rw [nothing, List.filter_nil]
    rw [if_pos nothing, if_pos none', Option.bind_none]
  · rw [if_neg nothing, Option.bind_some, narrow?_eq, narrowed_narrowed increasing nothing]

/-! ## Narrowing by pieces -/

/-- Narrows a session by texts, one after the other. -/
def narrowAll (x : Session) : List String → Option Session
  | [] => some x
  | u :: us => (x.narrow? u).bind (·.narrowAll us)

theorem Holds.increasing (holds : x.Holds seq document anchor response) :
    x.items.Pairwise fun a b => a.responseIndex < b.responseIndex := by
  rw [holds.items]
  exact survivors_increasing response _

/-- Typing nothing changes nothing. -/
theorem Holds.narrow?_empty (holds : x.Holds seq document anchor response) :
    x.narrow? "" = some x := by
  have items : (x.narrowed "").items = x.items := by
    show x.items.filter (continues (x.typed ++ "")) = x.items
    rw [holds.items, filter_survivors, String.append_empty]
  have index : (x.narrowed "").index = x.index := by
    have current := List.getElem?_eq_getElem holds.index_lt
    show placeOf (x.items[x.index]?.map (·.responseIndex)) (x.narrowed "").items = x.index
    rw [items, current]
    exact placeOf_getElem holds.increasing current
  have filled : x.items ≠ [] := List.ne_nil_of_length_pos (Nat.zero_lt_of_lt holds.index_lt)
  have same : x.narrowed "" = x := by
    obtain ⟨requestSeq, document, anchor, xs, place, visible, typed⟩ := x
    simp only [narrowed, Session.mk.injEq, true_and]
    exact ⟨items, index, String.append_empty⟩
  rw [narrow?_eq, if_neg (items ▸ filled), same]

/-- **So is narrowing by any number of pieces.** -/
theorem Holds.narrowAll_eq (holds : x.Holds seq document anchor response) (pieces : List String) :
    x.narrowAll pieces = x.narrow? (String.join pieces) := by
  induction pieces generalizing x with
  | nil => exact holds.narrow?_empty.symm
  | cons u us ih =>
      rw [narrowAll, String.join_cons, ← narrow?_append holds.increasing]
      cases narrowed : x.narrow? u with
      | none => rfl
      | some y => exact ih (holds.narrow narrowed)

end Session

/-! ## Offerings -/

namespace Offering

/-- An offering that comes about by offering answers, navigating and typing along, where
there was no session at first. -/
inductive Reachable : Offering → Prop
  | start {o : Offering} (gone : o.session = none) : Reachable o
  | offer {o : Offering} (reachable : Reachable o) (seq : Nat) (document : DocumentId)
      (anchor : Nat) (response : List Suggestion) :
      Reachable (o.offer seq document anchor response).2
  | call {o : Offering} (reachable : Reachable o) (call : Call) : Reachable (o.call call)

variable {o : Offering} {x : Session}

/-- **Every session holds what is left of some answer.** -/
theorem Reachable.holds (reachable : o.Reachable) (live : o.session = some x) :
    ∃ seq document anchor response, x.Holds seq document anchor response := by
  induction reachable generalizing x with
  | start gone => cases gone.symm.trans live
  | @offer o _ seq document anchor response ih =>
      unfold Offering.offer at live
      cases opened : Session.open? seq document anchor response with
      | none => exact ih (by simpa only [opened] using live)
      | some y =>
          obtain rfl : y = x := by simpa only [opened, Option.some.injEq] using live
          exact ⟨seq, document, anchor, response, Session.holds_of_open? opened⟩
  | @call o _ call ih =>
      cases before : o.session with
      | none =>
          have gone : (o.call call).session = none := by
            cases call <;> simp [Offering.call, navigate, typeAlong, before]
          cases gone.symm.trans live
      | some y =>
          obtain ⟨seq, document, anchor, response, holds⟩ := ih before
          obtain ⟨z, shown, held, -⟩ := holds_call before holds call
          obtain rfl := Option.some.inj (shown.symm.trans live)
          exact ⟨seq, document, anchor, response, held⟩

theorem typeAlong_of_stuck {u : String} (live : o.session = some x) (stuck : x.narrow? u = none) :
    o.typeAlong u = (.diverged, o) := by
  simp only [typeAlong, live, stuck]

theorem typeAlong_of_narrowed {u : String} {y : Session} (live : o.session = some x)
    (narrowed : x.narrow? u = some y) :
    o.typeAlong u = (.matched, { o with session := some y }) := by
  simp only [typeAlong, live, narrowed]

/-- What is typed goes along exactly if the live session can be narrowed by it. -/
theorem typeAlong_matched_iff (live : o.session = some x) (u : String) :
    (o.typeAlong u).1 = .matched ↔ ∃ y, x.narrow? u = some y := by
  cases narrowed : x.narrow? u with
  | none => simp [typeAlong_of_stuck live narrowed]
  | some y => simp [typeAlong_of_narrowed live narrowed]

/-- What does not go along leaves everything as it was. -/
theorem typeAlong_of_not_matched {u : String} (apart : (o.typeAlong u).1 ≠ .matched) :
    (o.typeAlong u).2 = o := by
  cases live : o.session with
  | none => simp only [typeAlong, live]
  | some x =>
      cases narrowed : x.narrow? u with
      | none => rw [typeAlong_of_stuck live narrowed]
      | some y => simp [typeAlong_of_narrowed live narrowed] at apart

/-- **It makes no difference how typing is split.**  However a session came about,

* a text goes along exactly if its first part does and then its second does, and both
  ways lead to the same offering, so to the same items, current suggestion and typed text;
* so do any number of pieces;
* a text goes along exactly if some item goes on after it, and one that does not leaves
  everything as it was. -/
theorem typing_along_is_seamless (reachable : o.Reachable) :
    (∀ u v,
      let whole := o.typeAlong (u ++ v)
      let first := o.typeAlong u
      let second := first.2.typeAlong v
      (whole.1 = .matched ↔ first.1 = .matched ∧ second.1 = .matched) ∧
        (whole.1 = .matched → second.2 = whole.2)) ∧
      (∀ x, o.session = some x → ∀ pieces,
        x.narrowAll pieces = x.narrow? (String.join pieces)) ∧
      (∀ u, (o.typeAlong u).1 = .matched ↔ ∃ x, o.session = some x ∧
        ∃ item ∈ x.items, Session.continues (x.typed ++ u) item = true) ∧
      ∀ u, (o.typeAlong u).1 = .diverged → (o.typeAlong u).2 = o := by
  have leaves (u : String) (diverged : (o.typeAlong u).1 = .diverged) : (o.typeAlong u).2 = o :=
    typeAlong_of_not_matched (by rw [diverged]; nofun)
  cases live : o.session with
  | none => simp [typeAlong, live]
  | some x =>
      obtain ⟨seq, document, anchor, response, holds⟩ := reachable.holds live
      refine ⟨fun u v => ?_, fun y same => ?_, fun u => ?_, leaves⟩
      · have joined := Session.narrow?_append holds.increasing u v
        cases goes : x.narrow? u with
        | none =>
            -- what does not go on after the first part does not go on after the whole
            rw [goes, Option.bind_none] at joined
            simp [typeAlong_of_stuck live goes, typeAlong_of_stuck live joined.symm]
        | some y =>
            rw [goes, Option.bind_some] at joined
            have live' : ({ o with session := some y } : Offering).session = some y := rfl
            rw [typeAlong_of_narrowed live goes]
            cases goes' : y.narrow? v with
            | none =>
                rw [goes'] at joined
                simp [typeAlong_of_stuck live joined.symm, typeAlong_of_stuck live' goes']
            | some z =>
                rw [goes'] at joined
                simp [typeAlong_of_narrowed live joined.symm, typeAlong_of_narrowed live' goes']
      · obtain rfl := Option.some.inj same
        exact holds.narrowAll_eq
      · rw [typeAlong_matched_iff live, Session.exists_narrow?_iff]
        simp

/-- The first suggestion and the last begin alike, the one between them does not. -/
def mixedReply : List Suggestion := [.plain "été()", .plain "let", .plain "étage()"]

/-- The user goes on to the second suggestion and types another.  The first piece leaves
behind what was current, and the second piece what took its place. -/
theorem typing_along_is_seamless_mixed :
    let o := (Offering.empty.offer 1 ⟨"main.rs"⟩ 4 mixedReply).2.call (.navigate true)
    let split := ((o.typeAlong "ét").2.typeAlong "a").2
    o.Reachable ∧ (o.typeAlong "éta").1 = .matched ∧ split = (o.typeAlong "éta").2 ∧
      (o.typeAlong "été!").2 = o := by
  intro o split
  have reachable : o.Reachable := .call (.offer (.start rfl) _ _ _ _) _
  have goes : (o.typeAlong "éta").1 = .matched := by decide
  obtain ⟨pieces, -, -, leaves⟩ := typing_along_is_seamless reachable
  exact ⟨reachable, goes, (pieces "ét" "a").2 goes, leaves "été!" (by decide)⟩

end Offering

end InlineCompletion
