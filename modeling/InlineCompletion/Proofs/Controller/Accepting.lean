import InlineCompletion.Proofs.Controller.Handlers

/-!
# What accepting asks for

Accepting the current suggestion asks the editor to insert what is left of it,
and records which suggestion it was.  Whatever was typed along and what is left
are together the whole suggestion (`Session.Sound.remaining`), and something is
always left, because a session keeps only suggestions that go on after what was
typed.

Nothing but accepting asks for an insertion or records an acceptance
(`Course.event_of_accepts`).
-/

namespace InlineCompletion

/-- A text that begins with `start` is `start` and the rest. -/
theorem Text.append_drop_of_beginsWith {start s : String} (begins : beginsWith start s = true) :
    start ++ drop start.length s = s := by
  obtain ⟨rest, split⟩ := (beginsWith_iff start s).mp begins
  apply String.toList_injective
  rw [String.toList_append, toList_drop, split, ← String.length_toList, List.drop_left]

/-- **What is left of the current suggestion** completes what was typed, and is
not empty. -/
theorem Session.Sound.remaining {x : Session} (sound : x.Sound) :
    ∃ item text, x.current? = some item ∧ x.remaining? = some text ∧
      item.suggestion.content = x.typed ++ text ∧ text ≠ "" := by
  obtain ⟨item, current, goesOn⟩ := sound.current
  obtain ⟨begins, longer⟩ : Text.beginsWith x.typed item.suggestion.content = true ∧
      x.typed.length < item.suggestion.content.length := by
    simpa only [Session.continues, Bool.and_eq_true, decide_eq_true_eq] using goesOn
  have whole := Text.append_drop_of_beginsWith begins
  refine ⟨item, Text.drop x.typed.length item.suggestion.content, current, ?_, whole.symm, ?_⟩
  · simp [Session.remaining?, current, begins]
  · intro nothing
    rw [nothing, String.append_empty] at whole
    rw [← whole] at longer
    exact Nat.lt_irrefl _ longer

/-- An effect that only accepting has: it asks for an insertion, or records an
acceptance. -/
def Effect.accepts : Effect → Bool
  | .insertText _ => true
  | .recordDecision decision => decision.outcome != .rejected
  | _ => false

theorem not_accepts_of_mem_rejections {o : Offering} {effect : Effect}
    (member : effect ∈ o.rejections) : effect.accepts = false := by
  cases live : o.session with
  | none => simp [live] at member
  | some x =>
      rw [Offering.rejections_of_some live, List.mem_singleton] at member
      rw [member]
      rfl

/-- **Only accepting a live session** has the effects of accepting. -/
theorem Course.event_of_accepts {t t' : Trigger} {o o' : Offering} {e : Event}
    {effects : List Effect} (course : Course t o e t' o' effects) {effect : Effect}
    (told : effect ∈ effects) (accepts : effect.accepts = true) :
    e = .accepted ∧ ∃ x, o.session = some x := by
  have ofPrompts {prompts : List Prompt} (member : effect ∈ prompts.map Effect.prompt) :
      effect.accepts = false := by
    obtain ⟨prompt, -, rfl⟩ := List.mem_map.mp member
    rfl
  suffices silent : effect.accepts = false ∨ (e = .accepted ∧ ∃ x, o.session = some x) by
    exact silent.resolve_left (by simp [accepts])
  cases course with
  | rest prompts _ _ _ same => exact .inl (ofPrompts (same ▸ told))
  | reject prompts _ _ _ same =>
      rcases List.mem_append.mp (same ▸ told) with rejection | prompt
      · exact .inl (not_accepts_of_mem_rejections rejection)
      · exact .inl (ofPrompts prompt)
  | wait _ _ _ _ _ _ same => exact .inl (not_accepts_of_mem_rejections (same ▸ told))
  | ask _ request _ _ _ same =>
      rcases List.mem_append.mp (same ▸ told) with rejection | sent
      · exact .inl (not_accepts_of_mem_rejections rejection)
      · rw [List.mem_singleton.mp sent]
        exact .inl rfl
  | accept x _ _ event _ live => exact .inr ⟨event, x, live⟩
  | _ => simp_all

namespace Controller

variable {s : Controller}

/-- The state after the insertion `i` was asked for. -/
def inserting (s : Controller) (i : Insertion) : Controller :=
  { s with offering := ⟨none, true, some i⟩ }

/-- What accepting leads to where something is left of the current suggestion. -/
theorem react_accepted_of_remaining {x : Session} (live : s.offering.session = some x)
    {item : Session.Item} {text : String} (current : x.current? = some item)
    (left : x.remaining? = some text) :
    s.react .accepted =
      ⟨s.inserting ⟨x.document, x.expectedCursor, text⟩,
        [.insertText ⟨x.document, x.expectedCursor, text⟩,
          .recordDecision ⟨x.requestSeq, x.document, .accepted item.responseIndex⟩], true⟩ := by
  simp [react, Offering.accept, live, current, left, inserting]

/-- **Accepting a live session** asks for what is left of its current suggestion. -/
theorem react_accepted (coherent : Coherent s.trigger s.offering) {x : Session}
    (live : s.offering.session = some x) :
    ∃ item text, x.current? = some item ∧ item.suggestion.content = x.typed ++ text ∧ text ≠ "" ∧
      s.react .accepted =
        ⟨s.inserting ⟨x.document, x.expectedCursor, text⟩,
          [.insertText ⟨x.document, x.expectedCursor, text⟩,
            .recordDecision ⟨x.requestSeq, x.document, .accepted item.responseIndex⟩], true⟩ := by
  obtain ⟨item, text, current, left, whole, filled⟩ :=
    (coherent.sound_of_live x live).remaining
  exact ⟨item, text, current, whole, filled, react_accepted_of_remaining live current left⟩

end Controller

end InlineCompletion
