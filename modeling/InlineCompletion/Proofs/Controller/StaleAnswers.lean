import InlineCompletion.Proofs.Controller.Numbering

/-!
# Stale answers are inert

Answers come back in any order, and long after their requests were given up.  An
answer is *stale* where its number is not the one in flight.  A stale answer
changes nothing (`react_of_isStale`), and a request that is over stays over
(`seqInFlight?_ne_after`): it lies below `Trigger.nextAnswer`, which never falls.

### Runs with the stale answers left out

Inserting stale answers into a run, taking some out, or moving them about are
all said at once by `withoutStale`, the run with every answer left out that is
stale *where it stands*.  Two runs that agree in this respect end in the same
state after the same effects, whatever follows.  Staleness has to be judged
along the run: an answer that is stale in one place may be awaited in another.
-/

namespace InlineCompletion

namespace Controller

variable {s : Controller}

/-- Whether an event is an answer that nobody waits for. -/
def isStale (s : Controller) : Event → Bool
  | .answered seq _ => s.trigger.seqInFlight? != some seq
  | _ => false

/-- The events of a run without the answers that are stale where they stand. -/
def withoutStale (s : Controller) : List Event → List Event
  | [] => []
  | e :: rest =>
      if s.isStale e then s.withoutStale rest else e :: (s.react e).controller.withoutStale rest

/-- An answer that nobody waits for changes nothing, and nothing is to be done. -/
theorem react_of_ne {seq : Nat} (stale : s.trigger.seqInFlight? ≠ some seq)
    (outcome : RequestOutcome) : s.react (.answered seq outcome) = ⟨s, [], false⟩ :=
  reactToAnswer_of_ne stale outcome

theorem react_of_isStale {e : Event} (stale : s.isStale e = true) :
    s.react e = ⟨s, [], false⟩ := by
  cases e with
  | answered seq outcome => exact react_of_ne (by simpa [isStale] using stale) outcome
  | _ => simp [isStale] at stale

theorem withoutStale_cons_of_isStale {e : Event} (stale : s.isStale e = true)
    (es : List Event) : s.withoutStale (e :: es) = s.withoutStale es := by
  simp [withoutStale, stale]

theorem withoutStale_cons_of_not {e : Event} (awaited : s.isStale e = false)
    (es : List Event) :
    s.withoutStale (e :: es) = e :: (s.react e).controller.withoutStale es := by
  simp [withoutStale, awaited]

/-- **Leaving out the stale answers** changes neither the state that a run ends
in nor its effects. -/
theorem run_withoutStale (s : Controller) (es : List Event) :
    s.after (s.withoutStale es) = s.after es ∧
      s.effectsOf (s.withoutStale es) = s.effectsOf es := by
  induction es generalizing s with
  | nil => exact ⟨rfl, rfl⟩
  | cons e es ih =>
      cases stale : s.isStale e with
      | true =>
          rw [withoutStale_cons_of_isStale stale, after_cons, effectsOf_cons,
            react_of_isStale stale]
          exact ih s
      | false =>
          rw [withoutStale_cons_of_not stale]
          obtain ⟨same, told⟩ := ih (s.react e).controller
          exact ⟨same, congrArg ((s.react e).effects ++ ·) told⟩

/-- A stale answer may be put anywhere into a run or taken out of it. -/
theorem withoutStale_insert (s : Controller) (es fs : List Event) {e : Event}
    (stale : (s.after es).isStale e = true) :
    s.withoutStale (es ++ e :: fs) = s.withoutStale (es ++ fs) := by
  -- on the events before; those that are stale themselves leave the state as it is
  induction es generalizing s with
  | nil => exact withoutStale_cons_of_isStale stale fs
  | cons a es ih =>
      cases first : s.isStale a with
      | true =>
          rw [after_cons, react_of_isStale first] at stale
          simp only [List.cons_append, withoutStale_cons_of_isStale first]
          exact ih s stale
      | false =>
          simp only [List.cons_append, withoutStale_cons_of_not first]
          exact congrArg (a :: ·) (ih (s.react a).controller stale)

/-- A request that is over is never in flight again. -/
theorem seqInFlight?_ne_after (coherent : Coherent s.trigger s.offering) {seq : Nat}
    (begun : seq ≤ s.trigger.lastSeq) (gone : s.trigger.seqInFlight? ≠ some seq)
    (es : List Event) : (s.after es).trigger.seqInFlight? ≠ some seq := by
  have below : seq < s.trigger.nextAnswer := coherent.lt_nextAnswer_iff.mpr ⟨begun, gone⟩
  have later : seq < (s.after es).trigger.nextAnswer :=
    Nat.lt_of_lt_of_le below (nextAnswer_after coherent es)
  exact ((coherent_after coherent es).lt_nextAnswer_iff.mp later).2

/-- **Stale answers are inert, in whatever order they come.**  In the state that
any run ends in, an answer whose number is not in flight is answered with no
effect and the same state.  The numbers of the requests that were sent are among
those handed out, and a number that was handed out and is not in flight will not
be in flight again.  The answers that a run takes and the requests that it sends
both come in the order of their numbers, each at most once.  A stale answer may
be put in or taken out anywhere, and runs that agree but for stale answers have
the same effects and reach the same state, then and after whatever follows. -/
theorem stale_answers_are_inert (settings : Settings) (languages : LanguageTable)
    (es : List Event) :
    let s₀ := new settings languages
    let s := s₀.after es
    (∀ seq outcome, s.trigger.seqInFlight? ≠ some seq →
        s.react (.answered seq outcome) = ⟨s, [], false⟩) ∧
      (∀ seq ∈ requestSeqs (s₀.effectsOf es), seq ≤ s.trigger.lastSeq) ∧
      (∀ seq ≤ s.trigger.lastSeq, s.trigger.seqInFlight? ≠ some seq →
        ∀ fs, (s.after fs).trigger.seqInFlight? ≠ some seq) ∧
      (s₀.answersTaken es).Pairwise (· < ·) ∧
      (requestSeqs (s₀.effectsOf es)).Pairwise (· < ·) ∧
      (∀ seq outcome, s.trigger.seqInFlight? ≠ some seq →
        ∀ fs, s₀.withoutStale (es ++ .answered seq outcome :: fs) = s₀.withoutStale (es ++ fs)) ∧
      ∀ fs, s₀.withoutStale es = s₀.withoutStale fs →
        ∀ gs, s₀.after (es ++ gs) = s₀.after (fs ++ gs) ∧
          s₀.effectsOf (es ++ gs) = s₀.effectsOf (fs ++ gs) := by
  intro s₀ s
  have fresh : Coherent s₀.trigger s₀.offering := coherent_new settings languages
  obtain ⟨increasing, begun⟩ := requestSeqs_increasing fresh es
  refine ⟨fun seq outcome stale => react_of_ne stale outcome, begun, ?_,
    answersTaken_increasing fresh es, increasing, ?_, ?_⟩
  · intro seq handedOut gone fs
    exact seqInFlight?_ne_after (coherent_after fresh es) handedOut gone fs
  · intro seq outcome stale fs
    exact withoutStale_insert s₀ es fs (by simpa [isStale] using stale)
  · intro fs same gs
    obtain ⟨stateE, toldE⟩ := run_withoutStale s₀ es
    obtain ⟨stateF, toldF⟩ := run_withoutStale s₀ fs
    have state : s₀.after es = s₀.after fs := by rw [← stateE, same, stateF]
    have told : s₀.effectsOf es = s₀.effectsOf fs := by rw [← toldE, same, toldF]
    simp [after_append, effectsOf_append, state, told]

/-- The answer to the second request, too early to be awaited and then in time. -/
example :
    let ask : Event := .invoked ⟨⟨"main.rs"⟩, "rust", "main.rs", "fn", 2⟩
    let answer : Event := .answered 2 (.suggestions [.plain " main() {}"])
    let connected : Event := .connectionChanged ⟨true, true, false, false⟩
    (new .standard .standard).withoutStale [connected, ask, answer, ask, answer, answer] =
      [connected, ask, ask, answer] := by decide

end Controller

end InlineCompletion
