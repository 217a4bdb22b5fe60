import Mathlib.Data.List.Nodup
import InlineCompletion.Proofs.Controller.Exclusion
import InlineCompletion.Proofs.Controller.Permission

/-!
# Where a session is anchored

A session remembers the number of the request that it answers, the document and
the place where suggestions were asked for.  None of this comes with the answer,
which brings a number and suggestions: it is what the trigger kept of the request
while it was in flight.  So a session tells of a snapshot that is long gone, over
a path that the request itself did not take.

`Traced` says that nothing is remembered that was not asked: what is in flight, and
what the live session answers, are each *remembered of* a request in a log.  One
event keeps this if the request that it begins is put into the log (`Traced.react`),
and with the log that the run writes it holds of every run from a fresh controller
(`Traced.after`).

The two paths part at a cursor beyond the text.  A request shows the service a cursor
that is clipped at the text's end; the session is anchored where the snapshot said.
-/

namespace InlineCompletion

/-- What is remembered of a request while its answer is awaited. -/
def Asking.remembered (a : Asking) : InFlight := ⟨a.seq, a.snapshot.document, a.snapshot.cursor⟩

/-- What a session remembers of the request that it answers. -/
def Session.answers (x : Session) : InFlight := ⟨x.requestSeq, x.document, x.anchor⟩

/-- Narrowing and navigating leave what a session remembers. -/
theorem Session.SameOffer.answers {x y : Session} (same : x.SameOffer y) :
    y.answers = x.answers := by
  simp [Session.answers, same.requestSeq, same.document, same.anchor]

/-- An opened session remembers what was remembered in flight. -/
theorem Session.answers_of_open? {q : InFlight} {response : List Suggestion} {y : Session}
    (opened : Session.open? q.seq q.document q.cursor response = some y) : y.answers = q := by
  obtain ⟨shape, -⟩ := Session.eq_of_open? opened
  rw [shape]
  rfl

namespace Controller

variable {s : Controller} {log : List Asking}

/-- **Nothing is remembered that was not asked**: what is in flight, and what the live
session answers, is remembered of a request in the log. -/
structure Traced (s : Controller) (log : List Asking) : Prop where
  flying : ∀ q, s.trigger.phase = .inFlight q → q ∈ log.map Asking.remembered
  live : ∀ x, s.offering.session = some x → x.answers ∈ log.map Asking.remembered

/-- A fresh controller remembers nothing. -/
theorem traced_new (settings : Settings) (languages : LanguageTable) :
    (new settings languages).Traced [] :=
  ⟨fun q flying => by simp [new, Trigger.new] at flying,
    fun x live => by simp [new, Offering.empty] at live⟩

namespace Traced

/-- **One event keeps the trace**, with the request that it begins put into the log. -/
theorem react (traced : s.Traced log) (coherent : Coherent s.trigger s.offering) (e : Event) :
    (s.react e).controller.Traced (log ++ (s.asking? e).toList) := by
  have grown (more : List Asking) {q : InFlight} (member : q ∈ log.map Asking.remembered) :
      q ∈ (log ++ more).map Asking.remembered := by
    rw [List.map_append]
    exact List.mem_append_left _ member
  refine ⟨?_, ?_⟩
  · intro q flying
    cases asks : s.asking? e with
    | none => exact grown [] (traced.flying q ((inFlight_react coherent e).2 asks q flying))
    | some a =>
        -- the trigger took the number, the document and the cursor from the same snapshot
        rw [trigger_of_asking asks, Trigger.begin_phase] at flying
        obtain rfl := Trigger.Phase.inFlight.inj flying
        have seq : a.seq = s.trigger.lastSeq + 1 := (asking?_cases asks).1
        simp [Asking.remembered, seq]
  · intro x live
    refine grown _ ?_
    cases course coherent e with
    | rest _ _ session | drop _ _ _ _ session => exact traced.live x (session ▸ live)
    | reject _ _ gone | wait _ _ _ _ gone | ask _ _ _ gone | accept _ _ _ _ _ _ gone =>
        simp [gone] at live
    | move y z _ before after same =>
        obtain rfl := Option.some.inj (after.symm.trans live)
        rw [same.answers]
        exact traced.live y before
    | opening q response y _ phase _ opened after =>
        obtain rfl := Option.some.inj (after.symm.trans live)
        rw [Session.answers_of_open? opened]
        exact traced.flying q phase

/-- A run keeps the trace, with the requests that it begins put into the log. -/
theorem after (traced : s.Traced log) (coherent : Coherent s.trigger s.offering)
    (es : List Event) : (s.after es).Traced (log ++ s.asked es) := by
  induction es generalizing s log with
  | nil => simpa [asked] using traced
  | cons e es ih =>
      have later := ih (traced.react coherent e) (coherent_react coherent e)
      rwa [List.append_assoc] at later

end Traced

/-! ## The requests of a run, by number -/

/-- No two requests of a run have the same number. -/
theorem requestsIn_functional (coherent : Coherent s.trigger s.offering) {es : List Event}
    {seq : Nat} {r r' : Request} (first : (seq, r) ∈ requestsIn (s.effectsOf es))
    (second : (seq, r') ∈ requestsIn (s.effectsOf es)) : r = r' := by
  have distinct : ((requestsIn (s.effectsOf es)).map Prod.fst).Nodup := by
    rw [map_fst_requestsIn]
    exact (requestSeqs_increasing coherent es).1.imp Nat.ne_of_lt
  exact (Prod.mk.inj (List.inj_on_of_nodup_map distinct first second rfl)).2

/-- The request that an event begins is among its effects. -/
theorem requestCompletion_of_asking {e : Event} {a : Asking} (asks : s.asking? e = some a) :
    .requestCompletion a.seq a.request ∈ (s.react e).effects := by
  rw [← mem_requestsIn, requestsIn_react, asks]
  exact List.mem_singleton.mpr rfl

/-- What is shown to the service are the windows of the snapshot. -/
theorem window_of_asking {e : Event} {a : Asking} (asks : s.asking? e = some a) :
    a.request.window = .ofSnapshot a.snapshot s.languages s.settings.maxContextChars.toNat := by
  obtain ⟨-, -, ⟨-, -, made⟩ | ⟨now, deadline, -, -, -, -, made⟩⟩ := asking?_cases asks <;>
    rw [made] <;> rfl

/-- **A session is anchored at the cursor of the snapshot that its request was made
from.**  Whenever a session is live, the run has sent the request that it answers,
exactly one with this number, made from a snapshot of the session's document with
the session's anchor as its cursor.  The cursor that the request shows is the anchor
clipped at the end of the snapshot's text: it is the anchor itself exactly if the
snapshot's cursor lies in its text. -/
theorem session_is_anchored_at_snapshot (settings : Settings) (languages : LanguageTable)
    (es : List Event) :
    let s₀ := new settings languages
    ∀ x, (s₀.after es).offering.session = some x →
      ∃ before e later snapshot request, es = before ++ e :: later ∧
        .requestCompletion x.requestSeq request ∈ ((s₀.after before).react e).effects ∧
        (∀ other, (x.requestSeq, other) ∈ requestsIn (s₀.effectsOf es) → other = request) ∧
        (e = .invoked snapshot ∨ ∃ now deadline, e = .tick now ∧
          (s₀.after before).trigger.phase = .debouncing deadline snapshot) ∧
        request.window = .ofSnapshot snapshot languages
          (s₀.after before).settings.maxContextChars.toNat ∧
        x.document = snapshot.document ∧ x.anchor = snapshot.cursor ∧
        request.window.cursor = min x.anchor snapshot.text.length ∧
        (x.anchor = request.window.cursor ↔ snapshot.cursor ≤ snapshot.text.length) := by
  intro s₀ x live
  have fresh : Coherent s₀.trigger s₀.offering := coherent_new settings languages
  have traced : (s₀.after es).Traced (s₀.asked es) := by
    simpa using (traced_new settings languages).after fresh es
  obtain ⟨a, begun, remembered⟩ := List.mem_map.mp (traced.live x live)
  obtain ⟨before, e, later, split, asks⟩ := exists_asking_of_mem_asked begun
  obtain ⟨seq, document, anchor⟩ := InFlight.mk.inj remembered
  have sent := requestCompletion_of_asking asks
  have window := window_of_asking asks
  rw [languages_after] at window
  have cursor : a.request.window.cursor = min a.snapshot.cursor a.snapshot.text.length := by
    rw [window]
    rfl
  rw [seq] at sent
  refine ⟨before, e, later, a.snapshot, a.request, split, sent, ?_, snapshot_of_asking asks,
    window, document.symm, anchor.symm, by rw [cursor, anchor], ?_⟩
  · intro other member
    -- the run sends this request, and no other under its number
    have logged : (x.requestSeq, a.request) ∈ requestsIn (s₀.effectsOf es) := by
      rw [requestsIn_effectsOf, ← seq]
      exact List.mem_map_of_mem begun
    exact requestsIn_functional fresh member logged
  · rw [cursor, ← anchor]
    omega

/-- The session that the run shows is anchored where suggestions were asked for. -/
theorem session_is_anchored_at_snapshot_shown :
    let s₀ := new .standard .standard
    ∃ x, (s₀.after shownRun).offering.session = some x ∧ x.anchor = 2 ∧
      ∃ before e later, ∃ snapshot : Snapshot, ∃ request, shownRun = before ++ e :: later ∧
        .requestCompletion x.requestSeq request ∈ ((s₀.after before).react e).effects ∧
        x.document = snapshot.document ∧
        request.window.cursor = min x.anchor snapshot.text.length := by
  intro s₀
  have live : (s₀.after shownRun).offering.session =
      some ⟨1, ⟨"main.rs"⟩, 2, [⟨1, .plain " main() {}"⟩], 0, true, ""⟩ := by decide
  obtain ⟨before, e, later, snapshot, request, split, sent, -, -, -, document, -, cursor, -⟩ :=
    session_is_anchored_at_snapshot .standard .standard shownRun _ live
  exact ⟨_, live, rfl, before, e, later, snapshot, request, split, sent, document, cursor⟩

/-- Suggestions are asked for by hand at a place that lies beyond the text, and come. -/
def beyondRun : List Event :=
  [.connectionChanged ⟨true, true, false, false⟩,
    .invoked ⟨⟨"main.rs"⟩, "rust", "main.rs", "fn", 5⟩,
    .answered 1 (.suggestions [.plain " main() {}"])]

/-- **A session may be anchored where its request was not.**  The request shows the
service the end of the text, and what is accepted is inserted beyond it. -/
theorem session_is_anchored_beyond_text :
    let s₀ := new .standard .standard
    (requestsIn (s₀.effectsOf beyondRun)).map (fun r => (r.1, r.2.window.cursor)) = [(1, 2)] ∧
      (s₀.after beyondRun).offering.session.map (fun x => (x.requestSeq, x.anchor)) =
        some (1, 5) ∧
      ((s₀.after beyondRun).react .accepted).effects =
        [.insertText ⟨⟨"main.rs"⟩, 5, " main() {}"⟩,
          .recordDecision ⟨1, ⟨"main.rs"⟩, .accepted 0⟩] := by decide

end Controller

end InlineCompletion
