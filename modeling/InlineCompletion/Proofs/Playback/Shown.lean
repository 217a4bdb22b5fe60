import InlineCompletion.Proofs.Playback.Acceptance
import InlineCompletion.Proofs.Playback.Performing
import InlineCompletion.Proofs.Playback.Standing
import InlineCompletion.Proofs.Request.Windows

/-!
# The service is shown the document as it is

A request is made from a snapshot, which was taken when the user typed or asked, and it
reaches the service when the work in the background is done.  In between other things
are done, so it has to be shown that the document is still the one of the snapshot.

To speak of the moments in between, a step is taken apart into its `stages`.  The last
of them is what the step comes to, and each is one of the pieces that the step is put
together from.  A `Passage` through stages says two things: what the service receives
from one stage to the next shows the document that is open in both, and whatever waits
to be run at a stage is a request that shows the document that is open there.
-/

namespace InlineCompletion

namespace Playback

/-- **A request shows a document**: its name, its language, and the windows around its
cursor, each of at most as many characters as the settings allow. -/
structure Shows (settings : Settings) (d : EditorDocument) (r : Request) : Prop where
  filename : r.window.filename = EditorDocument.fileNameOf d.id.text
  language : r.window.language = LanguageTable.standard.requestLanguage d.languageId
  windows : r.window.IsAround d.text d.cursor settings.maxContextChars.toNat

/-- A request that is made from the document as it is shows it. -/
theorem shows_ofSnapshot {d : EditorDocument} (inside : d.CursorInside) (settings : Settings)
    (kind : TriggerKind) (since : Option Duration) :
    Shows settings d (.ofSnapshot d.snapshot .standard settings kind since) where
  filename := rfl
  language := rfl
  windows := by
    have around := FileWindow.isAround_ofSnapshot d.snapshot .standard
      settings.maxContextChars.toNat
    have cursor : min d.snapshot.cursor d.snapshot.text.length = d.cursor :=
      Nat.min_eq_left inside
    rw [cursor] at around
    exact around

namespace Player

variable {settings : Settings} {b : Before} {p q r : Player}

/-! ## Stages -/

/-- The stages of bringing to its end what is under way. -/
def finishing (p : Player) : List Player := [p.deliver, p.deliver.runBackground, p.finishWork]

/-- The stages of coming past a deadline, if one is due at `target`. -/
def firing (p : Player) (target : Instant) : List Player :=
  match p.engine.nextDeadline with
  | some deadline =>
      if deadline ≤ target then
        p.tickAt (max deadline p.clock) :: (p.tickAt (max deadline p.clock)).finishing
      else []
  | none => []

/-- The stages before a step is performed: only letting time pass has any. -/
def performing (p : Player) : Step → List Player
  | .wait ms => p.firing (p.clock + Duration.ofMillis ms)
  | _ => []

/-- **The stages of a step**, the last of which is what the step comes to. -/
def stages (p : Player) (s : Step) : List Player :=
  match p.perform s with
  | .error _ => []
  | .ok q =>
      p.performing s ++ q :: q.finishing ++
        q.finishWork.tickAt q.finishWork.clock ::
          (q.finishWork.tickAt q.finishWork.clock).finishing

/-! ## Passages -/

/-- **What the service receives** between two stages shows the document that is open in
both. -/
def Hands (settings : Settings) (p q : Player) : Prop :=
  ∃ handed, q.backend.requests = p.backend.requests ++ handed ∧
    ∀ r ∈ handed, ∃ d, p.document = some d ∧ q.document = some d ∧ Shows settings d r

/-- **What waits to be run** are requests that show the document that is open. -/
def Carries (settings : Settings) (p : Player) : Prop :=
  ∀ task ∈ p.engine.tasks, ∃ seq r policy d, task = .request seq r policy ∧
    p.document = some d ∧ Shows settings d r

/-- **The way through stages**, the last of which is the end. -/
inductive Passage (settings : Settings) : Player → List Player → Player → Prop
  | nil (p : Player) : Passage settings p [] p
  | cons {p q r : Player} {stages : List Player} (hands : Hands settings p q)
      (carries : Carries settings q) (later : Passage settings q stages r) :
      Passage settings p (q :: stages) r

theorem Passage.append {first second : List Player} (earlier : Passage settings p first q)
    (later : Passage settings q second r) : Passage settings p (first ++ second) r := by
  induction earlier with
  | nil => exact later
  | cons hands carries _ ih => exact .cons hands carries (ih later)

theorem Hands.nothing (same : q.backend.requests = p.backend.requests) : Hands settings p q :=
  ⟨[], by rw [same, List.append_nil], nofun⟩

theorem Carries.nothing (none' : p.engine.tasks = []) : Carries settings p := by
  intro task member
  rw [none'] at member
  cases member

/-- Running what waits hands it to the service, or fails to. -/
theorem Carries.runBackground (carries : Carries settings p) :
    Hands settings p p.runBackground ∧ Carries settings p.runBackground := by
  have ran := ran_finishAll p.engine.tasks { p with engine := { p.engine with tasks := [] } }
  obtain ⟨handed, received, among⟩ := ran.received
  refine ⟨⟨handed, received, fun r member => ?_⟩, .nothing ran.others⟩
  obtain ⟨seq, policy, waiting⟩ := among r member
  obtain ⟨seq', r', policy', d, same, opened, shows⟩ := carries _ waiting
  obtain ⟨-, rfl, -⟩ := BackgroundTask.request.inj same
  exact ⟨d, opened, ran.document.trans opened, shows⟩

/-- **Bringing to its end what is under way** hands to the service what waits once the
editor has reported everything. -/
theorem passage_finishing (carries : Carries settings p.deliver)
    (rest : p.finishWork.engine.tasks = []) : Passage settings p p.finishing p.finishWork := by
  obtain ⟨hands, after⟩ := carries.runBackground
  have looked : p.finishWork.backend = p.deliver.runBackground.backend := act_backend _ _
  exact .cons (.nothing (congrArg _ (deliver_backend p))) carries
    (.cons hands after (.cons (.nothing (congrArg _ looked)) (.nothing rest) (.nil _)))

/-! ## The pieces of a step -/

/-- In the course of a step, what waits is about the document as it is. -/
theorem Playing.carries (playing : Playing b p) : Carries b.settings p := by
  rcases playing.work with ⟨none', -⟩ | ⟨q, d, kind, since, -, -, opened, waiting⟩
  · exact .nothing none'
  · intro task member
    rw [waiting] at member
    obtain rfl := List.mem_singleton.mp member
    exact ⟨_, _, _, d, rfl, opened, shows_ofSnapshot (playing.follows.inside d opened) _ _ _⟩

theorem Playing.passage_finishing (playing : Playing b p) :
    Passage b.settings p p.finishing p.finishWork := by
  apply Player.passage_finishing
  · rw [deliver_of_none playing.pending]
    exact playing.carries
  · exact playing.finishWork.tasks

/-- **Bringing to its end what a step set going.** -/
theorem Starting.passage_finishing (starting : Starting b p) {s : Step}
    (performed : p.perform s = .ok q) :
    Carries b.settings q ∧ Passage b.settings q q.finishing q.finishWork := by
  obtain playing | ⟨-, x, live, rfl⟩ := starting.perform_cases performed
  · exact ⟨playing.carries, playing.passage_finishing⟩
  · obtain ⟨-, -, -, -, -, silent, resting, -⟩ := starting.finishWork_accepted live
    have delivered := silent.deliver.2
    exact ⟨.nothing silent.tasks,
      Player.passage_finishing (.nothing delivered.tasks) resting.tasks⟩

/-- A request that is asked for by hand is received when the background work is done. -/
example :
    ((new .standard).after
      [.connect none none, .openDocument "main.rs" "rust" "fn" none]).toOption.map
        (fun p => (p.stages .invoke).map (·.backend.requests.length)) =
      some [0, 0, 1, 1, 1, 1, 1, 1] := by
  decide +kernel

end Player

end Playback

end InlineCompletion
