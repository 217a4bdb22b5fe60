import InlineCompletion.Proofs.Connection.Turns
import InlineCompletion.Proofs.Playback.Frames

/-!
# What a step does itself

There are many kinds of steps, and three things that they do.  A step lets the manager or
the world do something, or it reports events about the document that is open from then on,
or it lets time pass.  `Performs` says so, with all that is common to the steps of one
sort: what the manager does is one of its turns, and the service receives nothing; and what
is reported is nothing but what an editor and its user have to report.

So what holds of every step is shown for three of them.
-/

namespace InlineCompletion

namespace Playback

/-- **What an editor and its user report** when the clock stands at `now`: no news of the
connection and no settings, and of an edit that it happens now. -/
structure Reported (now : Instant) (e : Event) : Prop where
  noNews : e.isNews = false
  noSettings : ∀ settings, e ≠ .settingsChanged settings
  current : ∀ change time, e = .documentChanged change time → time = now

namespace EditorDocument

variable {d : EditorDocument} {now : Instant}

theorem reported_report (d : EditorDocument) (edit : Edit) (now : Instant) :
    Reported now (d.report edit now) :=
  ⟨rfl, nofun, fun _ _ same => (Event.documentChanged.inj same).2.symm⟩

theorem reported_selection (d : EditorDocument) (kind : SelectionCause) (now : Instant) :
    Reported now (d.selection kind) :=
  ⟨rfl, nofun, nofun⟩

/-- What is taken out is reported, if it is anything. -/
theorem reported_backspace (d : EditorDocument) (count : Nat) (now : Instant) :
    ∀ e ∈ (d.backspace count now).2, Reported now e := by
  unfold backspace
  dsimp only
  split
  · nofun
  · rintro e ⟨⟩
    exact reported_report _ _ _

end EditorDocument

namespace Player

variable {p q : Player}

/-- **What a step does itself**, before what it sets going is brought to its end. -/
inductive Performs (p : Player) : Step → Player → Prop
  /-- The manager or the world does something. -/
  | manages {s : Step} (other : ∀ ms, s ≠ .wait ms) {manager : ConnectionManager}
      (turn : ConnectionManager.Turn p.engine.manager manager) {backend : Backend}
      (same : backend.requests = p.backend.requests) :
      Performs p s { p with engine := { p.engine with manager := manager }, backend := backend }
  /-- Events are reported, and `document` is open from then on. -/
  | reports {s : Step} (other : ∀ ms, s ≠ .wait ms) (document : Option EditorDocument)
      {events : List Event} (each : ∀ e ∈ events, Reported p.clock e) :
      Performs p s (({ p with document := document } : Player).report events)
  /-- Time passes. -/
  | waits (ms : Nat) : Performs p (.wait ms) (p.letPass (.ofMillis ms))

namespace Performs

variable {s : Step}

/-- Nothing is done. -/
theorem nothing (other : ∀ ms, s ≠ .wait ms) : Performs p s p := by
  have each : ∀ e ∈ ([] : List Event), Reported p.clock e := nofun
  exact .reports other p.document each

/-- One event is reported. -/
theorem tell (other : ∀ ms, s ≠ .wait ms) (document : Option EditorDocument) {e : Event}
    (reported : Reported p.clock e) :
    Performs p s (({ p with document := document } : Player).tell e) := by
  have each : ∀ e' ∈ [e], Reported p.clock e' := by simpa using reported
  exact .reports other document each

/-- Something is done to the open document, if there is one. -/
theorem withDocument (other : ∀ ms, s ≠ .wait ms)
    {f : EditorDocument → EditorDocument × List Event}
    (each : ∀ d, ∀ e ∈ (f d).2, Reported p.clock e) : Performs p s (p.withDocument f) := by
  unfold Player.withDocument
  split
  · exact .nothing other
  · next d _ => exact .reports other (some (f d).1) (each d)

end Performs

/-- **Every step does one of the three.** -/
theorem performs_of_perform {s : Step} (performed : p.perform s = .ok q) : Performs p s q := by
  cases s with
  | connect startUrl region =>
      obtain rfl := eq_of_manage
        (show p.manage (fun m b => m.connect Backend.provider (profileOf startUrl region) b) =
          .ok q from performed)
      exact .manages (by nofun) (.of_ends (ConnectionManager.ends_connect _ _ _ _))
        (Backend.connect_requests _ _ _)
  | reauthenticate =>
      obtain rfl := eq_of_manage performed
      exact .manages (by nofun)
        (ConnectionManager.turn_perform Backend.provider _ p.backend .reauthenticate)
        (Backend.reauthenticate_requests _ _)
  | disconnect =>
      obtain rfl := Except.ok.inj performed
      exact .manages (by nofun) (.of_disconnect _) rfl
  | expire =>
      obtain rfl := Except.ok.inj performed
      refine .manages (by nofun) ?_ rfl
      unfold Player.expire
      split
      · exact .still
      · exact .of_setState _ _ _
  | respond suggestions =>
      obtain rfl := Except.ok.inj performed
      exact .manages (by nofun) .still rfl
  | openDocument uri language text cursor =>
      obtain rfl := Except.ok.inj performed
      exact .tell (by nofun) (some (.ofText uri language text cursor)) ⟨rfl, nofun, nofun⟩
  | typeText text =>
      obtain rfl := Except.ok.inj performed
      refine .withDocument (by nofun) fun d => ?_
      simp only [List.forall_mem_cons]
      exact ⟨EditorDocument.reported_report _ _ _, EditorDocument.reported_selection _ _ _, nofun⟩
  | backspace count =>
      obtain rfl := Except.ok.inj performed
      refine .withDocument (by nofun) fun d e among => ?_
      rcases List.mem_append.mp among with edit | moved
      · exact d.reported_backspace count _ e (Option.mem_toList.mp edit)
      · obtain rfl := List.mem_singleton.mp moved
        exact EditorDocument.reported_selection _ _ _
  | moveCursor offset mouse =>
      obtain rfl := Except.ok.inj performed
      refine .withDocument (by nofun) fun d => ?_
      simp only [List.forall_mem_cons]
      exact ⟨EditorDocument.reported_selection _ _ _, nofun⟩
  | wait ms =>
      obtain rfl := Except.ok.inj performed
      exact .waits ms
  | next | previous | accept | reject | blur | focus =>
      obtain rfl := Except.ok.inj performed
      exact .tell (by nofun) p.document ⟨rfl, nofun, nofun⟩
  | invoke =>
      obtain rfl := Except.ok.inj performed
      split
      · exact .nothing (by nofun)
      · exact .tell (by nofun) p.document ⟨rfl, nofun, nofun⟩
  | close =>
      obtain rfl := Except.ok.inj performed
      split
      · exact .nothing (by nofun)
      · exact .tell (by nofun) none ⟨rfl, nofun, nofun⟩

end Player

end Playback

end InlineCompletion
