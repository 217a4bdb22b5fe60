import InlineCompletion.Proofs.Playback.Ending
import InlineCompletion.Proofs.Playback.Informed

/-!
# Splitting a wait changes nothing

A script may let time pass in one step or in several.  The host makes a pass at the end of
every step and two more for a wait, so a split wait means more passes, and each of them
could leave something behind.  It does not: **waiting twice is waiting once for the sum**,
and this is an equation between players, with everything that is in them
(`wait_splits`).

Two facts carry it, for a player that is `Poised` between two steps.  A pass before the
deadline does nothing but put the clock (`Poised.tickAt_of_early`), for nothing is under way
and there is no news.  And coming past a deadline leaves none (`Poised.fireDue`), so it does
not matter which of the parts of a wait comes past it; where it is come past, the clock is
put to the deadline first, and where the clock stood before is forgotten.  A step that waits
goes `upTo` the end of the wait (`Poised.step_wait`), and what is left to show is that to go
there in two parts is to go there in one (`Poised.upTo_upTo`).
-/

namespace InlineCompletion

namespace Playback

namespace Player

variable {b : Before} {p q : Player} {now target : Instant}

/-! ## Level with the manager -/

/-- After a pass of the host's loop the engine is level with the manager. -/
theorem Quiet.level_tickAt (quiet : p.Quiet) (now : Instant) :
    (p.tickAt now).engine.seen = (p.tickAt now).engine.manager.publications := by
  rw [tickAt_eq quiet now]
  simp only [tell, act_engine]
  obtain ⟨decisions, handled⟩ := Engine.handle_frame { p.engine with
    controller := p.engine.controller.after p.engine.news
    seen := p.engine.manager.publications } (.tick now)
  rw [handled]

/-- Bringing to its end what is under way looks at no news, and shows no prompt. -/
theorem Playing.sameNews_finishWork (playing : Playing b p) :
    p.finishWork.engine.seen = p.engine.seen ∧
      p.finishWork.engine.manager = p.engine.manager ∧ p.finishWork.prompts = p.prompts := by
  rcases playing.work with ⟨rest, -⟩ | ⟨flight, d, kind, since, -, -, -, waiting⟩
  · rw [finishWork_of_rest playing.toQuiet rest]
    exact ⟨rfl, rfl, rfl⟩
  · obtain ⟨outcome, backend, finished, -⟩ := finishWork_of_request playing.toQuiet waiting
    rw [finished]
    exact ⟨rfl, rfl, rfl⟩

/-! ## What is due -/

/-- Every deadline is still to come at `target`. -/
def Early (p : Player) (target : Instant) : Prop :=
  ∀ deadline, p.engine.nextDeadline = some deadline → target < deadline

/-- Where nothing is due, nothing is come past. -/
theorem fireDue_of_early (early : p.Early target) : p.fireDue target = p := by
  unfold fireDue
  split
  · next deadline next =>
    exact if_neg (Nat.not_le_of_lt (early deadline next))
  · rfl

theorem fireDue_of_due {deadline : Instant} (next : p.engine.nextDeadline = some deadline)
    (due : deadline ≤ target) :
    p.fireDue target = (p.tickAt (max deadline p.clock)).finishWork := by
  simp only [fireDue, next, due, if_true]

/-- Nothing is due, or the deadline is. -/
theorem early_or_due (p : Player) (target : Instant) :
    p.Early target ∨ ∃ deadline, p.engine.nextDeadline = some deadline ∧ deadline ≤ target := by
  by_cases due : ∃ deadline, p.engine.nextDeadline = some deadline ∧ deadline ≤ target
  · exact .inr due
  · exact .inl fun deadline next => Nat.lt_of_not_le fun le => due ⟨deadline, next, le⟩

/-! ## Between two steps -/

/-- **A player between two steps**, for which time may pass: nothing is under way, what the
controller knows of the connection is so, and no prompt is left to look at. -/
structure Poised (b : Before) (p : Player) : Prop extends Resting b p, Informed p where
  level : p.engine.seen = p.engine.manager.publications
  noticed : p.prompts = []

/-- The first step finds a player poised. -/
theorem poised_new (settings : Settings) :
    Poised ((new settings).before settings fun _ _ => False) (new settings) where
  toResting := (starting_new settings).toResting
  toInformed := .new settings
  level := by rfl
  noticed := rfl

namespace Poised

/-- A poised player may begin a step. -/
theorem starting {settings : Settings} {Taken : EditorDocument → Nat → Prop}
    (poised : Poised (p.before settings Taken) p) : Starting (p.before settings Taken) p :=
  ⟨poised.toResting, rfl⟩

/-- At the end of a step the engine is level with the manager. -/
theorem level_step {settings : Settings} {Taken : EditorDocument → Nat → Prop}
    (poised : Poised (p.before settings Taken) p) {s : Step} (stepped : p.step s = .ok q) :
    q.engine.seen = q.engine.manager.publications := by
  obtain ⟨r, performed, rfl⟩ := step_eq_ok_iff.mp stepped
  have resting := poised.starting.finishWork_performed performed
  obtain ⟨seen, manager, -⟩ := (resting.tickAt r.finishWork.clock).sameNews_finishWork
  rw [seen, manager]
  exact resting.toQuiet.level_tickAt _

/-- **Every step** leaves the player poised, once the prompts were looked at. -/
theorem step {settings : Settings} {Taken : EditorDocument → Nat → Prop}
    (poised : Poised (p.before settings Taken) p) {s : Step} (stepped : p.step s = .ok q) :
    ∃ Taken', Poised (({ q with prompts := [] } : Player).before settings Taken')
      { q with prompts := [] } := by
  have resting := (poised.starting.step stepped).begin.toResting
  have informed := poised.toInformed.step stepped
  have level := poised.level_step stepped
  exact ⟨_, resting, ⟨informed.listening, informed.truthful, informed.unreported⟩, level, rfl⟩

/-- **Whatever script was played**, the player is poised, and every deadline is still to
come. -/
theorem after {settings : Settings} {Taken : EditorDocument → Nat → Prop}
    (poised : Poised (p.before settings Taken) p) (early : p.Early p.clock) {steps : List Step}
    (played : p.after steps = .ok q) :
    (∃ Taken', Poised (q.before settings Taken') q) ∧ q.Early q.clock := by
  induction steps generalizing p Taken with
  | nil =>
      obtain rfl := Except.ok.inj played
      exact ⟨⟨Taken, poised⟩, early⟩
  | cons s steps ih =>
      obtain ⟨p', stepped, played⟩ := after_cons_eq_ok_iff.mp played
      obtain ⟨Taken', poised'⟩ := poised.step stepped
      exact ih poised' (fun _ => poised.starting.lt_nextDeadline stepped) played

/-! ## A pass -/

/-- The clock may be put anywhere. -/
theorem setClock (poised : Poised b p) (now : Instant) : Poised b { p with clock := now } :=
  { poised with work := .inl ⟨poised.tasks, poised.still⟩ }

/-- With no news, a pass tells the time. -/
theorem tickAt_eq_tell (poised : Poised b p) (now : Instant) :
    p.tickAt now = ({ p with clock := now } : Player).tell (.tick now) := by
  have none' : p.engine.news = [] := if_pos poised.level.symm
  rw [tickAt_eq poised.toQuiet, none', ← poised.level]
  rfl

/-- **A pass before every deadline** puts the clock. -/
theorem tickAt_of_early (poised : Poised b p) (early : p.Early now) :
    p.tickAt now = { p with clock := now } := by
  have still : p.engine.controller.react (.tick now) = .unchanged p.engine.controller :=
    Controller.react_tick_of_early early
  rw [poised.tickAt_eq_tell, tell_of_silent (p := { p with clock := now }) poised.editorCalls
    (congrArg Reaction.effects still)]
  simp only [still, Reaction.unchanged]

end Poised

/-- The player once the request that was waited for has begun, at `now`. -/
def asking (p : Player) (snapshot : Snapshot) (now : Instant) : Player :=
  let c := p.engine.controller
  { p with
    engine := { p.engine with
      controller := { c with trigger := c.trigger.begin snapshot }
      tasks := [.request (c.trigger.lastSeq + 1)
        (.ofSnapshot snapshot c.languages c.settings .auto c.sinceLastModification)
        (.ofSettings c.settings)] }
    clock := now }

namespace Poised

/-- **A pass when typing has settled** begins the request that was waited for: the
connection serves, and no session is live. -/
theorem tickAt_of_due (poised : Poised b p) {deadline : Instant} {snapshot : Snapshot}
    (waiting : p.engine.controller.trigger.phase = .debouncing deadline snapshot)
    (due : deadline ≤ now) : p.tickAt now = p.asking snapshot now := by
  have busy : p.engine.controller.trigger.phase ≠ .idle := by simp [waiting]
  have fired := Controller.react_tick_of_due waiting due
    (poised.coherent.session_of_not_idle busy) (poised.serves poised.level busy)
  rw [poised.tickAt_eq_tell]
  simp only [tell, act, Engine.handle, fired, List.foldl_cons, List.foldl_nil, Engine.perform,
    Engine.takeEditorCalls, poised.editorCalls, poised.tasks, List.nil_append, asking]

/-! ## Coming past a deadline -/

/-- **Coming past a deadline** leaves the player poised, and nothing due. -/
theorem fireDue (poised : Poised b p) (target : Instant) :
    Poised b (p.fireDue target) ∧ (p.fireDue target).Early target := by
  obtain early | ⟨deadline, next, due⟩ := early_or_due p target
  · rw [fireDue_of_early early]
    exact ⟨poised, early⟩
  obtain ⟨snapshot, waiting⟩ := Controller.debouncing_of_nextDeadline next
  have playing := poised.toResting.tickAt (max deadline p.clock)
  obtain ⟨seen, manager, prompts⟩ := playing.sameNews_finishWork
  rw [fireDue_of_due next due]
  refine ⟨⟨playing.finishWork, (poised.toInformed.tickAt _).finishWork, ?_, ?_⟩, ?_⟩
  · rw [seen, manager]
    exact poised.toQuiet.level_tickAt _
  · rw [prompts, poised.tickAt_of_due waiting (Nat.le_max_left _ _)]
    exact poised.noticed
  · intro deadline' after
    rw [poised.toResting.nextDeadline_fired next (Nat.le_max_left _ _)] at after
    cases after

end Poised

/-- The player at `target`, after all that is due by then. -/
def upTo (p : Player) (target : Instant) : Player := { p.fireDue target with clock := target }

namespace Poised

/-- **Going up to `first`, and then up to `target`**, is going up to `target`: there is one
deadline at most, and it does not matter where the clock stands in between. -/
theorem upTo_upTo (poised : Poised b p) {first : Instant} (clock : p.clock ≤ first)
    (later : first ≤ target) : (p.upTo first).upTo target = p.upTo target := by
  unfold upTo
  obtain early | ⟨deadline, next, due⟩ := early_or_due p first
  · -- the first part comes past nothing
    rw [fireDue_of_early early]
    obtain early' | ⟨deadline, next, due⟩ := early_or_due p target
    · rw [fireDue_of_early early', fireDue_of_early (p := { p with clock := first }) early']
    · have between := early deadline next
      rw [fireDue_of_due next due, fireDue_of_due (p := { p with clock := first }) next due,
        Nat.max_eq_left (Nat.le_of_lt between),
        Nat.max_eq_left (Nat.le_trans clock (Nat.le_of_lt between))]
      rfl
  · -- the first part comes past the deadline, and leaves none
    have gone : (p.fireDue first).engine.nextDeadline = none := by
      rw [fireDue_of_due next due]
      exact poised.toResting.nextDeadline_fired next (Nat.le_max_left _ _)
    rw [fireDue_of_none _ _ (by exact gone), fireDue_of_due next due,
      fireDue_of_due next (Nat.le_trans due later)]

/-! ## Waiting -/

/-- **A step that waits** goes up to the end of the wait. -/
theorem step_wait (poised : Poised b p) (ms : Nat) :
    p.step (.wait ms) = .ok (p.upTo (p.clock + Duration.ofMillis ms)) := by
  obtain ⟨fired, left⟩ := poised.fireDue (p.clock + Duration.ofMillis ms)
  have passed : p.letPass (Duration.ofMillis ms) = p.upTo (p.clock + Duration.ofMillis ms) :=
    fired.tickAt_of_early left
  have stands := fired.setClock (p.clock + Duration.ofMillis ms)
  rw [step_eq_ok_iff]
  refine ⟨_, rfl, ?_⟩
  rw [passed, upTo, finishWork_of_rest stands.toQuiet stands.tasks, stands.tickAt_of_early left,
    finishWork_of_rest stands.toQuiet stands.tasks]

end Poised

/-- **What a wait of `ms` milliseconds is**, from `p` to `q`, for a host whose clock ends with
`last`. -/
structure Waited (last : Instant) (p : Player) (ms : Nat) (q : Player) : Prop where
  stepped : p.step (.wait ms) = .ok q
  /-- The loop over the deadlines comes to its end, and to no other one. -/
  advances : ∀ r, Advances (p.clock + Duration.ofMillis ms) p r ↔
    r = p.fireDue (p.clock + Duration.ofMillis ms)
  /-- With the other loops of the host it comes to what the step does. -/
  hosts : ∀ r, Hosts last p (.wait ms) r ↔ r = q
  clock : q.clock = p.clock + Duration.ofMillis ms
  prompts : q.prompts = p.prompts
  /-- Where typing does not settle by then, the clock is put. -/
  passes : p.Early (p.clock + Duration.ofMillis ms) →
    q = { p with clock := p.clock + Duration.ofMillis ms }
  /-- Where it does, the request that was waited for begins at the deadline, and is brought
  to its end then. -/
  fires : ∀ deadline snapshot,
    p.engine.controller.trigger.phase = .debouncing deadline snapshot →
    p.clock < deadline ∧ (deadline ≤ p.clock + Duration.ofMillis ms →
      p.tickAt deadline = p.asking snapshot deadline ∧
        q = { (p.tickAt deadline).finishWork with clock := p.clock + Duration.ofMillis ms })

variable {last : Instant}

/-- A wait ends at an instant of the clock. -/
theorem Waited.inRange {ms : Nat} (waited : Waited last p ms q) :
    p.clock + Duration.ofMillis ms ≤ last :=
  ((waited.hosts q).mpr rfl).hasRoom

theorem Poised.waited {settings : Settings} {Taken : EditorDocument → Nat → Prop}
    (poised : Poised (p.before settings Taken) p) (early : p.Early p.clock) {ms : Nat}
    (inRange : p.clock + Duration.ofMillis ms ≤ last) :
    Waited last p ms (p.upTo (p.clock + Duration.ofMillis ms)) := by
  have stepped := poised.step_wait ms
  have advances := poised.toResting.advances (p.clock + Duration.ofMillis ms)
  have hosts : Hosts last p (.wait ms) (p.upTo (p.clock + Duration.ofMillis ms)) :=
    poised.starting.hosts inRange stepped
  refine ⟨stepped, fun r => ⟨fun other => other.unique advances, fun same => same ▸ advances⟩,
    fun r => ⟨fun other => other.unique hosts, fun same => same ▸ hosts⟩, rfl, ?_, ?_, ?_⟩
  · exact (poised.fireDue _).1.noticed.trans poised.noticed.symm
  · intro later
    rw [upTo, fireDue_of_early later]
  · intro deadline snapshot waiting
    have next : p.engine.nextDeadline = some deadline := Trigger.deadline?_of_debouncing waiting
    have ahead := early deadline next
    refine ⟨ahead, fun due => ⟨poised.tickAt_of_due waiting (Nat.le_refl _), ?_⟩⟩
    rw [upTo, fireDue_of_due next due, Nat.max_eq_left (Nat.le_of_lt ahead)]

/-- The step leaves no prompt to look at, if there was none. -/
theorem Waited.unprompted {ms : Nat} (waited : Waited last p ms q) (noticed : p.prompts = []) :
    ({ q with prompts := [] } : Player) = q := by
  rw [← waited.prompts.trans noticed]

/-- What comes after a wait comes after the player it led to. -/
theorem Waited.after {ms : Nat} (waited : Waited last p ms q) (noticed : p.prompts = [])
    (steps : List Step) : p.after (.wait ms :: steps) = q.after steps := by
  rw [Player.after, waited.stepped]
  exact congrArg (Player.after · steps) (waited.unprompted noticed)

/-- **Splitting a wait changes nothing**, on a clock whose last instant is `last`, counted from
the beginning of the playback.  Whatever the settings, and whatever script was played by
now: a host can wait exactly if the wait ends at an instant of its clock.  Then the loop of
the wait comes to its end, with the clock where the wait ends, and a request that is waited
for begins at its own deadline if the wait comes past it.  And waiting for `a` and then for
`b` milliseconds leaves the same player, in all its parts, as waiting for `a + b`.  A
request that begins is brought to its end before the wait goes on: of the background it is
assumed that it makes headway while the host waits for it (`Round.giveUp`). -/
theorem wait_splits (settings : Settings) (script : List Step) (last : Instant) :
    ∃ p, (new settings).after script = .ok p ∧
      (∀ ms < UInt64.size,
        ((∃ q, Hosts last p (.wait ms) q) ↔ p.clock + Duration.ofMillis ms ≤ last) ∧
          (p.clock + Duration.ofMillis ms ≤ last → ∃ q, Waited last p ms q)) ∧
      ∀ a b, a + b < UInt64.size → p.clock + Duration.ofMillis (a + b) ≤ last →
        ∃ q r, Waited last p a q ∧ Waited last q b r ∧ Waited last p (a + b) r ∧
          p.after [.wait a, .wait b] = .ok r ∧ p.after [.wait (a + b)] = .ok r := by
  obtain ⟨p, played, -⟩ := (backed_new settings).after script
  obtain ⟨⟨Taken, poised⟩, early⟩ := (poised_new settings).after nofun played
  refine ⟨p, played, fun ms _ => ⟨⟨?_, fun inRange => ?_⟩, fun inRange => ?_⟩,
    fun a b _ inRange => ?_⟩
  · rintro ⟨q, hosts⟩
    exact hosts.hasRoom
  · exact ⟨_, ((poised.waited early inRange).hosts _).mpr rfl⟩
  · exact ⟨_, poised.waited early inRange⟩
  have sum : p.clock + Duration.ofMillis (a + b) =
      p.clock + Duration.ofMillis a + Duration.ofMillis b := by
    rw [Duration.ofMillis_add, Nat.add_assoc]
  have inRange' : p.clock + Duration.ofMillis a + Duration.ofMillis b ≤ last := sum ▸ inRange
  have first := poised.waited early (Nat.le_trans (Nat.le_add_right _ _) inRange')
  have whole := poised.waited early inRange
  -- after the first part the player is poised again, with every deadline to come
  obtain ⟨Taken', again⟩ := poised.step first.stepped
  rw [first.unprompted poised.noticed] at again
  have second := again.waited (fun _ => poised.starting.lt_nextDeadline first.stepped) inRange'
  -- and the two ways come to the same
  have same : (p.upTo (p.clock + Duration.ofMillis a)).upTo
      (p.clock + Duration.ofMillis a + Duration.ofMillis b) =
        p.upTo (p.clock + Duration.ofMillis (a + b)) := by
    rw [sum]
    exact poised.upTo_upTo (Nat.le_add_right _ _) (Nat.le_add_right _ _)
  rw [show (p.upTo (p.clock + Duration.ofMillis a)).clock = p.clock + Duration.ofMillis a from rfl,
    same] at second
  refine ⟨_, _, first, second, whole, ?_, ?_⟩
  · rw [first.after poised.noticed, second.after again.noticed]
    rfl
  · rw [whole.after poised.noticed]
    rfl

/-- A blank is typed, and typing has not settled yet. -/
def typingScript : List Step :=
  [.connect none none, .openDocument "main.rs" "rust" "fn" none, .typeText " "]

/-- The second part of the wait comes past the settling of typing, thirty milliseconds
after it.  The clock ends when the wait does, and has no room for a longer one. -/
theorem wait_splits_past_settling :
    ∃ p q r, (new .standard).after typingScript = .ok p ∧
      p.engine.nextDeadline = some (Duration.ofMillis 30) ∧
      Waited (Duration.ofMillis 35) p 10 q ∧ Waited (Duration.ofMillis 35) q 25 r ∧
      Waited (Duration.ofMillis 35) p 35 r ∧
      r.clock = Duration.ofMillis 35 ∧ r.backend.requests.length = 1 ∧
      ¬ ∃ s, Hosts (Duration.ofMillis 35) p (.wait 36) s := by
  obtain ⟨p, played, single, split⟩ := wait_splits .standard typingScript (Duration.ofMillis 35)
  have stands : ((new .standard).after typingScript).toOption.map
      (fun p => (p.clock, p.engine.nextDeadline)) = some (0, some (Duration.ofMillis 30)) := by
    decide +kernel
  rw [played] at stands
  obtain ⟨clock, next⟩ := Prod.mk.inj (Option.some.inj stands)
  obtain ⟨q, r, first, second, whole, -, -⟩ := split 10 25 (by decide) (by rw [clock]; decide)
  have received : (((new .standard).after typingScript).bind (·.step (.wait 35))).toOption.map
      (·.backend.requests.length) = some 1 := by decide +kernel
  rw [played, Except.bind, whole.stepped] at received
  refine ⟨p, q, r, played, next, first, second, whole, ?_, Option.some.inj received, ?_⟩
  · rw [whole.clock, clock]
    rfl
  · rw [(single 36 (by decide)).1, clock]
    decide

end Player

end Playback

end InlineCompletion
