import InlineCompletion.Proofs.Controller.Permission
import InlineCompletion.Proofs.Engine.Runs

/-!
# The settings follow the watched file

The host's loop passes by a watched settings file, and now and then it looks at it.  What
it should make of that is said here of the `Visit`s alone, without the engine: which of
them are `looks`, what modification time was `recordedAfter` them, and which of the
versions found are new (`newVersions`).  A version that cannot be read is new like any
other, and is recorded; of those that can be read the last one holds.

**The engine does just that** (`settings_follow_file`), whatever the clock says, whatever
becomes of the file, and whatever goes on besides, as long as nobody else brings settings.
`Following` is what the passes keep.  A pass whose look comes to nothing changes what is
remembered of the file, and nothing else of the engine, so a bad version stands in the way
of no later one.
-/

namespace InlineCompletion

/-- The settings that a version holds, if it can be read. -/
def FileVersion.settings? (version : FileVersion) : Option Settings :=
  version.text.bind Settings.ofText?

namespace SettingsWatch

/-! ## Visits -/

/-- A pass by the file: when, and what the file is then. -/
structure Visit where
  now : Instant
  file : Option FileVersion
  deriving DecidableEq, Repr

/-- It is time to look: there was no look before, or the last one is long enough ago. -/
def IsTime (looks : List Visit) (now : Instant) : Prop :=
  ∀ last ∈ looks.getLast?, checkInterval ≤ now.since last.now

instance (looks : List Visit) (now : Instant) : Decidable (IsTime looks now) := by
  unfold IsTime
  infer_instance

/-- **The visits that are looks.** -/
def looks (visits : List Visit) : List Visit :=
  visits.foldl (fun looks v => if IsTime looks v.now then looks ++ [v] else looks) []

/-- **The modification time that was found last**, by looks or, before them, `recorded`. -/
def recordedAfter (recorded : Option Int) (looks : List Visit) : Option Int :=
  looks.foldl (fun recorded v => (v.file.map (·.modified)).or recorded) recorded

/-- What a look finds, if it has another modification time than the recorded one. -/
def Visit.newVersion? (recorded : Option Int) (v : Visit) : Option FileVersion :=
  match v.file with
  | none => none
  | some version => if recorded = some version.modified then none else some version

/-- The settings that it brings. -/
def Visit.newSettings? (recorded : Option Int) (v : Visit) : Option Settings :=
  (v.newVersion? recorded).bind FileVersion.settings?

/-- **The new versions** among those that looks find. -/
def newVersions (recorded : Option Int) : List Visit → List FileVersion
  | [] => []
  | v :: later =>
      (v.newVersion? recorded).toList ++ newVersions (recordedAfter recorded [v]) later

/-- The settings of the last version that can be read, or `settings`. -/
def lastSettings (settings : Settings) (versions : List FileVersion) : Settings :=
  (versions.filterMap FileVersion.settings?).getLast?.getD settings

/-- What is missing or cannot be read brings none. -/
theorem Visit.newSettings?_of_unread {v : Visit} (unread : v.file.bind FileVersion.settings? = none)
    (recorded : Option Int) : v.newSettings? recorded = none := by
  unfold newSettings? newVersion?
  split
  · rfl
  · next version found =>
    rw [found] at unread
    split
    · rfl
    · exact unread

section Visits

variable (recorded : Option Int) (visits : List Visit) (v : Visit)

theorem looks_concat :
    looks (visits ++ [v]) =
      if IsTime (looks visits) v.now then looks visits ++ [v] else looks visits := by
  rw [looks, List.foldl_append]
  rfl

theorem recordedAfter_concat :
    recordedAfter recorded (visits ++ [v]) =
      (v.file.map (·.modified)).or (recordedAfter recorded visits) := by
  simp [recordedAfter]

theorem newVersions_concat :
    newVersions recorded (visits ++ [v]) =
      newVersions recorded visits ++ (v.newVersion? (recordedAfter recorded visits)).toList := by
  induction visits generalizing recorded with
  | nil => simp [newVersions, recordedAfter]
  | cons u later ih =>
      rw [List.cons_append, newVersions, ih, newVersions, List.append_assoc]
      rfl

/-- One version more brings its settings, if it can be read. -/
theorem lastSettings_append (settings : Settings) (versions : List FileVersion)
    (version : Option FileVersion) :
    lastSettings settings (versions ++ version.toList) =
      (version.bind FileVersion.settings?).getD (lastSettings settings versions) := by
  cases version with
  | none => simp
  | some version =>
      cases holds : version.settings? with
      | none => simp [lastSettings, holds]
      | some s => simp [lastSettings, holds]

end Visits

/-! ## What is remembered of a file -/

/-- What is to be remembered after the given looks. -/
def afterLooks (recorded : Option Int) (looks : List Visit) : SettingsWatch :=
  ⟨looks.getLast?.map (·.now), recordedAfter recorded looks⟩

theorem isDue_afterLooks_iff {recorded : Option Int} {looks : List Visit} {now : Instant} :
    (afterLooks recorded looks).isDue now = true ↔ IsTime looks now := by
  unfold IsTime isDue afterLooks
  cases looks.getLast? <;> simp

/-- Too early there is no look. -/
theorem poll_of_not_due {w : SettingsWatch} {now : Instant} (early : w.isDue now = false)
    (file : Option FileVersion) : w.poll now file = (none, w) := by
  simp [poll, early]

/-- **A look** finds a new version or none, and remembers when it was. -/
theorem poll_of_due {w : SettingsWatch} {now : Instant} (due : w.isDue now = true)
    (file : Option FileVersion) :
    w.poll now file =
      (Visit.newSettings? w.lastModified ⟨now, file⟩,
        ⟨some now, (file.map (·.modified)).or w.lastModified⟩) := by
  cases file with
  | none => simp [poll, due, Visit.newSettings?, Visit.newVersion?]
  | some version =>
      by_cases same : w.lastModified = some version.modified
      · simp [poll, due, Visit.newSettings?, Visit.newVersion?, same]
      · simp [poll, due, Visit.newSettings?, Visit.newVersion?, same, FileVersion.settings?]

end SettingsWatch

/-! ## Who brings settings -/

/-- Whether an event brings settings. -/
def Event.bringsSettings : Event → Bool
  | .settingsChanged _ => true
  | _ => false

/-- Whether a task puts such an event on the bus. -/
def BackgroundTask.bringsSettings : BackgroundTask → Bool
  | .post event => event.bringsSettings
  | .request .. => false

namespace Controller

/-- Other events leave the settings as they are. -/
theorem settings_react {s : Controller} {e : Event} (other : e.bringsSettings = false) :
    (s.react e).controller.settings = s.settings :=
  (sameGround_react s e).settings.resolve_right fun brought => by
    rw [brought] at other
    cases other

end Controller

namespace Engine

open SettingsWatch (Visit IsTime looks recordedAfter newVersions lastSettings looks_concat
  recordedAfter_concat newVersions_concat lastSettings_append)

variable {start e e' : Engine}

/-- No settings are on the bus, and none are on their way there. -/
structure Untold (e : Engine) : Prop where
  bus : ∀ m ∈ e.bus, m.bringsSettings = false
  tasks : ∀ k ∈ e.tasks, k.bringsSettings = false

/-- **`e'` has the settings of `e`**, and remembers of the file what `e` does. -/
structure Undisturbed (e e' : Engine) : Prop extends e'.Untold where
  settings : e'.controller.settings = e.controller.settings
  watch : e'.watch = e.watch

theorem Untold.refl (untold : e.Untold) : Undisturbed e e :=
  { untold with settings := rfl, watch := rfl }

theorem Undisturbed.trans {e'' : Engine} (first : Undisturbed e e') (second : Undisturbed e' e'') :
    Undisturbed e e'' :=
  { second with
    settings := second.settings.trans first.settings
    watch := second.watch.trans first.watch }

/-! ## What goes on besides -/

namespace Untold

theorem handle (untold : e.Untold) {event : Event} (other : event.bringsSettings = false) :
    Undisturbed e (e.handle event).2 := by
  obtain ⟨decisions, handled⟩ := e.handle_frame event
  rw [handled]
  refine ⟨⟨?_, ?_⟩, Controller.settings_react other, rfl⟩
  · intro m member
    obtain before | word := List.mem_append.mp member
    · exact untold.bus m before
    · rw [eq_of_mem_wordsOf word]
      rfl
  · intro k member
    obtain before | task := List.mem_append.mp member
    · exact untold.tasks k before
    · obtain ⟨seq, request, rfl⟩ := exists_request_of_mem_tasksOf task
      rfl

/-- The oldest message brings no settings. -/
theorem message (untold : e.Untold) {m : Event} {rest : List Event}
    (waiting : e.bus = m :: rest) :
    Undisturbed e (({ e with bus := rest } : Engine).handle m).2 := by
  have others : ∀ m' ∈ m :: rest, m'.bringsSettings = false := waiting ▸ untold.bus
  have popped : ({ e with bus := rest } : Engine).Untold :=
    ⟨fun m' member => others m' (List.mem_cons_of_mem _ member), untold.tasks⟩
  exact { popped.handle (others m List.mem_cons_self) with }

theorem drain (untold : e.Untold) (n : Nat) : Undisturbed e (Engine.drain n e).2 :=
  drain_keeps (fun waiting kept => kept.trans (kept.toUntold.message waiting)) n untold.refl

theorem waitForMessage (untold : e.Untold) : Undisturbed e e.waitForMessage.2 :=
  waitForMessage_keeps (fun waiting kept => kept.trans (kept.toUntold.message waiting))
    untold.refl

theorem pollConnection (untold : e.Untold) : Undisturbed e e.pollConnection.2 := by
  unfold Engine.pollConnection
  split
  · exact untold.refl
  · have level : ({ e with seen := e.manager.publications } : Engine).Untold := { untold with }
    have news : (Event.connectionChanged (.ofSnapshot e.manager.published)).bringsSettings =
      false := rfl
    exact { level.handle news with }

/-- What is put on the bus brings none. -/
theorem send (untold : e.Untold) {event : Event} (other : event.bringsSettings = false) :
    Undisturbed e (e.send event) where
  bus m member := (List.mem_append.mp member).elim (untold.bus m)
    fun sent => List.mem_singleton.mp sent ▸ other
  tasks := untold.tasks
  settings := rfl
  watch := rfl

theorem spawn (untold : e.Untold) {task : BackgroundTask} (other : task.bringsSettings = false) :
    Undisturbed e (e.spawn task) where
  bus := untold.bus
  tasks k member := (List.mem_append.mp member).elim (untold.tasks k)
    fun spawned => List.mem_singleton.mp spawned ▸ other
  settings := rfl
  watch := rfl

/-- A task that comes to its end brings none. -/
theorem runTask (untold : e.Untold) {σ : Type} {p : Provider σ} {c : CompletionService σ}
    {place : Nat} {s s' : σ} (ran : e.runTask p c place s = some (e', s')) : Undisturbed e e' := by
  obtain ⟨event, rfl, sent⟩ := runTask_sends ran
  have other : event.bringsSettings = false := by
    obtain posted | ⟨seq, outcome, rfl⟩ := sent
    · exact untold.tasks _ posted
    · rfl
  have fewer : ({ e with tasks := e.tasks.eraseIdx place } : Engine).Untold :=
    ⟨untold.bus, fun k member => untold.tasks k (List.mem_of_mem_eraseIdx member)⟩
  exact { fewer.send other with }

end Untold

/-- **One thing that goes on besides**: anything but a visit to the file, or settings from
elsewhere. -/
inductive Beside : Engine → Engine → Prop
  /-- The host reports an event; the passing of time is one. -/
  | report (e : Engine) (event : Event) (other : event.bringsSettings = false) :
      Beside e (e.handle event).2
  /-- A pass looks for news of the connection. -/
  | pollConnection (e : Engine) : Beside e e.pollConnection.2
  /-- A pass looks at the bus. -/
  | pollBus (e : Engine) : Beside e e.pollBus.2
  /-- The host waits for one message. -/
  | waitForMessage (e : Engine) : Beside e e.waitForMessage.2
  /-- Something is put on the bus. -/
  | send (e : Engine) (event : Event) (other : event.bringsSettings = false) :
      Beside e (e.send event)
  /-- Something is left to the background. -/
  | spawn (e : Engine) (task : BackgroundTask) (other : task.bringsSettings = false) :
      Beside e (e.spawn task)
  /-- A task comes to its end. -/
  | runTask {σ : Type} (p : Provider σ) (c : CompletionService σ) (e e' : Engine) (place : Nat)
      (s s' : σ) (ran : e.runTask p c place s = some (e', s')) : Beside e e'
  /-- The editor takes its calls. -/
  | takeEditorCalls (e : Engine) : Beside e e.takeEditorCalls.2
  /-- The connection manager becomes another. -/
  | manage (e : Engine) (manager : ConnectionManager) : Beside e { e with manager := manager }

/-- **Nothing that goes on besides** touches the settings, or what is remembered of the
file. -/
theorem Beside.undisturbed (beside : Beside e e') (untold : e.Untold) : Undisturbed e e' := by
  cases beside with
  | report _ event other => exact untold.handle other
  | pollConnection => exact untold.pollConnection
  | pollBus => exact untold.drain maxDrain
  | waitForMessage => exact untold.waitForMessage
  | send _ event other => exact untold.send other
  | spawn _ task other => exact untold.spawn other
  | runTask _ _ _ _ _ _ _ ran => exact untold.runTask ran
  | takeEditorCalls | manage => exact { untold with settings := rfl, watch := rfl }

/-! ## Runs with visits -/

/-- **A run from `start` with its visits to the file**, in order. -/
inductive Visiting (start : Engine) : List Visit → Engine → Prop
  | start : Visiting start [] start
  | visit {visits : List Visit} {e : Engine} (run : Visiting start visits e) (now : Instant)
      (file : Option FileVersion) :
      Visiting start (visits ++ [⟨now, file⟩]) (e.pollSettings now file).2
  | beside {visits : List Visit} {e e' : Engine} (run : Visiting start visits e)
      (beside : Beside e e') : Visiting start visits e'

/-- **A tick makes one visit**, between its news of the connection and the rest. -/
theorem Visiting.tick {visits : List Visit} (run : Visiting start visits e) (now : Instant)
    (file : Option FileVersion) :
    Visiting start (visits ++ [⟨now, file⟩]) (e.tick now file).2 :=
  run.beside (.pollConnection e) |>.visit now file |>.beside (.pollBus _)
    |>.beside (.report _ (.tick now) rfl)

/-- **What a visit does**: settings are told, if there are any, and what is remembered of
the file changes. -/
theorem pollSettings_eq {w : SettingsWatch} (watches : e.watch = some w) (now : Instant)
    (file : Option FileVersion) :
    (e.pollSettings now file).2 = { e with
      controller := e.controller.after ((w.poll now file).1.toList.map .settingsChanged)
      watch := some (w.poll now file).2 } := by
  simp only [Engine.pollSettings, watches]
  split
  · next none' =>
    rw [none']
    rfl
  · next settings found =>
    have silent : (e.controller.react (.settingsChanged settings)).effects = [] :=
      e.controller.effects_reactToSettings settings
    rw [handle_of_silent { e with watch := some (w.poll now file).2 } _ silent, found]
    rfl

/-- **The engine follows the file** that was visited: it remembers what it should, and has
the settings of the last new version that could be read. -/
structure Following (settings : Settings) (recorded : Option Int) (visits : List Visit)
    (e : Engine) : Prop extends e.Untold where
  watch : e.watch = some (.afterLooks recorded (looks visits))
  settings : e.controller.settings = lastSettings settings (newVersions recorded (looks visits))

/-- A watch begins with nothing looked at. -/
theorem Untold.following (untold : e.Untold) (file : Option FileVersion) :
    Following e.controller.settings (file.map (·.modified)) [] (e.watchSettings file) :=
  { untold with watch := rfl, settings := rfl }

namespace Following

variable {settings : Settings} {recorded : Option Int} {visits : List Visit}

/-- **A visit too early** does nothing at all. -/
theorem visit_of_early (following : Following settings recorded visits e) {now : Instant}
    (early : ¬ IsTime (looks visits) now) (file : Option FileVersion) :
    (e.pollSettings now file).2 = e := by
  have wait : (SettingsWatch.afterLooks recorded (looks visits)).isDue now = false :=
    Bool.eq_false_iff.mpr (mt SettingsWatch.isDue_afterLooks_iff.mp early)
  rw [pollSettings_eq following.watch, SettingsWatch.poll_of_not_due wait, ← following.watch]
  rfl

/-- **A look** tells the settings of a new version that can be read. -/
theorem visit_of_time (following : Following settings recorded visits e) {now : Instant}
    (time : IsTime (looks visits) now) (file : Option FileVersion) :
    (e.pollSettings now file).2 = { e with
      controller := e.controller.after
        ((Visit.newSettings? (recordedAfter recorded (looks visits)) ⟨now, file⟩).toList.map
          .settingsChanged)
      watch := some (.afterLooks recorded (looks visits ++ [⟨now, file⟩])) } := by
  have due : (SettingsWatch.afterLooks recorded (looks visits)).isDue now = true :=
    SettingsWatch.isDue_afterLooks_iff.mpr time
  rw [pollSettings_eq following.watch, SettingsWatch.poll_of_due due]
  simp [SettingsWatch.afterLooks, recordedAfter_concat]

/-- **Every visit keeps the engine following.** -/
theorem visit (following : Following settings recorded visits e) (now : Instant)
    (file : Option FileVersion) :
    Following settings recorded (visits ++ [⟨now, file⟩]) (e.pollSettings now file).2 := by
  by_cases time : IsTime (looks visits) now
  · have looked : looks (visits ++ [⟨now, file⟩]) = looks visits ++ [⟨now, file⟩] :=
      (looks_concat visits ⟨now, file⟩).trans (if_pos time)
    rw [following.visit_of_time time]
    refine ⟨⟨following.bus, following.tasks⟩, ?_, ?_⟩
    · rw [looked]
    · rw [looked, newVersions_concat, lastSettings_append, ← following.settings]
      change _ = (Visit.newSettings? _ _).getD _
      cases Visit.newSettings? (recordedAfter recorded (looks visits)) ⟨now, file⟩ with
      | none => rfl
      | some settings => exact Controller.settings_of_settingsChanged _ settings
  · have passed : looks (visits ++ [⟨now, file⟩]) = looks visits :=
      (looks_concat visits ⟨now, file⟩).trans (if_neg time)
    rw [following.visit_of_early time]
    exact { following with
      watch := passed ▸ following.watch
      settings := passed ▸ following.settings }

/-- What goes on besides keeps it following. -/
theorem beside (following : Following settings recorded visits e) (beside : Beside e e') :
    Following settings recorded visits e' :=
  let kept := beside.undisturbed following.toUntold
  { kept with
    watch := kept.watch.trans following.watch
    settings := kept.settings.trans following.settings }

end Following

/-- **So the engine follows the file all along.** -/
theorem Visiting.following {visits : List Visit} {file : Option FileVersion}
    (run : Visiting (start.watchSettings file) visits e) (untold : start.Untold) :
    Following start.controller.settings (file.map (·.modified)) visits e := by
  induction run with
  | start => exact untold.following file
  | visit _ now file ih => exact ih.visit now file
  | beside _ beside ih => exact ih.beside beside

/-! ## Looking at the file -/

/-- **A tick at `now` looks at the file**: what it leads to depends on what the file is. -/
def LooksAt (e : Engine) (now : Instant) : Prop :=
  ∃ file file', (e.tick now file).2 ≠ (e.tick now file').2

/-- Some version is new. -/
theorem exists_modified_ne (recorded : Option Int) :
    ∃ modified : Int, recorded ≠ some modified := by
  cases recorded with
  | none => exact ⟨0, nofun⟩
  | some m => exact ⟨m + 1, fun same => absurd (Option.some.inj same) (by omega)⟩

/-- **A tick looks at the file when it is time to.** -/
theorem Visiting.looksAt_iff {visits : List Visit} {file : Option FileVersion}
    (run : Visiting (start.watchSettings file) visits e) (untold : start.Untold) (now : Instant) :
    e.LooksAt now ↔ IsTime (looks visits) now := by
  constructor
  · rintro ⟨file₁, file₂, differs⟩
    refine Decidable.byContradiction fun early => differs ?_
    -- the visit is passed over, and the rest of the tick does not know of the file
    have told := (run.following untold).beside (.pollConnection e)
    have passed (file : Option FileVersion) :
        (e.tick now file).2 = (e.pollConnection.2.pollBus.2.handle (.tick now)).2 := by
      simp only [Engine.tick, told.visit_of_early early file]
    rw [passed, passed]
  · intro time
    obtain ⟨modified, other⟩ := exists_modified_ne
      (recordedAfter (file.map (·.modified)) (looks visits))
    refine ⟨none, some ⟨modified, none⟩, fun same => ?_⟩
    have watch (found : Option FileVersion) :
        (e.tick now found).2.watch =
          some (.afterLooks (file.map (·.modified)) (looks visits ++ [⟨now, found⟩])) := by
      have looked := (looks_concat visits ⟨now, found⟩).trans (if_pos time)
      rw [← looked]
      exact ((run.tick now found).following untold).watch
    -- a version that is found and one that is missing are remembered differently
    have remembered := (watch none).symm.trans ((congrArg Engine.watch same).trans (watch _))
    simp only [SettingsWatch.afterLooks, recordedAfter_concat, Option.some.injEq,
      SettingsWatch.mk.injEq] at remembered
    exact other remembered.2

/-- **The settings follow the watched file.**  However a run goes on after an engine began
to watch a file, with ticks at any times that find the file in any state, and with anything
besides but settings from elsewhere:

* the settings are those of the last new version that was looked at and could be read, or
  else those that the engine had;
* a tick looks at the file if and only if there was no look before, or the last one is at
  least the interval ago;
* a version that is missing or cannot be read changes nothing but what is remembered of
  the file;
* and whatever was found before, a look at a version that can be read, with another
  modification time than the recorded one, brings its settings. -/
theorem settings_follow_file (untold : start.Untold) (file : Option FileVersion) :
    let recorded := file.map (·.modified)
    ∀ visits e, Visiting (start.watchSettings file) visits e →
      e.controller.settings =
          lastSettings start.controller.settings (newVersions recorded (looks visits)) ∧
        ∀ now, (e.LooksAt now ↔ IsTime (looks visits) now) ∧
          (∀ found, Visiting (start.watchSettings file) (visits ++ [⟨now, found⟩])
            (e.tick now found).2) ∧
          (∀ found : Option FileVersion, found.bind FileVersion.settings? = none →
            ∃ watch, (e.pollSettings now found).2 = { e with watch := watch }) ∧
          ∀ version settings, version.settings? = some settings → IsTime (looks visits) now →
            recordedAfter recorded (looks visits) ≠ some version.modified →
              (e.tick now (some version)).2.controller.settings = settings := by
  intro recorded visits e run
  have following := run.following untold
  refine ⟨following.settings, fun now => ⟨run.looksAt_iff untold now, run.tick now, ?_, ?_⟩⟩
  · intro found unread
    by_cases time : IsTime (looks visits) now
    · rw [following.visit_of_time time, Visit.newSettings?_of_unread (v := ⟨now, found⟩) unread]
      exact ⟨_, rfl⟩
    · exact ⟨e.watch, following.visit_of_early time found⟩
  · intro version settings holds time other
    have looked := (looks_concat visits ⟨now, some version⟩).trans (if_pos time)
    have new : Visit.newVersion? (recordedAfter recorded (looks visits)) ⟨now, some version⟩ =
        some version := if_neg other
    rw [((run.tick now (some version)).following untold).settings, looked, newVersions_concat,
      lastSettings_append, new, Option.bind_some, holds, Option.getD_some]

/-- A settings file that says nothing. -/
def emptyVersion : FileVersion := ⟨0, some "\x7b\x7d"⟩

/-- Later somebody has begun to write. -/
def brokenVersion : FileVersion := ⟨5, some "\x7b not json"⟩

/-- Later still typing is to be waited for longer. -/
def slowVersion : FileVersion := ⟨10, some "\x7b\"settle_delay_ms\": 90\x7d"⟩

/-- A version is broken when it is looked at, and mended when it is looked at again; in
between the clock runs backwards. -/
theorem settings_follow_file_mended :
    let start := new .standard .standard (.new false)
    ∃ visits e, Visiting (start.watchSettings (some emptyVersion)) visits e ∧
      e.controller.settings = .standard ∧ ¬ e.LooksAt 1000000 ∧ e.LooksAt 1100000 ∧
      (e.tick 1100000 (some slowVersion)).2.controller.settings =
        { Settings.standard with settleDelayMs := 90 } := by
  intro start
  have untold : start.Untold := ⟨by decide, by decide⟩
  have run : Visiting (start.watchSettings (some emptyVersion)) _ _ :=
    Visiting.start.tick 0 (some emptyVersion) |>.tick 100000 (some slowVersion)
      |>.tick 600000 (some brokenVersion) |>.tick 50000 (some slowVersion)
  have follows := settings_follow_file untold (some emptyVersion) _ _ run
  have early := (follows.2 1000000).1
  obtain ⟨due, -, -, mended⟩ := follows.2 1100000
  refine ⟨_, _, run, follows.1.trans (by decide +kernel), fun looked => ?_,
    due.mpr (by decide +kernel), ?_⟩
  · exact absurd (early.mp looked) (by decide +kernel)
  · exact mended slowVersion _ (by decide +kernel) (by decide +kernel) (by decide +kernel)

end Engine

end InlineCompletion
