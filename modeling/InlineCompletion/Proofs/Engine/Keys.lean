import Mathlib.Logic.Relation
import InlineCompletion.Playback.Backend
import InlineCompletion.Proofs.Connection.Connecting
import InlineCompletion.Proofs.Engine.Runs

/-!
# Connections with keys

Whether connections with keys may be used is said twice: by the manager, and by the
settings that the controller was told last.  The two agree when a host makes both from
the same settings.  From then on they are on their own.  Nothing that an engine does
reaches the manager (`handle_manager`), no operation of the manager changes what it
allows (`ConnectionManager.Turn.allowKeyBased`), and new settings change the other
side alone.

So the manager goes by the settings that the host began with, and what it allows is
what is allowed now unless the permission was taken back meanwhile
(`keys_follow_first_settings`).
-/

namespace InlineCompletion

namespace ConnectionManager

variable {m : ConnectionManager} {c : Connection}

/-- A connection with keys is taken into use exactly if keys are allowed. -/
theorem exists_use_iff_of_iam {profile : String} (keyed : c.kind = .iam profile) :
    (∃ used, m.use c = .ok used) ↔ m.allowKeyBased = true := by
  rw [← isUsable_of_iam keyed]
  cases usable : m.isUsable c with
  | true => simp [use_of_usable usable]
  | false => simp [use_of_not_usable usable]

end ConnectionManager

namespace Engine

open Playback (Backend)
open Relation (ReflTransGen)

variable {e e' : Engine}

/-- **No act changes whether the manager allows keys.** -/
theorem Act.allowKeyBased (act : Act e e') :
    e'.manager.allowKeyBased = e.manager.allowKeyBased := by
  cases act with
  | dispatch _ event => rw [handle_manager]
  | send | spawn => rfl
  | move _ same => rw [same]
  | operate p _ s operation =>
      exact (ConnectionManager.turn_perform p e.manager s operation).allowKeyBased

theorem allowKeyBased_of_acts (acts : ReflTransGen Act e e') :
    e'.manager.allowKeyBased = e.manager.allowKeyBased := by
  induction acts with
  | refl => rfl
  | tail _ act ih => exact act.allowKeyBased.trans ih

/-- **Keys are used as the settings say**: with keys nothing is connected or taken into
use unless the settings told last allow it. -/
structure KeysAsSet (e : Engine) : Prop where
  use : ∀ c profile used, c.kind = .iam profile → e.manager.use c = .ok used →
    e.controller.settings.allowKeyBasedConnections = true
  connect : ∀ {σ : Type} (p : Provider σ) profile s c,
    (e.manager.connect p (.iam profile) s).result = .ok c →
      e.controller.settings.allowKeyBasedConnections = true

/-- A connection with the keys of the profile `work`. -/
def workKeys : Connection := ⟨⟨"keys"⟩, "keys", .iam "work", .valid⟩

/-- That is so exactly if the settings allow keys where the manager does. -/
theorem keysAsSet_iff (e : Engine) :
    e.KeysAsSet ↔ (e.manager.allowKeyBased = true →
      e.controller.settings.allowKeyBasedConnections = true) := by
  constructor
  · intro asSet allowed
    obtain ⟨used, taken⟩ :=
      (ConnectionManager.exists_use_iff_of_iam (c := workKeys) rfl).mpr allowed
    exact asSet.use workKeys "work" used rfl taken
  · intro allows
    constructor
    · intro c profile used keyed taken
      exact allows ((ConnectionManager.exists_use_iff_of_iam keyed).mp ⟨used, taken⟩)
    · intro σ p profile s c connected
      exact allows ((ConnectionManager.connect_iam_eq_ok_iff p _ profile s c).mp connected).1

/-- **Keys go by the settings that the host began with.**  Where the manager and the
settings agree when an engine is made, then after whatever acts

* a connection with keys is taken into use exactly if the first settings allow keys;
* connecting with the keys of a profile succeeds exactly if they do and the store has a
  connection with these keys;
* and keys are used as the settings told last say, unless the first settings allow keys
  and the settings told last do not. -/
theorem keys_follow_first_settings (settings : Settings) (languages : LanguageTable)
    (manager : ConnectionManager)
    (agree : manager.allowKeyBased = settings.allowKeyBasedConnections)
    (acts : ReflTransGen Act (new settings languages manager) e) :
    (∀ c profile, c.kind = .iam profile →
      ((∃ used, e.manager.use c = .ok used) ↔ settings.allowKeyBasedConnections = true)) ∧
    (∀ {σ : Type} (p : Provider σ) profile s c,
      (e.manager.connect p (.iam profile) s).result = .ok c ↔
        settings.allowKeyBasedConnections = true ∧ ∃ stored, (p.list s).1 = .ok stored ∧
          stored.find? (ConnectionProfile.iam profile).matches = some c) ∧
    (e.KeysAsSet ↔ ¬(settings.allowKeyBasedConnections = true ∧
      e.controller.settings.allowKeyBasedConnections = false)) := by
  have begun : (new settings languages manager).manager = manager := handle_manager _ _
  have allows : e.manager.allowKeyBased = settings.allowKeyBasedConnections := by
    rw [allowKeyBased_of_acts acts, begun, agree]
  refine ⟨fun c profile keyed => ?_, fun p profile s c => ?_, ?_⟩
  · rw [ConnectionManager.exists_use_iff_of_iam keyed, allows]
  · rw [ConnectionManager.connect_iam_eq_ok_iff, allows]
  · rw [keysAsSet_iff, allows, not_and, Bool.not_eq_false]

/-- The settings of a user who allows keys. -/
def keysAllowed : Settings := { Settings.standard with allowKeyBasedConnections := true }

/-- The user has allowed keys and takes the permission back. -/
def withdrawn : Engine :=
  ((new keysAllowed .standard (ConnectionManager.new true)).handle (.settingsChanged .standard)).2

theorem acts_withdrawn :
    ReflTransGen Act (new keysAllowed .standard (ConnectionManager.new true)) withdrawn :=
  .single (.dispatch _ _)

/-- A store with these keys and nothing else. -/
def keyStore : Backend := { Backend.empty with connections := [workKeys] }

/-- After the permission was taken back, the keys can be taken into use and connected
with as before. -/
theorem keys_follow_first_settings_withdrawn :
    (∃ used, withdrawn.manager.use workKeys = .ok used) ∧
      (withdrawn.manager.connect Backend.provider (.iam "work") keyStore).result =
        .ok workKeys ∧ ¬withdrawn.KeysAsSet := by
  obtain ⟨use, connect, asSet⟩ := keys_follow_first_settings keysAllowed .standard
    (ConnectionManager.new true) rfl acts_withdrawn
  refine ⟨(use workKeys "work" rfl).mpr rfl, ?_, fun law => ?_⟩
  · exact (connect Backend.provider "work" keyStore workKeys).mpr ⟨rfl, _, rfl, by decide⟩
  · exact asSet.mp law ⟨rfl, by decide⟩

/-- So the settings told last do not decide what becomes of keys. -/
theorem withdrawn_keys_are_taken :
    ∃ e, ReflTransGen Act (new keysAllowed .standard (ConnectionManager.new true)) e ∧
      e.controller.settings.allowKeyBasedConnections = false ∧
      (∃ used, e.manager.use workKeys = .ok used) ∧
      (e.manager.connect Backend.provider (.iam "work") keyStore).result = .ok workKeys :=
  ⟨withdrawn, acts_withdrawn, by decide, ⟨_, rfl⟩, by rfl⟩

end Engine

end InlineCompletion
