import InlineCompletion.Proofs.Connection.Turns
import InlineCompletion.Proofs.Playback.Frames

/-!
# No step fails

Two kinds of steps can fail, for they ask the credential store: signing in, and signing
in again.  The store of a playback refuses in three cases only.  It makes no connection
with keys, but no step asks for one.  It does not renew a connection that it does not
have, but the connection in use is one that it has.  And the manager takes no connection
into use that lacks scopes, but the store grants them all, so that no stored connection
is ever of no use, or replaced.

The last two are an invariant between the store and the manager: **the store `Backs` the
manager**.  It is a matter of identifiers and kinds alone, since the state of the
connection in use and that of the stored one go different ways when it expires.
-/

namespace InlineCompletion

namespace ConnectionManager

variable {σ : Type} {m : ConnectionManager} {c : Connection}

/-- A connection with the scopes for completions is over single sign-on and usable. -/
theorem isUsable_of_hasScopes (serves : c.kind.hasScopes completionScopes = true) :
    m.isUsable c = true := by
  unfold isUsable
  split
  · exact serves
  · next kind =>
    rw [kind] at serves
    cases serves

end ConnectionManager

namespace Playback

namespace Backend

variable {b : Backend} {m : ConnectionManager} {profile : ConnectionProfile}

/-- Renewing changes the identifier and the kind of no connection. -/
theorem map_renew (id : ConnectionId) (cs : List Connection) :
    (renew id cs).map (fun c => (c.id, c.kind)) = cs.map fun c => (c.id, c.kind) := by
  induction cs with
  | nil => rfl
  | cons c cs ih =>
      unfold renew
      split
      · rfl
      · rw [List.map_cons, List.map_cons, ih]

/-- The store makes every connection that is not one with keys, and grants it all scopes. -/
theorem exists_create (sso : ∀ name, profile ≠ .iam name) (b : Backend) :
    ∃ c b', create profile b = (.ok c, b') ∧ b'.connections = b.connections ++ [c] ∧
      c.kind.hasScopes completionScopes = true := by
  have granted (startUrl region : String) :
      (b.newConnection startUrl region).kind.hasScopes completionScopes = true := by
    show (completionScopes.all fun scope => completionScopes.contains scope) = true
    decide
  cases profile with
  | builderId => exact ⟨_, _, rfl, rfl, granted _ _⟩
  | enterprise startUrl region => exact ⟨_, _, rfl, rfl, granted _ _⟩
  | iam name => exact absurd rfl (sso name)

/-- **The store stands behind the manager.** -/
structure Backs (b : Backend) (m : ConnectionManager) : Prop where
  /-- Every stored connection has the scopes for completions. -/
  serving : ∀ c ∈ b.connections, c.kind.hasScopes completionScopes = true
  /-- The connection in use is a stored one. -/
  stored : ∀ c, m.active = some c → ∃ d ∈ b.connections, d.id = c.id

namespace Backs

theorem empty (allowKeyBased : Bool) : Backs .empty (.new allowKeyBased) :=
  ⟨nofun, nofun⟩

/-- What is true of a store and a manager is true of others with the same connections. -/
theorem congr {b' : Backend} {m' : ConnectionManager} (backs : Backs b m)
    (connections : b'.connections = b.connections) (active : m'.active = m.active) :
    Backs b' m' := by
  refine ⟨?_, ?_⟩
  · rw [connections]
    exact backs.serving
  · rw [connections, active]
    exact backs.stored

/-- A stored connection may be taken into use. -/
theorem take (serving : ∀ c ∈ b.connections, c.kind.hasScopes completionScopes = true)
    {c : Connection} (member : c ∈ b.connections) : Backs b (m.taking c) where
  serving := serving
  stored d active := by
    obtain rfl := Option.some.inj active
    exact ⟨c, member, rfl⟩

/-- **Signing in** succeeds: with a stored connection, or with a new one. -/
theorem connect (backs : Backs b m) (sso : ∀ name, profile ≠ .iam name) :
    ∃ c, (m.connect provider profile b).result = .ok c ∧
      Backs (m.connect provider profile b).provider (m.connect provider profile b).manager := by
  have same : m.connect provider profile b = m.connectSso provider profile b.connections b :=
    ConnectionManager.connect_of_sso sso rfl
  rw [same]
  unfold ConnectionManager.connectSso
  split
  · -- nothing stored matches, so a connection is made
    obtain ⟨c, b', made, connections, granted⟩ := exists_create sso b
    have adopted : m.adoptNew provider profile b = ⟨.ok c, m.taking c, b'⟩ := by
      unfold ConnectionManager.adoptNew
      rw [show provider.create profile b = _ from made]
      exact ConnectionManager.adopt_of_usable (ConnectionManager.isUsable_of_hasScopes granted) b'
    rw [adopted]
    refine ⟨c, rfl, take ?_ ?_⟩
    · intro d member
      rw [connections] at member
      rcases List.mem_append.mp member with old | new
      · exact backs.serving d old
      · rw [List.mem_singleton.mp new]
        exact granted
    · rw [connections]
      exact List.mem_append_right _ List.mem_cons_self
  · next c found =>
    have member := List.mem_of_find?_eq_some found
    have usable := ConnectionManager.isUsable_of_hasScopes (m := m) (backs.serving c member)
    rw [if_pos usable, ConnectionManager.adopt_of_usable usable]
    exact ⟨c, rfl, take backs.serving member⟩

/-- **Signing in again** succeeds: the store has the connection in use. -/
theorem reauthenticate (backs : Backs b m) :
    (m.reauthenticate provider b).result = .ok () ∧
      Backs (m.reauthenticate provider b).provider (m.reauthenticate provider b).manager := by
  unfold ConnectionManager.reauthenticate
  split
  · exact ⟨rfl, backs⟩
  next expired =>
  split
  · next none' =>
    simp [ConnectionManager.isExpired, none'] at expired
  · next c active =>
    obtain ⟨d, found⟩ : ∃ d, b.connections.find? (fun d => d.id == c.id) = some d := by
      obtain ⟨d, member, same⟩ := backs.stored c active
      exact Option.isSome_iff_exists.mp
        (List.find?_isSome.mpr ⟨d, member, by simpa using same⟩)
    have member := List.mem_of_find?_eq_some found
    have serving : ∀ e ∈ renew c.id b.connections, e.kind.hasScopes completionScopes = true := by
      intro e renewed
      have there := List.mem_map_of_mem (f := fun e : Connection => (e.id, e.kind)) renewed
      rw [map_renew] at there
      obtain ⟨old, member, same⟩ := List.mem_map.mp there
      obtain ⟨-, kind⟩ := Prod.mk.inj same
      rw [← kind]
      exact backs.serving old member
    have answer : provider.reauthenticate c.id b =
        (.ok { d with state := .valid }, { b with connections := renew c.id b.connections }) := by
      show Backend.reauthenticate c.id b = _
      simp only [Backend.reauthenticate, found]
    have usable : m.isUsable { d with state := .valid } = true :=
      ConnectionManager.isUsable_of_hasScopes (backs.serving d member)
    simp only [answer, ConnectionManager.use_of_usable usable]
    refine ⟨trivial, serving, ?_⟩
    intro e active'
    obtain rfl := Option.some.inj active'
    -- the renewed connection is stored under the same identifier
    have there := List.mem_map_of_mem (f := fun e : Connection => (e.id, e.kind)) member
    rw [← map_renew c.id] at there
    obtain ⟨new, member', same⟩ := List.mem_map.mp there
    exact ⟨new, member', (Prod.mk.inj same).1⟩

theorem disconnect (backs : Backs b m) : Backs b m.disconnect := by
  unfold ConnectionManager.disconnect
  split
  · exact backs
  · exact ⟨backs.serving, nofun⟩

theorem expire (backs : Backs b m) : Backs b (Player.expire m) := by
  unfold Player.expire
  cases active : m.active with
  | none => exact backs
  | some c =>
      refine ⟨backs.serving, fun d after => ?_⟩
      simp only [ConnectionManager.setState, active] at after
      obtain ⟨e, member, same⟩ := backs.stored c active
      split at after
      · obtain rfl := Option.some.inj after
        exact ⟨e, member, same⟩
      · obtain rfl := Option.some.inj (active.symm.trans after)
        exact ⟨e, member, same⟩

end Backs

end Backend

namespace Player

open Backend (Backs)

variable {p q : Player}

/-- The store of the player stands behind the manager of its engine. -/
def Backed (p : Player) : Prop := Backs p.backend p.engine.manager

theorem backed_new (settings : Settings) : (new settings).Backed :=
  (Backs.empty settings.allowKeyBasedConnections).congr rfl
    (congrArg ConnectionManager.active (Engine.handle_manager _ _))

theorem Backed.of_same (backed : p.Backed) (same : SameStanding p q) : q.Backed :=
  backed.congr same.connections (congrArg _ same.manager)

/-- The manager does something that does not fail. -/
theorem manage_of_ok {α : Type} (operation : ConnectionManager → Backend → Attempt Backend α)
    {answer : α} (result : (operation p.engine.manager p.backend).result = .ok answer) :
    p.manage operation = .ok { p with
      engine := { p.engine with manager := (operation p.engine.manager p.backend).manager }
      backend := (operation p.engine.manager p.backend).provider } := by
  unfold manage
  simp only [result]

/-- No step asks for a connection with keys. -/
theorem profileOf_ne_iam (startUrl region : Option String) (name : String) :
    profileOf startUrl region ≠ .iam name := by
  cases startUrl <;> nofun

/-- **No step fails**, before what it sets going is brought to its end. -/
theorem Backed.perform (backed : p.Backed) (s : Step) :
    ∃ q, p.perform s = .ok q ∧ q.Backed := by
  cases s with
  | connect startUrl region =>
      obtain ⟨c, result, backs⟩ := Backs.connect backed (profileOf_ne_iam startUrl region)
      exact ⟨_, manage_of_ok
        (fun m b => m.connect Backend.provider (profileOf startUrl region) b) result, backs⟩
  | disconnect => exact ⟨_, rfl, Backs.disconnect backed⟩
  | expire => exact ⟨_, rfl, Backs.expire backed⟩
  | reauthenticate =>
      obtain ⟨result, backs⟩ := Backs.reauthenticate backed
      exact ⟨_, manage_of_ok (fun m b => m.reauthenticate Backend.provider b) result, backs⟩
  | openDocument uri language text cursor =>
      have told := SameStanding.tell
        { p with document := some (.ofText uri language text cursor) }
        (.editorFocused (some (EditorDocument.ofText uri language text cursor).activeEditor))
      exact ⟨_, rfl, backed.of_same ⟨told.manager, told.connections⟩⟩
  | typeText | backspace | moveCursor =>
      exact ⟨_, rfl, backed.of_same (.withDocument p _)⟩
  | wait ms => exact ⟨_, rfl, backed.of_same (.letPass p _)⟩
  | next | previous | accept | reject | blur | focus =>
      exact ⟨_, rfl, backed.of_same (.tell p _)⟩
  | invoke =>
      refine ⟨_, rfl, ?_⟩
      split
      · exact backed
      · exact backed.of_same (.tell p _)
  | close =>
      refine ⟨_, rfl, ?_⟩
      split
      · exact backed
      · next d _ =>
        have told := SameStanding.tell { p with document := none } (.documentClosed d.id)
        exact backed.of_same ⟨told.manager, told.connections⟩
  | respond suggestions => exact ⟨_, rfl, backed.congr rfl rfl⟩

/-- **No step fails.** -/
theorem Backed.step (backed : p.Backed) (s : Step) : ∃ q, p.step s = .ok q ∧ q.Backed := by
  obtain ⟨q, performed, backed'⟩ := backed.perform s
  have ticked := (SameStanding.finishWork q).trans (.tickAt _ q.finishWork.clock)
  exact ⟨_, step_eq_ok_iff.mpr ⟨q, performed, rfl⟩,
    backed'.of_same (ticked.trans (.finishWork _))⟩

/-- **No script fails.** -/
theorem Backed.after (backed : p.Backed) (steps : List Step) :
    ∃ q, p.after steps = .ok q ∧ q.Backed := by
  induction steps generalizing p with
  | nil => exact ⟨p, rfl, backed⟩
  | cons s steps ih =>
      obtain ⟨q, stepped, backed'⟩ := backed.step s
      obtain ⟨r, after, backed''⟩ := ih (p := { q with prompts := [] }) backed'
      exact ⟨r, after_cons_eq_ok_iff.mpr ⟨q, stepped, after⟩, backed''⟩

end Player

end Playback

end InlineCompletion
