import InlineCompletion.Connection.Manager

/-!
# What an operation does to a manager

Five operations change the connection in use, and two of them are long: they ask
the credential store up to three things, and each answer may send them another
way.  What they do to the manager is little.  An operation that asks the store
either fails and leaves the manager as it was, or its last step takes a usable
connection into use (`Attempt.Ends`).  With the operations that ask nothing there
are four things that can become of a manager, and `Turn` lists them.

The answers of the store are nowhere in the list.  A statement about managers
that is proved by cases on `Turn` holds for every credential store, and none of
its proofs looks at an operation again.

An operation does the same with a store that records its calls as with the store
itself (`connect_unrecorded`), so what is said with a record is said of any run.
-/

namespace InlineCompletion

namespace ConnectionManager

variable {m : ConnectionManager} {c : Connection}

/-- The manager with the connection `c` in use, and this published. -/
def taking (m : ConnectionManager) (c : Connection) : ConnectionManager :=
  ({ m with active := some c, enterprise := c.kind.isEnterprise } : ConnectionManager).publish

/-- The manager with the connection in use in another state, and this published
unless it is that the user is signing in. -/
def moving (m : ConnectionManager) (c : Connection) (state : ConnectionState) :
    ConnectionManager :=
  let moved : ConnectionManager := { m with active := some { c with state := state } }
  if state = .authenticating then moved else moved.publish

/-- A connection that serves completions is taken into use. -/
theorem use_of_usable (usable : m.isUsable c = true) : m.use c = .ok (m.taking c) := by
  simp [use, taking, usable]

/-- No other connection is. -/
theorem use_of_not_usable (useless : m.isUsable c = false) :
    m.use c = .error (.badConnectionType m.accepted c.kind.signIn) :=
  (m.use_error_iff c _).mpr ⟨useless, rfl⟩

end ConnectionManager

/-! ## Operations that ask the store -/

/-- How an attempt ends, but for what its store has recorded. -/
def Attempt.unrecorded {σ α : Type} (a : Attempt (σ × List ProviderCall) α) : Attempt σ α :=
  ⟨a.result, a.manager, a.provider.1⟩

/-- **How an attempt to take a connection into use ends.** -/
inductive Attempt.Ends {σ α : Type} (m : ConnectionManager) (a : Attempt σ α) : Prop
  /-- It fails, and the manager is as it was. -/
  | failed (error : ConnectionError) (result : a.result = .error error) (same : a.manager = m)
  /-- A usable connection was taken into use. -/
  | took (c : Connection) (answer : α) (result : a.result = .ok answer)
      (usable : m.isUsable c = true) (taken : a.manager = m.taking c)

/-- A profile is one with keys, or one for single sign-on. -/
theorem ConnectionProfile.iam_or_sso (profile : ConnectionProfile) :
    (∃ name, profile = .iam name) ∨ ∀ name, profile ≠ .iam name := by
  cases profile with
  | builderId | enterprise => exact .inr (by simp)
  | iam name => exact .inl ⟨name, rfl⟩

namespace ConnectionManager

variable {σ : Type} {p : Provider σ} {m : ConnectionManager} {s : σ}

theorem adopt_of_usable {c : Connection} (usable : m.isUsable c = true) (s : σ) :
    m.adopt c s = ⟨.ok c, m.taking c, s⟩ := by
  unfold adopt
  rw [use_of_usable usable]

theorem adopt_of_not_usable {c : Connection} (useless : m.isUsable c = false) (s : σ) :
    m.adopt c s = ⟨.error (.badConnectionType m.accepted c.kind.signIn), m, s⟩ := by
  unfold adopt
  rw [use_of_not_usable useless]

/-- Taking into use asks nothing of the store. -/
theorem adopt_provider (m : ConnectionManager) (c : Connection) (s : σ) :
    (m.adopt c s).provider = s := by
  unfold adopt
  split <;> rfl

/-- A connection that was made is taken into use. -/
theorem adoptNew_eq (p : Provider σ) (m : ConnectionManager) (profile : ConnectionProfile) (s : σ) :
    m.adoptNew p profile s =
      match (p.create profile s).1 with
      | .error e => ⟨.error (.provider e), m, (p.create profile s).2⟩
      | .ok new => m.adopt new (p.create profile s).2 := by
  unfold adoptNew
  rcases p.create profile s with ⟨_ | new, s₁⟩ <;> rfl

/-- Replacing is making another one, deleting the old one, and taking the other into use. -/
theorem replace_eq {old : Connection} {again : ConnectionProfile}
    (like : profileLike old = .ok again) (s : σ) :
    m.replace p old s =
      match (p.create again s).1 with
      | .error e => ⟨.error (.provider e), m, (p.create again s).2⟩
      | .ok new =>
          match (p.delete old.id (p.create again s).2).1 with
          | .error e => ⟨.error (.provider e), m, (p.delete old.id (p.create again s).2).2⟩
          | .ok _ => m.adopt new (p.delete old.id (p.create again s).2).2 := by
  simp only [replace, like]
  rcases p.create again s with ⟨_ | new, s₁⟩
  · rfl
  · dsimp only
    rcases p.delete old.id s₁ with ⟨_ | _, s₂⟩ <;> rfl

/-- Over single sign-on, the list of the store is all that connecting begins with. -/
theorem connect_of_sso {profile : ConnectionProfile} {stored : List Connection}
    (sso : ∀ name, profile ≠ .iam name) (listed : (p.list s).1 = .ok stored) :
    m.connect p profile s = m.connectSso p profile stored (p.list s).2 := by
  have answer : p.list s = (.ok stored, (p.list s).2) := Prod.ext listed rfl
  unfold connect
  rw [answer]
  cases profile with
  | builderId | enterprise => rfl
  | iam name => exact absurd rfl (sso name)

/-- With the keys of a profile it is all as well. -/
theorem connect_of_iam {name : String} {stored : List Connection}
    (listed : (p.list s).1 = .ok stored) :
    m.connect p (.iam name) s = m.connectIam (.iam name) stored (p.list s).2 := by
  have answer : p.list s = (.ok stored, (p.list s).2) := Prod.ext listed rfl
  unfold connect
  rw [answer]

/-- A store that does not say what it has is asked nothing more. -/
theorem connect_of_unlisted {profile : ConnectionProfile} {e : ProviderError}
    (unlisted : (p.list s).1 = .error e) :
    m.connect p profile s = ⟨.error (.provider e), m, (p.list s).2⟩ := by
  have answer : p.list s = (.error e, (p.list s).2) := Prod.ext unlisted rfl
  unfold connect
  rw [answer]

/-- With the keys of a profile nothing is asked of the store but the list. -/
theorem connectIam_provider (m : ConnectionManager) (profile : ConnectionProfile)
    (stored : List Connection) (s : σ) : (m.connectIam profile stored s).provider = s := by
  unfold connectIam
  split
  · rfl
  · split
    · rfl
    · exact adopt_provider ..

theorem ends_adopt (m : ConnectionManager) (c : Connection) (s : σ) : (m.adopt c s).Ends m := by
  cases usable : m.isUsable c with
  | true =>
      rw [adopt_of_usable usable]
      exact .took c c rfl usable rfl
  | false =>
      rw [adopt_of_not_usable usable]
      exact .failed _ rfl rfl

theorem ends_adoptNew (profile : ConnectionProfile) : (m.adoptNew p profile s).Ends m := by
  unfold adoptNew
  split
  · exact .failed _ rfl rfl
  · exact ends_adopt m _ _

theorem ends_replace (old : Connection) : (m.replace p old s).Ends m := by
  unfold replace
  split
  · exact .failed _ rfl rfl
  · split
    · exact .failed _ rfl rfl
    · split
      · exact .failed _ rfl rfl
      · exact ends_adopt m _ _

theorem ends_connectSso (profile : ConnectionProfile) (stored : List Connection) :
    (m.connectSso p profile stored s).Ends m := by
  unfold connectSso
  split
  · exact ends_adoptNew profile
  · split
    · exact ends_adopt m _ s
    · exact ends_replace _

theorem ends_connectIam (profile : ConnectionProfile) (stored : List Connection) :
    (m.connectIam profile stored s).Ends m := by
  unfold connectIam
  split
  · exact .failed _ rfl rfl
  · split
    · exact .failed _ rfl rfl
    · exact ends_adopt m _ s

/-- **Connecting fails without a trace, or takes a usable connection into use.** -/
theorem ends_connect (p : Provider σ) (m : ConnectionManager) (profile : ConnectionProfile)
    (s : σ) : (m.connect p profile s).Ends m := by
  unfold connect
  split
  · exact .failed _ rfl rfl
  · split
    · exact ends_connectIam _ _
    · exact ends_connectSso _ _

/-- Over a connection that has expired, signing in again is up to the store. -/
theorem reauthenticate_of_expired {c : Connection} (active : m.active = some c)
    (expired : m.isExpired = true) :
    m.reauthenticate p s =
      match (p.reauthenticate c.id s).1 with
      | .error e => ⟨.error (.reauthenticationFailed e), m, (p.reauthenticate c.id s).2⟩
      | .ok refreshed =>
          match m.use refreshed with
          | .ok used => ⟨.ok (), used, (p.reauthenticate c.id s).2⟩
          | .error e => ⟨.error e, m, (p.reauthenticate c.id s).2⟩ := by
  unfold reauthenticate
  simp only [expired, active, Bool.not_true, Bool.false_eq_true, if_false]
  rcases p.reauthenticate c.id s with ⟨_ | refreshed, s'⟩ <;> rfl

/-- **Signing in again** is nothing to do unless the connection in use has expired,
and ends like connecting if it has. -/
theorem reauthenticate_cases (p : Provider σ) (m : ConnectionManager) (s : σ) :
    m.isExpired = false ∧ m.reauthenticate p s = ⟨.ok (), m, s⟩ ∨
      m.isExpired = true ∧ (m.reauthenticate p s).Ends m := by
  cases expired : m.isExpired with
  | false => exact .inl ⟨rfl, by simp only [reauthenticate, expired]; rfl⟩
  | true =>
      obtain ⟨c, active, -⟩ := (Option.any_eq_true _ _).mp expired
      refine .inr ⟨rfl, ?_⟩
      rw [reauthenticate_of_expired active expired]
      cases (p.reauthenticate c.id s).1 with
      | error e => exact .failed _ rfl rfl
      | ok refreshed =>
          dsimp only
          cases usable : m.isUsable refreshed with
          | true =>
              rw [use_of_usable usable]
              exact .took refreshed () rfl usable rfl
          | false =>
              rw [use_of_not_usable usable]
              exact .failed _ rfl rfl

/-! ## Keeping a record

That the store records what it is asked makes no difference to an operation. -/

theorem adopt_unrecorded (m : ConnectionManager) (c : Connection) (s : σ × List ProviderCall) :
    (m.adopt c s).unrecorded = m.adopt c s.1 := by
  unfold adopt
  cases m.use c <;> rfl

theorem adoptNew_unrecorded (p : Provider σ) (m : ConnectionManager)
    (profile : ConnectionProfile) (s : σ × List ProviderCall) :
    (m.adoptNew p.recorded profile s).unrecorded = m.adoptNew p profile s.1 := by
  rw [adoptNew_eq, adoptNew_eq, Provider.recorded]
  dsimp only [Provider.record]
  cases (p.create profile s.1).1 with
  | error e => rfl
  | ok new => exact adopt_unrecorded ..

theorem replace_unrecorded (p : Provider σ) (m : ConnectionManager) (old : Connection)
    (s : σ × List ProviderCall) :
    (m.replace p.recorded old s).unrecorded = m.replace p old s.1 := by
  cases like : profileLike old with
  | error e => simp only [replace, like]; rfl
  | ok again =>
      rw [replace_eq like, replace_eq like, Provider.recorded]
      dsimp only [Provider.record]
      cases (p.create again s.1).1 with
      | error e => rfl
      | ok new =>
          dsimp only
          cases (p.delete old.id (p.create again s.1).2).1 with
          | error e => rfl
          | ok _ => exact adopt_unrecorded ..

theorem connectSso_unrecorded (p : Provider σ) (m : ConnectionManager)
    (profile : ConnectionProfile) (stored : List Connection) (s : σ × List ProviderCall) :
    (m.connectSso p.recorded profile stored s).unrecorded = m.connectSso p profile stored s.1 := by
  unfold connectSso
  cases stored.find? profile.matches with
  | none => exact adoptNew_unrecorded ..
  | some c =>
      dsimp only
      split
      · exact adopt_unrecorded ..
      · exact replace_unrecorded ..

theorem connectIam_unrecorded (m : ConnectionManager) (profile : ConnectionProfile)
    (stored : List Connection) (s : σ × List ProviderCall) :
    (m.connectIam profile stored s).unrecorded = m.connectIam profile stored s.1 := by
  unfold connectIam
  split
  · rfl
  · cases stored.find? profile.matches with
    | none => rfl
    | some c => exact adopt_unrecorded ..

/-- **Connecting ends in the same way** when it is recorded what the store is asked. -/
theorem connect_unrecorded (p : Provider σ) (m : ConnectionManager)
    (profile : ConnectionProfile) (s : σ × List ProviderCall) :
    (m.connect p.recorded profile s).unrecorded = m.connect p profile s.1 := by
  cases listed : (p.list s.1).1 with
  | error e =>
      rw [connect_of_unlisted listed, connect_of_unlisted (p := p.recorded) (s := s) listed]
      rfl
  | ok stored =>
      have listed' : (p.recorded.list s).1 = .ok stored := listed
      obtain ⟨name, rfl⟩ | sso := profile.iam_or_sso
      · rw [connect_of_iam listed, connect_of_iam listed']
        exact connectIam_unrecorded ..
      · rw [connect_of_sso sso listed, connect_of_sso sso listed']
        exact connectSso_unrecorded ..

/-- So does signing in again. -/
theorem reauthenticate_unrecorded (p : Provider σ) (m : ConnectionManager)
    (s : σ × List ProviderCall) :
    (m.reauthenticate p.recorded s).unrecorded = m.reauthenticate p s.1 := by
  cases expired : m.isExpired with
  | false => simp only [reauthenticate, expired]; rfl
  | true =>
      obtain ⟨c, active, -⟩ := (Option.any_eq_true _ _).mp expired
      rw [reauthenticate_of_expired active expired, reauthenticate_of_expired active expired,
        Provider.recorded]
      dsimp only [Provider.record]
      cases (p.reauthenticate c.id s.1).1 with
      | error e => rfl
      | ok refreshed =>
          dsimp only
          cases m.use refreshed <;> rfl

/-! ## Any operation -/

/-- **What can become of a manager** by one operation. -/
inductive Turn (m : ConnectionManager) : ConnectionManager → Prop
  /-- Nothing changes, and nothing is published. -/
  | still : Turn m m
  /-- A usable connection is taken into use. -/
  | take (c : Connection) (usable : m.isUsable c = true) : Turn m (m.taking c)
  /-- The connection in use is used no more. -/
  | drop (c : Connection) (active : m.active = some c) :
      Turn m ({ m with active := none, enterprise := false } : ConnectionManager).publish
  /-- The connection in use is in another state. -/
  | move (c : Connection) (state : ConnectionState) (active : m.active = some c)
      (news : c.state ≠ state) : Turn m (m.moving c state)

namespace Turn

variable {m : ConnectionManager}

theorem of_ends {σ α : Type} {a : Attempt σ α} (ends : a.Ends m) : Turn m a.manager := by
  cases ends with
  | failed error _ same => rw [same]; exact .still
  | took c _ _ usable taken => rw [taken]; exact .take c usable

theorem of_disconnect (m : ConnectionManager) : Turn m m.disconnect := by
  unfold disconnect
  split
  · exact .still
  · next c active => exact .drop c active

theorem of_setState (m : ConnectionManager) (id : ConnectionId) (state : ConnectionState) :
    Turn m (m.setState id state).2 := by
  unfold setState
  split
  · exact .still
  · next c active =>
    split
    · next news => exact .move c state active news.2
    · exact .still

/-- No turn changes whether keys are allowed. -/
theorem allowKeyBased {m' : ConnectionManager} (turn : Turn m m') :
    m'.allowKeyBased = m.allowKeyBased := by
  cases turn with
  | still | take _ _ | drop _ _ => rfl
  | move c state _ _ =>
      unfold moving
      dsimp only
      split <;> rfl

/-- **A manager publishes by counting up**: where the count is the same, so is what was
published last. -/
theorem publications {m' : ConnectionManager} (turn : Turn m m') :
    m.publications ≤ m'.publications ∧
      (m'.publications = m.publications → m'.published = m.published) := by
  have more {n : ConnectionManager} (counted : n.publications = m.publications) :
      m.publications ≤ n.publish.publications ∧
        (n.publish.publications = m.publications → n.publish.published = m.published) := by
    simp only [publish, counted]
    exact ⟨Nat.le_succ _, fun same => absurd same (Nat.succ_ne_self _)⟩
  cases turn with
  | still => exact ⟨Nat.le_refl _, fun _ => rfl⟩
  | take c _ => exact more rfl
  | drop c _ => exact more rfl
  | move c state _ _ =>
      unfold moving
      dsimp only
      split
      · -- that the user is signing in is not published
        exact ⟨Nat.le_refl _, fun _ => rfl⟩
      · exact more rfl

end Turn

/-- An operation on a manager that may change the connection in use. -/
inductive Operation
  | connect (profile : ConnectionProfile)
  | use (c : Connection)
  | disconnect
  | setState (id : ConnectionId) (state : ConnectionState)
  | reauthenticate
  deriving DecidableEq, Repr

/-- The manager and the store after an operation, whatever the operation answers. -/
def perform (p : Provider σ) (m : ConnectionManager) (s : σ) : Operation → ConnectionManager × σ
  | .connect profile => ((m.connect p profile s).manager, (m.connect p profile s).provider)
  | .use c =>
      match m.use c with
      | .ok used => (used, s)
      | .error _ => (m, s)
  | .disconnect => (m.disconnect, s)
  | .setState id state => ((m.setState id state).2, s)
  | .reauthenticate => ((m.reauthenticate p s).manager, (m.reauthenticate p s).provider)

/-- The manager after a list of operations. -/
def after (p : Provider σ) (m : ConnectionManager) (s : σ) : List Operation → ConnectionManager
  | [] => m
  | op :: ops => after p (m.perform p s op).1 (m.perform p s op).2 ops

/-- **Every operation takes one of the four turns**, whatever the store answers. -/
theorem turn_perform (p : Provider σ) (m : ConnectionManager) (s : σ) (op : Operation) :
    Turn m (m.perform p s op).1 := by
  cases op with
  | connect profile => exact .of_ends (ends_connect p m profile s)
  | use c =>
      cases usable : m.isUsable c with
      | true =>
          simp only [perform, use_of_usable usable]
          exact .take c usable
      | false =>
          simp only [perform, use_of_not_usable usable]
          exact .still
  | disconnect => exact .of_disconnect m
  | setState id state => exact .of_setState m id state
  | reauthenticate =>
      obtain ⟨-, nothing⟩ | ⟨-, ends⟩ := reauthenticate_cases p m s
      · rw [perform, nothing]
        exact .still
      · exact .of_ends ends

/-- What every turn keeps, every list of operations keeps. -/
theorem after_of_turn {P : ConnectionManager → Prop}
    (keeps : ∀ {m m'}, Turn m m' → P m → P m') (start : P m) (p : Provider σ) (s : σ)
    (ops : List Operation) : P (m.after p s ops) := by
  induction ops generalizing m s with
  | nil => exact start
  | cons op ops ih => exact ih (keeps (turn_perform p m s op) start) _

theorem allowKeyBased_after (p : Provider σ) (m : ConnectionManager) (s : σ)
    (ops : List Operation) : (m.after p s ops).allowKeyBased = m.allowKeyBased :=
  after_of_turn (P := fun m' => m'.allowKeyBased = m.allowKeyBased)
    (fun turn same => turn.allowKeyBased.trans same) rfl p s ops

end ConnectionManager

end InlineCompletion
