import InlineCompletion.Proofs.Connection.Turns

/-!
# What a manager tells is so

A manager says how things are in several places: the connection in use, the note
that it is an enterprise connection, the two tests for having expired, and the
snapshot that observers saw last.  Each operation brings some of these up to date
and leaves the others, and one change of state is kept from the observers on
purpose.  `Candid` says that the places agree all the same.  A fresh manager is
candid, every turn keeps it, and so is every manager that a list of operations
ends in, whatever the credential store answers.

The two tests for having expired are written differently: one asks only for the
state, the other also whether the connection serves completions.  They agree
because **nothing else is ever in use** (`Candid.usable`), and only for that.
-/

namespace InlineCompletion

/-- A connection of this kind serves completions: over single sign-on if every scope
for completions was granted, and with keys if those are allowed. -/
def ConnectionKind.Serves (allowKeyBased : Bool) : ConnectionKind → Prop
  | .sso _ _ scopes => ∀ scope ∈ completionScopes, scope ∈ scopes
  | .iam _ => allowKeyBased = true

/-- Enterprise connections are those over single sign-on at another start URL. -/
theorem ConnectionKind.isEnterprise_iff (kind : ConnectionKind) :
    kind.isEnterprise = true ↔
      ∃ startUrl region scopes, kind = .sso startUrl region scopes ∧
        startUrl ≠ builderIdStartUrl := by
  cases kind with
  | sso startUrl region scopes => simp [isEnterprise]
  | iam profile => simp [isEnterprise]

namespace ConnectionManager

variable {σ : Type} {m m' : ConnectionManager} {c : Connection}

theorem isUsable_iff (m : ConnectionManager) (c : Connection) :
    m.isUsable c = true ↔ c.kind.Serves m.allowKeyBased := by
  unfold isUsable ConnectionKind.Serves
  cases c.kind with
  | sso startUrl region scopes => simp [ConnectionKind.hasScopes]
  | iam profile => exact Iff.rfl

/-- **What a manager tells is so.** -/
structure Candid (m : ConnectionManager) : Prop where
  /-- The connection in use serves completions. -/
  usable : ∀ c, m.active = some c → m.isUsable c = true
  /-- The note on enterprise connections is about the connection in use. -/
  enterprise : m.enterprise = m.active.any (·.kind.isEnterprise)
  /-- What was published last is how things are, unless the user is signing in. -/
  settled : (∀ c, m.active = some c → c.state ≠ .authenticating) → m.published = m.snapshot
  /-- While the user is signing in, only the state may be another one. -/
  signingIn : ∀ c, m.active = some c → c.state = .authenticating →
    ∃ state, m.published.connection = some { c with state := state } ∧
      m.published.enterprise = m.snapshot.enterprise

namespace Candid

theorem new (allowKeyBased : Bool) : (new allowKeyBased).Candid :=
  ⟨nofun, rfl, fun _ => rfl, nofun⟩

/-- Right after publishing, the rest follows from what is in use. -/
theorem of_publish (usable : ∀ c, m.active = some c → m.isUsable c = true)
    (enterprise : m.enterprise = m.active.any (·.kind.isEnterprise)) : m.publish.Candid where
  usable := usable
  enterprise := enterprise
  settled _ := rfl
  signingIn c active _ := ⟨c.state, active, rfl⟩

/-- The state of a connection says nothing of its use. -/
theorem move (candid : m.Candid) (state : ConnectionState) (active : m.active = some c)
    (news : c.state ≠ state) : (m.moving c state).Candid := by
  have usable : m.isUsable { c with state := state } = true := candid.usable c active
  have enterprise : m.enterprise = c.kind.isEnterprise := by
    rw [candid.enterprise, active, Option.any_some]
  have inUse : ∀ d, some { c with state := state } = some d → m.isUsable d = true :=
    fun d same => Option.some.inj same ▸ usable
  unfold moving
  dsimp only
  split
  · next signing =>
    -- nothing was kept back before, for the connection was in another state
    subst signing
    have told : m.published = m.snapshot := by
      refine candid.settled fun d active' => ?_
      obtain rfl := Option.some.inj (active.symm.trans active')
      exact news
    refine ⟨inUse, enterprise, fun others => absurd rfl (others _ rfl), fun d same _ => ?_⟩
    obtain rfl := Option.some.inj same
    refine ⟨c.state, ?_, ?_⟩
    · rw [told]
      exact active
    · simp [told, snapshot, active]
  · exact of_publish inUse enterprise

/-- **Every turn keeps it.** -/
theorem turn (candid : m.Candid) (turn : Turn m m') : m'.Candid := by
  cases turn with
  | still => exact candid
  | take c usable => exact of_publish (fun d same => Option.some.inj same ▸ usable) rfl
  | drop c active => exact of_publish nofun rfl
  | move c state active news => exact candid.move state active news

end Candid

/-- Of a connection that serves completions, both tests for having expired say the same. -/
theorem Candid.isExpired (candid : m.Candid) : m.isExpired = m.snapshot.expired := by
  unfold ConnectionManager.isExpired snapshot activeExpired
  cases active : m.active with
  | none => rfl
  | some c => simp [candid.usable c active]

/-- **What a manager tells is so**, after any operations and whatever the credential
store answers to them.

* The connection in use serves completions.
* An enterprise connection is noted, and told, exactly if the connection in use is
  over single sign-on at another start URL than that of a Builder ID.
* The manager's two tests for having expired agree; a connection in use is either
  valid or expired, and without one nothing is either.
* The snapshot published last is the present one, unless the user is signing in.
  Then they agree on whether there is a connection, on the connection but for its
  state, and on whether it is an enterprise connection. -/
theorem manager_is_candid (p : Provider σ) (allowKeyBased : Bool) (s : σ)
    (ops : List Operation) :
    let m := (ConnectionManager.new allowKeyBased).after p s ops
    (∀ c, m.active = some c → c.kind.Serves allowKeyBased) ∧
      (m.enterprise = true ↔ ∃ c startUrl region scopes, m.active = some c ∧
        c.kind = .sso startUrl region scopes ∧ startUrl ≠ builderIdStartUrl) ∧
      m.snapshot.enterprise = m.enterprise ∧
      m.isExpired = m.snapshot.expired ∧
      (m.active.isSome = true → m.snapshot.valid = !m.snapshot.expired) ∧
      (m.active = none → m.snapshot.valid = false ∧ m.snapshot.expired = false) ∧
      ((∀ c, m.active = some c → c.state ≠ .authenticating) → m.published = m.snapshot) ∧
      ∀ c, m.active = some c → c.state = .authenticating →
        ∃ state, m.published.connection = some { c with state := state } ∧
          m.published.enterprise = m.snapshot.enterprise := by
  intro m
  have candid : m.Candid := after_of_turn (fun turn candid => candid.turn turn) (.new _) p s ops
  refine ⟨?_, ?_, ?_, candid.isExpired, ?_, ?_, candid.settled, candid.signingIn⟩
  · intro c active
    have keys : m.allowKeyBased = allowKeyBased := allowKeyBased_after p (.new allowKeyBased) s ops
    rw [← keys]
    exact (isUsable_iff m c).mp (candid.usable c active)
  · simp only [candid.enterprise, Option.any_eq_true, ConnectionKind.isEnterprise_iff,
      exists_and_left]
  · rw [snapshot, candid.enterprise]
    cases m.active <;> rfl
  · intro inUse
    simp [snapshot, inUse]
  · intro none'
    simp [snapshot, activeExpired, none']

/-- While the user is signing in, what was published last lags behind. -/
example (p : Provider σ) (s : σ) :
    let c : Connection := ⟨⟨"keys"⟩, "keys", .iam "default", .expired⟩
    let m := (ConnectionManager.new true).after p s [.use c, .setState c.id .authenticating]
    m.active = some { c with state := .authenticating } ∧ m.published.connection = some c :=
  ⟨rfl, rfl⟩

end ConnectionManager

end InlineCompletion
