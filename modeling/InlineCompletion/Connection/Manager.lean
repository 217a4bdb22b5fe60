import InlineCompletion.Connection.Provider

/-!
# The connection manager

The manager holds the connection in use.  It only ever uses a connection that
serves completions — single sign-on with both scopes, or keys where those are
allowed — and it tells its observers of every change by publishing a snapshot.
While the user is signing in again the state of the connection changes, but
that is nobody's business and nothing is published.

Observers look when they like.  What they can see is the snapshot published
last and how many were published so far; an observer that remembers the number
it saw knows whether there is news.

### Failing leaves no trace

Every operation that can fail answers an `Attempt`, which holds the manager as
it is afterwards.  An operation changes the manager in one place only, where a
usable connection is taken into use, and that is its last step; so whatever
fails before leaves the manager as it was.
-/

namespace InlineCompletion

/-- The connections that an operation can work with. -/
inductive Requirement
  | sso
  | iam
  | ssoOrIam
  deriving DecidableEq, Repr

/-- The wording of a requirement. -/
def Requirement.name : Requirement → String
  | sso => "sso"
  | iam => "iam"
  | ssoOrIam => "sso or iam"

/-- Why an operation of the manager fails. -/
inductive ConnectionError
  | noConnection
  /-- There is a connection, but it is of no use here. -/
  | badConnectionType (expected : Requirement) (actual : SignIn)
  | reauthenticationFailed (source : ProviderError)
  | provider (source : ProviderError)
  deriving DecidableEq, Repr

/-- The wording of a failure. -/
def ConnectionError.message : ConnectionError → String
  | noConnection => "no connection found"
  | badConnectionType expected actual =>
      "connection is not an " ++ expected.name ++ " connection (found " ++ actual.name ++ ")"
  | reauthenticationFailed _ => "unable to authenticate connection"
  | provider source => source.message

/-- The manager of the connection in use. -/
structure ConnectionManager where
  /-- Whether connections with keys may be used. -/
  allowKeyBased : Bool
  /-- The connection in use. -/
  active : Option Connection
  /-- Whether the connection in use was taken as an enterprise connection. -/
  enterprise : Bool
  /-- The snapshot published last. -/
  published : ConnectionSnapshot
  /-- How many snapshots were published. -/
  publications : Nat
  deriving DecidableEq, Repr

/-- What an operation that may fail leads to. -/
structure Attempt (σ α : Type) where
  result : Except ConnectionError α
  manager : ConnectionManager
  /-- The credential store's state afterwards. -/
  provider : σ

namespace ConnectionManager

variable {σ : Type}

/-- A manager that has used no connection yet. -/
def new (allowKeyBased : Bool) : ConnectionManager :=
  ⟨allowKeyBased, none, false, .none, 0⟩

/-! ### Looking -/

/-- Whether the connection in use has the state `expired`. -/
def activeExpired (m : ConnectionManager) : Bool :=
  m.active.any fun c => c.state == .expired

/-- The manager's state as observers are told it. -/
def snapshot (m : ConnectionManager) : ConnectionSnapshot where
  connection := m.active
  valid := m.active.isSome && !m.activeExpired
  expired := m.activeExpired
  enterprise := m.active.isSome && m.enterprise

/-- Whether a connection serves completions as it is. -/
def isUsable (m : ConnectionManager) (c : Connection) : Bool :=
  match c.kind with
  | .sso .. => c.kind.hasScopes completionScopes
  | .iam _ => m.allowKeyBased

/-- Whether any connection is in use. -/
def isConnected (m : ConnectionManager) : Bool := m.active.isSome

/-- Whether the connection in use can be used. -/
def isValid (m : ConnectionManager) : Bool := m.snapshot.valid

/-- Whether the connection in use would serve completions had it not expired. -/
def isExpired (m : ConnectionManager) : Bool :=
  m.active.any fun c => c.state == .expired && m.isUsable c

/-- Whether an enterprise connection is in use. -/
def isEnterprise (m : ConnectionManager) : Bool := m.snapshot.enterprise

/-- The connections this manager takes into use. -/
def accepted (m : ConnectionManager) : Requirement :=
  if m.allowKeyBased then .ssoOrIam else .sso

/-! ### Changing the connection in use -/

/-- Tells the observers how things are. -/
def publish (m : ConnectionManager) : ConnectionManager :=
  { m with published := m.snapshot, publications := m.publications + 1 }

/-- Takes a connection into use, if it serves completions. -/
def use (m : ConnectionManager) (c : Connection) : Except ConnectionError ConnectionManager :=
  if m.isUsable c then
    .ok ({ m with active := some c, enterprise := c.kind.isEnterprise } : ConnectionManager).publish
  else .error (.badConnectionType m.accepted c.kind.signIn)

/-- Uses no connection any more. -/
def disconnect (m : ConnectionManager) : ConnectionManager :=
  match m.active with
  | none => m
  | some _ => ({ m with active := none, enterprise := false } : ConnectionManager).publish

/-- Notes that the connection `id` is in another state; says whether that is the
connection in use and the state is news.  Signing in again is not published. -/
def setState (m : ConnectionManager) (id : ConnectionId) (state : ConnectionState) :
    Bool × ConnectionManager :=
  match m.active with
  | none => (false, m)
  | some c =>
      if c.id = id ∧ c.state ≠ state then
        let m := { m with active := some { c with state := state } }
        (true, if state = .authenticating then m else m.publish)
      else (false, m)

/-! ### Connecting -/

/-- Takes `c` into use as the last step of an operation. -/
def adopt (m : ConnectionManager) (c : Connection) (s : σ) : Attempt σ Connection :=
  match m.use c with
  | .ok used => ⟨.ok c, used, s⟩
  | .error e => ⟨.error e, m, s⟩

/-- Lets the store make a connection for the profile and takes it into use. -/
def adoptNew (p : Provider σ) (m : ConnectionManager) (profile : ConnectionProfile) (s : σ) :
    Attempt σ Connection :=
  match p.create profile s with
  | (.error e, s) => ⟨.error (.provider e), m, s⟩
  | (.ok c, s) => m.adopt c s

/-- The profile for another connection like this one. -/
def profileLike (c : Connection) : Except ConnectionError ConnectionProfile :=
  match c.kind with
  | .sso startUrl region _ =>
      if c.kind.isBuilderId then .ok .builderId else .ok (.enterprise startUrl region)
  | .iam _ => .error (.badConnectionType .sso .iam)

/-- Replaces a stored connection that lacks scopes by a new one like it. -/
def replace (p : Provider σ) (m : ConnectionManager) (old : Connection) (s : σ) :
    Attempt σ Connection :=
  match profileLike old with
  | .error e => ⟨.error e, m, s⟩
  | .ok profile =>
      match p.create profile s with
      | (.error e, s) => ⟨.error (.provider e), m, s⟩
      | (.ok c, s) =>
          match p.delete old.id s with
          | (.error e, s) => ⟨.error (.provider e), m, s⟩
          | (.ok _, s) => m.adopt c s

/-- Connects over single sign-on: the first stored connection that matches is
taken if it is usable and replaced if it is not; without one a new one is made. -/
def connectSso (p : Provider σ) (m : ConnectionManager) (profile : ConnectionProfile)
    (stored : List Connection) (s : σ) : Attempt σ Connection :=
  match stored.find? profile.matches with
  | none => m.adoptNew p profile s
  | some c => if m.isUsable c then m.adopt c s else m.replace p c s

/-- Connects with the keys of a profile, which must be stored already. -/
def connectIam (m : ConnectionManager) (profile : ConnectionProfile)
    (stored : List Connection) (s : σ) : Attempt σ Connection :=
  if !m.allowKeyBased then ⟨.error (.badConnectionType m.accepted .iam), m, s⟩
  else
    match stored.find? profile.matches with
    | none => ⟨.error .noConnection, m, s⟩
    | some c => m.adopt c s

/-- **Connects as the profile asks.** -/
def connect (p : Provider σ) (m : ConnectionManager) (profile : ConnectionProfile) (s : σ) :
    Attempt σ Connection :=
  match p.list s with
  | (.error e, s) => ⟨.error (.provider e), m, s⟩
  | (.ok stored, s) =>
      match profile with
      | .iam _ => m.connectIam profile stored s
      | _ => m.connectSso p profile stored s

/-- Lets the user sign in again over an expired connection; without one there is
nothing to do. -/
def reauthenticate (p : Provider σ) (m : ConnectionManager) (s : σ) : Attempt σ Unit :=
  if !m.isExpired then ⟨.ok (), m, s⟩
  else
    match m.active with
    | none => ⟨.error .noConnection, m, s⟩
    | some c =>
        match p.reauthenticate c.id s with
        | (.error e, s) => ⟨.error (.reauthenticationFailed e), m, s⟩
        | (.ok refreshed, s) =>
            match m.use refreshed with
            | .ok used => ⟨.ok (), used, s⟩
            | .error e => ⟨.error e, m, s⟩

/-! ### Credentials -/

/-- A failure of the store as one of the manager. -/
def ofProvider {α : Type} : Except ProviderError α → Except ConnectionError α
  | .ok a => .ok a
  | .error e => .error (.provider e)

/-- The token of the connection in use. -/
def bearerToken (p : Provider σ) (m : ConnectionManager) (s : σ) :
    Except ConnectionError String × σ :=
  match m.active with
  | none => (.error .noConnection, s)
  | some c =>
      match c.kind with
      | .sso .. => ((ofProvider (p.token c.id s).1), (p.token c.id s).2)
      | .iam _ => (.error (.badConnectionType .sso .iam), s)

/-- The keys of the connection in use. -/
def accessKeys (p : Provider σ) (m : ConnectionManager) (s : σ) :
    Except ConnectionError AccessKeys × σ :=
  match m.active with
  | none => (.error .noConnection, s)
  | some c =>
      match c.kind with
      | .sso .. => (.error (.badConnectionType .iam .sso), s)
      | .iam _ => ((ofProvider (p.keys c.id s).1), (p.keys c.id s).2)

/-- The credential that fits the connection in use.  Which connection that is, is looked
at twice, once for its kind and once for the credential; nothing else uses the manager in
between, so both times it is the same. -/
def credential (p : Provider σ) (m : ConnectionManager) (s : σ) :
    Except ConnectionError Credential × σ :=
  match m.active with
  | none => (.error .noConnection, s)
  | some c =>
      match c.kind with
      | .sso .. => ((m.bearerToken p s).1.map .bearerToken, (m.bearerToken p s).2)
      | .iam _ => ((m.accessKeys p s).1.map .keys, (m.accessKeys p s).2)

@[simp] theorem publish_active (m : ConnectionManager) : m.publish.active = m.active := rfl

@[simp] theorem publish_published (m : ConnectionManager) :
    m.publish.published = m.publish.snapshot := rfl

theorem use_error_iff (m : ConnectionManager) (c : Connection) (e : ConnectionError) :
    m.use c = .error e ↔
      m.isUsable c = false ∧ e = .badConnectionType m.accepted c.kind.signIn := by
  unfold use
  by_cases h : m.isUsable c <;> simp [h, eq_comm]

end ConnectionManager

end InlineCompletion
