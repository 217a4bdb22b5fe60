/-!
# Connections to the completion service

A connection is how a user is known to the service.  There are two kinds: a
single sign-on connection, which yields a bearer token and was granted a list
of scopes, and a connection with keys, which names a profile.

One start URL is special: signing in there needs no organisation, and such a
connection is a *Builder ID*.  Every other single sign-on connection is an
enterprise connection.

The controller needs only four facts about the connection in use,
`ConnectionStatus`; the connection itself stays with its manager, which tells
the world about it in `ConnectionSnapshot`s.
-/

namespace InlineCompletion

/-- The credential store's identifier of a connection. -/
structure ConnectionId where
  /-- The identifier's text. -/
  text : String
  deriving DecidableEq, Repr

/-- The start URL of a Builder ID. -/
def builderIdStartUrl : String := "https://view.awsapps.com/start"

/-- The region a Builder ID belongs to, and the region taken where none is given. -/
def builderIdRegion : String := "us-east-1"

/-- The scopes a single sign-on connection needs to be of use for completions. -/
def completionScopes : List String := ["codewhisperer:completions", "codewhisperer:analysis"]

/-- How a connection signs in, by name. -/
inductive SignIn
  | sso
  | iam
  deriving DecidableEq, Repr

/-- The name of a way to sign in. -/
def SignIn.name : SignIn → String
  | sso => "sso"
  | iam => "iam"

/-- How a connection signs in, with what that takes. -/
inductive ConnectionKind
  /-- Single sign-on: yields a token. -/
  | sso (startUrl region : String) (scopes : List String)
  /-- Keys of a profile. -/
  | iam (profile : String)
  deriving DecidableEq, Repr

namespace ConnectionKind

/-- How a connection of this kind signs in. -/
def signIn : ConnectionKind → SignIn
  | sso .. => .sso
  | iam .. => .iam

/-- Whether this is single sign-on at the Builder ID start URL. -/
def isBuilderId : ConnectionKind → Bool
  | sso startUrl _ _ => startUrl == builderIdStartUrl
  | iam _ => false

/-- Whether this is single sign-on at any other start URL. -/
def isEnterprise : ConnectionKind → Bool
  | sso startUrl _ _ => startUrl != builderIdStartUrl
  | iam _ => false

/-- Whether every one of the scopes was granted; keys are granted none. -/
def hasScopes (required : List String) : ConnectionKind → Bool
  | sso _ _ scopes => required.all fun scope => scopes.contains scope
  | iam _ => false

end ConnectionKind

/-- The state a connection is in. -/
inductive ConnectionState
  | valid
  | expired
  /-- The user is signing in again at this moment. -/
  | authenticating
  | unknown
  deriving DecidableEq, Repr

/-- A connection. -/
structure Connection where
  id : ConnectionId
  label : String
  kind : ConnectionKind
  state : ConnectionState
  deriving DecidableEq, Repr

/-- What a user asks to be connected with. -/
inductive ConnectionProfile
  | builderId
  | enterprise (startUrl region : String)
  | iam (profile : String)
  deriving DecidableEq, Repr

/-- The letter `A` to `Z` made small, every other character as it is. -/
def lowerAscii (c : Char) : Char :=
  if 'A' ≤ c ∧ c ≤ 'Z' then Char.ofNat (c.toNat + 32) else c

/-- Whether two texts agree when the case of the letters `A` to `Z` is not looked at. -/
def sameIgnoringAsciiCase (a b : String) : Bool :=
  a.toList.map lowerAscii == b.toList.map lowerAscii

/-- Whether a stored connection is one that the profile asks for. -/
def ConnectionProfile.matches : ConnectionProfile → Connection → Bool
  | builderId, c => c.kind.isBuilderId
  | enterprise startUrl _, c =>
      match c.kind with
      | .sso url _ _ => sameIgnoringAsciiCase url startUrl
      | .iam _ => false
  | iam profile, c =>
      match c.kind with
      | .sso .. => false
      | .iam p => p == profile

/-- The keys of a profile. -/
structure AccessKeys where
  accessKeyId : String
  secretAccessKey : String
  sessionToken : Option String
  deriving DecidableEq, Repr

/-- What is shown to the service to prove who asks. -/
inductive Credential
  | bearerToken (token : String)
  | keys (keys : AccessKeys)
  deriving DecidableEq, Repr

/-- What a connection manager tells its observers. -/
structure ConnectionSnapshot where
  connection : Option Connection
  valid : Bool
  expired : Bool
  enterprise : Bool
  deriving DecidableEq, Repr

/-- Nothing is connected. -/
def ConnectionSnapshot.none : ConnectionSnapshot := ⟨Option.none, false, false, false⟩

/-- The four facts about the connection in use that decide whether a request may be sent. -/
structure ConnectionStatus where
  connected : Bool
  valid : Bool
  expired : Bool
  enterprise : Bool
  deriving DecidableEq, Repr

namespace ConnectionStatus

/-- Nothing is connected. -/
def none : ConnectionStatus := ⟨false, false, false, false⟩

/-- The facts that a manager's snapshot states. -/
def ofSnapshot (s : ConnectionSnapshot) : ConnectionStatus :=
  ⟨s.connection.isSome, s.valid, s.expired, s.enterprise⟩

@[simp] theorem ofSnapshot_none : ofSnapshot .none = none := rfl

end ConnectionStatus

/-- What a user may be asked to do about the connection. -/
inductive Prompt
  /-- There is no connection: sign in. -/
  | connect
  /-- The connection has expired: sign in again. -/
  | reauthenticate
  deriving DecidableEq, Repr

/-- The prompt's name. -/
def Prompt.name : Prompt → String
  | connect => "Connect"
  | reauthenticate => "Reauthenticate"

end InlineCompletion
