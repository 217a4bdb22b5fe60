import InlineCompletion.Request.Service

/-!
# The surroundings of a playback

A playback needs no network.  Its credential store keeps single sign-on
connections in memory, numbers them, and grants every one both scopes; its
completion service answers each request at once with the next of the answers
that the script has given, and with nothing when there is none.

What the service was asked is remembered, so that one can speak about it.
-/

namespace InlineCompletion.Playback

/-- The state of the credential store and of the completion service. -/
structure Backend where
  /-- The stored connections. -/
  connections : List Connection
  /-- The number of the next connection. -/
  nextId : Nat
  /-- The answers that were given and not used yet, the oldest first. -/
  replies : List (List Suggestion)
  /-- The requests that were answered, the oldest first. -/
  requests : List Request
  deriving DecidableEq, Repr

namespace Backend

/-- Nothing stored and nothing to answer. -/
def empty : Backend := ⟨[], 0, [], []⟩

/-- The next connection, for a start URL and a region. -/
def newConnection (b : Backend) (startUrl region : String) : Connection :=
  ⟨⟨"local-" ++ toString b.nextId⟩, startUrl, .sso startUrl region completionScopes, .valid⟩

/-- Makes and stores a connection. -/
def create (profile : ConnectionProfile) (b : Backend) :
    Except ProviderError Connection × Backend :=
  let store (c : Connection) : Except ProviderError Connection × Backend :=
    (.ok c, { b with connections := b.connections ++ [c], nextId := b.nextId + 1 })
  match profile with
  | .builderId => store (b.newConnection builderIdStartUrl builderIdRegion)
  | .enterprise startUrl region => store (b.newConnection startUrl region)
  | .iam profile => (.error (.profileNotFound profile), b)

/-- The connections, with the first one of this identifier valid again. -/
def renew (id : ConnectionId) : List Connection → List Connection
  | [] => []
  | c :: rest => if c.id = id then { c with state := .valid } :: rest else c :: renew id rest

/-- Lets the user sign in again. -/
def reauthenticate (id : ConnectionId) (b : Backend) :
    Except ProviderError Connection × Backend :=
  match b.connections.find? fun c => c.id == id with
  | none => (.error (.notFound id), b)
  | some c =>
      (.ok { c with state := .valid }, { b with connections := renew id b.connections })

/-- The credential store. -/
def provider : Provider Backend where
  list b := (.ok b.connections, b)
  create := create
  delete id b := (.ok (), { b with connections := b.connections.filter fun c => c.id != id })
  reauthenticate := reauthenticate
  token id b := (.ok ("local-token-" ++ id.text), b)
  keys id b := (.error (.profileNotFound id.text), b)

/-- The completion service. -/
def service : CompletionService Backend where
  generate request _ b :=
    let (response, rest) := match b.replies with
      | [] => ([], [])
      | response :: rest => (response, rest)
    (⟨0, .ok response⟩, { b with replies := rest, requests := b.requests ++ [request] })

/-- Gives the service one more answer. -/
def respond (b : Backend) (response : List Suggestion) : Backend :=
  { b with replies := b.replies ++ [response] }

end Backend

end InlineCompletion.Playback
