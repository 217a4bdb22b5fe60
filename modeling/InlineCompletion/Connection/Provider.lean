import InlineCompletion.Connection

/-!
# Credential providers

Connections are kept, made and renewed by a credential store that belongs to
the host.  The library sees it as a `Provider`: six operations, each of which
may fail, and each of which may leave the store in another state.  Nothing is
assumed of their answers; a statement about all providers is one about every
sequence of answers that a credential store could give.

`Provider.recorded` is the same store with a record of what was asked of it,
which is how "the store is not asked to create a connection" is said.
-/

namespace InlineCompletion

/-- A failure of the credential store. -/
inductive ProviderError
  | notFound (id : ConnectionId)
  | profileNotFound (profile : String)
  | failed (reason : String)
  deriving DecidableEq, Repr

/-- The wording of a failure. -/
def ProviderError.message : ProviderError → String
  | notFound id => "connection not found: " ++ id.text
  | profileNotFound profile => "profile not found: " ++ profile
  | failed reason => reason

/-- A credential store with states in `σ`. -/
structure Provider (σ : Type) where
  /-- The stored connections. -/
  list : σ → Except ProviderError (List Connection) × σ
  /-- Makes and stores a connection for a profile. -/
  create : ConnectionProfile → σ → Except ProviderError Connection × σ
  /-- Removes a stored connection. -/
  delete : ConnectionId → σ → Except ProviderError Unit × σ
  /-- Lets the user sign in again. -/
  reauthenticate : ConnectionId → σ → Except ProviderError Connection × σ
  /-- The bearer token of a single sign-on connection. -/
  token : ConnectionId → σ → Except ProviderError String × σ
  /-- The keys of a connection with keys. -/
  keys : ConnectionId → σ → Except ProviderError AccessKeys × σ

/-- Something asked of a credential store. -/
inductive ProviderCall
  | list
  | create (profile : ConnectionProfile)
  | delete (id : ConnectionId)
  | reauthenticate (id : ConnectionId)
  | token (id : ConnectionId)
  | keys (id : ConnectionId)
  deriving DecidableEq, Repr

namespace Provider

variable {σ : Type}

/-- Carries out one operation on the store and adds its call to the record. -/
def record {α : Type} (call : ProviderCall) (operation : σ → Except ProviderError α × σ)
    (s : σ × List ProviderCall) : Except ProviderError α × (σ × List ProviderCall) :=
  let (answer, store) := operation s.1
  (answer, store, s.2 ++ [call])

/-- The same credential store, with the calls made so far beside its state. -/
def recorded (p : Provider σ) : Provider (σ × List ProviderCall) where
  list := record .list p.list
  create profile := record (.create profile) (p.create profile)
  delete id := record (.delete id) (p.delete id)
  reauthenticate id := record (.reauthenticate id) (p.reauthenticate id)
  token id := record (.token id) (p.token id)
  keys id := record (.keys id) (p.keys id)

@[simp] theorem record_fst {α : Type} (call : ProviderCall)
    (operation : σ → Except ProviderError α × σ) (s : σ × List ProviderCall) :
    (record call operation s).1 = (operation s.1).1 := rfl

@[simp] theorem record_calls {α : Type} (call : ProviderCall)
    (operation : σ → Except ProviderError α × σ) (s : σ × List ProviderCall) :
    (record call operation s).2.2 = s.2 ++ [call] := rfl

end Provider

end InlineCompletion
