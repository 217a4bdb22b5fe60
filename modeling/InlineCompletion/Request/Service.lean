import InlineCompletion.Connection.Manager
import InlineCompletion.Request
import InlineCompletion.Suggestion

/-!
# Asking the completion service

A request is sent with the credential that fits the connection in use, is given
up when the answer takes longer than allowed, and has suggestions with code
references taken out of its answer where the user does not want them.

The service is a `CompletionService`: it answers a request with a `Reply`, which
says what is answered and after how long.  Time is part of the reply and not of
a clock.

Whether a reply is waited for to its end, or given up, is decided by a `Timer`.
It is no more a part of the library than the service is, so asking takes whatever
timer there is; what a timer has to be like for requests to fail for want of time
exactly where a reply takes longer than allowed is said where that is proved.
-/

namespace InlineCompletion

/-- A failure of the completion service. -/
inductive ServiceError
  | timeout
  | throttled
  | service (reason : String)
  deriving DecidableEq, Repr

/-- The wording of a failure. -/
def ServiceError.message : ServiceError → String
  | timeout => "request timed out"
  | throttled => "request throttled"
  | service reason => "service error: " ++ reason

/-- An answer of the completion service, and how long it takes. -/
structure Reply where
  /-- How long the answer is waited for, if nothing ends the waiting before. -/
  delay : Duration
  result : Except ServiceError (List Suggestion)

/-- What ends the waiting for a reply. -/
structure Timer where
  /-- Whether a reply is given up when it may take no longer than is allowed. -/
  expires (allowed : Duration) (reply : Reply) : Bool

/-- The timer that gives up what takes longer than allowed, and nothing else. -/
def Timer.punctual : Timer where
  expires allowed reply := allowed < reply.delay

/-- A completion service with states in `σ`. -/
structure CompletionService (σ : Type) where
  /-- Answers a request. -/
  generate : Request → Credential → σ → Reply × σ
  /-- What ends the waiting for its replies. -/
  timer : Timer := .punctual

/-- Why asking for suggestions fails. -/
inductive RequestError
  | noConnection
  | badConnectionType (expected : Requirement) (actual : SignIn)
  | requestFailed (reason : String)
  deriving DecidableEq, Repr

namespace RequestError

/-- The wording of a failure. -/
def message : RequestError → String
  | noConnection => "no connection found"
  | badConnectionType expected actual =>
      "connection is not an " ++ expected.name ++ " connection (found " ++ actual.name ++ ")"
  | requestFailed reason => "completion request failed: " ++ reason

/-- A failure of the manager as a failure to ask. -/
def ofConnection : ConnectionError → RequestError
  | .noConnection => noConnection
  | .badConnectionType expected actual => badConnectionType expected actual
  | e => requestFailed e.message

/-- A failure of the service as a failure to ask. -/
def ofService (e : ServiceError) : RequestError := requestFailed e.message

end RequestError

/-- What the settings say about a single request. -/
structure RequestPolicy where
  /-- How long an answer is waited for. -/
  timeout : Duration
  /-- Whether suggestions with code references are wanted. -/
  includeReferences : Bool
  deriving DecidableEq, Repr

/-- What the settings say about a request made now. -/
def RequestPolicy.ofSettings (s : Settings) : RequestPolicy :=
  ⟨s.requestTimeout, s.includeSuggestionsWithReferences⟩

/-- The answer as it stands once the waiting is over. -/
def Reply.within (r : Reply) (t : Timer) (allowed : Duration) :
    Except ServiceError (List Suggestion) :=
  if t.expires allowed r then .error .timeout else r.result

/-- The suggestions that are wanted. -/
def RequestPolicy.wanted (o : RequestPolicy) (response : List Suggestion) : List Suggestion :=
  if o.includeReferences then response else response.filter fun s => !s.hasReferences

/-- **Asks for suggestions**: looks up the credential, sends the request if there
is one, waits no longer than allowed, and keeps the suggestions that are wanted.
The credential store and the service are parts of the same outside world, whose
state is `σ`. -/
def askForSuggestions {σ : Type} (p : Provider σ) (c : CompletionService σ)
    (m : ConnectionManager) (request : Request) (options : RequestPolicy) (s : σ) :
    Except RequestError (List Suggestion) × σ :=
  match m.credential p s with
  | (.error e, s) => (.error (.ofConnection e), s)
  | (.ok credential, s) =>
      let (reply, s) := c.generate request credential s
      match reply.within c.timer options.timeout with
      | .error e => (.error (.ofService e), s)
      | .ok response => (.ok (options.wanted response), s)

@[simp] theorem RequestPolicy.wanted_nil (o : RequestPolicy) : o.wanted [] = [] := by
  simp [wanted]

end InlineCompletion
