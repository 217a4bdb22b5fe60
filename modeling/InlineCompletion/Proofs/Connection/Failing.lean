import InlineCompletion.Proofs.Connection.Replacing
import InlineCompletion.Proofs.Connection.Telling

/-!
# Failing leaves no trace

Six things are asked of a manager that can fail (`Undertaking`): to connect, to take a
connection into use, to let the user sign in again, and three ways to look up a
credential.  They fail for many reasons: the manager refuses before it asks the store
anything, or one of up to three calls fails, or what the store made or renewed turns out
to be of no use.  **However one of them fails, the manager is as it was**: the same
connection is in use, it is noted and told in the same way, and nothing was published.

What makes it so is that a manager changes in one place only, at the very end, where a
connection that was found usable is taken into use (`Attempt.Ends`).  The store is another
matter.  It may be left changed by an attempt that fails, and a connection may even be lost
to it.

Signing in again is asked of the store only over a connection that has expired and would
serve completions otherwise, and that is what `isExpired` says.
-/

namespace InlineCompletion

variable {σ : Type}

/-- An attempt that fails had no effect on the manager. -/
theorem Attempt.Ends.manager_of_error {α : Type} {m : ConnectionManager} {a : Attempt σ α}
    {e : ConnectionError} (ends : a.Ends m) (failed : a.result = .error e) : a.manager = m := by
  cases ends with
  | failed _ _ same => exact same
  | took c answer result usable taken => rw [result] at failed; cases failed

namespace ConnectionManager

variable {p : Provider σ} {m : ConnectionManager} {s : σ} {c : Connection}

/-! ## Whatever is undertaken -/

/-- **What is asked of a manager and can fail.** -/
inductive Undertaking
  | connect (profile : ConnectionProfile)
  | use (c : Connection)
  | reauthenticate
  | bearerToken
  | accessKeys
  | credential
  deriving DecidableEq, Repr

/-- How something ends, without what it finds.  A look-up leaves the manager alone. -/
def lookedUp {α : Type} (m : ConnectionManager) (found : Except ConnectionError α × σ) :
    Attempt σ Unit :=
  ⟨found.1.map fun _ => (), m, found.2⟩

/-- How an undertaking ends, without what it finds. -/
def undertake (p : Provider σ) (m : ConnectionManager) (s : σ) : Undertaking → Attempt σ Unit
  | .connect profile =>
      let a := m.connect p profile s
      ⟨a.result.map fun _ => (), a.manager, a.provider⟩
  | .use c =>
      match m.use c with
      | .ok used => ⟨.ok (), used, s⟩
      | .error e => ⟨.error e, m, s⟩
  | .reauthenticate => m.reauthenticate p s
  | .bearerToken => m.lookedUp (m.bearerToken p s)
  | .accessKeys => m.lookedUp (m.accessKeys p s)
  | .credential => m.lookedUp (m.credential p s)

/-- **An undertaking that fails leaves the manager as it was.** -/
theorem manager_of_undertake_error {task : Undertaking} {e : ConnectionError}
    (failed : (m.undertake p s task).result = .error e) :
    (m.undertake p s task).manager = m := by
  cases task with
  | connect profile =>
      cases result : (m.connect p profile s).result with
      | error e' => exact (ends_connect p m profile s).manager_of_error result
      | ok c => simp [undertake, result, Except.map] at failed
  | use c =>
      cases usable : m.isUsable c with
      | true => simp [undertake, use_of_usable usable] at failed
      | false => simp [undertake, use_of_not_usable usable]
  | reauthenticate =>
      obtain ⟨-, nothing⟩ | ⟨-, ends⟩ := reauthenticate_cases p m s
      · rw [undertake, nothing] at failed
        cases failed
      · exact ends.manager_of_error failed
  | bearerToken | accessKeys | credential => rfl

/-! ## Signing in again -/

/-- A connection has expired if that is its state and it would serve completions. -/
theorem isExpired_iff (m : ConnectionManager) :
    m.isExpired = true ↔
      ∃ c, m.active = some c ∧ c.state = .expired ∧ c.kind.Serves m.allowKeyBased := by
  simp [isExpired, Option.any_eq_true, isUsable_iff]

/-- Over a connection that has expired, the store is asked to let the user sign in, and
whatever it answers it is asked nothing more. -/
theorem reauthenticate_provider (active : m.active = some c) (expired : m.isExpired = true) :
    (m.reauthenticate p s).provider = (p.reauthenticate c.id s).2 := by
  rw [reauthenticate_of_expired active expired]
  cases (p.reauthenticate c.id s).1 with
  | error e => rfl
  | ok refreshed => dsimp only; split <;> rfl

/-- **Failing leaves no trace.**  Whatever the manager and the store are like:

* an undertaking that fails leaves the manager as it was, with what is in use, what is noted
  and told about it, and the number of snapshots published;
* if the connection in use has expired and would serve completions otherwise, then to let
  the user sign in again is asked of the store, once, and nothing else is;
* if not, signing in again succeeds with no change, and nothing is asked.

What the store is asked is read off its record, and keeping one changes nothing else. -/
theorem failing_leaves_no_trace (p : Provider σ) (m : ConnectionManager) (s : σ) :
    (∀ task e, (m.undertake p s task).result = .error e → (m.undertake p s task).manager = m) ∧
      let a := m.reauthenticate p.recorded (s, [])
      a.unrecorded = m.reauthenticate p s ∧
      (∀ c, m.active = some c → c.state = .expired → c.kind.Serves m.allowKeyBased →
        a.provider.2 = [.reauthenticate c.id]) ∧
      ((¬∃ c, m.active = some c ∧ c.state = .expired ∧ c.kind.Serves m.allowKeyBased) →
        a = ⟨.ok (), m, s, []⟩) := by
  refine ⟨fun task e => manager_of_undertake_error, reauthenticate_unrecorded p m (s, []),
    fun c active state serves => ?_, fun none => ?_⟩
  · have expired := (isExpired_iff m).mpr ⟨c, active, state, serves⟩
    exact congrArg Prod.snd (reauthenticate_provider (p := p.recorded) active expired)
  · obtain ⟨-, nothing⟩ | ⟨expired, -⟩ := reauthenticate_cases p.recorded m (s, [])
    · exact nothing
    · exact absurd ((isExpired_iff m).mp expired) none

/-- The store makes a connection and deletes the one that it replaces, and only then is the
new one refused.  The manager has the connection in use that it had. -/
theorem failing_leaves_no_trace_refused :
    let useless := signedOn "old" "https://corp.example/start" []
    let inUse := signedOn "own" builderIdStartUrl completionScopes
    let p := Provider.granting ["sso:account:access"]
    let m := (new false).taking inUse
    let a := m.undertake p [inUse, useless] (.connect companyProfile)
    a.result = .error (.badConnectionType .sso .sso) ∧ useless ∉ a.provider ∧
      a.manager = m ∧ m.active = some inUse ∧ m.publications = 1 := by
  intro useless inUse p m a
  have refused : a.result = .error (.badConnectionType .sso .sso) := by rfl
  obtain ⟨same, -⟩ := failing_leaves_no_trace p m [inUse, useless]
  exact ⟨refused, by decide, same _ _ refused, rfl, rfl⟩

end ConnectionManager

end InlineCompletion
