import InlineCompletion.Playback.Backend
import InlineCompletion.Proofs.Connection.Turns

/-!
# Which connection is reused

Over single sign-on, connecting looks at **the first stored connection that the profile
asks for** and at no other.  If it has the scopes for completions it is taken into use; if
it lacks one, another one like it is made and it is deleted; and if there is none, one is
made.  These are the three equations for `connectSso` below.

So a connection that could be used as it is may be passed over: one that matches as well,
lacks a scope and comes before it in the store's list is replaced instead
(`useless_connection_hides_usable`).  What is true is that connecting reuses a stored
connection exactly if the first that matches has the scopes
(`connect_reuses_iff_first_usable`).

What the store is asked is read off its record (`Provider.recorded`).  The store is
arbitrary otherwise: nothing here depends on what it answers to the other calls.
-/

namespace InlineCompletion

/-- A call that makes or removes a stored connection. -/
def ProviderCall.changesStore : ProviderCall → Bool
  | create _ | delete _ => true
  | list | reauthenticate _ | token _ | keys _ => false

namespace ConnectionProfile

/-- **What a profile asks for.**  The case of letters counts in the start URL of a Builder
ID, and not in that of an enterprise connection. -/
def AsksFor : ConnectionProfile → ConnectionKind → Prop
  | builderId, kind => ∃ region scopes, kind = .sso builderIdStartUrl region scopes
  | enterprise startUrl _, kind =>
      ∃ url region scopes, kind = .sso url region scopes ∧ sameIgnoringAsciiCase url startUrl = true
  | iam profile, kind => kind = .iam profile

theorem matches_iff (profile : ConnectionProfile) (c : Connection) :
    profile.matches c = true ↔ profile.AsksFor c.kind := by
  cases profile <;> cases kind : c.kind <;>
    simp [ConnectionProfile.matches, AsksFor, ConnectionKind.isBuilderId, kind]

/-- What a profile for single sign-on asks for are connections over single sign-on. -/
theorem signIn_of_matches {profile : ConnectionProfile} {c : Connection}
    (sso : ∀ name, profile ≠ .iam name) (asked : profile.matches c = true) :
    c.kind.signIn = .sso := by
  cases kind : c.kind with
  | sso startUrl region scopes => rfl
  | iam keys =>
      cases profile with
      | builderId | enterprise =>
          simp [ConnectionProfile.matches, kind, ConnectionKind.isBuilderId] at asked
      | iam name => exact absurd rfl (sso name)

/-- The profile for signing on at a start URL. -/
def signOn (startUrl region : String) : ConnectionProfile :=
  if startUrl = builderIdStartUrl then builderId else enterprise startUrl region

end ConnectionProfile

/-- **Connecting reuses a stored connection**: it takes one that the profile asks for and
that has the scopes for completions, and asks the store to make or remove none. -/
structure Attempt.Reuses {σ : Type} (a : Attempt (σ × List ProviderCall) Connection)
    (profile : ConnectionProfile) (stored : List Connection) : Prop where
  taken : ∃ c ∈ stored, profile.matches c = true ∧
    c.kind.hasScopes completionScopes = true ∧ a.result = .ok c
  untouched : ∀ call ∈ a.provider.2, call.changesStore = false

namespace ConnectionManager

open Playback (Backend)

variable {σ : Type} {p : Provider σ} {m : ConnectionManager} {profile : ConnectionProfile}
variable {stored : List Connection} {s : σ} {c : Connection}

/-- Over single sign-on it is the scopes that make a connection usable. -/
theorem isUsable_of_sso (sso : c.kind.signIn = .sso) :
    m.isUsable c = c.kind.hasScopes completionScopes := by
  unfold isUsable
  cases kind : c.kind with
  | sso => rfl
  | iam keys => rw [kind] at sso; cases sso

theorem isUsable_of_iam {name : String} (keyed : c.kind = .iam name) :
    m.isUsable c = m.allowKeyBased := by
  rw [isUsable, keyed]

/-! ## The first that matches -/

theorem connectSso_of_none (missing : stored.find? profile.matches = none) :
    m.connectSso p profile stored s = m.adoptNew p profile s := by
  rw [connectSso, missing]

theorem connectSso_of_usable (first : stored.find? profile.matches = some c)
    (usable : m.isUsable c = true) :
    m.connectSso p profile stored s = ⟨.ok c, m.taking c, s⟩ := by
  rw [connectSso, first]
  simp only [usable, if_true, adopt_of_usable]

theorem connectSso_of_useless (first : stored.find? profile.matches = some c)
    (useless : m.isUsable c = false) :
    m.connectSso p profile stored s = m.replace p c s := by
  rw [connectSso, first]
  simp only [useless, Bool.false_eq_true, if_false]

/-- The first stored connection that is asked for is taken into use if it is usable. -/
theorem connect_of_first (listed : (p.list s).1 = .ok stored)
    (first : stored.find? profile.matches = some c) (usable : m.isUsable c = true) :
    m.connect p profile s = ⟨.ok c, m.taking c, (p.list s).2⟩ := by
  obtain ⟨name, rfl⟩ | sso := profile.iam_or_sso
  · have keyed := (ConnectionProfile.matches_iff (.iam name) c).mp (List.find?_some first)
    have allowed : m.allowKeyBased = true := (isUsable_of_iam keyed).symm.trans usable
    rw [connect_of_iam listed]
    simp [connectIam, allowed, first, adopt_of_usable usable]
  · rw [connect_of_sso sso listed, connectSso_of_usable first usable]

/-- If the first that matches has the scopes, connecting takes it into use. -/
theorem connect_of_first_usable (sso : ∀ name, profile ≠ .iam name)
    (listed : (p.list s).1 = .ok stored) (first : stored.find? profile.matches = some c)
    (granted : c.kind.hasScopes completionScopes = true) :
    m.connect p profile s = ⟨.ok c, m.taking c, (p.list s).2⟩ := by
  have signed := ConnectionProfile.signIn_of_matches sso (List.find?_some first)
  exact connect_of_first listed first ((isUsable_of_sso signed).trans granted)

/-- If the first that matches lacks a scope, connecting replaces it. -/
theorem connect_of_first_lacking (sso : ∀ name, profile ≠ .iam name)
    (listed : (p.list s).1 = .ok stored) (first : stored.find? profile.matches = some c)
    (lacking : c.kind.hasScopes completionScopes = false) :
    m.connect p profile s = m.replace p c (p.list s).2 := by
  have signed := ConnectionProfile.signIn_of_matches sso (List.find?_some first)
  rw [connect_of_sso sso listed,
    connectSso_of_useless first ((isUsable_of_sso signed).trans lacking)]

/-! ## Making and replacing -/

/-- The profile for another connection like one over single sign-on is the one for signing
on at its start URL. -/
theorem profileLike_of_sso {startUrl region : String} {scopes : List String}
    (kind : c.kind = .sso startUrl region scopes) :
    profileLike c = .ok (.signOn startUrl region) := by
  unfold profileLike ConnectionProfile.signOn
  rw [kind]
  by_cases same : startUrl = builderIdStartUrl <;> simp [ConnectionKind.isBuilderId, same]

/-- There is a profile like every connection over single sign-on. -/
theorem exists_profileLike (sso : c.kind.signIn = .sso) : ∃ again, profileLike c = .ok again := by
  cases kind : c.kind with
  | sso startUrl region scopes => exact ⟨_, profileLike_of_sso kind⟩
  | iam keys => rw [kind] at sso; cases sso

/-- **Replacing asks the store** to make another connection, and then, if it has, to
delete the old one. -/
theorem replace_calls {old : Connection} {again : ConnectionProfile}
    (like : profileLike old = .ok again) (s : σ) (calls : List ProviderCall) :
    let asked := (m.replace p.recorded old (s, calls)).provider.2
    asked = calls ++ [.create again] ∨ asked = calls ++ [.create again, .delete old.id] := by
  rw [replace_eq like]
  cases (p.recorded.create again (s, calls)).1 with
  | error e => exact .inl rfl
  | ok new =>
      refine .inr ?_
      cases (p.recorded.delete old.id (p.recorded.create again (s, calls)).2).1 with
      | error e => exact List.append_assoc ..
      | ok _ =>
          simp only [adopt_provider]
          exact List.append_assoc ..

/-- **A stored connection is reused exactly if the first that matches has the scopes.**
Let the profile be one for single sign-on and the store answer what it has stored.

* If the first stored connection that the profile asks for has the scopes for completions,
  connecting takes it into use and asks the store for nothing but the list.
* If that one lacks a scope, the store is asked to make another like it, whatever else is
  stored.
* So connecting reuses a stored connection exactly in the first case. -/
theorem connect_reuses_iff_first_usable (p : Provider σ) (m : ConnectionManager)
    (sso : ∀ name, profile ≠ .iam name) (listed : (p.list s).1 = .ok stored) :
    let a := m.connect p.recorded profile (s, [])
    (a.Reuses profile stored ↔ ∃ c, stored.find? profile.matches = some c ∧
        c.kind.hasScopes completionScopes = true) ∧
      ∀ c, stored.find? profile.matches = some c →
        (c.kind.hasScopes completionScopes = true →
          a = ⟨.ok c, m.taking c, (p.list s).2, [.list]⟩) ∧
        (c.kind.hasScopes completionScopes = false →
          ∃ again, profileLike c = .ok again ∧ [.list, .create again] <+: a.provider.2) := by
  intro a
  have reuse {c : Connection} (first : stored.find? profile.matches = some c)
      (granted : c.kind.hasScopes completionScopes = true) :
      a = ⟨.ok c, m.taking c, (p.list s).2, [.list]⟩ :=
    connect_of_first_usable (p := p.recorded) sso listed first granted
  have renew {c : Connection} (first : stored.find? profile.matches = some c)
      (lacking : c.kind.hasScopes completionScopes = false) :
      ∃ again, profileLike c = .ok again ∧ [.list, .create again] <+: a.provider.2 := by
    have replaces : a = m.replace p.recorded c ((p.list s).2, [.list]) :=
      connect_of_first_lacking (p := p.recorded) sso listed first lacking
    have signed := ConnectionProfile.signIn_of_matches sso (List.find?_some first)
    obtain ⟨again, like⟩ := exists_profileLike signed
    refine ⟨again, like, ?_⟩
    rw [replaces]
    obtain asked | asked := replace_calls (p := p) (m := m) like (p.list s).2 [.list] <;> rw [asked]
    · exact ⟨[], rfl⟩
    · exact ⟨[.delete c.id], rfl⟩
  refine ⟨⟨fun reuses => ?_, ?_⟩, fun c first => ⟨reuse first, renew first⟩⟩
  · obtain ⟨c, member, asked, -, -⟩ := reuses.taken
    obtain ⟨d, first⟩ := Option.isSome_iff_exists.mp (List.find?_isSome.mpr ⟨c, member, asked⟩)
    cases granted : d.kind.hasScopes completionScopes with
    | true => exact ⟨d, first, granted⟩
    | false =>
        obtain ⟨again, -, began⟩ := renew first granted
        have made : ProviderCall.create again ∈ a.provider.2 := began.subset (by simp)
        cases reuses.untouched _ made
  · rintro ⟨c, first, granted⟩
    rw [reuse first granted]
    refine ⟨⟨c, List.mem_of_find?_eq_some first, List.find?_some first, granted, rfl⟩, ?_⟩
    intro call asked
    rw [List.mem_singleton.mp asked]
    rfl

/-- A connection over single sign-on, with these scopes. -/
def signedOn (id startUrl : String) (scopes : List String) : Connection :=
  ⟨⟨id⟩, id, .sso startUrl builderIdRegion scopes, .valid⟩

/-- A profile for the start URL of a company. -/
def companyProfile : ConnectionProfile := .enterprise "https://corp.example/start" "eu-west-1"

/-- Two connections match, one of them by other letters of the start URL. -/
def companyConnections : List Connection :=
  [signedOn "own" builderIdStartUrl [],
    signedOn "work" "https://Corp.example/start" completionScopes,
    signedOn "old" "https://corp.example/start" []]

/-- The first of the two has the scopes, and is reused. -/
theorem connect_reuses_iff_first_usable_company :
    let a := (ConnectionManager.new false).connect Backend.provider.recorded companyProfile
      ({ Backend.empty with connections := companyConnections }, [])
    a.Reuses companyProfile companyConnections ∧ a.provider.2 = [.list] := by
  intro a
  have first : companyConnections.find? companyProfile.matches =
      some (signedOn "work" "https://Corp.example/start" completionScopes) := by decide
  have sso : ∀ name, companyProfile ≠ .iam name := by simp [companyProfile]
  obtain ⟨law, ways⟩ :=
    connect_reuses_iff_first_usable Backend.provider (ConnectionManager.new false) sso
      (s := { Backend.empty with connections := companyConnections }) rfl
  exact ⟨law.mpr ⟨_, first, by decide⟩, congrArg (·.provider.2) ((ways _ first).1 (by decide))⟩

/-- **A useless connection hides a usable one.**  Both are stored and match.  The first of
them lacks the scopes and is replaced, though the other could be used as it is. -/
theorem useless_connection_hides_usable :
    let useless := signedOn "old" builderIdStartUrl []
    let usable := signedOn "saved" builderIdStartUrl completionScopes
    let a := (ConnectionManager.new false).connect Backend.provider.recorded .builderId
      ({ Backend.empty with connections := [useless, usable] }, [])
    ConnectionProfile.builderId.matches usable = true ∧
      usable.kind.hasScopes completionScopes = true ∧
      a.provider.2 = [.list, .create .builderId, .delete useless.id] ∧
      ¬ a.Reuses .builderId [useless, usable] := by
  intro useless usable a
  have asked : a.provider.2 = [.list, .create .builderId, .delete useless.id] := by rfl
  refine ⟨by decide, by decide, asked, fun reuses => ?_⟩
  have untouched := reuses.untouched (.create .builderId) (by rw [asked]; simp)
  cases untouched

end ConnectionManager

end InlineCompletion
