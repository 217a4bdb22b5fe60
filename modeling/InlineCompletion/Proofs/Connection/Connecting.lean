import InlineCompletion.Proofs.Connection.Replacing
import InlineCompletion.Proofs.Connection.Telling

/-!
# What connecting comes to

An attempt to connect that succeeds went one of three ways (`Connects`).  The first stored
connection that the profile asks for is taken as it is; or there is none and one is made;
or the first lacks scopes, and another one like it is made and it is deleted.  Each way
ends in a usable connection that is taken into use, and on each the store is asked what
the way says and nothing else.  So everything that can be said of a success is said by
cases on its way.

That the connection is one the profile asks for (`AsksFor`) has a reason of its own on each
way.  A stored connection was found by asking just that.  One that was made is signed on at
the profile's start URL.  One that replaces another is signed on at *the other's* start
URL, which need not be the profile's: the two may differ in the case of their letters,
and then it may even be that an enterprise profile leads to a Builder ID.
-/

namespace InlineCompletion

namespace ConnectionProfile

/-- The start URL to sign on at, for a profile for single sign-on. -/
def startUrl? : ConnectionProfile → Option String
  | builderId => some builderIdStartUrl
  | enterprise startUrl _ => some startUrl
  | iam _ => none

theorem startUrl?_signOn (startUrl region : String) :
    (signOn startUrl region).startUrl? = some startUrl := by
  unfold signOn
  split
  · next same => rw [same]; rfl
  · rfl

variable {profile : ConnectionProfile} {startUrl region region' : String}
variable {scopes scopes' : List String}

/-- A connection at the start URL of a profile is one that the profile asks for. -/
theorem asksFor_of_startUrl? (url : profile.startUrl? = some startUrl) :
    profile.AsksFor (.sso startUrl region scopes) := by
  cases profile with
  | builderId =>
      obtain rfl := Option.some.inj url
      exact ⟨region, scopes, rfl⟩
  | enterprise startUrl' _ =>
      obtain rfl := Option.some.inj url
      exact ⟨_, region, scopes, rfl, beq_self_eq_true _⟩
  | iam name => cases url

/-- Whether a profile asks for a connection over single sign-on lies in the start URL alone. -/
theorem AsksFor.sameUrl (asks : profile.AsksFor (.sso startUrl region scopes)) :
    profile.AsksFor (.sso startUrl region' scopes') := by
  cases profile with
  | builderId =>
      obtain ⟨_, _, same⟩ := asks
      obtain ⟨rfl, -, -⟩ := ConnectionKind.sso.inj same
      exact ⟨region', scopes', rfl⟩
  | enterprise url _ =>
      obtain ⟨_, _, _, same, alike⟩ := asks
      obtain ⟨rfl, -, -⟩ := ConnectionKind.sso.inj same
      exact ⟨_, region', scopes', rfl, alike⟩
  | iam name => cases asks

end ConnectionProfile

/-- **A store that signs on where it is asked to**: a connection that it makes for a profile
for single sign-on is over single sign-on at the start URL of that profile.  The region and
the scopes are up to the store, and so is whether it makes one. -/
def Provider.SignsOnAsAsked {σ : Type} (p : Provider σ) : Prop :=
  ∀ profile startUrl, profile.startUrl? = some startUrl → ∀ s c, (p.create profile s).1 = .ok c →
    ∃ region scopes, c.kind = .sso startUrl region scopes

theorem Provider.signsOnAsAsked_granting (scopes : List String) :
    (granting scopes).SignsOnAsAsked := by
  intro profile startUrl url s c created
  obtain rfl := Except.ok.inj created
  cases profile with
  | builderId =>
      obtain rfl := Option.some.inj url
      exact ⟨_, _, rfl⟩
  | enterprise startUrl' region =>
      obtain rfl := Option.some.inj url
      exact ⟨_, _, rfl⟩
  | iam name => cases url

namespace ConnectionManager

variable {σ : Type} {p : Provider σ} {m : ConnectionManager} {profile : ConnectionProfile}
variable {stored : List Connection} {s : σ} {c : Connection}

/-! ## With keys -/

/-- **Connecting with the keys of a profile** succeeds exactly if keys are allowed and
the store has a connection with them, and takes the first of these. -/
theorem connect_iam_eq_ok_iff (p : Provider σ) (m : ConnectionManager)
    (name : String) (s : σ) (c : Connection) :
    (m.connect p (.iam name) s).result = .ok c ↔
      m.allowKeyBased = true ∧ ∃ stored, (p.list s).1 = .ok stored ∧
        stored.find? (ConnectionProfile.iam name).matches = some c := by
  cases listed : (p.list s).1 with
  | error e => simp [connect_of_unlisted listed]
  | ok stored =>
      rw [connect_of_iam listed]
      cases allowed : m.allowKeyBased with
      | false => simp [connectIam, allowed]
      | true =>
          cases found : stored.find? (ConnectionProfile.iam name).matches with
          | none => simp [connectIam, allowed, found]
          | some d =>
              have keyed := (ConnectionProfile.matches_iff (.iam name) d).mp (List.find?_some found)
              have usable : m.isUsable d = true := (isUsable_of_iam keyed).trans allowed
              simp [connectIam, allowed, found, adopt_of_usable usable]

/-- With keys, nothing is asked of the store but the list. -/
theorem connect_iam_calls (p : Provider σ) (m : ConnectionManager) (name : String) (s : σ) :
    (m.connect p.recorded (.iam name) (s, [])).provider.2 = [.list] := by
  cases listed : (p.recorded.list (s, [])).1 with
  | error e => rw [connect_of_unlisted listed]; rfl
  | ok stored => rw [connect_of_iam listed, connectIam_provider]; rfl

/-! ## The ways to succeed -/

/-- **How connecting succeeds** with the connection `c`, and what the store is asked. -/
inductive Connects (p : Provider σ) (m : ConnectionManager) (profile : ConnectionProfile)
    (stored : List Connection) (s : σ) (c : Connection) : List ProviderCall → Prop
  /-- It is the first that is asked for, and usable. -/
  | reused (first : stored.find? profile.matches = some c) (usable : m.isUsable c = true) :
      Connects p m profile stored s c [.list]
  /-- None is asked for, and it is made. -/
  | made (sso : ∀ name, profile ≠ .iam name) (missing : stored.find? profile.matches = none)
      (created : (p.create profile s).1 = .ok c) :
      Connects p m profile stored s c [.list, .create profile]
  /-- The first that is asked for is not usable, and it is made like that one. -/
  | replaced (old : Connection) (startUrl region : String) (scopes : List String)
      (first : stored.find? profile.matches = some old) (useless : m.isUsable old = false)
      (kind : old.kind = .sso startUrl region scopes)
      (created : (p.create (.signOn startUrl region) s).1 = .ok c) :
      Connects p m profile stored s c [.list, .create (.signOn startUrl region), .delete old.id]

/-! ### Each step that succeeds -/

/-- What is taken into use as the last step is usable, if the step succeeds. -/
theorem adopt_of_ok {new : Connection} (adopted : (m.adopt new s).result = .ok c) :
    c = new ∧ m.isUsable c = true ∧ m.adopt new s = ⟨.ok c, m.taking c, s⟩ := by
  cases usable : m.isUsable new with
  | false => simp [adopt_of_not_usable usable] at adopted
  | true =>
      rw [adopt_of_usable usable] at adopted ⊢
      obtain rfl := Except.ok.inj adopted
      exact ⟨rfl, usable, rfl⟩

theorem adoptNew_of_ok (adopted : (m.adoptNew p profile s).result = .ok c) :
    (p.create profile s).1 = .ok c ∧ m.isUsable c = true ∧
      m.adoptNew p profile s = ⟨.ok c, m.taking c, (p.create profile s).2⟩ := by
  rw [adoptNew_eq] at adopted ⊢
  cases created : (p.create profile s).1 with
  | error e => rw [created] at adopted; cases adopted
  | ok new =>
      rw [created] at adopted
      obtain ⟨rfl, usable, same⟩ := adopt_of_ok adopted
      exact ⟨rfl, usable, same⟩

theorem replace_of_ok {old : Connection} {again : ConnectionProfile}
    (like : profileLike old = .ok again) (replaced : (m.replace p old s).result = .ok c) :
    (p.create again s).1 = .ok c ∧ m.isUsable c = true ∧
      m.replace p old s = ⟨.ok c, m.taking c, (p.delete old.id (p.create again s).2).2⟩ := by
  rw [replace_eq like] at replaced ⊢
  cases created : (p.create again s).1 with
  | error e => rw [created] at replaced; cases replaced
  | ok new =>
      rw [created] at replaced
      dsimp only at replaced ⊢
      cases deleted : (p.delete old.id (p.create again s).2).1 with
      | error e => rw [deleted] at replaced; cases replaced
      | ok _ =>
          rw [deleted] at replaced
          obtain ⟨rfl, usable, same⟩ := adopt_of_ok replaced
          exact ⟨rfl, usable, same⟩

/-! ### The whole -/

/-- **Connecting succeeds in one of these ways**, and takes a usable connection into use. -/
theorem connects_of_ok (connected : (m.connect p.recorded profile (s, [])).result = .ok c) :
    m.isUsable c = true ∧ ∃ stored s' calls, (p.list s).1 = .ok stored ∧
      Connects p m profile stored (p.list s).2 c calls ∧
      m.connect p.recorded profile (s, []) = ⟨.ok c, m.taking c, s', calls⟩ := by
  cases listed : (p.list s).1 with
  | error e =>
      rw [connect_of_unlisted (p := p.recorded) (s := (s, [])) listed] at connected
      cases connected
  | ok stored =>
  by_cases found : ∃ first, stored.find? profile.matches = some first ∧ m.isUsable first = true
  · obtain ⟨first, found, usable⟩ := found
    have way : m.connect p.recorded profile (s, []) =
        ⟨.ok first, m.taking first, (p.list s).2, [.list]⟩ :=
      connect_of_first (p := p.recorded) listed found usable
    rw [way] at connected ⊢
    obtain rfl := Except.ok.inj connected
    exact ⟨usable, stored, _, _, rfl, .reused found usable, rfl⟩
  have sso (name : String) : profile ≠ .iam name := by
    rintro rfl
    obtain ⟨allowed, _, listed', first⟩ := (connect_iam_eq_ok_iff ..).mp connected
    obtain rfl := Except.ok.inj (listed.symm.trans listed')
    have keyed := (ConnectionProfile.matches_iff (.iam name) c).mp (List.find?_some first)
    exact found ⟨c, first, (isUsable_of_iam keyed).trans allowed⟩
  have way : m.connect p.recorded profile (s, []) =
      m.connectSso p.recorded profile stored ((p.list s).2, [.list]) :=
    connect_of_sso (p := p.recorded) sso listed
  rw [way] at connected ⊢
  cases first : stored.find? profile.matches with
  | none =>
      rw [connectSso_of_none first] at connected ⊢
      obtain ⟨created, usable, same⟩ := adoptNew_of_ok connected
      exact ⟨usable, stored, _, _, rfl, .made sso first created, same⟩
  | some old =>
      have useless : m.isUsable old = false :=
        Bool.eq_false_iff.mpr fun usable => found ⟨old, first, usable⟩
      have signed := ConnectionProfile.signIn_of_matches sso (List.find?_some first)
      cases kind : old.kind with
      | iam name => rw [kind] at signed; cases signed
      | sso startUrl region scopes =>
          rw [connectSso_of_useless first useless] at connected ⊢
          obtain ⟨created, usable, same⟩ := replace_of_ok (profileLike_of_sso kind) connected
          exact ⟨usable, stored, _, _, rfl,
            .replaced old startUrl region scopes first useless kind created, same⟩

/-- **On each way the connection is one that the profile asks for**, if the store signs on
where it is asked to. -/
theorem Connects.asksFor {calls : List ProviderCall} (signsOn : p.SignsOnAsAsked)
    (way : Connects p m profile stored s c calls) : profile.AsksFor c.kind := by
  cases way with
  | reused first usable => exact (profile.matches_iff c).mp (List.find?_some first)
  | made sso missing created =>
      have signed : ∃ startUrl, profile.startUrl? = some startUrl := by
        cases profile with
        | builderId | enterprise => exact ⟨_, rfl⟩
        | iam name => exact absurd rfl (sso name)
      obtain ⟨startUrl, url⟩ := signed
      obtain ⟨region, scopes, kind⟩ := signsOn profile startUrl url s c created
      rw [kind]
      exact ConnectionProfile.asksFor_of_startUrl? url
  | replaced old startUrl region _ first useless kind created =>
      have asked := (profile.matches_iff old).mp (List.find?_some first)
      obtain ⟨_, _, kind'⟩ :=
        signsOn _ startUrl (ConnectionProfile.startUrl?_signOn startUrl region) s c created
      rw [kind] at asked
      rw [kind']
      exact asked.sameUrl

/-- **What connecting comes to when it succeeds.**  Let the store sign on where it is asked
to, and be free otherwise.

* The connection that is answered is in use.  It serves completions, and it is one that the
  profile asks for.  The snapshot published last shows it: as expired if that is its state
  and as valid if not, and as an enterprise connection if it is over single sign-on at
  another start URL than that of a Builder ID.
* If no stored connection is asked for, then the profile is one for single sign-on, and the
  store is asked to list what it has and to make a connection for the profile.
* If the first that is asked for serves completions, it is the one that is answered, and
  the store is asked for its list only.
* If that one does not, it is over single sign-on and lacks a scope.  The store is asked for
  its list, then to make a connection at the start URL and in the region of that one (a
  Builder ID, if it is one), and then to delete that one.

With keys the store is asked for its list only, whether connecting succeeds or not.  What
the store is asked is read off its record, and keeping one changes nothing else. -/
theorem connected_as_asked (signsOn : p.SignsOnAsAsked) (m : ConnectionManager)
    (profile : ConnectionProfile) (s : σ) :
    let a := m.connect p.recorded profile (s, [])
    a.unrecorded = m.connect p profile s ∧
      ((∃ name, profile = .iam name) → a.provider.2 = [.list]) ∧
      ∀ c, a.result = .ok c →
        (a.manager.active = some c ∧ c.kind.Serves m.allowKeyBased ∧ profile.AsksFor c.kind) ∧
        a.manager.published =
          ⟨some c, c.state != .expired, c.state == .expired, c.kind.isEnterprise⟩ ∧
        ∃ stored, (p.list s).1 = .ok stored ∧
          (stored.find? profile.matches = none →
            (∀ name, profile ≠ .iam name) ∧ a.provider.2 = [.list, .create profile]) ∧
          ∀ first, stored.find? profile.matches = some first →
            (first.kind.Serves m.allowKeyBased → c = first ∧ a.provider.2 = [.list]) ∧
            (¬first.kind.Serves m.allowKeyBased → ∃ startUrl region scopes,
              first.kind = .sso startUrl region scopes ∧
              a.provider.2 = [.list, .create (.signOn startUrl region), .delete first.id]) := by
  intro a
  refine ⟨connect_unrecorded p m profile (s, []), ?_, fun c connected => ?_⟩
  · rintro ⟨name, rfl⟩
    exact connect_iam_calls p m name s
  obtain ⟨usable, stored, s', calls, listed, way, same⟩ := connects_of_ok connected
  have after : a = ⟨.ok c, m.taking c, s', calls⟩ := same
  rw [after]
  refine ⟨⟨rfl, (isUsable_iff m c).mp usable, way.asksFor signsOn⟩, ?_, stored, listed, ?_⟩
  · rfl
  cases way with
  | reused first usable =>
      refine ⟨fun missing => ?_, fun d first' => ?_⟩
      · rw [first] at missing; cases missing
      · obtain rfl := Option.some.inj (first.symm.trans first')
        exact ⟨fun _ => ⟨rfl, rfl⟩, fun useless => absurd ((isUsable_iff m _).mp usable) useless⟩
  | made sso missing created =>
      refine ⟨fun _ => ⟨sso, rfl⟩, fun d first => ?_⟩
      rw [missing] at first; cases first
  | replaced old startUrl region scopes first useless kind created =>
      refine ⟨fun missing => ?_, fun d first' => ?_⟩
      · rw [first] at missing; cases missing
      · obtain rfl := Option.some.inj (first.symm.trans first')
        refine ⟨fun serves => ?_, fun _ => ⟨startUrl, region, scopes, kind, rfl⟩⟩
        rw [(isUsable_iff m old).mpr serves] at useless
        cases useless

/-- An enterprise profile can ask for a Builder ID, by other letters of its start URL.  The
one that is stored lacks the scopes, and it is a Builder ID that replaces it. -/
theorem connected_as_asked_builder :
    let old := signedOn "old" builderIdStartUrl []
    let profile := ConnectionProfile.enterprise "https://VIEW.awsapps.com/start" "eu-west-1"
    let p := Provider.granting completionScopes
    let a := (new false).connect p.recorded profile ([old], [])
    let c : Connection :=
      ⟨⟨"created"⟩, "created", .sso builderIdStartUrl builderIdRegion completionScopes, .valid⟩
    p.SignsOnAsAsked ∧ a.result = .ok c ∧ profile.AsksFor c.kind ∧
      a.manager.published = ⟨some c, true, false, false⟩ ∧
      a.provider.2 = [.list, .create .builderId, .delete old.id] := by
  intro old profile p a c
  have signsOn := Provider.signsOnAsAsked_granting completionScopes
  have connected : a.result = .ok c := by rfl
  have useless : ¬old.kind.Serves false :=
    fun serves => absurd ((isUsable_iff (new false) old).mpr serves) (by decide)
  obtain ⟨-, -, success⟩ := connected_as_asked signsOn (new false) profile [old]
  obtain ⟨⟨-, -, asked⟩, told, stored, listed, -, calls⟩ := success c connected
  obtain rfl := Except.ok.inj listed
  obtain ⟨startUrl, region, scopes, kind, deleted⟩ := (calls old (by decide)).2 useless
  obtain ⟨rfl, rfl, rfl⟩ := ConnectionKind.sso.inj kind
  exact ⟨signsOn, connected, asked, told, deleted⟩

end ConnectionManager

end InlineCompletion
