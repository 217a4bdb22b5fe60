import InlineCompletion.Proofs.Connection.Reuse

/-!
# What a failed attempt to connect leaves stored

An attempt to connect can fail at each of its calls: the store does not say what it has,
does not make a connection, or does not delete one.  Nothing is deleted in any of these
cases.  The last step asks nothing of the store, and it can fail as well, because the new
connection is refused if the store has granted it too few scopes.  **By then the old one is
deleted** (`ReplacesInVain`), and that is the only way in which a failed attempt loses
what was stored (`failed_connect_loses_only_replaced`).

The store is any that does what it says where it does not fail (`Provider.Faithful`).  When
it fails, and which scopes it grants, is left open.  Identifiers need not be distinct, so
what is lost is everything that has the identifier of the replaced connection.
-/

namespace InlineCompletion

/-- What a connection is like that was made for a profile; the scopes are up to the store. -/
def ConnectionProfile.Describes : ConnectionProfile → ConnectionKind → Prop
  | builderId, kind => ∃ region scopes, kind = .sso builderIdStartUrl region scopes
  | enterprise startUrl region, kind => ∃ scopes, kind = .sso startUrl region scopes
  | iam profile, kind => kind = .iam profile

/-- **A store that does what it says**, with `contents` the connections stored in a state.
A call that fails leaves them as they are. -/
structure Provider.Faithful {σ : Type} (p : Provider σ) (contents : σ → List Connection) :
    Prop where
  listed : ∀ s stored, (p.list s).1 = .ok stored → stored = contents s
  list : ∀ s, contents (p.list s).2 = contents s
  /-- A new connection is put behind the others, and it is one that was asked for. -/
  created : ∀ profile s c, (p.create profile s).1 = .ok c →
    contents (p.create profile s).2 = contents s ++ [c] ∧ profile.Describes c.kind
  notCreated : ∀ profile s e, (p.create profile s).1 = .error e →
    contents (p.create profile s).2 = contents s
  /-- What has the identifier is gone. -/
  deleted : ∀ id s, (p.delete id s).1 = .ok () →
    contents (p.delete id s).2 = (contents s).filter fun c => c.id != id
  notDeleted : ∀ id s e, (p.delete id s).1 = .error e →
    contents (p.delete id s).2 = contents s

/-- **The stored connection `old` is replaced in vain**: connecting finds it first, it lacks
scopes, the store makes another one like it that lacks scopes as well, and deletes it. -/
structure Provider.ReplacesInVain {σ : Type} (p : Provider σ) (profile : ConnectionProfile) (s : σ)
    (old : Connection) : Prop where
  first : ∃ stored, (p.list s).1 = .ok stored ∧ stored.find? profile.matches = some old
  lacking : old.kind.hasScopes completionScopes = false
  replaced : ∃ again new, ConnectionManager.profileLike old = .ok again ∧
    (p.create again (p.list s).2).1 = .ok new ∧
    new.kind.hasScopes completionScopes = false ∧
    (p.delete old.id (p.create again (p.list s).2).2).1 = .ok ()

/-! ## A store that grants what it likes -/

/-- What a connection is like that a store makes which grants these scopes. -/
def ConnectionProfile.granted (scopes : List String) : ConnectionProfile → ConnectionKind
  | builderId => .sso builderIdStartUrl builderIdRegion scopes
  | enterprise startUrl region => .sso startUrl region scopes
  | iam profile => .iam profile

theorem ConnectionProfile.describes_granted (profile : ConnectionProfile) (scopes : List String) :
    profile.Describes (profile.granted scopes) := by
  cases profile with
  | builderId => exact ⟨_, _, rfl⟩
  | enterprise startUrl region => exact ⟨_, rfl⟩
  | iam name => rfl

/-- A store whose state is what it has stored.  It lists, makes and deletes whatever it is
asked to, and grants these scopes to everything it makes. -/
def Provider.granting (scopes : List String) : Provider (List Connection) where
  list stored := (.ok stored, stored)
  create profile stored :=
    let c : Connection := ⟨⟨"created"⟩, "created", profile.granted scopes, .valid⟩
    (.ok c, stored ++ [c])
  delete id stored := (.ok (), stored.filter fun c => c.id != id)
  reauthenticate id stored := (.error (.notFound id), stored)
  token id stored := (.error (.notFound id), stored)
  keys id stored := (.error (.notFound id), stored)

theorem Provider.faithful_granting (scopes : List String) :
    (granting scopes).Faithful id where
  listed _ _ answer := (Except.ok.inj answer).symm
  list _ := rfl
  created profile _ _ answer := by
    obtain rfl := Except.ok.inj answer
    exact ⟨rfl, profile.describes_granted scopes⟩
  notCreated _ _ _ answer := by cases answer
  deleted _ _ _ := rfl
  notDeleted _ _ _ answer := by cases answer

namespace ConnectionManager

variable {σ : Type} {p : Provider σ} {contents : σ → List Connection} {m : ConnectionManager}
variable {profile again : ConnectionProfile} {s : σ} {old : Connection}

/-! ## Profiles -/

/-- Only a connection over single sign-on has a profile like it, and that is one for single
sign-on. -/
theorem sso_of_profileLike (like : profileLike old = .ok again) :
    old.kind.signIn = .sso ∧ ∀ name, again ≠ .iam name := by
  cases kind : old.kind with
  | iam keys => simp [profileLike, kind] at like
  | sso startUrl region scopes =>
      rw [profileLike_of_sso kind] at like
      obtain rfl := Except.ok.inj like
      refine ⟨rfl, fun name => ?_⟩
      unfold ConnectionProfile.signOn
      split <;> simp

/-- A connection over single sign-on is none that a profile with keys asks for. -/
theorem ne_iam_of_matches (signed : old.kind.signIn = .sso) (asked : profile.matches old = true)
    (name : String) : profile ≠ .iam name := by
  rintro rfl
  cases kind : old.kind with
  | sso startUrl region scopes => simp [ConnectionProfile.matches, kind] at asked
  | iam keys => rw [kind] at signed; cases signed

/-- A connection that was made for single sign-on is over single sign-on. -/
theorem signIn_of_describes (sso : ∀ name, profile ≠ .iam name) {kind : ConnectionKind}
    (describes : profile.Describes kind) : kind.signIn = .sso := by
  cases profile with
  | builderId => obtain ⟨region, scopes, rfl⟩ := describes; rfl
  | enterprise startUrl region => obtain ⟨scopes, rfl⟩ := describes; rfl
  | iam name => exact absurd rfl (sso name)

/-! ## Each step -/

/-- Making a connection loses none. -/
theorem subset_create (faithful : p.Faithful contents) (profile : ConnectionProfile) (s : σ) :
    contents s ⊆ contents (p.create profile s).2 := by
  cases made : (p.create profile s).1 with
  | error e => rw [faithful.notCreated profile s e made]; exact List.Subset.refl _
  | ok c =>
      rw [(faithful.created profile s c made).1]
      exact List.subset_append_left _ _

theorem subset_adoptNew (faithful : p.Faithful contents) (profile : ConnectionProfile) (s : σ) :
    contents s ⊆ contents (m.adoptNew p profile s).provider := by
  have grows := subset_create faithful profile s
  rw [adoptNew_eq]
  cases (p.create profile s).1 with
  | error e => exact grows
  | ok new =>
      dsimp only
      rwa [adopt_provider]

/-- **Replacing keeps what is stored unless the store deletes.** -/
theorem replace_cases (faithful : p.Faithful contents) (old : Connection) (s : σ) :
    contents s ⊆ contents (m.replace p old s).provider ∨
      ∃ again new, profileLike old = .ok again ∧ (p.create again s).1 = .ok new ∧
        (p.delete old.id (p.create again s).2).1 = .ok () := by
  cases like : profileLike old with
  | error e =>
      refine .inl ?_
      simp only [replace, like]
      exact List.Subset.refl _
  | ok again =>
      have grows := subset_create faithful again s
      rw [replace_eq like]
      cases created : (p.create again s).1 with
      | error e => exact .inl grows
      | ok new =>
          cases deleted : (p.delete old.id (p.create again s).2).1 with
          | error e =>
              refine .inl ?_
              dsimp only
              rwa [faithful.notDeleted _ _ e deleted]
          | ok _ => exact .inr ⟨again, new, rfl, created, deleted⟩

/-- What is stored once the old connection is deleted. -/
theorem contents_deleted (faithful : p.Faithful contents) {new : Connection}
    (created : (p.create again s).1 = .ok new)
    (deleted : (p.delete old.id (p.create again s).2).1 = .ok ()) :
    contents (p.delete old.id (p.create again s).2).2 =
      (contents s ++ [new]).filter fun c => c.id != old.id := by
  rw [faithful.deleted _ _ deleted, (faithful.created _ _ _ created).1]

/-- A new connection that lacks scopes is refused after all. -/
theorem replace_of_deleted (faithful : p.Faithful contents) {new : Connection}
    (like : profileLike old = .ok again) (created : (p.create again s).1 = .ok new)
    (deleted : (p.delete old.id (p.create again s).2).1 = .ok ()) :
    (m.replace p old s).provider = (p.delete old.id (p.create again s).2).2 ∧
      ((∃ e, (m.replace p old s).result = .error e) ↔
        new.kind.hasScopes completionScopes = false) := by
  have signed : new.kind.signIn = .sso :=
    signIn_of_describes (sso_of_profileLike like).2 (faithful.created _ _ _ created).2
  have same : m.replace p old s = m.adopt new (p.delete old.id (p.create again s).2).2 := by
    rw [replace_eq like]
    simp only [created, deleted]
  rw [same, adopt_provider, ← isUsable_of_sso (m := m) signed]
  refine ⟨rfl, ?_⟩
  cases usable : m.isUsable new with
  | true => simp [adopt_of_usable usable]
  | false => simp [adopt_of_not_usable usable]

/-! ## Any attempt -/

/-- Over single sign-on, connecting keeps what is stored unless the first connection that
matches is replaced, and the store deletes that one. -/
theorem connectSso_cases (faithful : p.Faithful contents) (m : ConnectionManager)
    (sso : ∀ name, profile ≠ .iam name) (stored : List Connection) (s : σ) :
    contents s ⊆ contents (m.connectSso p profile stored s).provider ∨
      ∃ old again new, stored.find? profile.matches = some old ∧
        old.kind.hasScopes completionScopes = false ∧ profileLike old = .ok again ∧
        (p.create again s).1 = .ok new ∧ (p.delete old.id (p.create again s).2).1 = .ok () := by
  cases first : stored.find? profile.matches with
  | none =>
      rw [connectSso_of_none first]
      exact .inl (subset_adoptNew faithful profile s)
  | some old =>
      have signed := ConnectionProfile.signIn_of_matches sso (List.find?_some first)
      cases usable : m.isUsable old with
      | true =>
          rw [connectSso_of_usable first usable]
          exact .inl (List.Subset.refl _)
      | false =>
          rw [connectSso_of_useless first usable]
          refine (replace_cases faithful old s).imp_right ?_
          rintro ⟨again, new, like, created, deleted⟩
          exact ⟨old, again, new, rfl, (isUsable_of_sso signed).symm.trans usable,
            like, created, deleted⟩

/-- **Connecting keeps what is stored unless it replaces**, and only single sign-on does. -/
theorem connect_cases (faithful : p.Faithful contents) (m : ConnectionManager)
    (profile : ConnectionProfile) (s : σ) :
    contents s ⊆ contents (m.connect p profile s).provider ∨
      ∃ stored old again new, (p.list s).1 = .ok stored ∧
        stored.find? profile.matches = some old ∧
        old.kind.hasScopes completionScopes = false ∧ profileLike old = .ok again ∧
        (p.create again (p.list s).2).1 = .ok new ∧
        (p.delete old.id (p.create again (p.list s).2).2).1 = .ok () := by
  rw [← faithful.list s]
  cases listed : (p.list s).1 with
  | error e =>
      rw [connect_of_unlisted listed]
      exact .inl (List.Subset.refl _)
  | ok stored =>
      obtain ⟨name, rfl⟩ | sso := profile.iam_or_sso
      · rw [connect_of_iam listed, connectIam_provider]
        exact .inl (List.Subset.refl _)
      · rw [connect_of_sso sso listed]
        refine (connectSso_cases faithful m sso stored _).imp_right ?_
        rintro ⟨old, again, new, replaced⟩
        exact ⟨stored, old, again, new, rfl, replaced⟩

/-- **A failed attempt loses nothing but what was replaced in vain.**  Let the store do what
it says where it does not fail.

* If connecting fails, every connection that was stored is still stored, but for those with
  the identifier of a connection that is replaced in vain.
* If a connection is replaced in vain, then connecting does fail, that connection was
  stored, and nothing that has its identifier is stored any more. -/
theorem failed_connect_loses_only_replaced (faithful : p.Faithful contents)
    (m : ConnectionManager) (profile : ConnectionProfile) (s : σ) :
    let a := m.connect p profile s
    ((∃ e, a.result = .error e) → ∀ c ∈ contents s, c ∈ contents a.provider ∨
        ∃ old, p.ReplacesInVain profile s old ∧ c.id = old.id) ∧
      ∀ old, p.ReplacesInVain profile s old → (∃ e, a.result = .error e) ∧
        old ∈ contents s ∧ ∀ c ∈ contents a.provider, c.id ≠ old.id := by
  intro a
  refine ⟨fun failed c had => ?_, ?_⟩
  · obtain kept | ⟨stored, old, again, new, listed, first, lacking, like, created, deleted⟩ :=
      connect_cases faithful m profile s
    · exact .inl (kept had)
    have sso := ne_iam_of_matches (sso_of_profileLike like).1 (List.find?_some first)
    have way : a = m.replace p old (p.list s).2 := connect_of_first_lacking sso listed first lacking
    obtain ⟨provider, refused⟩ := replace_of_deleted (m := m) faithful like created deleted
    by_cases same : c.id = old.id
    · rw [way] at failed
      exact .inr ⟨old, ⟨⟨stored, listed, first⟩, lacking,
        again, new, like, created, refused.mp failed, deleted⟩, same⟩
    · refine .inl ?_
      rw [way, provider, contents_deleted faithful created deleted, faithful.list]
      exact List.mem_filter.mpr ⟨List.mem_append_left _ had, bne_iff_ne.mpr same⟩
  · rintro old ⟨⟨stored, listed, first⟩, lacking, again, new, like, created, refused, deleted⟩
    have sso := ne_iam_of_matches (sso_of_profileLike like).1 (List.find?_some first)
    have way : a = m.replace p old (p.list s).2 := connect_of_first_lacking sso listed first lacking
    obtain ⟨provider, failed⟩ := replace_of_deleted (m := m) faithful like created deleted
    rw [way, provider, contents_deleted faithful created deleted]
    refine ⟨failed.mpr refused, ?_, ?_⟩
    · exact faithful.listed s stored listed ▸ List.mem_of_find?_eq_some first
    · exact fun c left => bne_iff_ne.mp (List.mem_filter.mp left).2

/-- Of two stored connections the one that lacks scopes is replaced in vain, because the
store grants no more than before.  The other one is still stored. -/
theorem failed_connect_loses_only_replaced_one :
    let useless := signedOn "old" "https://corp.example/start" []
    let other := signedOn "own" builderIdStartUrl completionScopes
    let p := Provider.granting ["sso:account:access"]
    let a := (new false).connect p companyProfile [other, useless]
    p.ReplacesInVain companyProfile [other, useless] useless ∧
      (∃ e, a.result = .error e) ∧ other ∈ a.provider ∧ ∀ c ∈ a.provider, c.id ≠ useless.id := by
  intro useless other p a
  have first : [other, useless].find? companyProfile.matches = some useless := by decide
  have vain : p.ReplacesInVain companyProfile [other, useless] useless :=
    ⟨⟨_, rfl, first⟩, by decide,
      .enterprise "https://corp.example/start" builderIdRegion, _, rfl, rfl, by decide, rfl⟩
  obtain ⟨kept, lost⟩ :=
    failed_connect_loses_only_replaced (Provider.faithful_granting ["sso:account:access"])
      (new false) companyProfile [other, useless]
  obtain ⟨failed, -, gone⟩ := lost useless vain
  refine ⟨vain, failed, ?_, gone⟩
  obtain stored | ⟨old, again, same⟩ := kept failed other (by simp)
  · exact stored
  · obtain ⟨_, listed, found⟩ := again.first
    obtain rfl := Except.ok.inj listed
    obtain rfl := Option.some.inj (first.symm.trans found)
    exact absurd same (by decide)

/-- **Connecting can fail and lose the connection it was to upgrade.** -/
theorem failed_connect_can_lose :
    let useless := signedOn "old" "https://corp.example/start" ["sso:account:access"]
    let p := Provider.granting ["sso:account:access"]
    let a := (new false).connect p companyProfile [useless]
    p.Faithful id ∧ a.result = .error (.badConnectionType .sso .sso) ∧ useless ∉ a.provider :=
  ⟨Provider.faithful_granting _, rfl, by decide⟩

end ConnectionManager

end InlineCompletion
