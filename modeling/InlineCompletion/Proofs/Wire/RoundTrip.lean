import InlineCompletion.Proofs.Wire.Records

/-!
# What is written is read back

Every type of the wire is written in one way and may be read from many: an object with its
members in any order, or an array; with fields left out, or filled.  What is written is
among them (`RoundTrips`), so reading, writing and reading again comes to reading once.

A field that says nothing is left out when it is written, and what is left out is filled in
when it is read.  **The two agree field by field**: what a record is read from is settled by
its filled fields (`Settings.decode?_eq_some_iff` and its like for the other two), and a
field is left out only where it has the value that fills it.
-/

namespace InlineCompletion

open Wire

/-- What is written is read back; and what was read from anything at all, if it is written,
is read again. -/
structure Wire.RoundTrips {α : Type} (encode : α → Json) (decode? : Json → Option α) : Prop where
  written : ∀ v, decode? (encode v) = some v
  again : ∀ j v, decode? j = some v → decode? (encode v) = some v

theorem Wire.RoundTrips.of_written {α : Type} {encode : α → Json} {decode? : Json → Option α}
    (written : ∀ v, decode? (encode v) = some v) : RoundTrips encode decode? :=
  ⟨written, fun _ v _ => written v⟩

/-! ## Identifiers and names -/

theorem DocumentId.decode?_encode (id : DocumentId) : decode? id.encode = some id := rfl

theorem ConnectionId.decode?_encode (id : ConnectionId) : decode? id.encode = some id := rfl

theorem Language.decode?_encode (l : Language) : decode? l.encode = some l := ofName?_name l

theorem TriggerKind.decode?_encode (k : TriggerKind) : decode? k.encode = some k := by
  cases k <;> rfl

/-! ## References -/

namespace Reference

/-- The fields, each with null to fill it. -/
def record : List (String × Option Json) := fieldNames.map fun name => (name, some .null)

/-- The fields as they are written where they are not left out. -/
def values (r : Reference) : List Json :=
  [orNull .string r.license, orNull .string r.repository, orNull .string r.url,
    orNull (fun s : UInt64 × UInt64 => .array [ofWord s.1, ofWord s.2]) r.span]

/-- **What a reference is read from**: its fields, where null fills in. -/
theorem decode?_eq_some_iff {j : Json} {r : Reference} :
    decode? j = some r ↔ filled? record j = some (r.values.map some) := by
  have text := readsExactly_text.optional nofun
  have span := readsExactly_word.pair.optional nofun
  rw [filled?, show record.map (·.1) = fieldNames from rfl, decode?]
  cases given : fieldsOf? fieldNames j with
  | none => simp
  | some fields =>
      obtain ⟨a, b, c, d, rfl⟩ := List.length_eq_four.mp (length_of_fieldsOf? given)
      have filled : fill (record.map (·.2)) [a, b, c, d] = r.values.map some ↔
          optional text? a = some r.license ∧ optional text? b = some r.repository ∧
            optional text? c = some r.url ∧ optional (pair? word?) d = some r.span := by
        rw [text, text, text, span]
        simp [fill, record, fieldNames, values]
      rw [Option.map_some, Option.some.injEq, filled]
      simp only [Option.bind_eq_bind, Option.bind_eq_some_iff, Option.pure_def,
        Option.some.injEq]
      constructor
      · rintro ⟨_, license, _, repository, _, url, _, covered, rfl⟩
        exact ⟨license, repository, url, covered⟩
      · rintro ⟨license, repository, url, covered⟩
        exact ⟨_, license, _, repository, _, url, _, covered, rfl⟩

theorem dependsOnFilled : DependsOnFilled record decode? := by
  intro j k same
  ext r
  rw [decode?_eq_some_iff, decode?_eq_some_iff, same]

theorem decode?_encode (r : Reference) : decode? r.encode = some r := by
  rw [decode?_eq_some_iff, encode, filled?_present]
  case names => rfl
  case distinct => decide
  simp [fill, record, fieldNames, values, orNull]

end Reference

/-! ## Suggestions -/

namespace Suggestion

/-- The fields, the second with an empty list to fill it. -/
def record : List (String × Option Json) := [("content", none), ("references", some (.array []))]

/-- A list of references is read from what it is filled with, item by item. -/
theorem references_eq_some_iff {given : Option Json} {references : List Reference} :
    withDefault [] (list? Reference.decode?) given = some references ↔
      ∃ items, given.or (some (.array [])) = some (.array items) ∧
        items.mapM Reference.decode? = some references := by
  cases given with
  | none => simp [withDefault, eq_comm]
  | some j => cases j <;> simp [withDefault, list?]

/-- **What a suggestion is read from**: its content, and its references, where an empty list
fills in. -/
theorem decode?_eq_some_iff {j : Json} {s : Suggestion} :
    decode? j = some s ↔
      ∃ items, filled? record j = some [some (.string s.content), some (.array items)] ∧
        items.mapM Reference.decode? = some s.references := by
  rw [filled?, show record.map (·.1) = fieldNames from rfl, decode?]
  cases given : fieldsOf? fieldNames j with
  | none => simp
  | some fields =>
      obtain ⟨a, b, rfl⟩ := List.length_eq_two.mp (length_of_fieldsOf? given)
      have content : required text? a = some s.content ↔ a = some (.string s.content) := by
        cases a with
        | none => simp [required]
        | some j => simpa [required] using readsExactly_text j s.content
      simp only [Option.bind_eq_bind, Option.bind_eq_some_iff, Option.pure_def,
        Option.some.injEq, references_eq_some_iff]
      constructor
      · rintro ⟨_, text, _, ⟨items, filled, each⟩, rfl⟩
        refine ⟨items, ?_, each⟩
        rw [content.mp text, Option.map_some]
        exact congrArg (fun given => some [_, given]) filled
      · rintro ⟨items, filled, each⟩
        have same : a.or none = some (.string s.content) ∧
            b.or (some (.array [])) = some (.array items) := by
          simpa [fill, record] using filled
        rw [Option.or_none] at same
        exact ⟨_, content.mpr same.1, _, ⟨items, same.2, each⟩, rfl⟩

theorem dependsOnFilled : DependsOnFilled record decode? := by
  intro j k same
  ext s
  rw [decode?_eq_some_iff, decode?_eq_some_iff, same]

theorem decode?_encode (s : Suggestion) : decode? s.encode = some s := by
  rw [decode?_eq_some_iff, encode, filled?_present]
  case names => rfl
  case distinct => decide
  refine ⟨s.references.map Reference.encode, ?_, ?_⟩
  · cases s.references <;> rfl
  · rw [mapM_eq_some_iff, List.map_map]
    exact List.map_congr_left fun r _ => r.decode?_encode

end Suggestion

/-! ## Settings -/

namespace Settings

/-- The fields as they are written. -/
def values (s : Settings) : List Json :=
  [ofWord s.settleDelayMs, .bool s.autoTriggerEnabled, .bool s.includeSuggestionsWithReferences,
    ofWord s.requestTimeoutMs, ofWord s.maxContextChars, ofWord s.maxResults,
    .bool s.allowKeyBasedConnections, ofWord s.decisionHistoryLimit]

/-- The members as they are written. -/
def members (s : Settings) : List (String × Json) := fieldNames.zip s.values

/-- The fields, each with its standard value to fill it. -/
def record : List (String × Option Json) := standard.members.map fun m => (m.1, some m.2)

/-- **What settings are read from**: their fields, where the standard values fill in. -/
theorem decode?_eq_some_iff {j : Json} {s : Settings} :
    decode? j = some s ↔ filled? record j = some (s.values.map some) := by
  have word := readsExactly_word.withDefault
  have bool := readsExactly_bool.withDefault
  rw [filled?, show record.map (·.1) = fieldNames from rfl, decode?]
  cases given : fieldsOf? fieldNames j with
  | none => simp
  | some fields =>
      obtain ⟨a, b, c, d, e, f, g, h, rfl⟩ := length_eq_eight.mp (length_of_fieldsOf? given)
      have filled : fill (record.map (·.2)) [a, b, c, d, e, f, g, h] = s.values.map some ↔
          withDefault standard.settleDelayMs word? a = some s.settleDelayMs ∧
          withDefault standard.autoTriggerEnabled bool? b = some s.autoTriggerEnabled ∧
          withDefault standard.includeSuggestionsWithReferences bool? c =
            some s.includeSuggestionsWithReferences ∧
          withDefault standard.requestTimeoutMs word? d = some s.requestTimeoutMs ∧
          withDefault standard.maxContextChars word? e = some s.maxContextChars ∧
          withDefault standard.maxResults word? f = some s.maxResults ∧
          withDefault standard.allowKeyBasedConnections bool? g =
            some s.allowKeyBasedConnections ∧
          withDefault standard.decisionHistoryLimit word? h = some s.decisionHistoryLimit := by
        simp only [word, bool]
        simp [fill, record, members, fieldNames, values]
      rw [Option.map_some, Option.some.injEq, filled]
      simp only [Option.bind_eq_bind, Option.bind_eq_some_iff, Option.pure_def,
        Option.some.injEq]
      constructor
      · rintro ⟨_, delay, _, auto, _, references, _, timeout, _, chars, _, results, _, keys,
          _, limit, rfl⟩
        exact ⟨delay, auto, references, timeout, chars, results, keys, limit⟩
      · rintro ⟨delay, auto, references, timeout, chars, results, keys, limit⟩
        exact ⟨_, delay, _, auto, _, references, _, timeout, _, chars, _, results, _, keys,
          _, limit, rfl⟩

theorem dependsOnFilled : DependsOnFilled record decode? := by
  intro j k same
  ext s
  rw [decode?_eq_some_iff, decode?_eq_some_iff, same]

theorem decode?_encode (s : Settings) : decode? s.encode = some s := by
  have whole : s.encode = present (fieldNames.zip (s.values.map some)) := rfl
  rw [decode?_eq_some_iff, whole, filled?_present]
  case names => rfl
  case distinct => decide
  rfl

/-- **A field that is left out has its standard value**, in an object -/
theorem mem_members_of_lacks {given : List (String × Json)} {s : Settings}
    (read : decode? (.object given) = some s) {m : String × Json} (member : m ∈ standard.members)
    (lacks : Lacks given m.1) : m ∈ s.members := by
  rw [decode?_eq_some_iff, filled?_object, mapM_eq_some_iff] at read
  obtain ⟨i, stands⟩ := List.mem_iff_getElem?.mp member
  have fills : record[i]? = some (m.1, some m.2) := by
    rw [record, List.getElem?_map, stands, Option.map_some]
  have read := congrArg (fun fields => fields[i]?) read
  simp only [List.getElem?_map, fills, fieldOf?_of_lacks lacks, Option.map_some] at read
  have value : s.values[i]? = some m.2 := by simpa using read.symm
  have named := (List.getElem?_zip_eq_some.mp stands).1
  exact List.mem_of_getElem? (List.getElem?_zip_eq_some.mpr ⟨named, value⟩)

/-- and behind the items of an array. -/
theorem drop_members_of_array {items : List Json} {s : Settings}
    (read : decode? (.array items) = some s) :
    s.members.drop items.length = standard.members.drop items.length := by
  rw [decode?_eq_some_iff] at read
  rw [filled?_array (le_of_filled?_array read), Option.some.injEq] at read
  have rest := congrArg (List.drop items.length) read
  rw [List.drop_left' (List.length_map _),
    show record.map (·.2) = standard.values.map some from rfl, ← List.map_drop,
    ← List.map_drop] at rest
  have values := List.map_injective_iff.mpr (fun _ _ => Option.some.inj) rest
  calc s.members.drop items.length
      = (fieldNames.drop items.length).zip (s.values.drop items.length) := List.drop_zipWith
    _ = (fieldNames.drop items.length).zip (standard.values.drop items.length) := by rw [values]
    _ = standard.members.drop items.length := List.drop_zipWith.symm

end Settings

/-! ## Together -/

/-- **What is written is read back, and a field that is left out means what it would mean
written.**

Suggestions, settings, identifiers, languages and triggers are read back as they were
written, and so are those that were read from anything else.  A field of a reference means
the same left out and null; the references of a suggestion mean the same left out and empty;
and a field of the settings that is left out has its standard value. -/
theorem written_values_are_read_back :
    RoundTrips Suggestion.encode Suggestion.decode? ∧
    RoundTrips Settings.encode Settings.decode? ∧
    RoundTrips DocumentId.encode DocumentId.decode? ∧
    RoundTrips ConnectionId.encode ConnectionId.decode? ∧
    RoundTrips Language.encode Language.decode? ∧
    RoundTrips TriggerKind.encode TriggerKind.decode? ∧
    MayLeaveOut Reference.record Reference.decode? ∧
    MayLeaveOut Suggestion.record Suggestion.decode? ∧
    MayLeaveOut Settings.record Settings.decode? ∧
    (∀ given s, Settings.decode? (.object given) = some s →
      ∀ m ∈ Settings.standard.members, Lacks given m.1 → m ∈ s.members) ∧
    (∀ items s, Settings.decode? (.array items) = some s →
      s.members.drop items.length = Settings.standard.members.drop items.length) := by
  refine ⟨.of_written Suggestion.decode?_encode, .of_written Settings.decode?_encode,
    .of_written DocumentId.decode?_encode, .of_written ConnectionId.decode?_encode,
    .of_written Language.decode?_encode, .of_written TriggerKind.decode?_encode,
    ?references, ?suggestions, ?settings, ?object, ?array⟩
  case references => exact Reference.dependsOnFilled.mayLeaveOut (by decide)
  case suggestions => exact Suggestion.dependsOnFilled.mayLeaveOut (by decide)
  case settings => exact Settings.dependsOnFilled.mayLeaveOut (by decide)
  case object =>
    intro given s read m member lacks
    exact Settings.mem_members_of_lacks read member lacks
  case array =>
    intro items s read
    exact Settings.drop_members_of_array read

/-- A suggestion with two references, each without some of its fields, is read back; from
members in another order, one of them null, it is read alike; and settings with one member
keep the standard delay. -/
theorem written_values_are_read_back_partly :
    Suggestion.decode? (Suggestion.encode
        ⟨"a", [⟨some "MIT", none, none, some (1, 2)⟩, ⟨none, none, some "u", none⟩]⟩) =
      some ⟨"a", [⟨some "MIT", none, none, some (1, 2)⟩, ⟨none, none, some "u", none⟩]⟩ ∧
    Reference.decode? (.object [("url", .string "u"), ("license", .null)]) =
      Reference.decode? (.object [("url", .string "u")]) ∧
    ∃ s, Settings.decode? (.object [("max_results", .ofNat 9)]) = some s ∧
      ("settle_delay_ms", ofWord Settings.standard.settleDelayMs) ∈ s.members := by
  obtain ⟨suggestions, -, -, -, -, -, references, -, -, settings, -⟩ := written_values_are_read_back
  have read : Settings.decode? (.object [("max_results", .ofNat 9)]) =
      some { Settings.standard with maxResults := 9 } := rfl
  refine ⟨suggestions.written _, ?null, _, read, ?omitted⟩
  case null =>
    exact references.member "license" .null [("url", .string "u")] [] List.mem_cons_self (by decide)
  case omitted => exact settings _ _ read ("settle_delay_ms", _) List.mem_cons_self (by decide)

end InlineCompletion
