import InlineCompletion.Wire
import Mathlib.Data.List.Nodup

/-!
# Records with fields left out

A record may be written without some of its fields.  What a field means that is left out is
up to the field, but it always means the same as *some* value that could have been given:
null, an empty list, or the standard value.  So a record type comes with a list of its
names, each with the value that leaving it out amounts to, if there is one, and
`filled? record j` reads the fields of `j` and fills these values in.

Everything that is said of fields left out follows from one thing: **a record depends on its
filled fields alone.**  Then a field with the value that fills it may as well be left out,
of an object wherever it stands (`filled?_insert`) and of an array at its end
(`filled?_append`).  And the members that `present` writes are read back as they are
(`fieldsOf?_present`), those that it leaves out included.
-/

namespace InlineCompletion.Wire

variable {members before after : List (String × Json)} {name : String} {j : Json}
  {record : List (String × Option Json)}

/-! ## Fields of an object -/

theorem fieldsOf?_object (names : List String) (members : List (String × Json)) :
    fieldsOf? names (.object members) = names.mapM (fieldOf? members) := rfl

/-- A list is read where each of its items is. -/
theorem mapM_eq_some_iff {α β : Type} {f : α → Option β} {xs : List α} {ys : List β} :
    xs.mapM f = some ys ↔ xs.map f = ys.map some := by
  induction xs generalizing ys with
  | nil => cases ys <;> simp
  | cons x xs ih =>
      simp only [List.mapM_cons, Option.bind_eq_bind, Option.bind_eq_some_iff, Option.pure_def,
        Option.some.injEq, ih]
      constructor
      · rintro ⟨y, first, others, rest, rfl⟩
        rw [List.map_cons, List.map_cons, first, rest]
      · intro read
        cases ys with
        | nil => cases read
        | cons y ys =>
            obtain ⟨first, rest⟩ := List.cons.inj read
            exact ⟨y, first, ys, rest, rfl⟩

/-- Functions that read the items alike read the list alike. -/
theorem mapM_congr {α β : Type} {f g : α → Option β} {xs : List α}
    (each : ∀ x ∈ xs, f x = g x) : xs.mapM f = xs.mapM g := by
  ext ys
  rw [mapM_eq_some_iff, mapM_eq_some_iff, List.map_congr_left each]

/-- There is a field for each name. -/
theorem length_of_fieldsOf? {names : List String} {fields : Fields}
    (given : fieldsOf? names j = some fields) : fields.length = names.length := by
  unfold fieldsOf? at given
  split at given
  · simpa using (congrArg List.length (mapM_eq_some_iff.mp given)).symm
  · split at given
    · obtain rfl := Option.some.inj given
      rw [List.length_append, List.length_map, List.length_replicate]
      omega
    · cases given
  · cases given

theorem length_eq_eight {α : Type} {xs : List α} :
    xs.length = 8 ↔ ∃ a b c d e f g h, xs = [a, b, c, d, e, f, g, h] :=
  ⟨fun _ => let [a, b, c, d, e, f, g, h] := xs; ⟨a, b, c, d, e, f, g, h, rfl⟩,
    fun ⟨_, _, _, _, _, _, _, _, same⟩ => same ▸ rfl⟩

/-- No member has the name. -/
def Lacks (members : List (String × Json)) (name : String) : Prop := ∀ m ∈ members, m.1 ≠ name

instance (members : List (String × Json)) (name : String) : Decidable (Lacks members name) :=
  inferInstanceAs (Decidable (∀ m ∈ members, m.1 ≠ name))

theorem Lacks.filter_eq_nil (lacks : Lacks members name) :
    (members.filter fun m => m.1 == name) = [] :=
  List.filter_eq_nil_iff.mpr fun m member => by simpa using lacks m member

theorem fieldOf?_of_lacks (lacks : Lacks members name) : fieldOf? members name = some none := by
  rw [fieldOf?, lacks.filter_eq_nil]

/-- A field that is given once is found wherever it stands. -/
theorem fieldOf?_insert (lacks : Lacks (before ++ after) name) :
    fieldOf? (before ++ (name, j) :: after) name = some (some j) := by
  have first : Lacks before name := fun m member => lacks m (List.mem_append_left _ member)
  have second : Lacks after name := fun m member => lacks m (List.mem_append_right _ member)
  have found : ((before ++ (name, j) :: after).filter fun m => m.1 == name) = [(name, j)] := by
    rw [List.filter_append, first.filter_eq_nil, List.filter_cons_of_pos (by simp),
      second.filter_eq_nil, List.nil_append]
  rw [fieldOf?, found]

/-- A field says nothing about the others. -/
theorem fieldOf?_insert_of_ne {other : String} (ne : name ≠ other) :
    fieldOf? (before ++ (name, j) :: after) other = fieldOf? (before ++ after) other := by
  have same : ((before ++ (name, j) :: after).filter fun m => m.1 == other) =
      (before ++ after).filter fun m => m.1 == other := by
    rw [List.filter_append, List.filter_cons_of_neg (by simpa using ne), List.filter_append]
  rw [fieldOf?, fieldOf?, same]

/-! ## Members that are present -/

theorem lacks_present {members : List (String × Option Json)} (other : name ∉ members.map (·.1)) :
    Lacks (members.filterMap fun m => m.2.map fun j => (m.1, j)) name := by
  rintro ⟨n, j⟩ member rfl
  obtain ⟨m, among, written⟩ := List.mem_filterMap.mp member
  obtain ⟨i, -, same⟩ := Option.map_eq_some_iff.mp written
  exact other (List.mem_map.mpr ⟨m, among, congrArg Prod.fst same⟩)

/-- Whether a member is present is seen by its name. -/
theorem fieldOf?_present {members : List (String × Option Json)} {m : String × Option Json}
    (distinct : (members.map (·.1)).Nodup) (member : m ∈ members) :
    fieldOf? (members.filterMap fun m => m.2.map fun j => (m.1, j)) m.1 = some m.2 := by
  obtain ⟨before, after, rfl⟩ := List.append_of_mem member
  rw [List.map_append, List.map_cons] at distinct
  have apart : m.1 ∉ (before ++ after).map (·.1) := by
    rw [List.map_append]
    exact (List.nodup_cons.mp (List.nodup_middle.mp distinct)).1
  have lacks := lacks_present apart
  rw [List.filterMap_append] at lacks
  rw [List.filterMap_append]
  cases given : m.2 with
  | none =>
      rw [List.filterMap_cons_none (by simp [given])]
      exact fieldOf?_of_lacks lacks
  | some j =>
      rw [List.filterMap_cons_some (by simp [given]; rfl)]
      exact fieldOf?_insert lacks

/-- **What is written with the members that are present is read back**, present or not. -/
theorem fieldsOf?_present {members : List (String × Option Json)}
    (distinct : (members.map (·.1)).Nodup) :
    fieldsOf? (members.map (·.1)) (present members) = some (members.map (·.2)) := by
  rw [present, fieldsOf?_object, mapM_eq_some_iff, List.map_map, List.map_map]
  exact List.map_congr_left fun m member => fieldOf?_present distinct member

/-! ## Filling in -/

/-- The fields with what is not given filled in. -/
def fill (standard : List (Option Json)) (fields : Fields) : Fields :=
  List.zipWith Option.or fields standard

/-- The fields of a record with what is not given filled in. -/
def filled? (record : List (String × Option Json)) (j : Json) : Option Fields :=
  (fieldsOf? (record.map (·.1)) j).map (fill (record.map (·.2)))

/-- An object is filled in field by field. -/
theorem filled?_object (record : List (String × Option Json)) (members : List (String × Json)) :
    filled? record (.object members) =
      record.mapM fun field => (fieldOf? members field.1).map (·.or field.2) := by
  rw [filled?, fieldsOf?_object]
  induction record with
  | nil => rfl
  | cons field record ih =>
      simp only [List.map_cons, List.mapM_cons, ← ih]
      cases fieldOf? members field.1 with
      | none => rfl
      | some given => cases (record.map (·.1)).mapM (fieldOf? members) <;> rfl

/-- **A field of an object may be left out if it has the value that fills it.** -/
theorem filled?_insert (lacks : Lacks (before ++ after) name)
    (fills : ∀ field ∈ record, field.1 = name → field.2 = some j) :
    filled? record (.object (before ++ (name, j) :: after)) =
      filled? record (.object (before ++ after)) := by
  rw [filled?_object, filled?_object]
  refine mapM_congr fun field member => ?_
  by_cases same : name = field.1
  · subst same
    rw [fieldOf?_insert lacks, fieldOf?_of_lacks lacks, Option.map_some, Option.map_some,
      fills field member rfl]
    rfl
  · rw [fieldOf?_insert_of_ne same]

/-- Where nothing is given everything is filled in. -/
theorem fill_replicate (standard : List (Option Json)) :
    fill standard (List.replicate standard.length none) = standard := by
  induction standard with
  | nil => rfl
  | cons value standard ih => exact congrArg (value :: ·) ih

theorem fill_append {items : List Json} {standard : List (Option Json)}
    (fits : items.length ≤ standard.length) :
    fill standard (items.map some ++ List.replicate (standard.length - items.length) none) =
      items.map some ++ standard.drop items.length := by
  induction items generalizing standard with
  | nil => exact fill_replicate standard
  | cons item items ih =>
      cases standard with
      | nil => cases fits
      | cons value standard =>
          have rest := ih (Nat.le_of_succ_le_succ fits)
          simp only [List.length_cons, Nat.add_sub_add_right, List.map_cons, List.cons_append,
            List.drop_succ_cons, ← rest]
          rfl

/-- An array is filled in behind its items. -/
theorem filled?_array {items : List Json} (fits : items.length ≤ record.length) :
    filled? record (.array items) =
      some (items.map some ++ (record.map (·.2)).drop items.length) := by
  have length : (record.map (·.1)).length = (record.map (·.2)).length := by simp
  have fits' : items.length ≤ (record.map (·.2)).length := by simpa using fits
  rw [filled?, fieldsOf?, length, if_pos fits', Option.map_some, fill_append fits']

/-- There are no more items than fields. -/
theorem le_of_filled?_array {items : List Json} {fields : Fields}
    (read : filled? record (.array items) = some fields) : items.length ≤ record.length := by
  rw [filled?, fieldsOf?, List.length_map] at read
  by_contra many
  rw [if_neg many] at read
  cases read

/-- **So may the last fields of an array.** -/
theorem filled?_append {items rest : List Json} (fits : items.length ≤ record.length)
    (fills : rest.map some <+: (record.map (·.2)).drop items.length) :
    filled? record (.array (items ++ rest)) = filled? record (.array items) := by
  obtain ⟨others, filled⟩ := fills
  have lengths := congrArg List.length filled
  rw [List.length_append, List.length_map, List.length_drop, List.length_map] at lengths
  have fits' : (items ++ rest).length ≤ record.length := by
    rw [List.length_append]
    omega
  have left : (record.map (·.2)).drop (items ++ rest).length = others := by
    rw [List.length_append, ← List.drop_drop, ← filled]
    exact List.drop_left' (List.length_map _)
  rw [filled?_array fits, filled?_array fits', left, ← filled, List.map_append, List.append_assoc]

/-- The members that are present, filled in. -/
theorem filled?_present {members : List (String × Option Json)}
    (names : members.map (·.1) = record.map (·.1)) (distinct : (record.map (·.1)).Nodup) :
    filled? record (present members) = some (fill (record.map (·.2)) (members.map (·.2))) := by
  rw [filled?, ← names, fieldsOf?_present (names ▸ distinct), Option.map_some]

/-- What is read depends on the filled fields alone. -/
def DependsOnFilled {α : Type} (record : List (String × Option Json))
    (decode? : Json → Option α) : Prop :=
  ∀ j k, filled? record j = filled? record k → decode? j = decode? k

/-- A record is the same whether a field that has the value that fills it is given or left
out, in an object and at the end of an array. -/
structure MayLeaveOut {α : Type} (record : List (String × Option Json))
    (decode? : Json → Option α) : Prop where
  member : ∀ name j before after, (name, some j) ∈ record → Lacks (before ++ after) name →
    decode? (.object (before ++ (name, j) :: after)) = decode? (.object (before ++ after))
  item : ∀ items rest, items.length ≤ record.length →
    rest.map some <+: (record.map (·.2)).drop items.length →
    decode? (.array (items ++ rest)) = decode? (.array items)

theorem DependsOnFilled.mayLeaveOut {α : Type} {decode? : Json → Option α}
    (distinct : (record.map (·.1)).Nodup) (depends : DependsOnFilled record decode?) :
    MayLeaveOut record decode? where
  member name j before after among lacks := by
    refine depends _ _ (filled?_insert lacks fun field member same => ?_)
    obtain rfl := List.inj_on_of_nodup_map distinct member among same
    rfl
  item items rest fits fills := depends _ _ (filled?_append fits fills)

/-! ## Fields that are read exactly -/

/-- A value is read from what it is written as, and from nothing else. -/
def ReadsExactly {α : Type} (encode : α → Json) (decode? : Json → Option α) : Prop :=
  ∀ j v, decode? j = some v ↔ j = encode v

theorem readsExactly_text : ReadsExactly .string text? := by
  intro j s
  cases j <;> simp [text?]

theorem readsExactly_bool : ReadsExactly .bool bool? := by
  intro j b
  cases j <;> simp [bool?]

theorem readsExactly_word : ReadsExactly ofWord word? := by
  intro j w
  refine ⟨fun read => ?_, fun same => same ▸ word?_ofWord w⟩
  unfold word? at read
  split at read
  · next n =>
    split at read
    · next fits =>
      obtain rfl := Option.some.inj read
      rw [ofWord, UInt64.toNat_ofNat', Nat.mod_eq_of_lt fits]
      rfl
    · cases read
  · cases read

theorem ReadsExactly.pair {α : Type} {encode : α → Json} {decode? : Json → Option α}
    (exactly : ReadsExactly encode decode?) :
    ReadsExactly (fun p : α × α => .array [encode p.1, encode p.2]) (pair? decode?) := by
  rintro j ⟨a, b⟩
  constructor
  · intro read
    unfold pair? at read
    split at read
    · next i k =>
      cases first : decode? i with
      | none => simp [first] at read
      | some a' =>
          cases second : decode? k with
          | none => simp [first, second] at read
          | some b' =>
              obtain ⟨rfl, rfl⟩ : a' = a ∧ b' = b := by simpa [first, second] using read
              rw [(exactly i a').mp first, (exactly k b').mp second]
    · cases read
  · rintro rfl
    simp [pair?, (exactly _ a).mpr rfl, (exactly _ b).mpr rfl]

variable {α : Type} {encode : α → Json} {decode? : Json → Option α}

/-- A field with a standard value is read from what it is filled with. -/
theorem ReadsExactly.withDefault (exactly : ReadsExactly encode decode?) (standard v : α)
    (given : Option Json) :
    withDefault standard decode? given = some v ↔
      given.or (some (encode standard)) = some (encode v) := by
  cases given with
  | some j => simpa [Wire.withDefault] using exactly j v
  | none =>
      constructor
      · intro same
        rw [Option.some.inj same]
        rfl
      · intro same
        have read := (exactly (encode standard) v).mpr (Option.some.inj same)
        exact ((exactly (encode standard) standard).mpr rfl).symm.trans read

/-- How an optional field is written where it is not left out. -/
def orNull (encode : α → Json) (o : Option α) : Json := (o.map encode).getD .null

theorem optional_of_ne_null (decode? : Json → Option α) (ne : j ≠ .null) :
    optional decode? (some j) = (decode? j).map some := by
  cases j <;> first | rfl | exact absurd rfl ne

/-- So is an optional field, where null fills in. -/
theorem ReadsExactly.optional (exactly : ReadsExactly encode decode?)
    (solid : ∀ v, encode v ≠ .null) (o : Option α) (given : Option Json) :
    optional decode? given = some o ↔ given.or (some .null) = some (orNull encode o) := by
  have null : (some none = some o) ↔ some Json.null = some (orNull encode o) := by
    cases o with
    | none => simp [orNull]
    | some v => simp [orNull, (solid v).symm]
  cases given with
  | none => exact null
  | some j =>
      by_cases absent : j = .null
      · subst absent
        exact null
      · rw [optional_of_ne_null decode? absent]
        cases o with
        | none => simp [orNull, absent]
        | some v => simpa [orNull] using exactly j v

end InlineCompletion.Wire
