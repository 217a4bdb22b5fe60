import InlineCompletion.Language
import Mathlib.Data.List.Dedup
import Mathlib.Data.Finset.Card

/-!
# What a language table supports

A table is asked two things of an identifier: what it stands for, and whether it is
supported.  The last entry for an identifier says what it stands for
(`LanguageTable.map?_eq_some_iff`), so an earlier entry for the same identifier is
*replaced*, and nothing may stand for its language any more.  The name of that language is
supported all the same, because whoever is asked for a supported name looks at every entry.

`forgottenNames` are the names that are supported for no other reason.  Beside them a table
supports its identifiers and the names of what they stand for
(`supports_iff_key_or_value_or_forgotten`), and **only a replaced entry brings a forgotten
name about**, so a table that gives every identifier once has none.
-/

namespace InlineCompletion.LanguageTable

variable {t : LanguageTable} {id : String} {l : Language} {e : String × Language}

/-! ## The last entry decides -/

/-- An identifier stands for the language of the last entry for it. -/
theorem map?_eq_some_iff :
    t.map? id = some l ↔
      ∃ before after, t.entries = before ++ (id, l) :: after ∧ ∀ e ∈ after, e.1 ≠ id := by
  unfold map?
  rw [Option.map_eq_some_iff]
  constructor
  · rintro ⟨entry, found, rfl⟩
    obtain ⟨key, after, before, entries, others⟩ := List.find?_eq_some_iff_append.mp found
    obtain rfl := beq_iff_eq.mp key
    refine ⟨before.reverse, after.reverse, ?_, fun e member => ?_⟩
    · rw [← List.reverse_reverse t.entries, entries]
      simp
    · simpa using others e (List.mem_reverse.mp member)
  · rintro ⟨before, after, entries, others⟩
    refine ⟨(id, l), List.find?_eq_some_iff_append.mpr ⟨beq_self_eq_true id, ?_⟩, rfl⟩
    refine ⟨after.reverse, before.reverse, by simp [entries], fun e member => ?_⟩
    simpa using others e (List.mem_reverse.mp member)

/-- What an identifier stands for is said by an entry for it. -/
theorem mem_of_map?_eq_some (mapped : t.map? id = some l) : (id, l) ∈ t.entries := by
  obtain ⟨before, after, entries, -⟩ := map?_eq_some_iff.mp mapped
  rw [entries]
  exact List.mem_append_right _ List.mem_cons_self

/-- An identifier stands for nothing where there is no entry for it. -/
theorem map?_eq_none_iff : t.map? id = none ↔ ∀ e ∈ t.entries, e.1 ≠ id := by
  simp [map?, List.find?_eq_none]

theorem exists_map?_of_mem (member : e ∈ t.entries) : ∃ l, t.map? e.1 = some l := by
  rw [← Option.ne_none_iff_exists']
  exact fun missing => map?_eq_none_iff.mp missing e member rfl

/-- An entry that a later one for the same identifier replaces. -/
def Replaced (t : LanguageTable) (e : String × Language) : Prop :=
  ∃ before after, t.entries = before ++ e :: after ∧ ∃ later ∈ after, later.1 = e.1

/-- An entry says what its identifier stands for, or it is replaced. -/
theorem map?_or_replaced (member : e ∈ t.entries) : t.map? e.1 = some e.2 ∨ t.Replaced e := by
  obtain ⟨before, after, entries⟩ := List.append_of_mem member
  by_cases again : ∃ later ∈ after, later.1 = e.1
  · exact .inr ⟨before, after, entries, again⟩
  · refine .inl (map?_eq_some_iff.mpr ⟨before, after, entries, fun later member same => ?_⟩)
    exact again ⟨later, member, same⟩

/-- Where no identifier is given twice nothing is replaced. -/
theorem not_replaced_of_nodup (once : (t.entries.map (·.1)).Nodup) : ¬t.Replaced e := by
  rintro ⟨before, after, entries, later, member, same⟩
  rw [entries, List.map_append, List.map_cons] at once
  have apart := (List.nodup_cons.mp (List.nodup_append.mp once).2.1).1
  exact apart (same ▸ List.mem_map_of_mem member)

/-! ## How many identifiers there are -/

theorem mem_ids : id ∈ t.ids ↔ ∃ l, t.map? id = some l := by
  unfold ids
  rw [List.mem_eraseDups, List.mem_map]
  constructor
  · rintro ⟨e, member, rfl⟩
    exact exists_map?_of_mem member
  · rintro ⟨l, mapped⟩
    exact ⟨(id, l), mem_of_map?_eq_some mapped, rfl⟩

/-- Leaving out what was there before leaves nothing twice. -/
theorem nodup_eraseDups : ∀ names : List String, names.eraseDups.Nodup
  | [] => by simp
  | name :: names => by
      rw [List.eraseDups_cons, List.nodup_cons]
      exact ⟨by simp, nodup_eraseDups (names.filter fun other => !other == name)⟩
termination_by names => names.length
decreasing_by exact Nat.lt_succ_of_le (List.length_filter_le _ _)

/-- The size of a table is the number of its identifiers. -/
theorem size_eq_card (t : LanguageTable) : t.size = (t.entries.map (·.1)).toFinset.card := by
  have same : t.ids.toFinset = (t.entries.map (·.1)).toFinset := by
    ext id
    simp [ids]
  have once : t.ids.Nodup := nodup_eraseDups _
  rw [← same, List.toFinset_card_of_nodup once, size]

/-! ## What is supported -/

/-- The service's names that a table supports without an entry of their own. -/
def unmappedNames (t : LanguageTable) : List String :=
  (t.entries.map (·.2.name)).filter fun name => (t.map? name).isNone

theorem mem_unmappedNames :
    id ∈ t.unmappedNames ↔ (∃ e ∈ t.entries, e.2.name = id) ∧ t.map? id = none := by
  simp [unmappedNames]

/-- **A table supports what stands for something in it, and its unmapped names.** -/
theorem supports_iff_mapped_or_unmapped :
    t.supports id = true ↔ (∃ l, t.map? id = some l) ∨ id ∈ t.unmappedNames := by
  rw [supports_eq_true_iff, mem_unmappedNames]
  constructor
  · rintro ⟨e, member, named⟩
    cases mapped : t.map? id with
    | some l => exact .inl ⟨l, rfl⟩
    | none =>
        rcases named with key | name
        · exact absurd key (map?_eq_none_iff.mp mapped e member)
        · exact .inr ⟨⟨e, member, name⟩, rfl⟩
  · rintro (⟨l, mapped⟩ | ⟨⟨e, member, name⟩, -⟩)
    · exact ⟨(id, l), mem_of_map?_eq_some mapped, .inl rfl⟩
    · exact ⟨e, member, .inr name⟩

/-! ## What is forgotten -/

/-- The languages that something stands for. -/
def languages (t : LanguageTable) : List Language := t.ids.filterMap t.map?

theorem mem_languages : l ∈ t.languages ↔ ∃ k, t.map? k = some l := by
  unfold languages
  rw [List.mem_filterMap]
  exact ⟨fun ⟨k, _, mapped⟩ => ⟨k, mapped⟩, fun ⟨k, mapped⟩ => ⟨k, mem_ids.mpr ⟨l, mapped⟩, mapped⟩⟩

/-- The names of a table's unmapped names for whose languages nothing stands. -/
def forgottenNames (t : LanguageTable) : List String :=
  t.unmappedNames.filter fun name => decide (name ∉ t.languages.map Language.name)

theorem mem_forgottenNames :
    id ∈ t.forgottenNames ↔
      id ∈ t.unmappedNames ∧ ∀ k l, t.map? k = some l → l.name ≠ id := by
  unfold forgottenNames
  rw [List.mem_filter, decide_eq_true_iff]
  simp only [List.mem_map, mem_languages]
  refine and_congr_right fun _ => ⟨fun missing k l mapped named => ?_, ?_⟩
  · exact missing ⟨l, ⟨k, mapped⟩, named⟩
  · rintro other ⟨l, ⟨k, mapped⟩, named⟩
    exact other k l mapped named

/-- A forgotten name is that of a replaced entry. -/
theorem exists_replaced_of_forgotten (forgotten : id ∈ t.forgottenNames) :
    ∃ e, t.Replaced e ∧ e.2.name = id := by
  obtain ⟨unmapped, other⟩ := mem_forgottenNames.mp forgotten
  obtain ⟨⟨e, member, named⟩, -⟩ := mem_unmappedNames.mp unmapped
  rcases map?_or_replaced member with mapped | replaced
  · exact absurd named (other e.1 e.2 mapped)
  · exact ⟨e, replaced, named⟩

/-- An unmapped name is that of a language that something stands for, or forgotten. -/
theorem value_or_forgotten (unmapped : id ∈ t.unmappedNames) :
    (∃ k l, t.map? k = some l ∧ l.name = id) ∨ id ∈ t.forgottenNames := by
  by_cases value : ∃ k l, t.map? k = some l ∧ l.name = id
  · exact .inl value
  · refine .inr (mem_forgottenNames.mpr ⟨unmapped, fun k l mapped named => ?_⟩)
    exact value ⟨k, l, mapped, named⟩

theorem supports_iff :
    t.supports id = true ↔
      (∃ l, t.map? id = some l) ∨ (∃ k l, t.map? k = some l ∧ l.name = id) ∨
        id ∈ t.forgottenNames := by
  constructor
  · intro supported
    exact (supports_iff_mapped_or_unmapped.mp supported).imp_right value_or_forgotten
  · rintro (mapped | ⟨k, l, mapped, named⟩ | forgotten)
    · exact supports_iff_mapped_or_unmapped.mpr (.inl mapped)
    · exact (supports_eq_true_iff t id).mpr ⟨(k, l), mem_of_map?_eq_some mapped, .inr named⟩
    · exact supports_iff_mapped_or_unmapped.mpr (.inr (mem_forgottenNames.mp forgotten).1)

/-- **A table supports its identifiers, the names of what they stand for, and the names that
it has forgotten.**  For any list of entries,

* an identifier stands for the language of the last entry for it, and the size of the table
  is the number of different identifiers;
* what is supported is an identifier, or the name of a language that some identifier stands
  for, or forgotten;
* a forgotten name is neither of the first two, and it is the name of an entry that a later
  one for the same identifier replaces;
* so nothing is forgotten where every identifier is given once. -/
theorem supports_iff_key_or_value_or_forgotten (t : LanguageTable) :
    (∀ id l, t.map? id = some l ↔
      ∃ before after, t.entries = before ++ (id, l) :: after ∧ ∀ e ∈ after, e.1 ≠ id) ∧
      t.size = (t.entries.map (·.1)).toFinset.card ∧
      (∀ id, t.supports id = true ↔
        (∃ l, t.map? id = some l) ∨ (∃ k l, t.map? k = some l ∧ l.name = id) ∨
          id ∈ t.forgottenNames) ∧
      (∀ id ∈ t.forgottenNames,
        t.map? id = none ∧ (∀ k l, t.map? k = some l → l.name ≠ id) ∧
          ∃ before k l after, t.entries = before ++ (k, l) :: after ∧ l.name = id ∧
            ∃ later ∈ after, later.1 = k) ∧
      ((t.entries.map (·.1)).Nodup → t.forgottenNames = []) := by
  refine ⟨fun id l => map?_eq_some_iff, t.size_eq_card, fun id => supports_iff, ?_, fun once => ?_⟩
  · intro id forgotten
    obtain ⟨unmapped, value⟩ := mem_forgottenNames.mp forgotten
    have key := (mem_unmappedNames.mp unmapped).2
    obtain ⟨⟨k, l⟩, ⟨before, after, entries, later⟩, named⟩ := exists_replaced_of_forgotten forgotten
    exact ⟨key, value, before, k, l, after, entries, named, later⟩
  · refine List.eq_nil_iff_forall_not_mem.mpr fun id forgotten => ?_
    obtain ⟨e, replaced, -⟩ := exists_replaced_of_forgotten forgotten
    exact not_replaced_of_nodup once replaced

/-- The standard table gives every identifier once, so it supports its identifiers and the
names of what they stand for. -/
theorem supports_iff_key_or_value_or_forgotten_standard :
    (standard.entries.map (·.1)).Nodup ∧
      ∀ id, standard.supports id = true ↔
        (∃ l, standard.map? id = some l) ∨ ∃ k l, standard.map? k = some l ∧ l.name = id := by
  have once : (standard.entries.map (·.1)).Nodup := by decide
  obtain ⟨-, -, supported, -, nothing⟩ := supports_iff_key_or_value_or_forgotten standard
  refine ⟨once, fun id => ?_⟩
  rw [supported id, nothing once]
  simp

/-- **A replaced entry's name is supported for nothing.**  The identifier is given twice;
the name of its first language is supported, although it is no identifier and nothing
stands for that language. -/
theorem replaced_name_is_supported :
    let t : LanguageTable := ⟨[("vue", .javascript), ("vue", .typescript)]⟩
    t.map? "vue" = some .typescript ∧ t.size = 1 ∧ t.supports "javascript" = true ∧
      ¬((∃ l, t.map? "javascript" = some l) ∨
        ∃ k l, t.map? k = some l ∧ l.name = "javascript") := by
  intro t
  refine ⟨by decide, by decide, by decide, ?_⟩
  have forgotten : "javascript" ∈ t.forgottenNames := by decide
  obtain ⟨unmapped, value⟩ := mem_forgottenNames.mp forgotten
  rintro (⟨l, mapped⟩ | ⟨k, l, mapped, named⟩)
  · rw [(mem_unmappedNames.mp unmapped).2] at mapped
    cases mapped
  · exact value k l mapped named

end InlineCompletion.LanguageTable
