import InlineCompletion.Proofs.Controller.Permission
import InlineCompletion.Proofs.Language.Table

/-!
# The language that a request names

Two questions are asked of a language table.  The gate asks whether an identifier
is *supported*, and accepts the editor's identifiers and the service's names
alike; the request asks what the identifier *stands for*, and knows the editor's
identifiers only.  An identifier that passes the gate may therefore stand for
nothing, and the request then names plain text.

`LanguageTable.unmappedNames` are the identifiers between the two: names of the
service that a table supports without an entry of their own.
`supports_iff_mapped_or_unmapped` says that there are no others, for any table.
In the standard table they are the names of the two dialects with markup and of
the shell, which editors call differently, and `requests_name_mapped_language`
says what that means for every request of a run.
-/

namespace InlineCompletion

/-! ## What an identifier stands for -/

/-- The language of a request is never one of the dialects with markup. -/
theorem Language.base_ne_dialect (l : Language) : l.base ≠ .tsx ∧ l.base ≠ .jsx := by
  cases l <;> decide

/-- Only plain text counts as plain text. -/
theorem Language.base_eq_plaintext_iff {l : Language} : l.base = .plaintext ↔ l = .plaintext := by
  cases l <;> decide

namespace LanguageTable

variable {t : LanguageTable} {id : String} {l : Language}

theorem requestLanguage_of_mapped (mapped : t.map? id = some l) : t.requestLanguage id = l.base := by
  simp [requestLanguage, mapOrPlain, mapped]

theorem requestLanguage_of_unmapped (unmapped : t.map? id = none) :
    t.requestLanguage id = .plaintext := by
  simp [requestLanguage, mapOrPlain, unmapped, Language.base]

/-! ### The standard table -/

theorem unmappedNames_standard : standard.unmappedNames = ["jsx", "tsx", "shell"] := by decide

/-- Nothing stands for plain text in the standard table. -/
theorem base_ne_plaintext_of_standard (mapped : standard.map? id = some l) :
    l.base ≠ .plaintext := by
  have entries : ∀ e ∈ standard.entries, e.2 ≠ .plaintext := by decide
  exact fun plain =>
    entries _ (mem_of_map?_eq_some mapped) (Language.base_eq_plaintext_iff.mp plain)

end LanguageTable

namespace Controller

variable {s : Controller} {e : Event} {a : Asking}

/-! ## What is sent -/

/-- A request begins in a supported language only. -/
theorem Entitled.supports_of_asking (entitled : s.Entitled) (asks : s.asking? e = some a) :
    s.languages.supports a.snapshot.languageId = true := by
  obtain ⟨-, -, ⟨-, supported, -⟩ | ⟨now, deadline, -, waiting, -⟩⟩ := asking?_cases asks
  · exact supported
  · exact (entitled.waiting deadline a.snapshot waiting).2.2

/-- A request names the language that its snapshot's identifier stands for. -/
theorem language_of_asking (asks : s.asking? e = some a) :
    a.request.window.language = s.languages.requestLanguage a.snapshot.languageId := by
  obtain ⟨-, -, ⟨-, -, made⟩ | ⟨now, deadline, -, -, -, -, made⟩⟩ := asking?_cases asks <;>
    rw [made] <;> rfl

/-- **A request names the language that the editor's identifier stands for.**  Over
the standard table no request names a dialect with markup, and none names plain
text but for three identifiers: the service's own names `jsx`, `tsx` and `shell`,
which the table supports and which stand for nothing in it.  For every other
supported identifier the request names the base of the language that it stands
for.  And a language's own name and the editor's identifier for it are sent as
the same language exactly if the name is none of the three. -/
theorem requests_name_mapped_language (settings : Settings) (es : List Event) :
    let s := (new settings .standard).after es
    (∀ e seq request, .requestCompletion seq request ∈ (s.react e).effects →
      ∃ snapshot,
        (e = .invoked snapshot ∨
          ∃ now deadline, e = .tick now ∧ s.trigger.phase = .debouncing deadline snapshot) ∧
        request.window.language ≠ .tsx ∧ request.window.language ≠ .jsx ∧
        ((∃ l, LanguageTable.standard.map? snapshot.languageId = some l ∧
            request.window.language = l.base ∧ request.window.language ≠ .plaintext) ∨
          snapshot.languageId ∈ ["jsx", "tsx", "shell"] ∧
            request.window.language = .plaintext)) ∧
      ∀ id l, LanguageTable.standard.map? id = some l →
        LanguageTable.standard.requestLanguage id = l.base ∧
          (LanguageTable.standard.requestLanguage l.name =
              LanguageTable.standard.requestLanguage id ↔ l.name ∉ ["jsx", "tsx", "shell"]) := by
  intro s
  have table : s.languages = .standard := languages_after _ es
  have entitled : s.Entitled := (entitled_new settings .standard).after es
  refine ⟨?_, ?_⟩
  · intro e seq request sent
    obtain ⟨snapshot, asks⟩ := asking?_of_requestCompletion sent
    have supported := entitled.supports_of_asking asks
    have language := language_of_asking asks
    rw [table] at supported language
    dsimp only at supported language
    refine ⟨snapshot, snapshot_of_asking asks, ?_, ?_, ?_⟩
    · rw [language]
      exact (Language.base_ne_dialect _).1
    · rw [language]
      exact (Language.base_ne_dialect _).2
    · rcases LanguageTable.supports_iff_mapped_or_unmapped.mp supported with ⟨l, mapped⟩ | missing
      · rw [LanguageTable.requestLanguage_of_mapped mapped] at language
        refine .inl ⟨l, mapped, language, ?_⟩
        rw [language]
        exact LanguageTable.base_ne_plaintext_of_standard mapped
      · have unmapped := (LanguageTable.mem_unmappedNames.mp missing).2
        rw [LanguageTable.unmappedNames_standard] at missing
        exact .inr ⟨missing, language.trans (LanguageTable.requestLanguage_of_unmapped unmapped)⟩
  · intro id l mapped
    -- one entry of the table after the other
    have names : ∀ entry ∈ LanguageTable.standard.entries,
        (LanguageTable.standard.requestLanguage entry.2.name = entry.2.base ↔
          entry.2.name ∉ ["jsx", "tsx", "shell"]) := by decide
    have sent := LanguageTable.requestLanguage_of_mapped mapped
    refine ⟨sent, ?_⟩
    rw [sent]
    exact names _ (LanguageTable.mem_of_map?_eq_some mapped)

/-- A shell script, under whatever identifier of its language. -/
def shellScript (id : String) : Snapshot := ⟨⟨"run.sh"⟩, id, "run.sh", "ls", 2⟩

/-- The user has signed in. -/
def signedInRun : List Event := [.connectionChanged ⟨true, true, false, false⟩]

/-- Under the editor's identifier the shell is asked for as the shell. -/
theorem requests_name_mapped_language_shellscript :
    let s := (new .standard .standard).after signedInRun
    let request := Request.ofSnapshot (shellScript "shellscript") .standard .standard .manual none
    .requestCompletion 1 request ∈ (s.react (.invoked (shellScript "shellscript"))).effects ∧
      ∃ l, LanguageTable.standard.map? "shellscript" = some l ∧
        request.window.language = l.base ∧ request.window.language ≠ .plaintext := by
  intro s request
  have sent : .requestCompletion 1 request ∈
      (s.react (.invoked (shellScript "shellscript"))).effects := by decide
  obtain ⟨snapshot, asked, -, -, named⟩ :=
    (requests_name_mapped_language .standard signedInRun).1 _ 1 request sent
  have same : snapshot = shellScript "shellscript" := by
    rcases asked with asked | ⟨now, deadline, passed, -⟩
    · exact (Event.invoked.inj asked).symm
    · cases passed
  subst same
  rcases named with mapped | ⟨missing, -⟩
  · exact ⟨sent, mapped⟩
  · exact absurd missing (by decide)

/-- **A supported name may be sent as plain text.**  The shell is supported under its
own name and under the editor's; asked for under its own name it is plain text,
which no identifier of the table stands for. -/
theorem service_name_sent_as_plaintext :
    let s := (new .standard .standard).after signedInRun
    let sent (id : String) : List Language :=
      (requestsIn (s.react (.invoked (shellScript id))).effects).map (·.2.window.language)
    LanguageTable.standard.map? "shellscript" = some .shell ∧ Language.shell.name = "shell" ∧
      LanguageTable.standard.supports "shell" = true ∧
      sent "shellscript" = [.shell] ∧ sent "shell" = [.plaintext] ∧
      ∀ id l, LanguageTable.standard.map? id = some l → l.base ≠ .plaintext :=
  ⟨by decide, rfl, by decide, by decide, by decide,
    fun _ _ => LanguageTable.base_ne_plaintext_of_standard⟩

end Controller

end InlineCompletion
