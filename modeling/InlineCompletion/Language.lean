/-!
# Languages

The completion service knows a fixed set of languages by name.  An editor has
its own identifiers for languages, and a `LanguageTable` says which service
language an editor identifier stands for.

A table is the list of its entries in the order they were added; when an
editor identifier is added twice, the later entry decides what it maps to.
`LanguageTable.supports` accepts either naming scheme: every editor identifier
of an entry and the service name of every entry's language, including entries
that a later one has replaced.
-/

namespace InlineCompletion

/-- A language of the completion service. -/
inductive Language
  | java | python | javascript | jsx | typescript | tsx | csharp | c | cpp
  | go | kotlin | php | ruby | rust | scala | shell | sql | plaintext
  deriving DecidableEq, Repr

namespace Language

/-- The service's name of a language. -/
def name : Language → String
  | java => "java"
  | python => "python"
  | javascript => "javascript"
  | jsx => "jsx"
  | typescript => "typescript"
  | tsx => "tsx"
  | csharp => "csharp"
  | c => "c"
  | cpp => "cpp"
  | go => "go"
  | kotlin => "kotlin"
  | php => "php"
  | ruby => "ruby"
  | rust => "rust"
  | scala => "scala"
  | shell => "shell"
  | sql => "sql"
  | plaintext => "plaintext"

/-- Every language. -/
def all : List Language :=
  [java, python, javascript, jsx, typescript, tsx, csharp, c, cpp, go, kotlin, php, ruby, rust,
    scala, shell, sql, plaintext]

/-- The language that has this service name. -/
def ofName? (s : String) : Option Language := all.find? fun l => l.name == s

/-- The language a request is made for: the two dialects with embedded markup
count as the language they extend. -/
def base : Language → Language
  | tsx => typescript
  | jsx => javascript
  | l => l

theorem mem_all (l : Language) : l ∈ all := by cases l <;> decide

theorem name_injective {a b : Language} (h : a.name = b.name) : a = b := by
  cases a <;> cases b <;> first | rfl | (revert h; decide)

/-- A service name is read back as the language it names, and nothing else is read. -/
theorem ofName?_eq_some_iff {s : String} {l : Language} : ofName? s = some l ↔ l.name = s := by
  constructor
  · intro h
    have found := List.find?_some (p := fun m : Language => m.name == s) h
    exact beq_iff_eq.mp found
  · rintro rfl
    cases h : ofName? l.name with
    | none => exact absurd (List.find?_eq_none.mp h l (mem_all l)) (by simp)
    | some m =>
      have found := List.find?_some (p := fun k : Language => k.name == l.name) h
      exact congrArg some (name_injective (beq_iff_eq.mp found))

@[simp] theorem ofName?_name (l : Language) : ofName? l.name = some l :=
  ofName?_eq_some_iff.mpr rfl

@[simp] theorem base_base (l : Language) : l.base.base = l.base := by cases l <;> rfl

end Language

/-- A text that names no language of the service. -/
structure UnknownLanguage where
  /-- The text that was looked up. -/
  name : String
  deriving DecidableEq, Repr

/-- The wording of the error. -/
def UnknownLanguage.message (e : UnknownLanguage) : String :=
  "unknown completion language: " ++ e.name

/-- The language with the given service name, or the error that there is none. -/
def Language.parse (s : String) : Except UnknownLanguage Language :=
  match ofName? s with
  | some l => .ok l
  | none => .error ⟨s⟩

/-- What an editor's language identifiers stand for. -/
structure LanguageTable where
  /-- The entries, each an editor identifier with its language, in the order they were added. -/
  entries : List (String × Language)
  deriving DecidableEq, Repr

namespace LanguageTable

/-- The language an editor identifier stands for: that of the last entry for it. -/
def map? (t : LanguageTable) (id : String) : Option Language :=
  (t.entries.reverse.find? fun e => e.1 == id).map (·.2)

/-- The language an editor identifier stands for, plain text when there is no entry for it. -/
def mapOrPlain (t : LanguageTable) (id : String) : Language := (t.map? id).getD .plaintext

/-- Whether the table has an entry with this editor identifier or this service name. -/
def supports (t : LanguageTable) (id : String) : Bool :=
  t.entries.any fun e => e.1 == id || e.2.name == id

/-- The language to put into a request for a document with this editor identifier. -/
def requestLanguage (t : LanguageTable) (id : String) : Language := (t.mapOrPlain id).base

/-- The editor identifiers of the table, each once. -/
def ids (t : LanguageTable) : List String := (t.entries.map (·.1)).eraseDups

/-- How many editor identifiers have an entry. -/
def size (t : LanguageTable) : Nat := t.ids.length

/-- Whether there is no entry at all. -/
def isEmpty (t : LanguageTable) : Bool := t.size == 0

/-- The table of the common editors. -/
def standard : LanguageTable :=
  ⟨[("java", .java), ("python", .python), ("javascriptreact", .jsx), ("javascript", .javascript),
    ("typescript", .typescript), ("typescriptreact", .tsx), ("csharp", .csharp), ("c", .c),
    ("cpp", .cpp), ("go", .go), ("kotlin", .kotlin), ("php", .php), ("ruby", .ruby),
    ("rust", .rust), ("scala", .scala), ("shellscript", .shell), ("sql", .sql)]⟩

@[simp] theorem supports_eq_true_iff (t : LanguageTable) (id : String) :
    t.supports id = true ↔ ∃ e ∈ t.entries, e.1 = id ∨ e.2.name = id := by
  simp [supports]

end LanguageTable

end InlineCompletion
