import InlineCompletion.CommandLine

/-!
# The form of the arguments

Arguments have the right form if they are the option `--settings`, any number of times and
each time with a path behind it, and one script somewhere between these pairs.  The form is
said here without regard to how arguments are read (`Arguments.HasForm`): as the pairs
before the script, the script, and the pairs behind it.

Reading goes by the same cut.  Every list of arguments begins with as many pairs as it can
(`Arguments.exists_options_append`), and behind these stands nothing, or the option without
a path, or an argument of another kind.  What is read from pairs is the last of their paths
(`parseFrom_options`), so it is enough to look at what stands behind the first pairs and
then, if it is a script, at what stands behind the pairs after it.

That the pairs are taken from the left is what settles their ambiguity.  A path may look
like the option or like a call for help; it is a path because of the option before it.
-/

namespace InlineCompletion

namespace Arguments

/-- What has a meaning of its own among the arguments and is never the script. -/
def reserved : List String := ["--settings", "-h", "--help"]

/-- The option with each of these paths, one pair after the other. -/
def options (paths : List String) : List String :=
  paths.flatMap fun path => ["--settings", path]

@[simp] theorem options_nil : options [] = [] := rfl

@[simp] theorem options_cons (path : String) (paths : List String) :
    options (path :: paths) = "--settings" :: path :: options paths := rfl

/-- **The form of the arguments**, and what they say: the script stands between pairs, and
the last of the pairs, on whichever side it is, names the settings. -/
inductive HasForm : List String → Arguments → Prop
  | around (before after : List String) {script : String} (plain : script ∉ reserved) :
      HasForm (options before ++ script :: options after) ⟨script, (before ++ after).getLast?⟩

/-! ## Cutting off the pairs -/

/-- What stands behind the first pairs. -/
inductive BehindOptions : List String → Prop
  | nothing : BehindOptions []
  | lone : BehindOptions ["--settings"]
  | other {arg : String} (rest : List String) (other : arg ≠ "--settings") :
      BehindOptions (arg :: rest)

/-- **All arguments begin with as many pairs as they can.** -/
theorem exists_options_append :
    ∀ args : List String, ∃ paths rest, args = options paths ++ rest ∧ BehindOptions rest
  | [] => ⟨[], [], rfl, .nothing⟩
  | [arg] => by
      by_cases option : arg = "--settings"
      · exact ⟨[], [arg], rfl, option ▸ .lone⟩
      · exact ⟨[], [arg], rfl, .other [] option⟩
  | arg :: next :: args => by
      by_cases option : arg = "--settings"
      · obtain ⟨paths, rest, same, behind⟩ := exists_options_append args
        exact ⟨next :: paths, rest, by rw [option, same, options_cons]; rfl, behind⟩
      · exact ⟨[], arg :: next :: args, rfl, .other (next :: args) option⟩

/-! ## Reading -/

section Reading

variable (script settings : Option String)

/-- The option takes what follows it for its path, whatever that looks like. -/
theorem parseFrom_option (path : String) (rest : List String) :
    parseFrom script settings ("--settings" :: path :: rest) =
      parseFrom script (some path) rest := by
  rw [parseFrom, if_pos rfl]

/-- An option without a path is refused. -/
theorem parseFrom_lone : parseFrom script settings ["--settings"] = none := by
  rw [parseFrom, if_pos (.inl rfl)]

/-- Every other argument is the script, unless there is one already or it has a meaning of
its own. -/
theorem parseFrom_other {arg : String} (other : arg ≠ "--settings") (rest : List String) :
    parseFrom script settings (arg :: rest) =
      if arg ∈ reserved ∨ script.isSome then none else parseFrom (some arg) settings rest := by
  cases rest <;> simp [parseFrom, reserved, other, or_assoc]

/-- **Of pairs the last path is remembered.** -/
theorem parseFrom_options (paths rest : List String) :
    parseFrom script settings (options paths ++ rest) =
      parseFrom script (paths.getLast?.or settings) rest := by
  induction paths generalizing settings with
  | nil => rfl
  | cons path paths ih =>
      have last : paths.getLast?.or (some path) = (path :: paths).getLast?.or settings := by
        cases found : paths.getLast? <;> simp [List.getLast?_cons, found]
      rw [options_cons, List.cons_append, List.cons_append, parseFrom_option, ih, last]

end Reading

/-- When the script has been found, nothing may be left but pairs. -/
theorem parseFrom_some_eq_some_iff {script : String} {settings : Option String}
    {args : List String} {a : Arguments} :
    parseFrom (some script) settings args = some a ↔
      ∃ paths, args = options paths ∧ a = ⟨script, paths.getLast?.or settings⟩ := by
  constructor
  · intro taken
    obtain ⟨paths, rest, rfl, behind⟩ := exists_options_append args
    rw [parseFrom_options] at taken
    cases behind with
    | nothing => exact ⟨paths, List.append_nil _, (Option.some.inj taken).symm⟩
    | lone => rw [parseFrom_lone] at taken; cases taken
    | other rest other => simp [parseFrom_other _ _ other] at taken
  · rintro ⟨paths, rfl, rfl⟩
    have whole := parseFrom_options (some script) settings paths []
    rwa [List.append_nil] at whole

/-- **Exactly the arguments of the right form are read**, as what they say. -/
theorem parse_eq_some_iff {args : List String} {a : Arguments} :
    parse args = some a ↔ HasForm args a := by
  constructor
  · intro taken
    obtain ⟨before, rest, rfl, behind⟩ := exists_options_append args
    rw [parse, parseFrom_options, Option.or_none] at taken
    cases behind with
    | nothing => cases taken
    | lone => rw [parseFrom_lone] at taken; cases taken
    | @other script rest other =>
        rw [parseFrom_other _ _ other] at taken
        split at taken
        · cases taken
        · next plain =>
          obtain ⟨after, rfl, rfl⟩ := parseFrom_some_eq_some_iff.mp taken
          rw [← List.getLast?_append]
          exact .around before after (not_or.mp plain).1
  · intro form
    cases form with
    | @around before after script plain =>
        have other : script ≠ "--settings" := fun option => plain (by simp [option, reserved])
        rw [parse, parseFrom_options, Option.or_none, parseFrom_other _ _ other,
          if_neg (by simpa using plain), List.getLast?_append]
        exact parseFrom_some_eq_some_iff.mpr ⟨after, rfl, rfl⟩

/-- A call for help behind the option is its path. -/
example : parse ["--settings", "--help", "play.jsonl"] = some ⟨"play.jsonl", some "--help"⟩ := by
  decide

/-- All other arguments are refused. -/
theorem parse_eq_none_iff {args : List String} : parse args = none ↔ ¬ ∃ a, HasForm args a := by
  simp only [Option.eq_none_iff_forall_ne_some, ne_eq, parse_eq_some_iff, not_exists]

end Arguments

/-! ## The program -/

namespace CommandLine

open Arguments (HasForm)

section Failures

variable {σ : Type} (fs : FileSystem (StateM σ)) (v : FolderVariables)
  (input : StateM σ (Except FileError String)) {args : List String} {s : σ}

theorem chooseSettings_error {named : Option String} {e : ProgramError}
    (failed : ((chooseSettings fs v named).run s).1 = .error e) :
    ∃ source, e = .settings source := by
  cases named with
  | none => cases failed
  | some path =>
      rw [chooseSettings, StateT.run_bind] at failed
      generalize (SettingsFile.load fs path).run s = loaded at failed
      obtain ⟨_ | _, _⟩ := loaded
      · exact ⟨_, (Except.error.inj failed).symm⟩
      · cases failed

theorem readScriptText_error {script : String} {e : ProgramError}
    (failed : ((readScriptText fs input script).run s).1 = .error e) :
    ∃ source, e = .io source := by
  unfold readScriptText at failed
  split at failed
  all_goals
    rw [StateT.run_bind] at failed
    generalize StateT.run _ s = found at failed
    obtain ⟨_ | _, _⟩ := found
    · exact ⟨_, (Except.error.inj failed).symm⟩
    · cases failed

theorem playText_ne_usage (settings : Settings) (text : String) :
    (playText settings text).2 ≠ some .usage := by
  unfold playText
  split
  · nofun
  · dsimp only
    cases (Playback.play settings _).failure <;> nofun

/-- Arguments that are read lead to the settings, then to the script, then to its playback,
and each of the three may be the end. -/
theorem perform_of_read {a : Arguments} (read : Arguments.parse args = some a) :
    (perform fs v input args).run s =
      match (chooseSettings fs v a.settings).run s with
      | (.error e, s) => (([], some e), s)
      | (.ok settings, s) =>
          match (readScriptText fs input a.script).run s with
          | (.error e, s) => (([], some e), s)
          | (.ok text, s) => (playText settings text, s) := by
  rw [perform, read]
  dsimp only
  rw [StateT.run_bind]
  split
  · next chosen => rw [chosen]; rfl
  · next chosen =>
    rw [chosen]
    change (readScriptText fs input a.script >>= _).run _ = _
    rw [StateT.run_bind]
    split
    · next found => rw [found]; rfl
    · next found => rw [found]; rfl

/-- None of the three blames the arguments. -/
theorem perform_ne_usage {a : Arguments} (read : Arguments.parse args = some a) :
    ((perform fs v input args).run s).1.2 ≠ some .usage := by
  rw [perform_of_read fs v input read]
  split
  · next chosen =>
    obtain ⟨source, rfl⟩ := chooseSettings_error fs v (congrArg Prod.fst chosen)
    nofun
  · split
    · next found =>
      obtain ⟨source, rfl⟩ := readScriptText_error fs input (congrArg Prod.fst found)
      nofun
    · exact playText_ne_usage _ _

/-- Arguments that are refused lead nowhere. -/
theorem perform_of_refused (refused : Arguments.parse args = none) :
    (perform fs v input args).run s = (([], some .usage), s) := by
  rw [perform, refused]
  rfl

theorem perform_eq_usage_iff :
    ((perform fs v input args).run s).1.2 = some .usage ↔ Arguments.parse args = none := by
  constructor
  · intro usage
    cases read : Arguments.parse args with
    | none => rfl
    | some a => exact absurd usage (perform_ne_usage fs v input read)
  · intro refused
    rw [perform_of_refused fs v input refused]

/-- Two is the exit code for the arguments' fault and for no other. -/
theorem exitCode_eq_two_iff {logs : Option String} {output : List String}
    {failure : Option ProgramError} :
    (outcomeOf logs output failure).exitCode = 2 ↔ failure = some .usage := by
  unfold outcomeOf
  split <;> simp_all

end Failures

/-- **Exactly the arguments of the right form are taken.**  They are read as their script
and the last of the paths of settings, if there is one; all others are refused.

And they are refused for good: the program says how it is used, and does so without having
looked at a file, if and only if its arguments do not have the form; and its exit code is
two in that case alone, whatever the files hold and however the playback ends. -/
theorem arguments_of_form_are_taken (args : List String) :
    (∀ a, Arguments.parse args = some a ↔ HasForm args a) ∧
      (Arguments.parse args = none ↔ ¬ ∃ a, HasForm args a) ∧
      ∀ {σ : Type} (fs : FileSystem (StateM σ)) (v : FolderVariables)
        (input : StateM σ (Except FileError String)) (s : σ),
        ((perform fs v input args).run s = (([], some .usage), s) ↔ ¬ ∃ a, HasForm args a) ∧
          (((run fs v input args).run s).1.exitCode = 2 ↔ ¬ ∃ a, HasForm args a) := by
  refine ⟨fun a => Arguments.parse_eq_some_iff, Arguments.parse_eq_none_iff, ?_⟩
  intro σ fs v input s
  rw [← Arguments.parse_eq_none_iff]
  constructor
  · constructor
    · intro usage
      exact (perform_eq_usage_iff fs v input).mp (by rw [usage])
    · exact perform_of_refused fs v input
  · -- the logs are prepared first, so the rest begins in the state that this leaves
    exact exitCode_eq_two_iff.trans
      (perform_eq_usage_iff fs v input (s := ((prepareLogs fs v).run s).2))

end CommandLine

end InlineCompletion
