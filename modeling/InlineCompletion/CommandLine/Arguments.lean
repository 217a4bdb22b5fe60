/-!
# Arguments of the command line

The program takes one script and, any number of times and anywhere, the option
`--settings` with a path, of which the last counts.  What follows the option is
its path whatever it looks like.  Asking for help is answered with the usage, as
is everything that does not have this form.
-/

namespace InlineCompletion

/-- What the program is asked to do. -/
structure Arguments where
  /-- The path of the script, or `-` for the standard input. -/
  script : String
  /-- The path of the settings, if one is named. -/
  settings : Option String
  deriving DecidableEq, Repr

namespace Arguments

/-- Reads the arguments that are left, when `script` and `settings` were found so
far. -/
def parseFrom (script settings : Option String) : List String → Option Arguments
  | [] => script.map fun s => ⟨s, settings⟩
  | [arg] =>
      if arg = "--settings" ∨ arg = "-h" ∨ arg = "--help" ∨ script.isSome then none
      else some ⟨arg, settings⟩
  | arg :: next :: rest =>
      if arg = "--settings" then parseFrom script (some next) rest
      else if arg = "-h" ∨ arg = "--help" ∨ script.isSome then none
      else parseFrom (some arg) settings (next :: rest)

/-- Reads the arguments of the command line; none when they do not have the
right form. -/
def parse (args : List String) : Option Arguments := parseFrom none none args

/-- The help on the arguments. -/
def usage : String := "usage: whisperline <script.jsonl | -> [--settings <path>]"

end Arguments

end InlineCompletion
