import InlineCompletion.Playback.Player

/-!
# The record of a playback

After each step one line is written that shows where the player stands: a JSON
object with its members in the order of their names.
-/

namespace InlineCompletion.Playback

/-- The name of what a trigger is doing. -/
def phaseName : Trigger.Phase → String
  | .idle => "idle"
  | .debouncing .. => "debouncing"
  | .inFlight _ => "in_flight"

/-- The open document as the record shows it. -/
def reportDocument (d : EditorDocument) : Json :=
  .object
    [("cursor", .ofNat d.cursor), ("text", .string d.text), ("uri", .string d.id.text)]

/-- The live session as the record shows it. -/
def reportSession (s : Session) : Json :=
  .object
    [("index", .ofNat s.index),
      ("items", .array (s.items.map fun i => .string i.suggestion.content)),
      ("typed", .string s.typed)]

/-- The line for step `number`, which is called `op`. -/
def reportLine (p : Player) (number : Nat) (op : String) : Json :=
  let controller := p.engine.controller
  .object
    [("connected", .bool controller.connection.connected),
      ("decisions", .array (p.engine.decisions.map fun d => .ofInt d.outcome.asIndex)),
      ("document", (p.document.map reportDocument).getD .null),
      ("op", .string op),
      ("phase", .string (phaseName controller.trigger.phase)),
      ("prompts", .array (p.prompts.map fun prompt => .string prompt.name)),
      ("session", (controller.offering.session.map reportSession).getD .null),
      ("step", .ofNat number),
      ("valid", .bool controller.connection.valid)]

/-- What playing a script gives. -/
structure Record where
  /-- A line for each step that was done. -/
  lines : List Json
  /-- Why the playback stopped before the end of the script. -/
  failure : Option ConnectionError

/-- Plays the steps of which the first has number `number`. -/
def playFrom (p : Player) (number : Nat) : List Step → Record
  | [] => ⟨[], none⟩
  | s :: rest =>
      match p.step s with
      | .error e => ⟨[], some e⟩
      | .ok p =>
          let later := playFrom { p with prompts := [] } (number + 1) rest
          { later with lines := reportLine p number s.name :: later.lines }

/-- **Plays a script** from its beginning. -/
def play (settings : Settings) (steps : List Step) : Record := playFrom (.new settings) 0 steps

@[simp] theorem playFrom_nil (p : Player) (number : Nat) : playFrom p number [] = ⟨[], none⟩ :=
  rfl

end InlineCompletion.Playback
