import InlineCompletion.Script
import InlineCompletion.Wire

/-!
# Steps of a script

A step is something a user, the editor or the service does.  It is written as a
JSON record: an object whose member `op` names the step and whose other members
are its fields, or an array that begins with the name and goes on with the
fields in their order.

Because the name may come after the fields, a line is read as a whole before
any of it is looked at.  So, other than in the records of the wire, no part of
it may be unreadable, passed over or not, and it may not nest too deeply.
-/

namespace InlineCompletion

open Wire

/-- A step of a script. -/
inductive Step
  /-- Sign in, as a Builder ID unless a start URL is given. -/
  | connect (startUrl region : Option String)
  | disconnect
  /-- The connection expires. -/
  | expire
  /-- Sign in again. -/
  | reauthenticate
  | openDocument (uri language text : String) (cursor : Option Nat)
  | typeText (text : String)
  | backspace (count : Nat)
  /-- Time passes. -/
  | wait (ms : Nat)
  | moveCursor (offset : Nat) (mouse : Bool)
  | next
  | previous
  | accept
  | reject
  /-- Ask for suggestions by hand. -/
  | invoke
  | blur
  | focus
  | close
  /-- The service's answer to the next request that has none yet. -/
  | respond (suggestions : List Suggestion)
  deriving DecidableEq, Repr

namespace Step

/-- The name of a step. -/
def name : Step → String
  | connect .. => "connect"
  | disconnect => "disconnect"
  | expire => "expire"
  | reauthenticate => "reauthenticate"
  | openDocument .. => "open"
  | typeText _ => "type"
  | backspace _ => "backspace"
  | wait _ => "wait"
  | moveCursor .. => "move_cursor"
  | next => "next"
  | previous => "previous"
  | accept => "accept"
  | reject => "reject"
  | invoke => "invoke"
  | blur => "blur"
  | focus => "focus"
  | close => "close"
  | respond _ => "respond"

/-- A count or an offset. -/
def natural? (j : Json) : Option Nat := (word? j).map (·.toNat)

/-- A step without fields. -/
def bare (step : Step) (fields : Json) : Option Step := (fieldsOf? [] fields).map fun _ => step

/-- The step of this name with the given fields. -/
def ofFields? (name : String) (fields : Json) : Option Step :=
  match name with
  | "connect" =>
      match fieldsOf? ["start_url", "region"] fields with
      | some [startUrl, region] => do
          return .connect (← optional text? startUrl) (← optional text? region)
      | _ => none
  | "disconnect" => bare .disconnect fields
  | "expire" => bare .expire fields
  | "reauthenticate" => bare .reauthenticate fields
  | "open" =>
      match fieldsOf? ["uri", "language", "text", "cursor"] fields with
      | some [uri, language, text, cursor] => do
          return .openDocument (← required text? uri) (← required text? language)
            (← withDefault "" text? text) (← optional natural? cursor)
      | _ => none
  | "type" =>
      match fieldsOf? ["text"] fields with
      | some [text] => do return .typeText (← required text? text)
      | _ => none
  | "backspace" =>
      match fieldsOf? ["count"] fields with
      | some [count] => do return .backspace (← withDefault 1 natural? count)
      | _ => none
  | "wait" =>
      match fieldsOf? ["ms"] fields with
      | some [ms] => do return .wait (← required natural? ms)
      | _ => none
  | "move_cursor" =>
      match fieldsOf? ["offset", "mouse"] fields with
      | some [offset, mouse] => do
          return .moveCursor (← required natural? offset) (← withDefault false bool? mouse)
      | _ => none
  | "next" => bare .next fields
  | "previous" => bare .previous fields
  | "accept" => bare .accept fields
  | "reject" => bare .reject fields
  | "invoke" => bare .invoke fields
  | "blur" => bare .blur fields
  | "focus" => bare .focus fields
  | "close" => bare .close fields
  | "respond" =>
      match fieldsOf? ["suggestions"] fields with
      | some [suggestions] => do
          return .respond (← required (list? Suggestion.decode?) suggestions)
      | _ => none
  | _ => none

/-- Reads a step: its name is the member `op` of an object or the first item of
an array, and what is left holds its fields. -/
def decode? : Json → Option Step
  | .object members =>
      match fieldOf? members "op" with
      | some (some (.string name)) =>
          ofFields? name (.object (members.filter fun m => m.1 != "op"))
      | _ => none
  | .array (.string name :: fields) => ofFields? name (.array fields)
  | _ => none

/-- How deep a step may nest. -/
def maxDepth : Nat := 127

/-- Reads a step from a line. -/
def ofLine? (line : String) : Option Step :=
  match Json.parse? line with
  | some j => if j.isReadable && j.depth ≤ maxDepth then decode? j else none
  | none => none

/-- Reads a script of steps. -/
def readScript (text : String) : Except Script.LineError (List Step) :=
  Script.read ofLine? text

end Step

end InlineCompletion
