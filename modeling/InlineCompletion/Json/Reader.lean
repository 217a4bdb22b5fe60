import InlineCompletion.Json.Token

/-!
# Reading a JSON text

The tokens of a text are put together by a pass that keeps a stack of the
arrays and objects it is inside of, so that a text may nest as deeply as it
likes.  `Expecting` says what the grammar allows next.
-/

namespace InlineCompletion.Json

/-- An array or an object that is not closed yet, its parts last first. -/
inductive Frame
  | items (gathered : List Json)
  /-- An object between two members. -/
  | members (gathered : List (Option String × Json))
  /-- An object in the middle of the member `name`. -/
  | member (gathered : List (Option String × Json)) (name : Option String)

/-- What may come next. -/
inductive Expecting
  | value
  /-- A value, or the end of an empty array. -/
  | firstItem
  /-- A name, or the end of an empty object. -/
  | firstName
  | name
  | colon (name : Option String)
  /-- A comma, or the end of the innermost array or object. -/
  | separator
  /-- Nothing: the value is complete. -/
  | nothing (root : Json)

/-- What the pass over the tokens remembers. -/
structure Builder where
  /-- The arrays and objects that are not closed yet, the innermost first. -/
  stack : List Frame
  expecting : Expecting

namespace Builder

/-- A value is complete. -/
def complete (stack : List Frame) (v : Json) : Option Builder :=
  match stack with
  | [] => some ⟨[], .nothing v⟩
  | .items gathered :: rest => some ⟨.items (v :: gathered) :: rest, .separator⟩
  | .member gathered name :: rest => some ⟨.members ((name, v) :: gathered) :: rest, .separator⟩
  | .members _ :: _ => none

/-- The object with these members; one that has an unreadable name stands for nothing. -/
def objectOf (members : List (Option String × Json)) : Json :=
  match members.mapM fun m => m.1.map fun name => (name, m.2) with
  | some members => .object members
  | none => .unreadable

/-- The innermost array or object ends. -/
def close (stack : List Frame) (t : Token) : Option Builder :=
  match stack, t with
  | .items gathered :: rest, .closeArray => complete rest (.array gathered.reverse)
  | .members gathered :: rest, .closeObject => complete rest (objectOf gathered.reverse)
  | _, _ => none

/-- A value begins. -/
def beginValue (stack : List Frame) (t : Token) : Option Builder :=
  match t with
  | .literal (some s) => complete stack (.string s)
  | .literal none => complete stack .unreadable
  | .scalar v => complete stack v
  | .openArray => some ⟨.items [] :: stack, .firstItem⟩
  | .openObject => some ⟨.members [] :: stack, .firstName⟩
  | _ => none

/-- Takes in a token. -/
def step (b : Builder) (t : Token) : Option Builder :=
  match b.expecting, t with
  | .value, t => beginValue b.stack t
  | .firstItem, .closeArray => close b.stack t
  | .firstItem, t => beginValue b.stack t
  | .firstName, .closeObject => close b.stack t
  | .firstName, .literal name => some { b with expecting := .colon name }
  | .name, .literal name => some { b with expecting := .colon name }
  | .colon name, .colon =>
      match b.stack with
      | .members gathered :: rest => some ⟨.member gathered name :: rest, .value⟩
      | _ => none
  | .separator, .comma =>
      match b.stack with
      | .items _ :: _ => some { b with expecting := .value }
      | .members _ :: _ => some { b with expecting := .name }
      | _ => none
  | .separator, t => close b.stack t
  | _, _ => none

end Builder

/-- The value that a text stands for, none when the text is not well formed. -/
def parse? (s : String) : Option Json :=
  match (tokens s).bind fun ts => ts.foldlM Builder.step ⟨[], .value⟩ with
  | some ⟨_, .nothing root⟩ => some root
  | _ => none

end InlineCompletion.Json
