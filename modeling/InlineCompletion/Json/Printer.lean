import InlineCompletion.Json

/-!
# Writing a JSON text

There are two layouts.  The compact one has no blanks at all.  The indented one
puts every item and member on a line of its own, two blanks further in than the
brackets around it, and a blank after the colon.
-/

namespace InlineCompletion.Json

/-- A hexadecimal digit. -/
def hexChar (n : Nat) : Char := Nat.digitChar n

/-- How a character is written inside a string: quotes, backslashes and control
characters as escapes, everything else as it is. -/
def printedChar (c : Char) : String :=
  if c = '"' then "\\\""
  else if c = '\\' then "\\\\"
  else if c = '\x08' then "\\b"
  else if c = '\x0c' then "\\f"
  else if c = '\n' then "\\n"
  else if c = '\r' then "\\r"
  else if c = '\t' then "\\t"
  else if c < ' ' then
    String.ofList ['\\', 'u', '0', '0', hexChar (c.toNat / 16), hexChar (c.toNat % 16)]
  else c.toString

/-- A text as a string of JSON. -/
def printedString (s : String) : String :=
  "\"" ++ String.join (s.toList.map printedChar) ++ "\""

/-- A number. -/
def printedNumeral : Numeral → String
  | .natural n => toString n
  | .negative n => "-" ++ toString n
  | .decimal text => text

/-- A value that is neither an array nor an object.  What stands for no value is
written as half of a surrogate pair. -/
def printedScalar : Json → String
  | null => "null"
  | bool true => "true"
  | bool false => "false"
  | number n => printedNumeral n
  | string s => printedString s
  | unreadable => "\"\\ud800\""
  | array _ => "[]"
  | object _ => "\x7b\x7d"

mutual

/-- A value in the compact layout. -/
def compact : Json → String
  | array items => "[" ++ ",".intercalate (compactItems items) ++ "]"
  | object members => "\x7b" ++ ",".intercalate (compactMembers members) ++ "\x7d"
  | j => printedScalar j

/-- The items of an array in the compact layout. -/
def compactItems : List Json → List String
  | [] => []
  | j :: rest => j.compact :: compactItems rest

/-- The members of an object in the compact layout. -/
def compactMembers : List (String × Json) → List String
  | [] => []
  | (name, j) :: rest => (printedString name ++ ":" ++ j.compact) :: compactMembers rest

end

/-- The beginning of a line that is `level` steps further in. -/
def newLine (level : Nat) : String := "\n" ++ String.ofList (List.replicate (2 * level) ' ')

/-- Lines between brackets, one step further in than `level`; nothing between
the brackets when there are no lines. -/
def bracketed (left right : String) (level : Nat) (lines : List String) : String :=
  match lines with
  | [] => left ++ right
  | _ =>
      left ++ newLine (level + 1) ++ ("," ++ newLine (level + 1)).intercalate lines ++
        newLine level ++ right

mutual

/-- A value in the indented layout, `level` steps in. -/
def indentedAt (level : Nat) : Json → String
  | array items => bracketed "[" "]" level (indentedItems level items)
  | object members => bracketed "\x7b" "\x7d" level (indentedMembers level members)
  | j => printedScalar j

/-- The items of an array that is `level` steps in. -/
def indentedItems (level : Nat) : List Json → List String
  | [] => []
  | j :: rest => j.indentedAt (level + 1) :: indentedItems level rest

/-- The members of an object that is `level` steps in. -/
def indentedMembers (level : Nat) : List (String × Json) → List String
  | [] => []
  | (name, j) :: rest =>
      (printedString name ++ ": " ++ j.indentedAt (level + 1)) :: indentedMembers level rest

end

/-- A value in the indented layout. -/
def indented (j : Json) : String := j.indentedAt 0

end InlineCompletion.Json
