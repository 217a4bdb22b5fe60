/-!
# JSON values

The tree that a JSON text stands for.  Members of an object keep their order
and may share a name, because a reader of a record has to see both.

### What a text may say without meaning anything

A text can be well formed and still hold something that stands for no value: a
string whose escapes leave half of a surrogate pair, an object with such a
string for a name, a number beyond the range of binary floating point.  Where
such a thing stands in a part that nobody looks at, it does no harm, so the
tree has a place for it, `unreadable`, and every decoder refuses it.
`isReadable` says that there is none in the whole tree.
-/

namespace InlineCompletion

/-- A number as it was written. -/
inductive Numeral
  /-- Digits alone. -/
  | natural (n : Nat)
  /-- A minus sign and digits. -/
  | negative (n : Nat)
  /-- Anything with a fraction or an exponent, as it was written. -/
  | decimal (text : String)
  deriving DecidableEq, Repr

/-- A JSON value. -/
inductive Json
  | null
  | bool (value : Bool)
  | number (value : Numeral)
  | string (value : String)
  | array (items : List Json)
  | object (members : List (String × Json))
  /-- Something well formed that stands for no value. -/
  | unreadable
  deriving Repr

namespace Json

/-- A natural number as a value. -/
def ofNat (n : Nat) : Json := .number (.natural n)

/-- An integer as a value. -/
def ofInt : Int → Json
  | .ofNat n => .number (.natural n)
  | .negSucc n => .number (.negative (n + 1))

mutual

/-- Whether everything in the tree stands for a value. -/
def isReadable : Json → Bool
  | array items => allReadable items
  | object members => membersReadable members
  | unreadable => false
  | _ => true

/-- Whether everything in the items stands for a value. -/
def allReadable : List Json → Bool
  | [] => true
  | j :: rest => j.isReadable && allReadable rest

/-- Whether everything in the members stands for a value. -/
def membersReadable : List (String × Json) → Bool
  | [] => true
  | (_, j) :: rest => j.isReadable && membersReadable rest

end

mutual

/-- How deep arrays and objects stand inside one another. -/
def depth : Json → Nat
  | array items => depthOfItems items + 1
  | object members => depthOfMembers members + 1
  | _ => 0

/-- The depth of the deepest item. -/
def depthOfItems : List Json → Nat
  | [] => 0
  | j :: rest => max j.depth (depthOfItems rest)

/-- The depth of the deepest member. -/
def depthOfMembers : List (String × Json) → Nat
  | [] => 0
  | (_, j) :: rest => max j.depth (depthOfMembers rest)

end

end Json

end InlineCompletion
