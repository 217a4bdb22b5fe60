import InlineCompletion.Json

/-!
# Records on the wire

A record can be written in two ways: as an object with a member for each field,
or as an array of the fields in their order.  In an object the fields stand in
any order and members with other names are passed over, but no field may be
given twice.  An array may stop early and may not go on after the last field.

`fieldsOf?` reads either form into a list with a place for each field.  What a
field that is not given means is up to the field: `required`, `withDefault` and
`optional` are the three answers.
-/

namespace InlineCompletion.Wire

/-- What is given for each of the fields `names`. -/
abbrev Fields := List (Option Json)

/-- What the members say about the field `name`: none when they say it twice. -/
def fieldOf? (members : List (String × Json)) (name : String) : Option (Option Json) :=
  match members.filter fun m => m.1 == name with
  | [] => some none
  | [m] => some (some m.2)
  | _ => none

/-- The fields of a record, by name from an object and by place from an array. -/
def fieldsOf? (names : List String) : Json → Option Fields
  | .object members => names.mapM (fieldOf? members)
  | .array items =>
      if items.length ≤ names.length then
        some (items.map some ++ List.replicate (names.length - items.length) none)
      else none
  | _ => none

/-- A field that must be given. -/
def required {α : Type} (decode : Json → Option α) : Option Json → Option α
  | some j => decode j
  | none => none

/-- A field that has the value `standard` where it is not given. -/
def withDefault {α : Type} (standard : α) (decode : Json → Option α) : Option Json → Option α
  | some j => decode j
  | none => some standard

/-- A field that may be absent, or given as null, which is the same. -/
def optional {α : Type} (decode : Json → Option α) : Option Json → Option (Option α)
  | none => some none
  | some .null => some none
  | some j => (decode j).map some

/-- A truth value. -/
def bool? : Json → Option Bool
  | .bool b => some b
  | _ => none

/-- A text. -/
def text? : Json → Option String
  | .string s => some s
  | _ => none

/-- A word of 64 bits: digits alone, and not too many. -/
def word? : Json → Option UInt64
  | .number (.natural n) => if n < UInt64.size then some (UInt64.ofNat n) else none
  | _ => none

/-- A list. -/
def list? {α : Type} (decode : Json → Option α) : Json → Option (List α)
  | .array items => items.mapM decode
  | _ => none

/-- A pair, written as an array of two. -/
def pair? {α : Type} (decode : Json → Option α) : Json → Option (α × α)
  | .array [a, b] =>
      match decode a, decode b with
      | some a, some b => some (a, b)
      | _, _ => none
  | _ => none

/-- A name out of a fixed list: the name as a text, or an object whose only
member has the name and is null. -/
def choice? {α : Type} (ofName? : String → Option α) : Json → Option α
  | .string s => ofName? s
  | .object [(name, .null)] => ofName? name
  | _ => none

/-- A word as a value. -/
def ofWord (w : UInt64) : Json := .ofNat w.toNat

/-- A word is read back as it was written. -/
@[simp] theorem word?_ofWord (w : UInt64) : word? (ofWord w) = some w := by
  show (if w.toNat < UInt64.size then some (UInt64.ofNat w.toNat) else none) = some w
  rw [if_pos w.toNat_lt, UInt64.ofNat_toNat]

end InlineCompletion.Wire
