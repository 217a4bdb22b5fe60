import InlineCompletion.Json

/-!
# Numerals

The grammar of JSON numbers, and the range of the numbers that binary floating
point can hold.

A number is measured as a reader with a 64-bit significand does it.  Digits are
gathered as long as the significand fits 64 bits; after that, digits before the
point only raise the exponent and digits behind it are left out.  The number is
out of range when the significand, rounded to 53 bits and multiplied by the
rounded power of ten, rounds to 2 ^ 1024 or more.  A power beyond 10 ^ 308 is
out of range by itself, and zero never is.
-/

namespace InlineCompletion

/-- A number cut into its parts, each a list of digits. -/
structure NumeralText where
  negative : Bool
  whole : List Char
  fraction : Option (List Char)
  /-- Whether the exponent is negative, and its digits. -/
  exponent : Option (Bool × List Char)
  deriving DecidableEq, Repr

namespace NumeralText

/-- The number that digits stand for. -/
def valueOf (digits : List Char) : Nat :=
  digits.foldl (fun n c => n * 10 + (c.toNat - '0'.toNat)) 0

/-- The digits at the beginning, and the rest. -/
def spanDigits (cs : List Char) : List Char × List Char :=
  (cs.takeWhile Char.isDigit, cs.dropWhile Char.isDigit)

/-- Cuts off an exponent; nothing may follow it. -/
def scanExponent (cs : List Char) : Option (Option (Bool × List Char)) :=
  match cs with
  | [] => some none
  | mark :: rest =>
      if mark ≠ 'e' ∧ mark ≠ 'E' then none
      else
        let (negative, digits) := match rest with
          | '-' :: digits => (true, digits)
          | '+' :: digits => (false, digits)
          | digits => (false, digits)
        if digits ≠ [] ∧ digits.all Char.isDigit then some (some (negative, digits)) else none

/-- Cuts a number into its parts: no sign but minus, no zero before other digits,
and at least one digit before and after a point. -/
def scan (cs : List Char) : Option NumeralText :=
  let (negative, cs) := match cs with
    | '-' :: rest => (true, rest)
    | _ => (false, cs)
  let (whole, cs) := spanDigits cs
  if whole = [] ∨ (whole.head? = some '0' ∧ whole ≠ ['0']) then none
  else
    match cs with
    | '.' :: rest =>
        let (fraction, rest) := spanDigits rest
        if fraction = [] then none
        else (scanExponent rest).map fun exponent => ⟨negative, whole, some fraction, exponent⟩
    | _ => (scanExponent cs).map fun exponent => ⟨negative, whole, none, exponent⟩

/-- A significand of at most 64 bits and the power of ten that goes with it. -/
structure Significand where
  value : Nat
  exponent : Int
  /-- Whether a digit did not fit any more. -/
  full : Bool
  deriving DecidableEq, Repr

/-- Takes in a digit before the point. -/
def Significand.pushWhole (s : Significand) (c : Char) : Significand :=
  let next := s.value * 10 + (c.toNat - '0'.toNat)
  if !s.full && next < UInt64.size then { s with value := next }
  else { s with exponent := s.exponent + 1, full := true }

/-- Takes in a digit behind the point. -/
def Significand.pushFraction (s : Significand) (c : Char) : Significand :=
  let next := s.value * 10 + (c.toNat - '0'.toNat)
  if !s.full && next < UInt64.size then { s with value := next, exponent := s.exponent - 1 }
  else { s with full := true }

/-- The significand of a number, before its exponent counts.  The digits behind
the point are tried anew even when those before it did not all fit. -/
def significand (t : NumeralText) : Significand :=
  let whole := t.whole.foldl Significand.pushWhole ⟨0, 0, false⟩
  (t.fraction.getD []).foldl Significand.pushFraction { whole with full := false }

/-- A natural number rounded to 53 bits, a tie to the even neighbour. -/
def roundTo53Bits (n : Nat) : Nat :=
  let bits := n.log2 + 1
  if bits ≤ 53 then n
  else
    let unit := Nat.pow 2 (bits - 53)
    let quotient := n / unit
    let rest := n % unit
    let up := unit < 2 * rest || (unit == 2 * rest && quotient % 2 == 1)
    (if up then quotient + 1 else quotient) * unit

/-- Whether the number is in the range of binary floating point. -/
def inRange (t : NumeralText) : Bool :=
  let s := t.significand
  let shift : Int := match t.exponent with
    | none => 0
    | some (true, digits) => -(valueOf digits : Int)
    | some (false, digits) => valueOf digits
  let exponent := s.exponent + shift
  if s.value = 0 then true
  else if exponent < 0 then shift ≤ Int32.maxValue.toInt
  else if 308 < exponent then false
  else
    roundTo53Bits (roundTo53Bits s.value * roundTo53Bits (Nat.pow 10 exponent.toNat)) <
      Nat.pow 2 1024

end NumeralText

/-- The value a numeral stands for; `unreadable` when it is out of range, none
when the characters are no numeral. -/
def Json.ofNumeral? (cs : List Char) : Option Json :=
  match NumeralText.scan cs with
  | none => none
  | some t =>
      if !t.inRange then some .unreadable
      else
        match t.fraction, t.exponent with
        | none, none =>
            let n := NumeralText.valueOf t.whole
            some (.number (if t.negative then .negative n else .natural n))
        | _, _ => some (.number (.decimal (String.ofList cs)))

end InlineCompletion
