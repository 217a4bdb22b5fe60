import InlineCompletion.Json.Numeral

/-!
# Tokens of a JSON text

A text is cut into tokens by one pass over its characters.  What the pass
remembers is a `Lexer`: where it is, and the tokens so far.

A string is gathered as a list of units, because an escape names a UTF-16 code
unit and not a character; two such units that follow each other directly may
make one character together.  A unit that is half of a pair without its other
half makes the whole string stand for nothing.
-/

namespace InlineCompletion.Json

/-- A token. -/
inductive Token
  | openArray
  | closeArray
  | openObject
  | closeObject
  | comma
  | colon
  /-- A string, none when it stands for no text. -/
  | literal (text : Option String)
  /-- A number, a truth value or null. -/
  | scalar (value : Json)

/-- A part of a string. -/
inductive StringUnit
  | char (c : Char)
  /-- A UTF-16 code unit that was written as an escape. -/
  | codeUnit (n : Nat)
  deriving DecidableEq, Repr

/-- The first half of a surrogate pair. -/
def isHighSurrogate (n : Nat) : Bool := 0xd800 ≤ n && n ≤ 0xdbff

/-- The second half of a surrogate pair. -/
def isLowSurrogate (n : Nat) : Bool := 0xdc00 ≤ n && n ≤ 0xdfff

/-- The character that a surrogate pair stands for. -/
def ofSurrogates (high low : Nat) : Char :=
  Char.ofNat (0x10000 + (high - 0xd800) * 0x400 + (low - 0xdc00))

/-- The characters of a string, none when half of a pair stands alone. -/
def charsOf : List StringUnit → Option (List Char)
  | [] => some []
  | .char c :: rest => (charsOf rest).map (c :: ·)
  | .codeUnit high :: .codeUnit low :: rest =>
      if isHighSurrogate high then
        if isLowSurrogate low then (charsOf rest).map (ofSurrogates high low :: ·) else none
      else if isLowSurrogate high then none
      else (charsOf (.codeUnit low :: rest)).map (Char.ofNat high :: ·)
  | .codeUnit n :: rest =>
      if isHighSurrogate n || isLowSurrogate n then none
      else (charsOf rest).map (Char.ofNat n :: ·)

/-- Where a lexer is.  What was gathered so far is held last first. -/
inductive LexerPlace
  | between
  /-- In a run of letters, digits, points and signs. -/
  | word (gathered : List Char)
  /-- In a string. -/
  | text (gathered : List StringUnit)
  /-- In a string, after a backslash. -/
  | escape (gathered : List StringUnit)
  /-- In a string, after the mark of a code unit and `count` of its digits. -/
  | codeUnit (gathered : List StringUnit) (count value : Nat)

/-- What the pass over the characters remembers. -/
structure Lexer where
  place : LexerPlace
  /-- The tokens so far, the last one first. -/
  tokens : List Token

namespace Lexer

/-- The characters that a number, a truth value or null is written with. -/
def isWordChar (c : Char) : Bool := c.isAlphanum || c == '+' || c == '-' || c == '.'

/-- The blank characters of JSON. -/
def isSpace (c : Char) : Bool := c == ' ' || c == '\t' || c == '\n' || c == '\r'

/-- The token that a word stands for. -/
def wordToken (cs : List Char) : Option Token :=
  if cs = ['n', 'u', 'l', 'l'] then some (.scalar .null)
  else if cs = ['t', 'r', 'u', 'e'] then some (.scalar (.bool true))
  else if cs = ['f', 'a', 'l', 's', 'e'] then some (.scalar (.bool false))
  else (ofNumeral? cs).map .scalar

/-- The token that a single character stands for. -/
def punctuation (c : Char) : Option Token :=
  if c = '[' then some .openArray
  else if c = ']' then some .closeArray
  else if c = '\x7b' then some .openObject
  else if c = '\x7d' then some .closeObject
  else if c = ',' then some .comma
  else if c = ':' then some .colon
  else none

/-- The character that an escape with this letter stands for. -/
def escaped (c : Char) : Option Char :=
  if c = '"' ∨ c = '\\' ∨ c = '/' then some c
  else if c = 'b' then some '\x08'
  else if c = 'f' then some '\x0c'
  else if c = 'n' then some '\n'
  else if c = 'r' then some '\r'
  else if c = 't' then some '\t'
  else none

/-- The value of a hexadecimal digit. -/
def hexDigit (c : Char) : Option Nat :=
  if '0' ≤ c ∧ c ≤ '9' then some (c.toNat - '0'.toNat)
  else if 'a' ≤ c ∧ c ≤ 'f' then some (c.toNat - 'a'.toNat + 10)
  else if 'A' ≤ c ∧ c ≤ 'F' then some (c.toNat - 'A'.toNat + 10)
  else none

/-- Takes in a character that begins something. -/
def begin (tokens : List Token) (c : Char) : Option Lexer :=
  if isSpace c then some ⟨.between, tokens⟩
  else if c = '"' then some ⟨.text [], tokens⟩
  else if isWordChar c then some ⟨.word [c], tokens⟩
  else (punctuation c).map fun t => ⟨.between, t :: tokens⟩

/-- Takes in a character. -/
def step (l : Lexer) (c : Char) : Option Lexer :=
  match l.place with
  | .between => begin l.tokens c
  | .word gathered =>
      if isWordChar c then some { l with place := .word (c :: gathered) }
      else (wordToken gathered.reverse).bind fun t => begin (t :: l.tokens) c
  | .text gathered =>
      if c = '"' then
        some ⟨.between, .literal ((charsOf gathered.reverse).map String.ofList) :: l.tokens⟩
      else if c = '\\' then some { l with place := .escape gathered }
      else if c < ' ' then none
      else some { l with place := .text (.char c :: gathered) }
  | .escape gathered =>
      if c = 'u' then some { l with place := .codeUnit gathered 0 0 }
      else (escaped c).map fun d => { l with place := .text (.char d :: gathered) }
  | .codeUnit gathered count value =>
      (hexDigit c).map fun d =>
        if count = 3 then { l with place := .text (.codeUnit (value * 16 + d) :: gathered) }
        else { l with place := .codeUnit gathered (count + 1) (value * 16 + d) }

/-- The tokens once the text is at its end. -/
def finish (l : Lexer) : Option (List Token) :=
  match l.place with
  | .between => some l.tokens.reverse
  | .word gathered => (wordToken gathered.reverse).map fun t => (t :: l.tokens).reverse
  | _ => none

end Lexer

/-- The tokens of a text, none when it cannot be cut into tokens. -/
def tokens (s : String) : Option (List Token) :=
  (s.toList.foldlM Lexer.step ⟨.between, []⟩).bind Lexer.finish

end InlineCompletion.Json
