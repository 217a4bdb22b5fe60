import InlineCompletion.Text.Hidden

/-!
# Quoted text

A text in double quotes, for logs: each character stands for itself unless it
is a quote, a backslash or a character that does not show on its own.  The
latter are written with a letter where there is a usual one and as their code
point in braces otherwise, so that nothing in a quoted text can hide.
-/

namespace InlineCompletion.Text

/-- The hexadecimal digits of a number, in small letters. -/
def hexDigits (n : Nat) : String := String.ofList (Nat.toDigits 16 n)

/-- How a character is written inside quotes. -/
def quotedChar (c : Char) : String :=
  if c = '\x00' then "\\0"
  else if c = '\t' then "\\t"
  else if c = '\r' then "\\r"
  else if c = '\n' then "\\n"
  else if c = '\\' then "\\\\"
  else if c = '"' then "\\\""
  else if isHidden c then "\\u\x7b" ++ hexDigits c.toNat ++ "\x7d"
  else c.toString

/-- A text in quotes. -/
def quoted (s : String) : String :=
  "\"" ++ String.join (s.toList.map quotedChar) ++ "\""

end InlineCompletion.Text
