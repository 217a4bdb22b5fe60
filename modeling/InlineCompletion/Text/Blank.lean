/-!
# Blank characters

A character is blank when it has the Unicode property `White_Space`, which 25
code points have.  Trimming takes the blank characters off both ends of a text.
-/

namespace InlineCompletion.Text

/-- Whether a character has the property `White_Space`. -/
def isBlank (c : Char) : Bool :=
  let n := c.toNat
  (0x9 ≤ n && n ≤ 0xd) || n == 0x20 || n == 0x85 || n == 0xa0 || n == 0x1680 ||
    (0x2000 ≤ n && n ≤ 0x200a) || n == 0x2028 || n == 0x2029 || n == 0x202f || n == 0x205f ||
    n == 0x3000

/-- The characters of a text without the blank ones at its beginning. -/
def trimStart (cs : List Char) : List Char := cs.dropWhile isBlank

end InlineCompletion.Text
