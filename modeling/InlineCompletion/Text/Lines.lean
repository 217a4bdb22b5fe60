/-!
# Lines

A text is cut into lines at each line feed.  A line feed ends a line, so a text
that ends in one has no further, empty line after it; and a carriage return
right before a line feed belongs to the line's end and not to the line.
-/

namespace InlineCompletion.Text

/-- The lines of a text given as characters; `line` holds the characters of the
present line so far, the last one first. -/
def linesFrom (line : List Char) : List Char → List String
  | [] => if line.isEmpty then [] else [String.ofList line.reverse]
  | '\n' :: rest =>
      let ended := match line with
        | '\r' :: before => before
        | _ => line
      String.ofList ended.reverse :: linesFrom [] rest
  | c :: rest => linesFrom (c :: line) rest

/-- The lines of a text. -/
def lines (s : String) : List String := linesFrom [] s.toList

end InlineCompletion.Text
