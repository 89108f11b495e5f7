/-! The lines of a text. -/

namespace Highlighter.Text

/-- The lines of a text, where `current` holds what has been read of the current one, in reverse. -/
def linesFrom (current : List Char) : List Char → List (List Char)
  | [] => [current.reverse]
  | '\r' :: '\n' :: rest => current.reverse :: linesFrom [] rest
  | '\n' :: rest => current.reverse :: linesFrom [] rest
  | char :: rest => linesFrom (char :: current) rest

/-- The lines of a text. A line feed ends a line, together with a carriage return right in front of it; the last
line ends with the text. -/
def lines (text : String) : List String := (linesFrom [] text.toList).map .ofList

end Highlighter.Text
