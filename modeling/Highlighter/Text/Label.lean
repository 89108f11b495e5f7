import Highlighter.Unicode.Case

/-! Labels for names. -/

namespace Highlighter.Text

def capitalize (word : String) : String :=
  match word.toList with
  | [] => ""
  | first :: rest => .ofList (Unicode.uppercase first ++ rest)

/-- The label of a name: its words, which hyphens divide, capitalized and divided by blanks. -/
def label (name : String) : String := " ".intercalate ((name.splitOn "-").map capitalize)

end Highlighter.Text
