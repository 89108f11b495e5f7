import Highlighter.Document
import Highlighter.Text.Quoted

/-! Documents as plain listings with one row for each span. -/

namespace Highlighter.Terminal

/-- The row of a span on the line of a number: place, kind, color and quoted text. -/
def dumpSpan (number : Nat) (styled : StyledSpan) : String :=
  toString number ++ ":" ++ toString styled.span.start ++ "\t" ++ styled.span.kind.name ++ "\t" ++ styled.color
    ++ "\t" ++ Text.quoted styled.span.text ++ "\n"

def dumpLine (number : Nat) (line : Line) : String := String.join (line.spans.map (dumpSpan number))

def dumpLines (number : Nat) : List Line → String
  | [] => ""
  | line :: rest => dumpLine number line ++ dumpLines (number + 1) rest

def dump (document : Document) : String := dumpLines 1 document.lines

end Highlighter.Terminal
