import Highlighter.Document
import Highlighter.Terminal.Color

/-! Documents as text for a terminal, with sequences that switch colors and styles. -/

namespace Highlighter.Terminal

def rendition (codes : List Nat) : String :=
  "\x1b[" ++ ";".intercalate (codes.map toString) ++ "m"

def italic : String := rendition [3]

def reset : String := rendition [0]

/-- Text in a color. Where colors are not wanted, the sequence is empty. -/
def foreground (colored : Bool) (color : TerminalColor) : String :=
  rendition (if colored then 38 :: color.code else [])

def renderSpan (colored : Bool) (styled : StyledSpan) : String :=
  (if styled.span.kind = .comment then italic else "")
    ++ ((TerminalColor.ofId? styled.color).map (foreground colored)).getD ""
    ++ styled.span.text ++ reset ++ reset

def renderLine (colored : Bool) (line : Line) : String :=
  String.join (line.spans.map (renderSpan colored)) ++ "\n"

def render (colored : Bool) (document : Document) : String :=
  String.join (document.lines.map (renderLine colored))

end Highlighter.Terminal
