import Highlighter.Grammar
import Highlighter.Text.Lines
import Highlighter.Theme

/-! Documents: source texts whose lines are divided into spans with colors. -/

namespace Highlighter

structure StyledSpan where
  span : Span
  color : ColorId
  deriving DecidableEq, Repr

structure Line where
  spans : List StyledSpan
  deriving DecidableEq, Repr

def Line.text (line : Line) : String := String.join (line.spans.map (·.span.text))

structure Document where
  lines : List Line
  deriving DecidableEq, Repr

def Line.ofText (grammar : Grammar) (theme : Theme) (text : String) : Line where
  spans := (grammar.spans text).map fun span => ⟨span, theme.color span.kind⟩

/-- The document of a source text. Every line is taken by itself. -/
def Document.ofSource (grammar : Grammar) (theme : Theme) (source : String) : Document where
  lines := (Text.lines source).map (Line.ofText grammar theme)

end Highlighter
