import Highlighter.Span.ByteMarks
import Highlighter.Terminal.Color

/-!
The color of three channels, cut out of a text by its bytes. Nothing is taken for granted here: to cut out bytes that
the text does not have, or to cut a character apart, fails.
-/

namespace Highlighter.TerminalColor

def channelAt? (text : String) (start : Nat) : Option (Option Nat) :=
  (ByteMarks.slice? text start (start + 2)).map fun digits => channel? digits.toList

/-- The color of a text of six bytes, all of which are characters of their own. No other text has one. -/
def ofBytes? (text : String) : Option (Option TerminalColor) :=
  if text.utf8ByteSize ≠ 6 ∨ text.toList.any (128 ≤ ·.toNat) then some none
  else do
    let some r ← channelAt? text 0 | return none
    let some g ← channelAt? text 2 | return none
    let some b ← channelAt? text 4 | return none
    return some (rgb r g b)

end Highlighter.TerminalColor
