/-! Text in columns. -/

namespace Highlighter.Text

def padded (width : Nat) (text : String) : String := text.pushn ' ' (width - text.length)

end Highlighter.Text
