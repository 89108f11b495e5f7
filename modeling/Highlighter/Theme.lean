import Highlighter.Dictionary
import Highlighter.Error

/-! Themes, which give every kind of token a color, and their registry. -/

namespace Highlighter

/-- The name of a color. What it looks like is for the output to decide. -/
abbrev ColorId := String

structure Theme where
  name : String
  colors : List (TokenKind × ColorId) := []
  /-- The color of plain text and of kinds without one of their own. -/
  fallback : ColorId
  /-- The color to put behind the text, for outputs that draw one. -/
  background : Option ColorId := none
  deriving DecidableEq, Repr

namespace Theme

def color (theme : Theme) (kind : TokenKind) : ColorId :=
  if kind = .plain then theme.fallback else (theme.colors.lookup kind).getD theme.fallback

end Theme

structure ThemeRegistry where
  themes : Dictionary Theme := []

namespace ThemeRegistry

/-- Adds a theme. An earlier one of the same name goes. -/
def add (registry : ThemeRegistry) (theme : Theme) : ThemeRegistry where
  themes := registry.themes.insert theme.name theme

def get (registry : ThemeRegistry) (name : String) : Except Error Theme :=
  match registry.themes.get? name with
  | some theme => .ok theme
  | none => .error (.unknownTheme name)

def names (registry : ThemeRegistry) : List String := registry.themes.names

end ThemeRegistry

end Highlighter
