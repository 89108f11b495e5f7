import Highlighter.Text.Digits
import Highlighter.Theme

/-! Colors of terminals, and the colors that names of colors stand for. -/

namespace Highlighter

inductive TerminalColor where
  | black
  | white
  | darkGrey
  | red
  | darkRed
  | yellow
  | darkYellow
  | green
  | darkGreen
  | cyan
  | darkCyan
  | blue
  | darkBlue
  | magenta
  | darkMagenta
  | rgb (red green blue : Nat)
  deriving DecidableEq, Repr

namespace TerminalColor

def channelLimit : Nat := 0xFF

/-- The value of a channel: hexadecimal digits, which a plus sign may stand in front of. -/
def channel? (digits : List Char) : Option Nat := Text.unsigned? 16 channelLimit digits

def ofChannels? : List Char → Option TerminalColor
  | [red1, red2, green1, green2, blue1, blue2] =>
    match channel? [red1, red2], channel? [green1, green2], channel? [blue1, blue2] with
    | some r, some g, some b => some (rgb r g b)
    | _, _, _ => none
  | _ => none

def shadeLimit : Nat := 0xFFFF

def shade? (digits : String) : Option Nat := Text.unsigned? 10 shadeLimit digits.toList

/-- The families of colors: their names, and what they are in light and in dark shades. -/
def families : List (List String × TerminalColor × TerminalColor) :=
  [(["black"], black, black),
    (["white"], white, white),
    (["gray", "slate", "zinc", "neutral", "stone"], white, darkGrey),
    (["red", "rose"], red, darkRed),
    (["orange", "amber"], darkYellow, darkYellow),
    (["yellow"], yellow, darkYellow),
    (["green", "emerald", "lime"], green, darkGreen),
    (["cyan", "teal"], cyan, darkCyan),
    (["blue", "sky", "indigo"], blue, darkBlue),
    (["purple", "violet", "fuchsia", "pink"], magenta, darkMagenta)]

def family? (name : String) : Option (TerminalColor × TerminalColor) :=
  (families.find? fun family => family.1.contains name).map (·.2)

def darkFrom : Nat := 500

/-- The color of a family in a shade; without a shade it is light. -/
def ofFamily? (family : String) (shade : Option String) : Option TerminalColor :=
  (family? family).map fun (light, dark) =>
    match shade.bind shade? with
    | some shade => if darkFrom ≤ shade then dark else light
    | none => light

/-- The color of the parts of a name: a family and a shade, which "text" or "bg" may stand in front of. -/
def ofParts? : List String → Option TerminalColor
  | [] => none
  | first :: rest =>
    if first = "text" ∨ first = "bg" then
      match rest with
      | [] => none
      | family :: rest => ofFamily? family rest.head?
    else ofFamily? first rest.head?

/-- The color of a name: three channels behind a number sign, or parts that hyphens divide. -/
def ofId? (id : ColorId) : Option TerminalColor :=
  match id.toList with
  | '#' :: channels => ofChannels? channels
  | chars => ofParts? ((chars.splitOn '-').map String.ofList)

/-- The codes of a color: five and its number in the palette of the terminal, or two and three channels. -/
def code : TerminalColor → List Nat
  | black => [5, 0]
  | darkRed => [5, 1]
  | darkGreen => [5, 2]
  | darkYellow => [5, 3]
  | darkBlue => [5, 4]
  | darkMagenta => [5, 5]
  | darkCyan => [5, 6]
  | darkGrey => [5, 8]
  | red => [5, 9]
  | green => [5, 10]
  | yellow => [5, 11]
  | blue => [5, 12]
  | magenta => [5, 13]
  | cyan => [5, 14]
  | white => [5, 15]
  | rgb r g b => [2, r, g, b]

end TerminalColor

end Highlighter
