import Highlighter.Unicode.CharClass

/-! General categories of characters and the groups that they form, by name. -/

namespace Highlighter.Unicode

/-- A class of characters with its names in loose form. -/
structure NamedClass where
  names : List String
  members : CharClass

def NamedClass.find? (classes : List NamedClass) (name : String) : Option CharClass :=
  (classes.find? (·.names.contains name)).map (·.members)

namespace GeneralCategory

def casedLetter : CharClass :=
  .ofTables [Table.uppercaseLetter, Table.lowercaseLetter, Table.titlecaseLetter]

def letter : CharClass := .union casedLetter (.ofTables [Table.modifierLetter, Table.otherLetter])

def mark : CharClass := .ofTables [Table.nonspacingMark, Table.spacingMark, Table.enclosingMark]

def number : CharClass := .ofTables [Table.decimalNumber, Table.letterNumber, Table.otherNumber]

def punctuation : CharClass :=
  .ofTables [Table.connectorPunctuation, Table.dashPunctuation, Table.openPunctuation,
    Table.closePunctuation, Table.initialPunctuation, Table.finalPunctuation, Table.otherPunctuation]

def symbol : CharClass :=
  .ofTables [Table.mathSymbol, Table.currencySymbol, Table.modifierSymbol, Table.otherSymbol]

def separator : CharClass :=
  .ofTables [Table.spaceSeparator, Table.lineSeparator, Table.paragraphSeparator]

/-- Controls, formats, and code points without a character of their own. -/
def other : CharClass :=
  .ofTables [Table.control, Table.format, Table.privateUse, Table.unassigned]

def classes : List NamedClass := [
  ⟨["any"], .table [(0, 0x10FFFF)]⟩,
  ⟨["assigned"], .compl (.table Table.unassigned)⟩,
  ⟨["ascii"], .ascii⟩,
  ⟨["lc", "casedletter"], casedLetter⟩,
  ⟨["l", "letter"], letter⟩,
  ⟨["lu", "uppercaseletter"], .table Table.uppercaseLetter⟩,
  ⟨["ll", "lowercaseletter"], .table Table.lowercaseLetter⟩,
  ⟨["lt", "titlecaseletter"], .table Table.titlecaseLetter⟩,
  ⟨["lm", "modifierletter"], .table Table.modifierLetter⟩,
  ⟨["lo", "otherletter"], .table Table.otherLetter⟩,
  ⟨["m", "mark", "combiningmark"], mark⟩,
  ⟨["mn", "nonspacingmark"], .table Table.nonspacingMark⟩,
  ⟨["mc", "spacingmark"], .table Table.spacingMark⟩,
  ⟨["me", "enclosingmark"], .table Table.enclosingMark⟩,
  ⟨["n", "number"], number⟩,
  ⟨["nd", "decimalnumber", "digit"], .table Table.decimalNumber⟩,
  ⟨["nl", "letternumber"], .table Table.letterNumber⟩,
  ⟨["no", "othernumber"], .table Table.otherNumber⟩,
  ⟨["p", "punctuation", "punct"], punctuation⟩,
  ⟨["pc", "connectorpunctuation"], .table Table.connectorPunctuation⟩,
  ⟨["pd", "dashpunctuation"], .table Table.dashPunctuation⟩,
  ⟨["ps", "openpunctuation"], .table Table.openPunctuation⟩,
  ⟨["pe", "closepunctuation"], .table Table.closePunctuation⟩,
  ⟨["pi", "initialpunctuation"], .table Table.initialPunctuation⟩,
  ⟨["pf", "finalpunctuation"], .table Table.finalPunctuation⟩,
  ⟨["po", "otherpunctuation"], .table Table.otherPunctuation⟩,
  ⟨["s", "symbol"], symbol⟩,
  ⟨["sm", "mathsymbol"], .table Table.mathSymbol⟩,
  ⟨["sc", "currencysymbol"], .table Table.currencySymbol⟩,
  ⟨["sk", "modifiersymbol"], .table Table.modifierSymbol⟩,
  ⟨["so", "othersymbol"], .table Table.otherSymbol⟩,
  ⟨["z", "separator"], separator⟩,
  ⟨["zs", "spaceseparator"], .table Table.spaceSeparator⟩,
  ⟨["zl", "lineseparator"], .table Table.lineSeparator⟩,
  ⟨["zp", "paragraphseparator"], .table Table.paragraphSeparator⟩,
  ⟨["c", "other"], other⟩,
  ⟨["cc", "control", "cntrl"], .table Table.control⟩,
  ⟨["cf", "format"], .table Table.format⟩,
  ⟨["co", "privateuse"], .table Table.privateUse⟩,
  ⟨["cn", "unassigned"], .table Table.unassigned⟩]

end GeneralCategory

end Highlighter.Unicode
