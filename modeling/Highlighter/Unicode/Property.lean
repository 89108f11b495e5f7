import Highlighter.Unicode.Script
import Highlighter.Unicode.Segment
import Highlighter.Unicode.Table.Age

/-!
Character classes by the name of a property or of a property and its value. Names match loosely: case, blanks,
low lines and hyphens do not count, nor does a leading "is".
-/

namespace Highlighter.Unicode.Property

def dropIs : List Char → List Char
  | first :: second :: rest =>
    if (first = 'i' || first = 'I') && (second = 's' || second = 'S') then rest else first :: second :: rest
  | short => short

/-- The loose form of a name: ASCII in lower case without blanks, low lines, hyphens and a leading "is". The
name "isc" keeps its "is", since "c" is another name. -/
def looseName (name : List Char) : String :=
  let kept := (dropIs name).filter fun char => char.toNat < 128 && !(char = ' ' || char = '_' || char = '-')
  let loose := kept.map fun char => if 'A' ≤ char ∧ char ≤ 'Z' then Char.ofNat (char.toNat + 32) else char
  if loose = ['c'] ∧ (dropIs name).length < name.length then "isc" else .ofList loose

def namedClass? (name : List Char) : Option CharClass :=
  let loose := looseName name
  NamedClass.find? BinaryProperty.classes loose
    <|> NamedClass.find? GeneralCategory.classes loose
    <|> (Script.named? loose).map fun script => .table script.own

def ageIndex? (value : String) : Option Nat :=
  Table.ages.findIdx? fun ((major, minor), _) =>
    value = s!"{major}.{minor}" || value = s!"v{major}{minor}"

/-- The characters that a version of the standard had, those of all earlier versions included. -/
def ofAge? (value : String) : Option CharClass :=
  (ageIndex? value).map fun index => .ofTables ((Table.ages.take (index + 1)).map (·.2))

def valueClass? (property value : List Char) : Option CharClass :=
  let looseValue := looseName value
  match looseName property with
  | "gc" | "generalcategory" => NamedClass.find? GeneralCategory.classes looseValue
  | "sc" | "script" => (Script.named? looseValue).map fun script => .table script.own
  | "scx" | "scriptextensions" => (Script.named? looseValue).map fun script => .table script.inUse
  | "age" => ofAge? looseValue
  | "gcb" | "graphemeclusterbreak" => NamedClass.find? GraphemeBreak.classes looseValue
  | "wb" | "wordbreak" => NamedClass.find? WordBreak.classes looseValue
  | "sb" | "sentencebreak" => NamedClass.find? SentenceBreak.classes looseValue
  | _ => none

end Highlighter.Unicode.Property
