import Highlighter.Toml.Statement

/-! TOML documents: the tables that their statements build. -/

namespace Highlighter.Toml

/-- Changes the table at the path of a header. Tables that are missing on the way are made; in an array of tables
the last one is meant. -/
def changeAt (change : Entries → Option Entries) : List String → Entries → Option Entries
  | [], entries => change entries
  | key :: path, entries =>
    match entries.lookup key with
    | none => (changeAt change path []).map fun inner => entries.put key (.table .implied inner)
    | some (.table .inline _) => none
    | some (.table form inner) =>
      (changeAt change path inner).map fun inner => entries.put key (.table form inner)
    | some (.array true items) =>
      match items.getLast? with
      | some (.table form inner) =>
        (changeAt change path inner).map fun inner =>
          entries.put key (.array true (items.dropLast ++ [.table form inner]))
      | _ => none
    | some _ => none

/-- Begins a table behind all others. One that other headers have implied is taken over, any other must not exist. -/
def beginTable (name : String) (entries : Entries) : Option Entries :=
  match entries.lookup name with
  | none => some (entries.put name (.table .header []))
  | some (.table .implied inner) => some (entries.without name ++ [(name, .table .header inner)])
  | some _ => none

def beginItem (name : String) (entries : Entries) : Option Entries :=
  match entries.lookup name with
  | none => some (entries.put name (.array true [.table .header []]))
  | some (.array true items) => some (entries.put name (.array true (items ++ [.table .header []])))
  | some _ => none

/-- The tables built so far, and the path of the current one. -/
structure Building where
  root : Entries := []
  current : List String := []

namespace Building

def add (building : Building) : Statement → Option Building
  | .header path name =>
    (changeAt (beginTable name) path building.root).map fun root => ⟨root, path ++ [name]⟩
  | .arrayHeader path name =>
    (changeAt (beginItem name) path building.root).map fun root => ⟨root, path ++ [name]⟩
  | .entry entry =>
    (changeAt (insertDotted entry.name entry.value entry.path) building.current building.root).map fun root =>
      { building with root }

end Building

/-- The name that a table begins with if it passes for a date or time. -/
def dateName : String := "$__toml_private_datetime"

def dateValue? : Entries → Option Value
  | (name, value) :: _ => if name = dateName then some value else none
  | [] => none

def dateOf? : Value → Option Value
  | .string text => if Scalar.isDateText text.toList then some (.dateTime text) else none
  | _ => none

mutual

/-- The value with dates and times in the place of tables that pass for them. A table that passes for one and has none
makes the document malformed. -/
def settled? : Value → Option Value
  | .array growing items => (settledItems? items).map (.array growing)
  | .table form entries =>
    match dateValue? entries with
    | some value => dateOf? value
    | none => (settledEntries? entries).map (.table form)
  | other => some other

def settledItems? : List Value → Option (List Value)
  | [] => some []
  | item :: rest => (settled? item).bind fun item => (settledItems? rest).map (item :: ·)

def settledEntries? : Entries → Option Entries
  | [] => some []
  | (name, value) :: rest => (settled? value).bind fun value => (settledEntries? rest).map ((name, value) :: ·)

end

/-- The table of a document. It does not pass for a date itself. -/
def parse? (text : String) : Option (Dictionary Value) :=
  (Statement.ofText? text).bind fun statements =>
    (statements.foldlM Building.add {}).bind fun building => (settledEntries? building.root).map .ofEntries

end Highlighter.Toml
