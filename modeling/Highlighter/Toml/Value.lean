import Highlighter.Dictionary

/-! Values of TOML documents. -/

namespace Highlighter.Toml

/-- How a table came to be, which decides what may still be added to it. -/
inductive TableForm where
  /-- By a header of its own. -/
  | header
  /-- By the header of a table below it. -/
  | implied
  /-- By a dotted key. -/
  | dotted
  /-- In braces. It is closed. -/
  | inline
  deriving DecidableEq, Repr

inductive Value where
  | string (text : String)
  | integer (value : Int)
  /-- A number with a fraction or an exponent, or one that is none, as it is written. -/
  | float (text : String)
  | boolean (value : Bool)
  /-- A date, a time or both, as it is written. -/
  | dateTime (text : String)
  /-- An array; `growing` marks one to which headers in double brackets add tables. -/
  | array (growing : Bool) (items : List Value)
  /-- A table; its entries stand in the order in which they came to be. -/
  | table (form : TableForm) (entries : List (String × Value))

namespace Value

def asString? : Value → Option String
  | string text => some text
  | _ => none

def asArray? : Value → Option (List Value)
  | array _ items => some items
  | _ => none

def asTable? : Value → Option (Dictionary Value)
  | table _ entries => some (.ofEntries entries)
  | _ => none

theorem asString?_eq_some_iff (value : Value) (text : String) : value.asString? = some text ↔ value = string text := by
  cases value <;> simp [asString?]

theorem asString?_eq_none_iff (value : Value) : value.asString? = none ↔ ∀ text, value ≠ string text := by
  cases value <;> simp [asString?]

theorem asArray?_eq_some_iff (value : Value) (items : List Value) :
    value.asArray? = some items ↔ ∃ growing, value = array growing items := by
  cases value <;> simp [asArray?]

theorem asArray?_eq_none_iff (value : Value) :
    value.asArray? = none ↔ ∀ growing items, value ≠ array growing items := by
  cases value <;> simp [asArray?]

end Value

/-- Entries in the order in which they came to be. -/
abbrev Entries := List (String × Value)

namespace Entries

/-- Puts a value in the place of an earlier one of its name, or else behind all others. -/
def put (name : String) (value : Value) : Entries → Entries
  | [] => [(name, value)]
  | (key, old) :: rest => if key = name then (name, value) :: rest else (key, old) :: put name value rest

def without (name : String) (entries : Entries) : Entries := entries.filter (·.1 ≠ name)

end Entries

end Highlighter.Toml
