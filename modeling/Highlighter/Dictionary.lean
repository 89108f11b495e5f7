/-! Dictionaries: entries by name, in the order of the names. -/

namespace Highlighter

/-- Entries by name, ascending and each name once. Names are ordered by their code points. -/
abbrev Dictionary (α : Type) := List (String × α)

namespace Dictionary

variable {α : Type}

def get? : Dictionary α → String → Option α
  | [], _ => none
  | (key, value) :: rest, name => if name = key then some value else get? rest name

/-- Puts an entry in its place; an earlier one of the same name is replaced. -/
def insert (name : String) (value : α) : Dictionary α → Dictionary α
  | [] => [(name, value)]
  | (key, old) :: rest =>
    if name < key then (name, value) :: (key, old) :: rest
    else if name = key then (name, value) :: rest
    else (key, old) :: insert name value rest

/-- The dictionary of entries in any order, of which the last one of each name counts. -/
def ofEntries (entries : List (String × α)) : Dictionary α :=
  entries.foldl (fun dictionary (name, value) => dictionary.insert name value) []

def names (entries : Dictionary α) : List String := entries.map (·.1)

theorem get?_insert (name : String) (value : α) (entries : Dictionary α) (key : String) :
    (insert name value entries).get? key = if key = name then some value else entries.get? key := by
  induction entries with
  | nil => rfl
  | cons entry rest ih =>
    obtain ⟨other, old⟩ := entry
    by_cases below : name < other
    · simp [insert, get?, below]
    · by_cases equal : name = other
      · subst equal
        by_cases same : key = name <;> simp [insert, get?, same]
      · by_cases same : key = other
        · subst same
          simp [insert, get?, below, equal, Ne.symm equal]
        · simp [insert, get?, below, equal, same, ih]

end Dictionary

end Highlighter
