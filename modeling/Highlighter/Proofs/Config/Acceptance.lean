import Highlighter.Proofs.Config.Grammars

/-! Which configurations are accepted, with which error the others are refused, and what an accepted one says. -/

namespace Highlighter.Config

open Toml (Value)

/-- The themes of a document, where its `themes` is a table. -/
def themeEntries (table : Dictionary Value) : Dictionary Value := entriesOf (table.get? "themes")

def grammarEntries (table : Dictionary Value) : Dictionary Value := entriesOf (table.get? "grammars")

/-- A document is refused as a configuration. All themes are looked at before the grammars, and both in the order of
their names' bytes. -/
inductive Refused (pattern? : String → Option Pattern) (table : Dictionary Value) : Error → Prop
  | theme {error : Error} (first : FirstFaultByName ThemeRefused (themeEntries table) error) :
    Refused pattern? table error
  | grammar {error : Error} (accepted : ∀ entry ∈ themeEntries table, ThemeAccepted entry.2)
    (first : FirstFaultByName (GrammarRefused pattern?) (grammarEntries table) error) : Refused pattern? table error

structure Accepted (pattern? : String → Option Pattern) (table : Dictionary Value) : Prop where
  themes : ∀ entry ∈ themeEntries table, ThemeAccepted entry.2
  grammars : ∀ entry ∈ grammarEntries table, GrammarAccepted pattern? entry.2

variable {pattern? : String → Option Pattern}

section Entries

variable {entries : Dictionary Value} {error : Error}

theorem ascending_entriesOf (value : Option Value) : (entriesOf value).Ascending := by
  unfold entriesOf
  cases table : value.bind Value.asTable? with
  | none => exact List.Pairwise.nil
  | some entries =>
    obtain ⟨value, -, isTable⟩ := Option.bind_eq_some_iff.mp table
    exact Value.ascending_of_asTable? isTable

theorem mapM_themeOf_eq_error_iff (ascending : entries.Ascending) :
    entries.mapM (fun (name, value) => themeOf name value) = .error error ↔
      FirstFaultByName ThemeRefused entries error := by
  rw [← firstFault_iff_byName ascending]
  exact mapM_eq_error_iff fun entry _ error => themeOf_eq_error_iff

theorem mapM_grammarOf_eq_error_iff (ascending : entries.Ascending) :
    entries.mapM (fun (name, value) => grammarOf pattern? name value) = .error error ↔
      FirstFaultByName (GrammarRefused pattern?) entries error := by
  rw [← firstFault_iff_byName ascending]
  exact mapM_eq_error_iff fun entry _ => (grammarOf_judges pattern? entry.1 entry.2).eq_error_iff

theorem exists_mapM_themeOf_iff (ascending : entries.Ascending) :
    (∃ themes, entries.mapM (fun (name, value) => themeOf name value) = .ok themes) ↔
      ∀ entry ∈ entries, ThemeAccepted entry.2 := by
  rw [exists_ok_iff fun error => mapM_themeOf_eq_error_iff ascending, not_firstFaultByName_iff ascending]
  simp only [not_themeRefused_iff]

theorem exists_mapM_grammarOf_iff (ascending : entries.Ascending) :
    (∃ grammars, entries.mapM (fun (name, value) => grammarOf pattern? name value) = .ok grammars) ↔
      ∀ entry ∈ entries, GrammarAccepted pattern? entry.2 := by
  rw [exists_ok_iff fun error => mapM_grammarOf_eq_error_iff ascending, not_firstFaultByName_iff ascending]
  simp only [(grammarOf_judges _ _ _).not_fault_iff, ← grammarAccepted_iff]

end Entries

section Documents

variable (table : Dictionary Value)

theorem ascending_themeEntries : (themeEntries table).Ascending := ascending_entriesOf _

theorem ascending_grammarEntries : (grammarEntries table).Ascending := ascending_entriesOf _

def withEntries (themes : List Theme) (grammars : List Grammar) : Config where
  grammar := ((table.get? "grammar").bind Value.asString?).getD "javascript"
  theme := ((table.get? "theme").bind Value.asString?).getD "monokai"
  themes := themes
  grammars := grammars

theorem ofTable_eq :
    ofTable pattern? table = (do
      let themes ← (themeEntries table).mapM fun (name, value) => themeOf name value
      let grammars ← (grammarEntries table).mapM fun (name, value) => grammarOf pattern? name value
      return withEntries table themes grammars) := rfl

theorem ofTable_eq_error_iff (error : Error) :
    ofTable pattern? table = .error error ↔ Refused pattern? table error := by
  have themes := ascending_themeEntries table
  have grammars := ascending_grammarEntries table
  have ended (read : List Theme) :
      (do
        let grammars ← (grammarEntries table).mapM fun (name, value) => grammarOf pattern? name value
        return withEntries table read grammars) = .error error ↔
      FirstFaultByName (GrammarRefused pattern?) (grammarEntries table) error := by
    rw [bind_eq_error_iff, mapM_grammarOf_eq_error_iff grammars]
    exact or_iff_left nofun
  rw [ofTable_eq, bind_eq_error_iff, mapM_themeOf_eq_error_iff themes]
  simp only [ended, exists_and_right, exists_mapM_themeOf_iff themes]
  constructor
  · rintro (first | ⟨accepted, first⟩)
    · exact .theme first
    · exact .grammar accepted first
  · intro refused
    cases refused with
    | theme first => exact .inl first
    | grammar accepted first => exact .inr ⟨accepted, first⟩

theorem exists_ofTable_iff : (∃ config, ofTable pattern? table = .ok config) ↔ Accepted pattern? table := by
  have themes := ascending_themeEntries table
  have grammars := ascending_grammarEntries table
  rw [ofTable_eq]
  simp only [bind_eq_ok_iff]
  constructor
  · rintro ⟨config, readThemes, doneThemes, readGrammars, doneGrammars, -⟩
    exact ⟨(exists_mapM_themeOf_iff themes).mp ⟨_, doneThemes⟩,
      (exists_mapM_grammarOf_iff grammars).mp ⟨_, doneGrammars⟩⟩
  · rintro ⟨acceptedThemes, acceptedGrammars⟩
    obtain ⟨readThemes, doneThemes⟩ := (exists_mapM_themeOf_iff themes).mpr acceptedThemes
    obtain ⟨readGrammars, doneGrammars⟩ := (exists_mapM_grammarOf_iff grammars).mpr acceptedGrammars
    exact ⟨withEntries table readThemes readGrammars, readThemes, doneThemes, readGrammars, doneGrammars, rfl⟩

end Documents

section Malformed

variable {name : String} {value : Value} {table : Dictionary Value} {error : Error}

end Malformed

theorem parse_of_document {readers : Readers} {path text : String} {table : Dictionary Value}
    (document : readers.document? text = some table) : parse readers path text = ofTable readers.pattern? table := by
  unfold parse
  rw [document]

end Highlighter.Config
