import Highlighter.Proofs.Config.Acceptance

/-!
Which errors name the grammar of a configuration that they are about. The first grammar that is not accepted is
reported; the error is about it and mentions its name where the shape of its definition is wrong, but not where a rule
has its shape and a wrong kind or pattern: that error does not depend on the grammar's name.
-/

namespace Highlighter

def Error.Mentions (error : Error) (name : String) : Prop := name.toList <:+: error.message.toList

instance (error : Error) (name : String) : Decidable (error.Mentions name) :=
  inferInstanceAs (Decidable (name.toList <:+: error.message.toList))

/-- The error tells what is wrong with the grammar of a name. -/
def Error.IsAbout (error : Error) (name : String) : Prop := ∃ fault, error = .faultyGrammar name fault

theorem Error.IsAbout.mentions {error : Error} {name : String} (about : error.IsAbout name) : error.Mentions name := by
  obtain ⟨fault, rfl⟩ := about
  refine ⟨"[grammars.".toList, ("]: " ++ fault.message).toList, ?_⟩
  unfold message
  simp only [String.toList_append, List.append_assoc]

namespace Config

open Toml (Value)

/-- The grammar is not accepted, and each one whose name comes earlier in the order of bytes is. -/
structure FirstInvalid (pattern? : String → Option Pattern) (entries : Dictionary Value) (name : String)
    (value : Value) : Prop where
  member : (name, value) ∈ entries
  invalid : ¬ GrammarAccepted pattern? value
  earlier : ∀ before old, (before, old) ∈ entries → Text.bytes before < Text.bytes name →
    GrammarAccepted pattern? old

/-- What is wrong with the definition of a grammar is inside of a rule: the first of its rules that is not accepted is a
pair of texts, as rules should be. -/
def FaultyInside (pattern? : String → Option Pattern) (value : Value) : Prop :=
  ∃ entries growing before inner kind source after, value.asTable? = some entries ∧
    entries.get? "rules" =
      some (.array growing (before ++ .array inner [.string kind, .string source] :: after)) ∧
    (∀ rule ∈ before, RuleAccepted pattern? rule) ∧ ¬ RuleAccepted pattern? (.array inner [.string kind, .string source])

variable {pattern? : String → Option Pattern}

section Rules

variable {name other kind source : String} {inner : Bool} {rule : Value} {error : Error}

theorem not_ruleRefused_iff (name : String) (rule : Value) :
    (∀ error, ¬ RuleRefused pattern? name rule error) ↔ RuleAccepted pattern? rule := by
  rw [(ruleOf_judges pattern? name rule).not_fault_iff, ruleAccepted_iff]

/-- The error of a pair of texts is the same whatever the grammar is called, and it is about none. -/
theorem RuleRefused.of_pair (refused : RuleRefused pattern? name (.array inner [.string kind, .string source]) error) :
    (∀ other, RuleRefused pattern? other (.array inner [.string kind, .string source]) error) ∧
      ∀ other, ¬ error.IsAbout other := by
  cases refused with
  | noPair wrong => exact absurd rfl (wrong inner kind source)
  | unknownKind pair noKind => exact ⟨fun _ => .unknownKind pair noKind, nofun⟩
  | plain pair => exact ⟨fun _ => .plain pair, nofun⟩
  | noPattern pair declarable wrong => exact ⟨fun _ => .noPattern pair declarable wrong, nofun⟩

theorem RuleRefused.isAbout_or_pair (refused : RuleRefused pattern? name rule error) :
    error.IsAbout name ∨ ∃ inner kind source, rule = .array inner [.string kind, .string source] := by
  cases refused with
  | noPair wrong => exact .inl ⟨_, rfl⟩
  | unknownKind pair noKind => exact .inr ⟨_, _, _, pair⟩
  | plain pair => exact .inr ⟨_, _, _, pair⟩
  | noPattern pair declarable wrong => exact .inr ⟨_, _, _, pair⟩

end Rules

section Definitions

variable {name : String} {value : Value} {error : Error}

theorem not_grammarRefused_iff : (∀ error, ¬ GrammarRefused pattern? name value error) ↔ GrammarAccepted pattern? value := by
  rw [(grammarOf_judges pattern? name value).not_fault_iff, grammarAccepted_iff]

theorem FaultyInside.exists_error (inside : FaultyInside pattern? value) :
    ∃ error, (∀ name, GrammarRefused pattern? name value error) ∧ ∀ name, ¬ error.IsAbout name := by
  obtain ⟨entries, growing, before, inner, kind, source, after, table, rules, clean, invalid⟩ := inside
  have refused : ∃ error, RuleRefused pattern? "" (.array inner [.string kind, .string source]) error := by
    rw [← not_ruleRefused_iff ""] at invalid
    simpa using invalid
  obtain ⟨error, refused⟩ := refused
  obtain ⟨everywhere, nowhere⟩ := refused.of_pair
  refine ⟨error, fun name => .rule table rules ⟨before, _, after, rfl, fun rule member => ?_, everywhere name⟩, nowhere⟩
  exact (not_ruleRefused_iff name rule).mpr (clean rule member)

theorem GrammarRefused.isAbout_or_inside (refused : GrammarRefused pattern? name value error) :
    error.IsAbout name ∨ FaultyInside pattern? value := by
  cases refused with
  | noTable wrong => exact .inl ⟨_, rfl⟩
  | noRules table wrong => exact .inl ⟨_, rfl⟩
  | rule table array first =>
    obtain ⟨before, rule, after, rfl, clean, refused⟩ := first
    rcases refused.isAbout_or_pair with about | ⟨inner, kind, source, rfl⟩
    · exact .inl about
    · refine .inr ⟨_, _, before, inner, kind, source, after, table, array, fun rule member => ?_, fun accepted => ?_⟩
      · exact (not_ruleRefused_iff name rule).mp (clean rule member)
      · exact (not_ruleRefused_iff name _).mpr accepted error refused
  | extensions table array accepted refused =>
    cases refused with
    | noArray present wrong => exact .inl ⟨_, rfl⟩
    | noString present wrong => exact .inl ⟨_, rfl⟩

/-- A grammar is refused with an error about it unless what is wrong with it is inside of a rule. -/
theorem GrammarRefused.isAbout_iff (refused : GrammarRefused pattern? name value error) :
    error.IsAbout name ↔ ¬ FaultyInside pattern? value := by
  constructor
  · intro about inside
    obtain ⟨other, everywhere, nowhere⟩ := inside.exists_error
    have same : other = error := Except.error.inj ((everywhere name).grammarOf_eq.symm.trans refused.grammarOf_eq)
    exact nowhere name (same ▸ about)
  · intro outside
    exact refused.isAbout_or_inside.resolve_right outside

theorem GrammarRefused.eq_of_inside (refused : GrammarRefused pattern? name value error) (inside : FaultyInside pattern? value)
    (other : String) : grammarOf pattern? other value = .error error := by
  obtain ⟨found, everywhere, -⟩ := inside.exists_error
  have same : found = error := Except.error.inj ((everywhere name).grammarOf_eq.symm.trans refused.grammarOf_eq)
  rw [(everywhere other).grammarOf_eq, same]

end Definitions

section Documents

variable {readers : Readers} (path : String) {text : String} {table : Dictionary Value}

theorem exists_firstInvalid (document : readers.document? text = some table)
    (themes : ∀ entry ∈ themeEntries table, ThemeAccepted entry.2)
    (invalid : ∃ entry ∈ grammarEntries table, ¬ GrammarAccepted readers.pattern? entry.2) :
    ∃ name value error, FirstInvalid readers.pattern? (grammarEntries table) name value ∧
      parse readers path text = .error error ∧ GrammarRefused readers.pattern? name value error := by
  have refused : ∃ error, FirstFaultByName (GrammarRefused readers.pattern?) (grammarEntries table) error := by
    by_contra none
    rw [not_exists, not_firstFaultByName_iff (ascending_grammarEntries table)] at none
    obtain ⟨entry, member, wrong⟩ := invalid
    exact wrong (not_grammarRefused_iff.mp (none entry member))
  obtain ⟨error, first⟩ := refused
  have failed : parse readers path text = .error error := by
    rw [parse_of_document document, ofTable_eq_error_iff]
    exact .grammar themes first
  obtain ⟨name, value, member, refused, clean⟩ := first
  refine ⟨name, value, error, ⟨member, fun accepted => ?_, fun before old known earlier => ?_⟩, failed, refused⟩
  · exact not_grammarRefused_iff.mpr accepted error refused
  · exact not_grammarRefused_iff.mp (clean before old known earlier)

/-- What is reported of a document is about the first grammar that is not accepted, and mentions its name, just when
what is wrong is not inside of a rule. Otherwise it is what would be reported under any other name as well. -/
def NamesFirst (readers : Readers) (path text : String) (table : Dictionary Value) : Prop :=
  ∃ name value error, FirstInvalid readers.pattern? (grammarEntries table) name value ∧
    parse readers path text = .error error ∧ (error.IsAbout name ↔ ¬ FaultyInside readers.pattern? value) ∧
    (error.IsAbout name → error.Mentions name) ∧
    (FaultyInside readers.pattern? value → ∀ other, grammarOf readers.pattern? other value = .error error)

theorem namesFirst_of_invalid (document : readers.document? text = some table)
    (themes : ∀ entry ∈ themeEntries table, ThemeAccepted entry.2)
    (invalid : ∃ entry ∈ grammarEntries table, ¬ GrammarAccepted readers.pattern? entry.2) :
    NamesFirst readers path text table := by
  obtain ⟨name, value, error, first, failed, refused⟩ := exists_firstInvalid path document themes invalid
  exact ⟨name, value, error, first, failed, refused.isAbout_iff, Error.IsAbout.mentions, refused.eq_of_inside⟩

theorem exists_invalid_of_refused {names : List String} {error : Error}
    (read : (readers.document? text).map (fun table =>
      ((themeEntries table).length, (grammarEntries table).names)) = some (0, names))
    (refused : (parse readers path text).map (fun _ => ()) = .error error) :
    ∃ table, readers.document? text = some table ∧ (∀ entry ∈ themeEntries table, ThemeAccepted entry.2) ∧
      (∃ entry ∈ grammarEntries table, ¬ GrammarAccepted readers.pattern? entry.2) ∧
      (grammarEntries table).names = names ∧ parse readers path text = .error error := by
  obtain ⟨table, document, facts⟩ := Option.map_eq_some_iff.mp read
  obtain ⟨noThemes, grammars⟩ := Prod.mk.inj facts
  have themes : ∀ entry ∈ themeEntries table, ThemeAccepted entry.2 := by
    rw [List.length_eq_zero_iff.mp noThemes]
    exact fun _ member => absurd member List.not_mem_nil
  have failed : parse readers path text = .error error := by
    cases found : parse readers path text with
    | error other =>
      rw [found] at refused
      cases refused
      rfl
    | ok config =>
      rw [found] at refused
      cases refused
  refine ⟨table, document, themes, ?_, grammars, failed⟩
  by_contra valid
  push Not at valid
  obtain ⟨config, ok⟩ := (exists_ofTable_iff table).mpr ⟨themes, valid⟩
  rw [parse_of_document document, ok] at failed
  cases failed

/-- The second of two grammars has no rules. -/
theorem namesFirst_of_invalid_without_rules :
    ∃ table, Readers.standard.document? "[grammars.a]\nrules = []\n[grammars.b]" = some table ∧
      (∀ entry ∈ themeEntries table, ThemeAccepted entry.2) ∧
      (∃ entry ∈ grammarEntries table, ¬ GrammarAccepted Readers.standard.pattern? entry.2) ∧
      NamesFirst .standard "config.toml" "[grammars.a]\nrules = []\n[grammars.b]" table := by
  have read : (Readers.standard.document? "[grammars.a]\nrules = []\n[grammars.b]").map
      (fun table => ((themeEntries table).length, (grammarEntries table).names)) = some (0, ["a", "b"]) := by
    decide +kernel
  have refused : (parse .standard "config.toml" "[grammars.a]\nrules = []\n[grammars.b]").map (fun _ => ()) =
      .error (.faultyGrammar "b" .missingRules) := by
    decide +kernel
  obtain ⟨table, document, themes, invalid, -, -⟩ := exists_invalid_of_refused _ read refused
  exact ⟨table, document, themes, invalid, namesFirst_of_invalid _ document themes invalid⟩

/-- A rule for a kind of no known name is reported, and the name of its grammar is not. -/
theorem exists_unmentioned_grammar :
    ¬ ∀ path text table, Readers.standard.document? text = some table →
      (∀ entry ∈ themeEntries table, ThemeAccepted entry.2) →
      ∀ name value, FirstInvalid Readers.standard.pattern? (grammarEntries table) name value →
        ∀ error, parse .standard path text = .error error → error.Mentions name := by
  intro mentions
  have read : (Readers.standard.document? "[grammars.bad]\nrules = [['variable', 'x']]").map
      (fun table => ((themeEntries table).length, (grammarEntries table).names)) = some (0, ["bad"]) := by
    decide +kernel
  have refused : (parse .standard "config.toml" "[grammars.bad]\nrules = [['variable', 'x']]").map (fun _ => ()) =
      .error (.unknownKind "variable") := by
    decide +kernel
  obtain ⟨table, document, themes, invalid, names, failed⟩ := exists_invalid_of_refused _ read refused
  obtain ⟨name, value, error, first, -, -⟩ := exists_firstInvalid "config.toml" document themes invalid
  have isBad : name ∈ (grammarEntries table).names := List.mem_map_of_mem first.member
  rw [names, List.mem_singleton] at isBad
  have mentioned := mentions _ _ table document themes name value first _ failed
  rw [isBad] at mentioned
  exact absurd mentioned (by decide +kernel)

end Documents

end Config

end Highlighter
