import Highlighter.Proofs.Config.Themes
import Mathlib.Data.Set.List

/-! Grammars of configurations: which values are accepted, with which error the others are refused, and what a grammar
is read from an accepted one. -/

namespace Highlighter.Config

open Toml (Value)

section Rules

/-- A value is refused as a rule: for its shape, for the name of its kind, for a kind that rules are not for, or for
its pattern. -/
inductive RuleRefused (pattern? : String → Option Pattern) (grammar : String) (value : Value) : Error → Prop
  | noPair (wrong : ∀ growing kind source, value ≠ .array growing [.string kind, .string source]) :
    RuleRefused pattern? grammar value (.faultyGrammar grammar .ruleNotAPair)
  | unknownKind {growing : Bool} {kind source : String} (pair : value = .array growing [.string kind, .string source])
    (noKind : ∀ known : TokenKind, kind ≠ known.name) : RuleRefused pattern? grammar value (.unknownKind kind)
  | plain {growing : Bool} {source : String}
    (pair : value = .array growing [.string TokenKind.plain.name, .string source]) :
    RuleRefused pattern? grammar value .undeclarableKind
  | noPattern {growing : Bool} {kind : TokenKind} {source : String}
    (pair : value = .array growing [.string kind.name, .string source]) (declarable : kind ≠ .plain)
    (wrong : pattern? source = none) : RuleRefused pattern? grammar value (.invalidPattern kind)

def RuleAccepted (pattern? : String → Option Pattern) (value : Value) : Prop :=
  ∃ (growing : Bool) (kind : TokenKind) (source : String) (pattern : Pattern),
    value = .array growing [.string kind.name, .string source] ∧ kind ≠ .plain ∧ pattern? source = some pattern

def RuleDescribed (pattern? : String → Option Pattern) (value : Value) (rule : Rule) : Prop :=
  ∃ growing source, value = .array growing [.string rule.kind.name, .string source] ∧
    pattern? source = some rule.pattern

variable {pattern? : String → Option Pattern} {grammar : String} {value : Value} {error : Error}

theorem ruleOf_pair (growing : Bool) (kind source : String) :
    ruleOf pattern? grammar (.array growing [.string kind, .string source]) = Rule.readNamed pattern? kind source := rfl

theorem ruleOf_of_noPair (wrong : ∀ growing kind source, value ≠ .array growing [.string kind, .string source]) :
    ruleOf pattern? grammar value = .error (.faultyGrammar grammar .ruleNotAPair) := by
  unfold ruleOf
  split
  next first second pair =>
    split
    next kind source isKind isSource =>
      obtain ⟨growing, rfl⟩ := (Value.asArray?_eq_some_iff _ _).mp pair
      rw [Value.asString?_eq_some_iff] at isKind isSource
      rw [isKind, isSource] at wrong
      exact absurd rfl (wrong growing kind source)
    next => rfl
  next => rfl

theorem readNamed_kind (kind : TokenKind) (source : String) :
    Rule.readNamed pattern? kind.name source = Rule.read pattern? kind source := by
  unfold Rule.readNamed
  rw [(kindNamed_eq_ok_iff kind.name kind).mpr rfl]
  rfl

theorem readNamed_of_noKind {kind : String} (noKind : ∀ known : TokenKind, kind ≠ known.name) (source : String) :
    Rule.readNamed pattern? kind source = .error (.unknownKind kind) := by
  unfold Rule.readNamed
  rw [(kindNamed_eq_error_iff kind _).mpr ⟨noKind, rfl⟩]
  rfl

theorem RuleRefused.ruleOf_eq (refused : RuleRefused pattern? grammar value error) : ruleOf pattern? grammar value = .error error := by
  cases refused with
  | noPair wrong => exact ruleOf_of_noPair wrong
  | unknownKind pair noKind => rw [pair, ruleOf_pair, readNamed_of_noKind noKind]
  | plain pair =>
    rw [pair, ruleOf_pair, readNamed_kind]
    rfl
  | noPattern pair declarable wrong =>
    rw [pair, ruleOf_pair, readNamed_kind]
    unfold Rule.read
    rw [dif_neg declarable, wrong]

theorem RuleDescribed.ruleOf_eq {rule : Rule} (described : RuleDescribed pattern? value rule) :
    ruleOf pattern? grammar value = .ok rule := by
  obtain ⟨growing, source, pair, text⟩ := described
  rw [pair, ruleOf_pair, readNamed_kind]
  unfold Rule.read
  rw [dif_neg rule.kind_ne_plain, text]

theorem ruleAccepted_iff : RuleAccepted pattern? value ↔ ∃ rule, RuleDescribed pattern? value rule := by
  constructor
  · rintro ⟨growing, kind, source, pattern, pair, declarable, text⟩
    exact ⟨⟨kind, pattern, declarable⟩, growing, source, pair, text⟩
  · rintro ⟨rule, growing, source, pair, text⟩
    exact ⟨growing, rule.kind, source, rule.pattern, pair, rule.kind_ne_plain, text⟩

theorem ruleRefused_cases (pattern? : String → Option Pattern) (grammar : String) (value : Value) :
    RuleAccepted pattern? value ∨ ∃ error, RuleRefused pattern? grammar value error := by
  by_cases pair : ∃ growing kind source, value = .array growing [.string kind, .string source]
  · obtain ⟨growing, name, source, pair⟩ := pair
    by_cases known : ∃ kind : TokenKind, name = kind.name
    · obtain ⟨kind, rfl⟩ := known
      by_cases plain : kind = .plain
      · subst plain
        exact .inr ⟨_, .plain pair⟩
      · cases text : pattern? source with
        | none => exact .inr ⟨_, .noPattern pair plain text⟩
        | some pattern => exact .inl ⟨growing, kind, source, pattern, pair, plain, text⟩
    · exact .inr ⟨_, .unknownKind pair (not_exists.mp known)⟩
  · push Not at pair
    exact .inr ⟨_, .noPair pair⟩

theorem ruleOf_judges (pattern? : String → Option Pattern) (grammar : String) (value : Value) :
    Judges (ruleOf pattern? grammar value) (RuleDescribed pattern? value) (RuleRefused pattern? grammar value) where
  reads _ described := described.ruleOf_eq
  fails _ refused := refused.ruleOf_eq
  total := by
    rw [← ruleAccepted_iff]
    exact ruleRefused_cases pattern? grammar value

end Rules

section Extensions

inductive ExtensionsRefused (grammar : String) (found : Option Value) : Error → Prop
  | noArray {value : Value} (present : found = some value) (wrong : ∀ growing items, value ≠ .array growing items) :
    ExtensionsRefused grammar found (.faultyGrammar grammar .extensionsNotAnArray)
  | noString {growing : Bool} {items : List Value} (present : found = some (.array growing items))
    (wrong : ∃ item ∈ items, ∀ text, item ≠ .string text) :
    ExtensionsRefused grammar found (.faultyGrammar grammar .extensionNotAString)

/-- The extensions are what a table says, which may say nothing on them. -/
def ExtensionsDescribed (found : Option Value) (extensions : List String) : Prop :=
  found = none ∧ extensions = [] ∨ ∃ growing, found = some (.array growing (extensions.map .string))

variable {grammar : String} {found : Option Value} {error : Error} {extensions : List String}

theorem extensionsOf_of_noArray {value : Value} (wrong : ∀ growing items, value ≠ .array growing items) :
    extensionsOf grammar (some value) = .error (.faultyGrammar grammar .extensionsNotAnArray) := by
  unfold extensionsOf
  dsimp only
  rw [(Value.asArray?_eq_none_iff value).mpr wrong]

theorem extensionsOf_array_eq_error_iff (growing : Bool) (items : List Value) :
    extensionsOf grammar (some (.array growing items)) = .error error ↔
      (∃ item ∈ items, ∀ text, item ≠ .string text) ∧ error = .faultyGrammar grammar .extensionNotAString := by
  unfold extensionsOf
  rw [← firstFault_same_iff]
  apply mapM_eq_error_iff
  intro item _ error
  rw [← Value.asString?_eq_none_iff]
  cases item.asString? with
  | none => simp [eq_comm]
  | some text => simp

theorem extensionsOf_strings (growing : Bool) (texts : List String) :
    extensionsOf grammar (some (.array growing (texts.map .string))) = .ok texts := by
  unfold extensionsOf
  induction texts with
  | nil => rfl
  | cons text texts ih =>
    dsimp only [Value.asArray?] at ih ⊢
    rw [List.map_cons, List.mapM_cons, ih]
    rfl

theorem ExtensionsRefused.extensionsOf_eq (refused : ExtensionsRefused grammar found error) :
    extensionsOf grammar found = .error error := by
  cases refused with
  | noArray present wrong => rw [present, extensionsOf_of_noArray wrong]
  | noString present wrong =>
    rw [present, extensionsOf_array_eq_error_iff]
    exact ⟨wrong, rfl⟩

theorem ExtensionsDescribed.extensionsOf_eq (described : ExtensionsDescribed found extensions) :
    extensionsOf grammar found = .ok extensions := by
  rcases described with ⟨rfl, rfl⟩ | ⟨growing, rfl⟩
  · rfl
  · exact extensionsOf_strings growing extensions

theorem extensionsRefused_cases (grammar : String) (found : Option Value) :
    (∃ extensions, ExtensionsDescribed found extensions) ∨ ∃ error, ExtensionsRefused grammar found error := by
  cases found with
  | none => exact .inl ⟨[], .inl ⟨rfl, rfl⟩⟩
  | some value =>
    by_cases array : ∃ growing items, value = .array growing items
    · obtain ⟨growing, items, rfl⟩ := array
      by_cases strings : ∃ item ∈ items, ∀ text, item ≠ .string text
      · exact .inr ⟨_, .noString rfl strings⟩
      · push Not at strings
        have texts : items ∈ Set.range (List.map Value.string) := by
          rw [Set.range_list_map]
          intro item member
          obtain ⟨text, same⟩ := strings item member
          exact ⟨text, same.symm⟩
        obtain ⟨extensions, rfl⟩ := texts
        exact .inl ⟨extensions, .inr ⟨growing, rfl⟩⟩
    · push Not at array
      exact .inr ⟨_, .noArray rfl array⟩

end Extensions

section Grammars

/-- A value is refused as a grammar. All rules are looked at before the extensions. -/
inductive GrammarRefused (pattern? : String → Option Pattern) (name : String) (value : Value) : Error → Prop
  | noTable (wrong : value.asTable? = none) :
    GrammarRefused pattern? name value (.faultyGrammar name .notATable)
  | noRules {entries : Dictionary Value} (table : value.asTable? = some entries)
    (wrong : ∀ growing rules, entries.get? "rules" ≠ some (.array growing rules)) :
    GrammarRefused pattern? name value (.faultyGrammar name .missingRules)
  | rule {entries : Dictionary Value} {growing : Bool} {rules : List Value} {error : Error}
    (table : value.asTable? = some entries) (array : entries.get? "rules" = some (.array growing rules))
    (first : FirstFault (RuleRefused pattern? name) rules error) : GrammarRefused pattern? name value error
  | extensions {entries : Dictionary Value} {growing : Bool} {rules : List Value}
    {error : Error} (table : value.asTable? = some entries)
    (array : entries.get? "rules" = some (.array growing rules)) (accepted : ∀ rule ∈ rules, RuleAccepted pattern? rule)
    (refused : ExtensionsRefused name (entries.get? "extensions") error) : GrammarRefused pattern? name value error

def GrammarAccepted (pattern? : String → Option Pattern) (value : Value) : Prop :=
  ∃ entries : Dictionary Value, value.asTable? = some entries ∧
    (∃ growing rules, entries.get? "rules" = some (.array growing rules) ∧ ∀ rule ∈ rules, RuleAccepted pattern? rule) ∧
    ∃ extensions, ExtensionsDescribed (entries.get? "extensions") extensions

structure GrammarDescribed (pattern? : String → Option Pattern) (name : String) (value : Value) (grammar : Grammar) : Prop where
  name_eq : grammar.name = name
  described : ∃ entries : Dictionary Value, value.asTable? = some entries ∧
    (∃ growing rules, entries.get? "rules" = some (.array growing rules) ∧
      List.Forall₂ (RuleDescribed pattern?) rules grammar.rules) ∧
    ExtensionsDescribed (entries.get? "extensions") grammar.extensions ∧
    grammar.fileName = (entries.get? "file-name").bind Value.asString?

variable {pattern? : String → Option Pattern} {name : String} {value : Value} {error : Error}
  {entries : Dictionary Value} {growing : Bool} {rules : List Value}

theorem mapM_ruleOf_eq_error_iff (name : String) (error : Error) :
    rules.mapM (ruleOf pattern? name) = .error error ↔ FirstFault (RuleRefused pattern? name) rules error :=
  mapM_eq_error_iff fun rule _ => (ruleOf_judges pattern? name rule).eq_error_iff

theorem mapM_ruleOf_eq_ok_iff (name : String) (read : List Rule) :
    rules.mapM (ruleOf pattern? name) = .ok read ↔ List.Forall₂ (RuleDescribed pattern?) rules read := by
  simp only [mapM_eq_ok_iff, (ruleOf_judges pattern? name _).eq_ok_iff]

theorem exists_mapM_ruleOf_iff (name : String) :
    (∃ read, rules.mapM (ruleOf pattern? name) = .ok read) ↔ ∀ rule ∈ rules, RuleAccepted pattern? rule := by
  rw [exists_ok_iff (mapM_ruleOf_eq_error_iff name)]
  simp only [not_firstFault_iff, (ruleOf_judges pattern? name _).not_fault_iff, ruleAccepted_iff]

theorem grammarOf_of_noTable (wrong : value.asTable? = none) :
    grammarOf pattern? name value = .error (.faultyGrammar name .notATable) := by
  unfold grammarOf
  rw [wrong]

theorem grammarOf_of_noRules (table : value.asTable? = some entries)
    (wrong : ∀ growing rules, entries.get? "rules" ≠ some (.array growing rules)) :
    grammarOf pattern? name value = .error (.faultyGrammar name .missingRules) := by
  have none : (entries.get? "rules").bind Value.asArray? = none := by
    rw [Option.bind_eq_none_iff]
    intro value found
    rw [Value.asArray?_eq_none_iff]
    intro growing rules same
    exact wrong growing rules (same ▸ found)
  unfold grammarOf
  rw [table]
  dsimp only
  rw [none]

theorem grammarOf_of_rules (table : value.asTable? = some entries)
    (array : entries.get? "rules" = some (.array growing rules)) :
    grammarOf pattern? name value = (do
      let rules ← rules.mapM (ruleOf pattern? name)
      let extensions ← extensionsOf name (entries.get? "extensions")
      return ⟨name, rules, extensions, (entries.get? "file-name").bind Value.asString?⟩) := by
  unfold grammarOf
  rw [table]
  dsimp only
  rw [array]
  rfl

theorem GrammarRefused.grammarOf_eq (refused : GrammarRefused pattern? name value error) :
    grammarOf pattern? name value = .error error := by
  cases refused with
  | noTable wrong => exact grammarOf_of_noTable wrong
  | noRules table wrong => exact grammarOf_of_noRules table wrong
  | rule table array first =>
    rw [grammarOf_of_rules table array, bind_eq_error_iff, mapM_ruleOf_eq_error_iff name]
    exact .inl first
  | extensions table array accepted refused =>
    obtain ⟨read, done⟩ := (exists_mapM_ruleOf_iff name).mpr accepted
    rw [grammarOf_of_rules table array, done]
    change extensionsOf name _ >>= _ = _
    rw [refused.extensionsOf_eq]
    rfl

theorem GrammarDescribed.grammarOf_eq {grammar : Grammar} (described : GrammarDescribed pattern? name value grammar) :
    grammarOf pattern? name value = .ok grammar := by
  obtain ⟨rfl, entries, table, ⟨growing, rules, array, read⟩, extensions, fileName⟩ := described
  rw [grammarOf_of_rules table array, (mapM_ruleOf_eq_ok_iff _ _).mpr read]
  change extensionsOf grammar.name _ >>= _ = _
  rw [extensions.extensionsOf_eq]
  change Except.ok _ = _
  rw [← fileName]

theorem grammarAccepted_iff (name : String) :
    GrammarAccepted pattern? value ↔ ∃ grammar, GrammarDescribed pattern? name value grammar := by
  constructor
  · rintro ⟨entries, table, ⟨growing, rules, array, accepted⟩, extensions, described⟩
    obtain ⟨read, done⟩ := (exists_mapM_ruleOf_iff name).mpr accepted
    exact ⟨⟨name, read, extensions, (entries.get? "file-name").bind Value.asString?⟩, rfl, entries, table,
      ⟨growing, rules, array, (mapM_ruleOf_eq_ok_iff name read).mp done⟩, described, rfl⟩
  · rintro ⟨grammar, rfl, entries, table, ⟨growing, rules, array, read⟩, extensions, fileName⟩
    refine ⟨entries, table, ⟨growing, rules, array, ?_⟩, grammar.extensions, extensions⟩
    rw [← exists_mapM_ruleOf_iff grammar.name]
    exact ⟨grammar.rules, (mapM_ruleOf_eq_ok_iff _ _).mpr read⟩

theorem grammarRefused_cases (pattern? : String → Option Pattern) (name : String) (value : Value) :
    GrammarAccepted pattern? value ∨ ∃ error, GrammarRefused pattern? name value error := by
  cases table : value.asTable? with
  | none => exact .inr ⟨_, .noTable table⟩
  | some entries =>
    by_cases array : ∃ growing rules, entries.get? "rules" = some (.array growing rules)
    · obtain ⟨growing, rules, array⟩ := array
      by_cases accepted : ∀ rule ∈ rules, RuleAccepted pattern? rule
      · rcases extensionsRefused_cases name (entries.get? "extensions") with described | ⟨error, refused⟩
        · exact .inl ⟨entries, table, ⟨growing, rules, array, accepted⟩, described⟩
        · exact .inr ⟨error, .extensions table array accepted refused⟩
      · rw [← exists_mapM_ruleOf_iff name, exists_ok_iff (mapM_ruleOf_eq_error_iff name)] at accepted
        push Not at accepted
        obtain ⟨error, first⟩ := accepted
        exact .inr ⟨error, .rule table array first⟩
    · push Not at array
      exact .inr ⟨_, .noRules table array⟩

theorem grammarOf_judges (pattern? : String → Option Pattern) (name : String) (value : Value) :
    Judges (grammarOf pattern? name value) (GrammarDescribed pattern? name value)
      (GrammarRefused pattern? name value) where
  reads _ described := described.grammarOf_eq
  fails _ refused := refused.grammarOf_eq
  total := by
    rw [← grammarAccepted_iff]
    exact grammarRefused_cases pattern? name value

end Grammars

end Highlighter.Config
