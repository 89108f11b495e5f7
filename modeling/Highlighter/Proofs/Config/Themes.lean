import Highlighter.Config
import Highlighter.Proofs.Config.FirstFault

/-! Themes of configurations: which values are accepted, with which error the others are refused, and what a theme is
read from an accepted one. -/

namespace Highlighter

theorem Toml.Value.ascending_of_asTable? {value : Value} {entries : Dictionary Value}
    (table : value.asTable? = some entries) : entries.Ascending := by
  cases value with
  | table form written =>
    cases table
    exact Dictionary.ascending_ofEntries written
  | string | integer | float | boolean | dateTime | array => cases table

namespace Config

open Toml (Value)

/-- An entry of a theme is refused. That its value is no string is noticed before its key is looked at. -/
inductive KeyRefused (theme key : String) (value : Value) : Error → Prop
  | noString (wrong : ∀ text, value ≠ .string text) :
    KeyRefused theme key value (.faultyTheme theme (.valueNotAString key))
  | plain {text : String} (string : value = .string text) (same : key = TokenKind.plain.name) :
    KeyRefused theme key value (.faultyTheme theme .plainColor)
  | unknown {text : String} (string : value = .string text) (noFallback : key ≠ "fallback")
    (noBackground : key ≠ "background") (noKind : ∀ kind : TokenKind, key ≠ kind.name) :
    KeyRefused theme key value (.unknownKind key)

/-- A value is refused as a theme. A missing fallback is noticed last. -/
inductive ThemeRefused (name : String) (value : Value) : Error → Prop
  | noTable (wrong : value.asTable? = none) :
    ThemeRefused name value (.faultyTheme name .notATable)
  | entry {entries : Dictionary Value} {error : Error} (table : value.asTable? = some entries)
    (first : FirstFaultByName (KeyRefused name) entries error) : ThemeRefused name value error
  | noFallback {entries : Dictionary Value} (table : value.asTable? = some entries)
    (clean : ∀ entry ∈ entries, ∀ error, ¬ KeyRefused name entry.1 entry.2 error)
    (missing : ∀ entry ∈ entries, entry.1 ≠ "fallback") : ThemeRefused name value (.faultyTheme name .missingFallback)

def IsThemeKey (key : String) : Prop :=
  key = "fallback" ∨ key = "background" ∨ ∃ kind : TokenKind, kind ≠ .plain ∧ key = kind.name

def ThemeAccepted (value : Value) : Prop :=
  ∃ entries, value.asTable? = some entries ∧
    (∀ entry ∈ entries, (∃ text, entry.2 = .string text) ∧ IsThemeKey entry.1) ∧
    ∃ entry ∈ entries, entry.1 = "fallback"

def colorOf? (entries : Dictionary Value) (key : String) : Option ColorId := (entries.get? key).bind Value.asString?

section Entries

variable {name key : String} {value : Value} {error : Error}

theorem kindNamed_eq_ok_iff (key : String) (kind : TokenKind) : Rule.kindNamed key = .ok kind ↔ key = kind.name := by
  rw [← TokenKind.named?_eq_some_iff]
  unfold Rule.kindNamed
  cases TokenKind.named? key with
  | some found => simp
  | none => simp

theorem kindNamed_eq_error_iff (key : String) (error : Error) :
    Rule.kindNamed key = .error error ↔ (∀ kind : TokenKind, key ≠ kind.name) ∧ error = .unknownKind key := by
  rw [← TokenKind.named?_eq_none_iff]
  unfold Rule.kindNamed
  cases TokenKind.named? key with
  | some found => simp
  | none => simp [eq_comm]

theorem kindName_ne_fallback (kind : TokenKind) : kind.name ≠ "fallback" := by
  cases kind <;> decide

theorem kindName_ne_background (kind : TokenKind) : kind.name ≠ "background" := by
  cases kind <;> decide

theorem add_string {color : String} (draft : ThemeDraft) (noFallback : key ≠ "fallback")
    (noBackground : key ≠ "background") :
    draft.add name key (.string color) = (do
      let kind ← Rule.kindNamed key
      if kind = .plain then .error (.faultyTheme name .plainColor)
      else .ok { draft with colors := draft.colors ++ [(kind, color)] }) := by
  unfold ThemeDraft.add
  dsimp only [Value.asString?]
  rw [if_neg noFallback, if_neg noBackground]

theorem add_kind {color : String} (draft : ThemeDraft) {kind : TokenKind} (declarable : kind ≠ .plain) :
    draft.add name kind.name (.string color) = .ok { draft with colors := draft.colors ++ [(kind, color)] } := by
  rw [add_string draft (kindName_ne_fallback kind) (kindName_ne_background kind),
    (kindNamed_eq_ok_iff kind.name kind).mpr rfl]
  exact if_neg declarable

theorem KeyRefused.add_eq (refused : KeyRefused name key value error) (draft : ThemeDraft) :
    draft.add name key value = .error error := by
  cases refused with
  | noString wrong =>
    unfold ThemeDraft.add
    rw [(Value.asString?_eq_none_iff value).mpr wrong]
  | plain string same =>
    rw [string, same]
    rfl
  | unknown string noFallback noBackground noKind =>
    rw [string, add_string draft noFallback noBackground, (kindNamed_eq_error_iff key _).mpr ⟨noKind, rfl⟩]
    rfl

theorem keyRefused_cases (name key : String) (value : Value) :
    (∃ color, value = .string color) ∧ IsThemeKey key ∨ ∃ error, KeyRefused name key value error := by
  by_cases string : ∃ color, value = .string color
  · obtain ⟨color, string⟩ := string
    by_cases known : ∃ kind : TokenKind, key = kind.name
    · obtain ⟨kind, named⟩ := known
      by_cases plain : kind = .plain
      · exact .inr ⟨_, .plain string (plain ▸ named)⟩
      · exact .inl ⟨⟨color, string⟩, .inr (.inr ⟨kind, plain, named⟩)⟩
    · by_cases fallback : key = "fallback"
      · exact .inl ⟨⟨color, string⟩, .inl fallback⟩
      · by_cases background : key = "background"
        · exact .inl ⟨⟨color, string⟩, .inr (.inl background)⟩
        · exact .inr ⟨_, .unknown string fallback background (not_exists.mp known)⟩
  · exact .inr ⟨_, .noString (not_exists.mp string)⟩

inductive Put (color : String) : String → ThemeDraft → ThemeDraft → Prop
  | fallback {draft : ThemeDraft} : Put color "fallback" draft { draft with fallback := some color }
  | background {draft : ThemeDraft} : Put color "background" draft { draft with background := some color }
  | kind {draft : ThemeDraft} {kind : TokenKind} (declarable : kind ≠ .plain) :
    Put color kind.name draft { draft with colors := draft.colors ++ [(kind, color)] }

theorem IsThemeKey.exists_put (known : IsThemeKey key) (color : String) (draft : ThemeDraft) :
    ∃ next, Put color key draft next := by
  rcases known with rfl | rfl | ⟨kind, declarable, rfl⟩
  · exact ⟨_, .fallback⟩
  · exact ⟨_, .background⟩
  · exact ⟨_, .kind declarable⟩

theorem Put.add_eq {color : String} {draft next : ThemeDraft} (put : Put color key draft next) :
    draft.add name key (.string color) = .ok next := by
  cases put with
  | fallback => rfl
  | background => rfl
  | kind declarable => exact add_kind draft declarable

theorem add_judges (name key : String) (value : Value) (draft : ThemeDraft) :
    Judges (draft.add name key value) (fun next => ∃ color, value = .string color ∧ Put color key draft next)
      (KeyRefused name key value) where
  reads next put := by
    obtain ⟨color, rfl, put⟩ := put
    exact put.add_eq
  fails error refused := refused.add_eq draft
  total := by
    rcases keyRefused_cases name key value with ⟨⟨color, string⟩, known⟩ | refused
    · obtain ⟨next, put⟩ := known.exists_put color draft
      exact .inl ⟨next, color, string, put⟩
    · exact .inr refused

theorem not_keyRefused_iff :
    (∀ error, ¬ KeyRefused name key value error) ↔ (∃ text, value = .string text) ∧ IsThemeKey key := by
  constructor
  · intro clean
    rcases keyRefused_cases name key value with accepted | ⟨error, refused⟩
    · exact accepted
    · exact absurd refused (clean error)
  · rintro ⟨⟨color, string⟩, known⟩
    rw [(add_judges name key value {}).not_fault_iff]
    obtain ⟨next, put⟩ := known.exists_put color {}
    exact ⟨next, color, string, put⟩

end Entries

section Gathering

variable {name : String} {value : Value} {entries : Dictionary Value} {start last : ThemeDraft}

theorem colorOf?_cons (key : String) (value : Value) (entries : Dictionary Value) (name : String) :
    colorOf? ((key, value) :: entries) name = if name = key then value.asString? else colorOf? entries name := by
  change ((if name = key then some value else entries.get? name).bind Value.asString?) = _
  split
  · rfl
  · rfl

/-- What has been gathered from the entries of a table besides what was there. -/
structure Gathered (start : ThemeDraft) (entries : Dictionary Value) (last : ThemeDraft) : Prop where
  fallback : last.fallback = (colorOf? entries "fallback").or start.fallback
  background : last.background = (colorOf? entries "background").or start.background
  color : ∀ kind : TokenKind, kind ≠ .plain →
    last.colors.lookup kind = (start.colors.lookup kind).or (colorOf? entries kind.name)
  plain : colorOf? entries TokenKind.plain.name = none

theorem gathered_nil : Gathered start [] start where
  fallback := rfl
  background := rfl
  color _ _ := (Option.or_none ..).symm
  plain := rfl

theorem Gathered.cons {key color : String} {middle : ThemeDraft} (put : Put color key start middle)
    (absent : colorOf? entries key = none) (rest : Gathered middle entries last) :
    Gathered start ((key, .string color) :: entries) last := by
  cases put with
  | fallback =>
    refine ⟨?_, ?_, fun kind declarable => ?_, ?_⟩
    · rw [rest.fallback, absent, colorOf?_cons, if_pos rfl]
      rfl
    · rw [rest.background, colorOf?_cons, if_neg (by decide)]
    · rw [rest.color kind declarable, colorOf?_cons, if_neg (kindName_ne_fallback kind)]
    · rw [colorOf?_cons, if_neg (by decide), rest.plain]
  | background =>
    refine ⟨?_, ?_, fun kind declarable => ?_, ?_⟩
    · rw [rest.fallback, colorOf?_cons, if_neg (by decide)]
    · rw [rest.background, absent, colorOf?_cons, if_pos rfl]
      rfl
    · rw [rest.color kind declarable, colorOf?_cons, if_neg (kindName_ne_background kind)]
    · rw [colorOf?_cons, if_neg (by decide), rest.plain]
  | @kind _ kind declarable =>
    refine ⟨?_, ?_, fun other declarableOther => ?_, ?_⟩
    · rw [rest.fallback, colorOf?_cons, if_neg (kindName_ne_fallback kind).symm]
    · rw [rest.background, colorOf?_cons, if_neg (kindName_ne_background kind).symm]
    · rw [rest.color other declarableOther, colorOf?_cons, List.lookup_append]
      by_cases same : other = kind
      · rw [same, absent, if_pos rfl, List.lookup_cons_self, Option.or_none]
        rfl
      · have elsewhere : [(kind, color)].lookup other = none := by
          rw [List.lookup_cons, beq_false_of_ne same]
          rfl
        rw [elsewhere, Option.or_none, if_neg fun named => same (TokenKind.name_injective named)]
    · rw [colorOf?_cons, if_neg (fun same => declarable (TokenKind.name_injective same).symm), rest.plain]

theorem gathered_foldlM (ascending : entries.Ascending)
    (done : entries.foldlM (fun draft (key, value) => ThemeDraft.add name draft key value) start = .ok last) :
    Gathered start entries last := by
  induction entries generalizing start with
  | nil =>
    cases done
    exact gathered_nil
  | cons entry entries ih =>
    obtain ⟨key, value⟩ := entry
    obtain ⟨first, ascendingRest⟩ := List.pairwise_cons.mp ascending
    rw [List.foldlM_cons, bind_eq_ok_iff] at done
    obtain ⟨middle, ok, done⟩ := done
    obtain ⟨color, rfl, put⟩ := ((add_judges name key value start).eq_ok_iff middle).mp ok
    have absent : colorOf? entries key = none := by
      have missing : key ∉ Dictionary.names entries := by
        intro member
        obtain ⟨other, later, same⟩ := List.mem_map.mp member
        exact String.lt_irrefl key (same ▸ first other later)
      unfold colorOf?
      rw [(Dictionary.get?_eq_none_iff entries key).mpr missing]
      rfl
    exact .cons put absent (ih ascendingRest done)

end Gathering

section Themes

variable {name : String} {value : Value} {entries : Dictionary Value} {error : Error}

def draftOf (name : String) (entries : Dictionary Value) : Except Error ThemeDraft :=
  entries.foldlM (fun draft (key, value) => ThemeDraft.add name draft key value) {}

theorem draftOf_eq_error_iff :
    draftOf name entries = .error error ↔ FirstFault (fun entry => KeyRefused name entry.1 entry.2) entries error := by
  apply foldlM_eq_error_iff
  intro entry _ draft
  exact (add_judges name entry.1 entry.2 draft).eq_error_iff

theorem exists_draftOf_iff :
    (∃ draft, draftOf name entries = .ok draft) ↔
      ∀ entry ∈ entries, ∀ error, ¬ KeyRefused name entry.1 entry.2 error := by
  rw [exists_ok_iff fun error => draftOf_eq_error_iff]
  exact not_firstFault_iff

theorem finish_eq_error_iff (draft : ThemeDraft) :
    draft.finish name = .error error ↔ draft.fallback = none ∧ error = .faultyTheme name .missingFallback := by
  unfold ThemeDraft.finish
  cases draft.fallback with
  | none => simp [eq_comm]
  | some fallback => simp

theorem colorOf?_eq_none_iff (strings : ∀ entry ∈ entries, ∃ text, entry.2 = .string text) (key : String) :
    colorOf? entries key = none ↔ ∀ entry ∈ entries, entry.1 ≠ key := by
  unfold colorOf?
  cases found : entries.get? key with
  | none =>
    have missing := (Dictionary.get?_eq_none_iff entries key).mp found
    refine ⟨fun _ entry member same => missing ?_, fun _ => rfl⟩
    exact same ▸ List.mem_map_of_mem member
  | some value =>
    have member := Dictionary.mem_of_get? found
    obtain ⟨text, string⟩ := strings _ member
    refine ⟨fun none => ?_, fun missing => absurd rfl (missing _ member)⟩
    rw [show value = .string text from string] at none
    cases none

theorem themeOf_of_noTable (wrong : value.asTable? = none) :
    themeOf name value = .error (.faultyTheme name .notATable) := by
  unfold themeOf
  rw [wrong]

theorem themeOf_of_table (table : value.asTable? = some entries) :
    themeOf name value = draftOf name entries >>= ThemeDraft.finish name := by
  unfold themeOf
  rw [table]
  rfl

theorem themeOf_of_table_eq_error_iff (table : value.asTable? = some entries) :
    themeOf name value = .error error ↔ FirstFaultByName (KeyRefused name) entries error ∨
      (∀ entry ∈ entries, ∀ error, ¬ KeyRefused name entry.1 entry.2 error) ∧
        (∀ entry ∈ entries, entry.1 ≠ "fallback") ∧ error = .faultyTheme name .missingFallback := by
  have ascending := Value.ascending_of_asTable? table
  rw [themeOf_of_table table, bind_eq_error_iff, draftOf_eq_error_iff, firstFault_iff_byName ascending,
    ← exists_draftOf_iff]
  apply or_congr_right
  rw [← exists_and_right]
  apply exists_congr
  intro draft
  apply and_congr_right
  intro done
  have gathered : Gathered {} entries draft := gathered_foldlM ascending done
  have clean := exists_draftOf_iff.mp ⟨draft, done⟩
  have strings := fun entry member => (not_keyRefused_iff.mp (clean entry member)).1
  rw [finish_eq_error_iff, gathered.fallback, Option.or_none, colorOf?_eq_none_iff strings]

theorem themeOf_eq_error_iff : themeOf name value = .error error ↔ ThemeRefused name value error := by
  cases table : value.asTable? with
  | some entries =>
    rw [themeOf_of_table_eq_error_iff table]
    constructor
    · rintro (first | ⟨clean, missing, rfl⟩)
      · exact .entry table first
      · exact .noFallback table clean missing
    · intro refused
      cases refused with
      | noTable wrong =>
        rw [table] at wrong
        cases wrong
      | entry found first =>
        obtain rfl := Option.some.inj (table.symm.trans found)
        exact .inl first
      | noFallback found clean missing =>
        obtain rfl := Option.some.inj (table.symm.trans found)
        exact .inr ⟨clean, missing, rfl⟩
  | none =>
    rw [themeOf_of_noTable table]
    constructor
    · rintro ⟨⟩
      exact .noTable table
    · intro refused
      cases refused with
      | noTable wrong => rfl
      | entry found first => cases table.symm.trans found
      | noFallback found clean missing => cases table.symm.trans found

theorem not_themeRefused_iff : (∀ error, ¬ ThemeRefused name value error) ↔ ThemeAccepted value := by
  constructor
  · intro notRefused
    cases table : value.asTable? with
    | none => exact absurd (.noTable table) (notRefused _)
    | some entries =>
      have clean : ∀ entry ∈ entries, ∀ error, ¬ KeyRefused name entry.1 entry.2 error := by
        rw [← not_firstFaultByName_iff (Value.ascending_of_asTable? table)]
        exact fun error first => notRefused error (.entry table first)
      refine ⟨entries, table, fun entry member => not_keyRefused_iff.mp (clean entry member), ?_⟩
      by_contra missing
      push Not at missing
      exact notRefused _ (.noFallback table clean missing)
  · rintro ⟨entries, table, accepted, entry, member, same⟩ error refused
    cases refused with
    | noTable wrong => cases table.symm.trans wrong
    | entry found first =>
      obtain rfl := Option.some.inj (table.symm.trans found)
      obtain ⟨key, value, member, wrong, -⟩ := first
      exact not_keyRefused_iff.mpr (accepted (key, value) member) error wrong
    | noFallback found clean missing =>
      obtain rfl := Option.some.inj (table.symm.trans found)
      exact missing entry member same

end Themes

end Config

end Highlighter
