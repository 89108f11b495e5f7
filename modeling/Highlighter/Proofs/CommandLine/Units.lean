import Highlighter.CommandLine
import Mathlib.Data.List.Induction
import Mathlib.Tactic.SplitIfs

/-!
Command lines as sequences of units. A list of arguments is understood just when it spells units, and then in one way;
of the values of a setting and of the files to read the last one counts.
-/

namespace Highlighter

def Switch.spellings : Switch → List String
  | help => ["--help", "-h"]
  | version => ["--version", "-V"]
  | list => ["--list"]
  | dump => ["--dump"]

def Setting.spellings : Setting → List String
  | language => ["--language", "-l"]
  | theme => ["--theme", "-t"]
  | config => ["--config", "-c"]

theorem Switch.ofArgument?_of_spelled (switch : Switch) :
    ∀ argument ∈ switch.spellings, ofArgument? argument = some switch := by
  cases switch <;> decide

theorem Switch.ofArgument?_eq_some_iff (argument : String) (switch : Switch) :
    ofArgument? argument = some switch ↔ argument ∈ switch.spellings := by
  refine ⟨fun found => ?_, switch.ofArgument?_of_spelled argument⟩
  unfold ofArgument? at found
  split_ifs at found <;> cases found <;> simpa [spellings]

theorem Setting.ofArgument?_of_spelled (setting : Setting) :
    ∀ argument ∈ setting.spellings, ofArgument? argument = some setting := by
  cases setting <;> decide

theorem Setting.ofArgument?_eq_some_iff (argument : String) (setting : Setting) :
    ofArgument? argument = some setting ↔ argument ∈ setting.spellings := by
  refine ⟨fun found => ?_, setting.ofArgument?_of_spelled argument⟩
  unfold ofArgument? at found
  split_ifs at found <;> cases found <;> simpa [spellings]

theorem Setting.not_switch_of_spelled (setting : Setting) :
    ∀ argument ∈ setting.spellings, Switch.ofArgument? argument = none := by
  cases setting <;> decide

theorem Switch.head?_of_spelled (switch : Switch) :
    ∀ argument ∈ switch.spellings, argument.toList.head? = some '-' := by
  cases switch <;> decide

theorem Setting.head?_of_spelled (setting : Setting) :
    ∀ argument ∈ setting.spellings, argument.toList.head? = some '-' := by
  cases setting <;> decide

namespace CommandUnit

/-- The arguments spell the units one after the other. A setting takes the argument behind it whatever that is, and a
path to a file begins with no hyphen. -/
inductive Spells : List String → List CommandUnit → Prop
  | nil : Spells [] []
  | switch {argument : String} {arguments : List String} {units : List CommandUnit} {found : Switch}
    (spelled : argument ∈ found.spellings) (rest : Spells arguments units) :
    Spells (argument :: arguments) (switch found :: units)
  | setting {argument value : String} {arguments : List String} {units : List CommandUnit} {found : Setting}
    (spelled : argument ∈ found.spellings) (rest : Spells arguments units) :
    Spells (argument :: value :: arguments) (setting found value :: units)
  | file {path : String} {arguments : List String} {units : List CommandUnit}
    (bare : path.toList.head? ≠ some '-') (rest : Spells arguments units) :
    Spells (path :: arguments) (file path :: units)
  | input {arguments : List String} {units : List CommandUnit} (rest : Spells arguments units) :
    Spells ("-" :: arguments) (input :: units)

section Spelling

variable {argument : String} {arguments : List String} {units : List CommandUnit}

theorem ofArguments_switch {found : Switch} (spelled : argument ∈ found.spellings) :
    ofArguments (argument :: arguments) = (switch found :: ·) <$> ofArguments arguments := by
  rw [ofArguments.eq_def]
  simp only [found.ofArgument?_of_spelled argument spelled]

theorem ofArguments_setting {found : Setting} (spelled : argument ∈ found.spellings) (value : String) :
    ofArguments (argument :: value :: arguments) = (setting found value :: ·) <$> ofArguments arguments := by
  rw [ofArguments.eq_def]
  simp only [found.not_switch_of_spelled argument spelled, found.ofArgument?_of_spelled argument spelled]

theorem ofArguments_file {path : String} (bare : path.toList.head? ≠ some '-') :
    ofArguments (path :: arguments) = (file path :: ·) <$> ofArguments arguments := by
  have noSwitch : Switch.ofArgument? path = none :=
    Option.eq_none_iff_forall_ne_some.mpr fun switch found =>
      bare (switch.head?_of_spelled path ((Switch.ofArgument?_eq_some_iff path switch).mp found))
  have noSetting : Setting.ofArgument? path = none :=
    Option.eq_none_iff_forall_ne_some.mpr fun setting found =>
      bare (setting.head?_of_spelled path ((Setting.ofArgument?_eq_some_iff path setting).mp found))
  have noHyphen : path ≠ "-" := by
    rintro rfl
    exact bare rfl
  have operand : ofOperand path = .ok (file path) := by
    rw [ofOperand, if_neg noHyphen, if_neg bare]
  rw [ofArguments.eq_def]
  simp only [noSwitch, noSetting, operand]

theorem ofArguments_input : ofArguments ("-" :: arguments) = (input :: ·) <$> ofArguments arguments := by
  rw [ofArguments.eq_def]
  rfl

theorem Spells.ofArguments_eq (spells : Spells arguments units) : ofArguments arguments = .ok units := by
  induction spells with
  | nil => rw [ofArguments]
  | switch spelled rest ih =>
    rw [ofArguments_switch spelled, ih]
    rfl
  | setting spelled rest ih =>
    rw [ofArguments_setting spelled, ih]
    rfl
  | file bare rest ih =>
    rw [ofArguments_file bare, ih]
    rfl
  | input rest ih =>
    rw [ofArguments_input, ih]
    rfl

theorem exists_of_map_cons_eq_ok {unit : CommandUnit} {result : Except Error (List CommandUnit)}
    (ok : (unit :: ·) <$> result = .ok units) : ∃ rest, result = .ok rest ∧ units = unit :: rest := by
  cases result with
  | error error => cases ok
  | ok rest =>
    cases ok
    exact ⟨rest, rfl, rfl⟩

theorem spells_of_ofOperand {unit : CommandUnit} (ok : ofOperand argument = .ok unit)
    (rest : Spells arguments units) : Spells (argument :: arguments) (unit :: units) := by
  unfold ofOperand at ok
  split_ifs at ok with hyphen dashed <;> cases ok
  · rw [hyphen]
    exact .input rest
  · exact .file dashed rest

theorem spells_of_ofArguments_eq (ok : ofArguments arguments = .ok units) : Spells arguments units := by
  fun_induction ofArguments arguments generalizing units with
  | case1 =>
    cases ok
    exact .nil
  | case2 argument arguments switch found ih =>
    obtain ⟨rest, restOk, rfl⟩ := exists_of_map_cons_eq_ok ok
    exact .switch ((Switch.ofArgument?_eq_some_iff argument switch).mp found) (ih restOk)
  | case3 => cases ok
  | case4 argument noSwitch setting found value arguments ih =>
    obtain ⟨rest, restOk, rfl⟩ := exists_of_map_cons_eq_ok ok
    exact .setting ((Setting.ofArgument?_eq_some_iff argument setting).mp found) (ih restOk)
  | case5 => cases ok
  | case6 argument arguments noSwitch noSetting unit operand ih =>
    obtain ⟨rest, restOk, rfl⟩ := exists_of_map_cons_eq_ok ok
    exact spells_of_ofOperand operand (ih restOk)

end Spelling

def value? (setting : Setting) : CommandUnit → Option String
  | .setting given value => if given = setting then some value else none
  | _ => none

def operand? : CommandUnit → Option (Option String)
  | file path => some (some path)
  | input => some none
  | _ => none

def lastValue? (setting : Setting) (units : List CommandUnit) : Option String :=
  (units.filterMap (value? setting)).getLast?

/-- The file that remains to be read: the one named last, unless a hyphen comes later. -/
def remainingFile? (units : List CommandUnit) : Option String := (units.filterMap operand?).getLast?.join

end CommandUnit

namespace Options

open CommandUnit (lastValue? remainingFile?)

def value? (options : Options) : Setting → Option String
  | .language => options.language
  | .theme => options.theme
  | .config => options.config

theorem ofUnits_concat (units : List CommandUnit) (unit : CommandUnit) :
    ofUnits (units ++ [unit]) = (ofUnits units).add unit := List.foldl_append ..

theorem value?_add (options : Options) (unit : CommandUnit) (setting : Setting) :
    (options.add unit).value? setting = (unit.value? setting).or (options.value? setting) := by
  cases unit with
  | switch switch => cases switch <;> cases setting <;> rfl
  | setting given value => cases given <;> cases setting <;> rfl
  | file path => cases setting <;> rfl
  | input => cases setting <;> rfl

theorem file_add (options : Options) (unit : CommandUnit) :
    (options.add unit).file = unit.operand?.getD options.file := by
  cases unit with
  | switch switch => cases switch <;> rfl
  | setting given value => cases given <;> rfl
  | file path => rfl
  | input => rfl

theorem value?_ofUnits (units : List CommandUnit) (setting : Setting) :
    (ofUnits units).value? setting = lastValue? setting units := by
  induction units using List.reverseRecOn with
  | nil => cases setting <;> rfl
  | append_singleton units unit ih =>
    rw [ofUnits_concat, value?_add, ih]
    unfold lastValue?
    rw [List.filterMap_append, List.getLast?_append]
    cases given : unit.value? setting <;> simp [given]

theorem file_ofUnits (units : List CommandUnit) : (ofUnits units).file = remainingFile? units := by
  induction units using List.reverseRecOn with
  | nil => rfl
  | append_singleton units unit ih =>
    rw [ofUnits_concat, file_add, ih]
    unfold remainingFile?
    rw [List.filterMap_append, List.getLast?_append]
    cases said : unit.operand? <;> simp [said]

theorem exists_spells_of_ofArguments {arguments : List String} {options : Options}
    (understood : ofArguments arguments = .ok options) :
    ∃ units, CommandUnit.Spells arguments units ∧ ofUnits units = options := by
  unfold ofArguments at understood
  cases read : CommandUnit.ofArguments arguments with
  | error error =>
    rw [read] at understood
    cases understood
  | ok units =>
    rw [read] at understood
    cases understood
    exact ⟨units, CommandUnit.spells_of_ofArguments_eq read, rfl⟩

end Options

end Highlighter
