import Highlighter.Proofs.CommandLine.Units
import Mathlib.Data.List.Perm.Basic

/-!
Reading a command line. It succeeds just when the arguments spell units, and the options are what the units call for;
otherwise it reports the first argument at which no unit goes on. The order of units counts only among those of one
setting and among those that say what to read.
-/

namespace Highlighter

namespace CommandUnit

/-- The arguments spell units up to one that begins like an option and is none, or up to a setting that is the last
argument and thus has no value. -/
inductive Breaks : List String → Error → Prop
  | unknown {before after : List String} {units : List CommandUnit} {argument : String} (front : Spells before units)
    (dashed : argument.toList.head? = some '-') (long : argument ≠ "-")
    (noSwitch : ∀ switch : Switch, argument ∉ switch.spellings)
    (noSetting : ∀ setting : Setting, argument ∉ setting.spellings) :
    Breaks (before ++ argument :: after) (.unknownOption argument)
  | unfinished {before : List String} {units : List CommandUnit} {argument : String} {setting : Setting}
    (front : Spells before units) (spelled : argument ∈ setting.spellings) :
    Breaks (before ++ [argument]) (.missingValue argument)

section Breaking

variable {before arguments : List String} {front units : List CommandUnit} {argument : String} {error : Error}

theorem Spells.append (spells : Spells before front) (rest : Spells arguments units) :
    Spells (before ++ arguments) (front ++ units) := by
  induction spells with
  | nil => exact rest
  | switch spelled _ ih => exact .switch spelled ih
  | setting spelled _ ih => exact .setting spelled ih
  | file bare _ ih => exact .file bare ih
  | input _ ih => exact .input ih

theorem Breaks.behind (breaks : Breaks arguments error) (spells : Spells before front) :
    Breaks (before ++ arguments) error := by
  cases breaks with
  | unknown inner dashed long noSwitch noSetting =>
    rw [← List.append_assoc]
    exact .unknown (spells.append inner) dashed long noSwitch noSetting
  | unfinished inner spelled =>
    rw [← List.append_assoc]
    exact .unfinished (spells.append inner) spelled

theorem Spells.ofArguments_append (spells : Spells before front) (arguments : List String) :
    ofArguments (before ++ arguments) = (front ++ ·) <$> ofArguments arguments := by
  have onward (unit : CommandUnit) (units : List CommandUnit) :
      (unit :: ·) <$> (units ++ ·) <$> ofArguments arguments = (unit :: units ++ ·) <$> ofArguments arguments := by
    cases ofArguments arguments <;> rfl
  induction spells with
  | nil => cases read : ofArguments arguments <;> simp [read]
  | switch spelled _ ih => rw [List.cons_append, ofArguments_switch spelled, ih, onward]
  | setting spelled _ ih => rw [List.cons_append, List.cons_append, ofArguments_setting spelled, ih, onward]
  | file bare _ ih => rw [List.cons_append, ofArguments_file bare, ih, onward]
  | input _ ih => rw [List.cons_append, ofArguments_input, ih, onward]

theorem ofArguments_unknown (dashed : argument.toList.head? = some '-') (long : argument ≠ "-")
    (noSwitch : ∀ switch : Switch, argument ∉ switch.spellings)
    (noSetting : ∀ setting : Setting, argument ∉ setting.spellings) (after : List String) :
    ofArguments (argument :: after) = .error (.unknownOption argument) := by
  have switchless : Switch.ofArgument? argument = none :=
    Option.eq_none_iff_forall_ne_some.mpr fun switch found =>
      noSwitch switch ((Switch.ofArgument?_eq_some_iff argument switch).mp found)
  have settingless : Setting.ofArgument? argument = none :=
    Option.eq_none_iff_forall_ne_some.mpr fun setting found =>
      noSetting setting ((Setting.ofArgument?_eq_some_iff argument setting).mp found)
  have operand : ofOperand argument = .error (.unknownOption argument) := by
    rw [ofOperand, if_neg long, if_pos dashed]
  rw [ofArguments.eq_def]
  simp only [switchless, settingless, operand]

theorem ofArguments_unfinished {setting : Setting} (spelled : argument ∈ setting.spellings) :
    ofArguments [argument] = .error (.missingValue argument) := by
  rw [ofArguments.eq_def]
  simp only [setting.not_switch_of_spelled argument spelled, setting.ofArgument?_of_spelled argument spelled]

theorem Breaks.ofArguments_eq (breaks : Breaks arguments error) : ofArguments arguments = .error error := by
  cases breaks with
  | unknown front dashed long noSwitch noSetting =>
    rw [front.ofArguments_append, ofArguments_unknown dashed long noSwitch noSetting]
    rfl
  | unfinished front spelled =>
    rw [front.ofArguments_append, ofArguments_unfinished spelled]
    rfl

theorem eq_error_of_map_eq_error {unit : CommandUnit} {result : Except Error (List CommandUnit)}
    (failed : (unit :: ·) <$> result = .error error) : result = .error error := by
  cases result with
  | error other =>
    cases failed
    rfl
  | ok units => cases failed

theorem breaks_of_ofArguments_eq (failed : ofArguments arguments = .error error) : Breaks arguments error := by
  fun_induction ofArguments arguments with
  | case1 => cases failed
  | case2 argument arguments switch found ih =>
    have spelled := (Switch.ofArgument?_eq_some_iff argument switch).mp found
    exact (ih (eq_error_of_map_eq_error failed)).behind (.switch spelled .nil)
  | case3 argument noSwitch setting found =>
    cases failed
    exact .unfinished .nil ((Setting.ofArgument?_eq_some_iff argument setting).mp found)
  | case4 argument noSwitch setting found value arguments ih =>
    have spelled := (Setting.ofArgument?_eq_some_iff argument setting).mp found
    exact (ih (eq_error_of_map_eq_error failed)).behind (.setting spelled .nil)
  | case5 argument arguments noSwitch noSetting other operand =>
    cases failed
    unfold ofOperand at operand
    split_ifs at operand with hyphen dashed
    cases operand
    refine .unknown .nil dashed hyphen (fun switch spelled => ?_) (fun setting spelled => ?_)
    · rw [switch.ofArgument?_of_spelled argument spelled] at noSwitch
      cases noSwitch
    · rw [setting.ofArgument?_of_spelled argument spelled] at noSetting
      cases noSetting
  | case6 argument arguments noSwitch noSetting unit operand ih =>
    have spells := spells_of_ofOperand operand .nil
    exact (ih (eq_error_of_map_eq_error failed)).behind spells

theorem ofArguments_eq_error_iff : ofArguments arguments = .error error ↔ Breaks arguments error :=
  ⟨breaks_of_ofArguments_eq, Breaks.ofArguments_eq⟩

end Breaking

def sets (setting : Setting) (unit : CommandUnit) : Bool := (unit.value? setting).isSome

def operates (unit : CommandUnit) : Bool := unit.operand?.isSome

/-- The same units in an order that is the same for those of each setting and for those that say what to read. -/
structure Reorders (units others : List CommandUnit) : Prop where
  perm : units.Perm others
  settings : ∀ setting, units.filter (sets setting) = others.filter (sets setting)
  operands : units.filter operates = others.filter operates

theorem filterMap_filter_isSome {α β : Type} (select : α → Option β) (items : List α) :
    (items.filter fun item => (select item).isSome).filterMap select = items.filterMap select := by
  rw [List.filterMap_filter]
  congr 1
  funext item
  cases select item <;> rfl

namespace Reorders

variable {units others : List CommandUnit} (reorders : Reorders units others)
include reorders

theorem lastValue?_eq (setting : Setting) : lastValue? setting units = lastValue? setting others := by
  have same := congrArg (List.filterMap (value? setting)) (reorders.settings setting)
  unfold sets at same
  rw [filterMap_filter_isSome, filterMap_filter_isSome] at same
  unfold lastValue?
  rw [same]

theorem remainingFile?_eq : remainingFile? units = remainingFile? others := by
  have same := congrArg (List.filterMap operand?) reorders.operands
  unfold operates at same
  rw [filterMap_filter_isSome, filterMap_filter_isSome] at same
  unfold remainingFile?
  rw [same]

end Reorders

end CommandUnit

namespace Options

open CommandUnit (Spells Breaks Reorders lastValue? remainingFile?)

def isOn (options : Options) : Switch → Bool
  | .help => options.help
  | .version => options.version
  | .list => options.list
  | .dump => options.dump

theorem isOn_add (options : Options) (unit : CommandUnit) (switch : Switch) :
    (options.add unit).isOn switch = true ↔ options.isOn switch = true ∨ unit = .switch switch := by
  cases unit with
  | switch given => cases given <;> cases switch <;> simp [add, isOn]
  | setting given value => cases given <;> cases switch <;> simp [add, isOn]
  | file path => cases switch <;> simp [add, isOn]
  | input => cases switch <;> simp [add, isOn]

theorem isOn_ofUnits (units : List CommandUnit) (switch : Switch) :
    (ofUnits units).isOn switch = true ↔ .switch switch ∈ units := by
  induction units using List.reverseRecOn with
  | nil => cases switch <;> simp [ofUnits, isOn]
  | append_singleton units unit ih =>
    rw [ofUnits_concat, isOn_add, ih, List.mem_append, List.mem_singleton]
    exact or_congr_right eq_comm

/-- The options are what units call for: each switch is on just when it occurs, each setting has its last value, and the
file to read is the one named last, unless a hyphen comes later. -/
structure Reflects (options : Options) (units : List CommandUnit) : Prop where
  switches : ∀ switch, options.isOn switch = true ↔ .switch switch ∈ units
  settings : ∀ setting, options.value? setting = lastValue? setting units
  file : options.file = remainingFile? units

theorem reflects_ofUnits (units : List CommandUnit) : (ofUnits units).Reflects units where
  switches := isOn_ofUnits units
  settings := value?_ofUnits units
  file := file_ofUnits units

theorem eq_of_parts {options others : Options} (switches : ∀ switch, options.isOn switch = others.isOn switch)
    (settings : ∀ setting, options.value? setting = others.value? setting) (file : options.file = others.file) :
    options = others := by
  obtain ⟨language, theme, config, path, help, version, list, dump⟩ := options
  obtain ⟨⟩ := others
  cases settings .language
  cases settings .theme
  cases settings .config
  cases file
  cases switches .help
  cases switches .version
  cases switches .list
  cases switches .dump
  rfl

/-- The order of units counts only among those of one setting and among those that say what to read. -/
theorem ofUnits_eq_of_reorders {units others : List CommandUnit} (reorders : Reorders units others) :
    ofUnits units = ofUnits others := by
  apply eq_of_parts
  · intro switch
    rw [Bool.eq_iff_iff, isOn_ofUnits, isOn_ofUnits]
    exact reorders.perm.mem_iff
  · intro setting
    rw [value?_ofUnits, value?_ofUnits]
    exact reorders.lastValue?_eq setting
  · rw [file_ofUnits, file_ofUnits]
    exact reorders.remainingFile?_eq

section Reading

variable {arguments : List String} {units : List CommandUnit}

theorem ofArguments_of_spells (spells : Spells arguments units) : ofArguments arguments = .ok (ofUnits units) := by
  unfold ofArguments
  rw [spells.ofArguments_eq]
  rfl

theorem ofArguments_eq_error_iff (error : Error) : ofArguments arguments = .error error ↔ Breaks arguments error := by
  rw [← CommandUnit.ofArguments_eq_error_iff]
  unfold ofArguments
  cases CommandUnit.ofArguments arguments with
  | error other => exact ⟨fun | rfl => rfl, fun | rfl => rfl⟩
  | ok units => exact ⟨nofun, nofun⟩

end Reading

/-- Reading arguments succeeds just for those that spell units and gives the options that these call for, also in any
other order that keeps what counts. It fails at the first argument at which no unit goes on. -/
structure ReadsExactly (arguments : List String) : Prop where
  succeeds_iff : (∃ options, ofArguments arguments = .ok options) ↔ ∃ units, Spells arguments units
  reflects : ∀ options units, ofArguments arguments = .ok options → Spells arguments units → options.Reflects units
  fails_iff : ∀ error, ofArguments arguments = .error error ↔ Breaks arguments error
  reordered : ∀ units others rewritten, Spells arguments units → Spells rewritten others → Reorders units others →
    ofArguments rewritten = ofArguments arguments

theorem ofArguments_readsExactly (arguments : List String) : ReadsExactly arguments where
  succeeds_iff := by
    constructor
    · rintro ⟨options, ok⟩
      obtain ⟨units, spells, -⟩ := exists_spells_of_ofArguments ok
      exact ⟨units, spells⟩
    · rintro ⟨units, spells⟩
      exact ⟨ofUnits units, ofArguments_of_spells spells⟩
  reflects options units ok spells := by
    rw [ofArguments_of_spells spells] at ok
    cases ok
    exact reflects_ofUnits units
  fails_iff := ofArguments_eq_error_iff
  reordered units others rewritten spells rewrittenSpells reorders := by
    rw [ofArguments_of_spells rewrittenSpells, ofArguments_of_spells spells, ofUnits_eq_of_reorders reorders]

/-- A setting takes even an option as its value, and a hyphen takes the file back. -/
example : ofArguments ["-h", "x.py", "-l", "--dump", "-"] = .ok { language := some "--dump", help := true } := by
  decide

end Options

end Highlighter
