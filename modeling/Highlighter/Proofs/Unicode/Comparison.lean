import Highlighter.Proofs.Text.Digits
import Highlighter.Proofs.Unicode.Words
import Highlighter.Unicode.Comparison

/-!
Classes that are compared at their bounds are the same exactly if they have the same characters. Behind a code that is
no bound of a class nothing changes, so that what holds at the last bound, or at the first character, holds up to the
next one.
-/

namespace Highlighter.Unicode

theorem caseVariants_of_uncased {code : Nat}
    (outside : ∀ run ∈ Table.foldRuns, run.target? code = none ∧ run.source? code = none) :
    caseVariants code = [code] := by
  have alone : caseRepresentative code = code := by
    rw [caseRepresentative, List.findSome?_eq_none_iff.mpr fun run member => (outside run member).1]
    rfl
  simp only [caseVariants, alone, List.cons.injEq, true_and]
  exact List.filterMap_eq_nil_iff.mpr fun run member => (outside run member).2

namespace CaseRun

variable {run : CaseRun} {code : Nat}

theorem uncased_of_notMem_bounds (outside : code + 1 ∉ run.bounds) {near : Nat} (place : near = code ∨ near = code + 1) :
    run.target? near = none ∧ run.source? near = none := by
  simp only [bounds, List.mem_append, List.mem_range'_1, not_or, not_and, Nat.not_lt] at outside
  constructor
  · rw [target?, if_neg]
    rintro ⟨low, high, -⟩
    have := outside.1
    omega
  · rw [source?, if_neg]
    rintro ⟨low, high, -⟩
    have := outside.2
    omega

end CaseRun

theorem CodeRanges.contains_succ {ranges : CodeRanges} {code : Nat}
    (outside : code + 1 ∉ ranges.flatMap fun (first, last) => [first, last + 1]) :
    ranges.contains (code + 1) = ranges.contains code := by
  induction ranges with
  | nil => rfl
  | cons range rest ih =>
    obtain ⟨first, last⟩ := range
    simp only [List.flatMap_cons, List.mem_append, List.mem_cons, List.not_mem_nil, or_false, not_or] at outside
    obtain ⟨⟨notFirst, notLast⟩, restOutside⟩ := outside
    have below : code + 1 < first ↔ code < first := by omega
    have within : code + 1 ≤ last ↔ code ≤ last := by omega
    simp only [contains, below, within, ih restOutside]

namespace CharClass

/-- From one code to the next a class only changes at its bounds. -/
theorem containsCode_succ {members : CharClass} {code : Nat} (outside : code + 1 ∉ members.bounds) :
    members.containsCode (code + 1) = members.containsCode code := by
  induction members with
  | table members => exact CodeRanges.contains_succ outside
  | union left right leftIh rightIh | inter left right leftIh rightIh | diff left right leftIh rightIh
  | symmDiff left right leftIh rightIh =>
    obtain ⟨leftOutside, rightOutside⟩ := not_or.mp fun inside => outside (List.mem_append.mpr inside)
    simp only [containsCode, leftIh leftOutside, rightIh rightOutside]
  | compl inner ih | bytes inner ih => simp only [containsCode, ih outside]
  | caseless inner ih =>
    obtain ⟨innerOutside, uncased⟩ := not_or.mp fun inside => outside (List.mem_append.mpr inside)
    have alone {near : Nat} (place : near = code ∨ near = code + 1) : caseVariants near = [near] :=
      caseVariants_of_uncased fun run member =>
        CaseRun.uncased_of_notMem_bounds (fun inside => uncased (List.mem_flatMap.mpr ⟨run, member, inside⟩)) place
    simp only [containsCode, alone (.inl rfl), alone (.inr rfl), List.any_cons, List.any_nil, ih innerOutside]
  | asciiCaseless inner ih =>
    obtain ⟨innerOutside, notLetter⟩ := not_or.mp fun inside => outside (List.mem_append.mpr inside)
    have alone {near : Nat} (place : near = code ∨ near = code + 1) : otherAsciiCase near = near := by
      simp only [List.mem_range'_1, not_and, Nat.not_lt] at notLetter
      rw [otherAsciiCase, if_neg (by omega), if_neg (by omega)]
    simp only [containsCode, alone (.inl rfl), alone (.inr rfl), ih innerOutside]

theorem mem_charsAt {bounds : List Nat} {char : Char}
    (known : char.toNat = 0 ∨ char.toNat = 0xE000 ∨ char.toNat ∈ bounds) : char ∈ charsAt bounds :=
  List.mem_filterMap.mpr ⟨char.toNat, by simpa using known, Text.charOf?_toNat char⟩

variable {left right : CharClass}

theorem contains_eq_of_same (known : left.same right = true) (char : Char) :
    left.contains char = right.contains char := by
  have agree {char : Char} (place : char.toNat = 0 ∨ char.toNat = 0xE000 ∨ char.toNat ∈ left.bounds ++ right.bounds) :
      left.containsCode char.toNat = right.containsCode char.toNat :=
    eq_of_beq (List.all_eq_true.mp known char (mem_charsAt place))
  -- The characters that are left to look at come right behind another character, which is no bound's.
  have upTo (code : Nat) : ∀ char : Char, char.toNat = code → left.containsCode code = right.containsCode code := by
    induction code with
    | zero => exact fun char first => first ▸ agree (.inl first)
    | succ code ih =>
      intro char here
      by_cases place : code + 1 = 0xE000 ∨ code + 1 ∈ left.bounds ++ right.bounds
      · exact here ▸ agree (.inr (here ▸ place))
      · obtain ⟨notGap, outside⟩ := not_or.mp place
        obtain ⟨leftOutside, rightOutside⟩ := not_or.mp fun inside => outside (List.mem_append.mpr inside)
        have valid : code.isValidChar := by
          have := char.valid
          have : char.toNat.isValidChar := this
          rw [here] at this
          unfold Nat.isValidChar at this ⊢
          omega
        rw [containsCode_succ leftOutside, containsCode_succ rightOutside]
        exact ih (Char.ofNatAux code valid) rfl
  exact upTo char.toNat char rfl

theorem same_iff : left.same right = true ↔ ∀ char, left.contains char = right.contains char :=
  ⟨contains_eq_of_same, fun agree => List.all_eq_true.mpr fun char _ => beq_iff_eq.mpr (agree char)⟩

variable {members : CharClass}

theorem contains_of_first? {char : Char} (known : members.first? = some char) : members.contains char = true :=
  List.find?_some known

theorem isNone_first?_iff : members.first?.isNone = true ↔ ∀ char, members.contains char = false := by
  simp only [Option.isNone_iff_eq_none, first?, List.find?_eq_none, Bool.not_eq_true]
  refine ⟨fun nowhere => ?_, fun empty char _ => empty char⟩
  have empty : members.same .none = true := by
    refine List.all_eq_true.mpr fun char place => beq_iff_eq.mpr ((nowhere char ?_).trans rfl)
    simpa [bounds, CharClass.none] using place
  exact fun char => (contains_eq_of_same empty char).trans rfl

theorem isSingle_iff : members.isSingle = true ↔ ∃ only, ∀ char, members.contains char = true ↔ char = only := by
  rw [isSingle, Option.any_eq_true]
  constructor
  · rintro ⟨first, -, known⟩
    exact ⟨first, fun char => by rw [contains_eq_of_same known, contains_single]⟩
  · rintro ⟨only, known⟩
    cases found : members.first? with
    | none =>
      have outside := isNone_first?_iff.mp (Option.isNone_iff_eq_none.mpr found) only
      rw [(known only).mpr rfl] at outside
      cases outside
    | some first =>
      obtain rfl := (known first).mp (contains_of_first? found)
      refine ⟨first, rfl, same_iff.mpr fun char => Bool.eq_iff_iff.mpr ?_⟩
      rw [known char, contains_single]

end CharClass

end Highlighter.Unicode
