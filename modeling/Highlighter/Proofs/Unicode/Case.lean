import Highlighter.Unicode.Case

/-! Letters that are in lower case already: texts of letters from a to z are their own lower-case form. -/

namespace Highlighter.Unicode

theorem CaseRun.target?_eq_none {run : CaseRun} {code : Nat} (outside : run.last < code ∨ code < run.first) :
    run.target? code = none := by
  unfold target?
  rw [if_neg]
  omega

theorem lowerRuns_apart : ∀ run ∈ Table.lowerRuns, run.last < 97 ∨ 122 < run.first := by
  decide +kernel

theorem lowercase_of_small {char : Char} (fromA : 97 ≤ char.toNat) (toZ : char.toNat ≤ 122) :
    lowercase char = [char] := by
  have noTarget : Table.lowerRuns.findSome? (·.target? char.toNat) = none := by
    rw [List.findSome?_eq_none_iff]
    intro run member
    have apart := lowerRuns_apart run member
    exact CaseRun.target?_eq_none (by omega)
  have noDot : char.toNat ≠ 0x130 := by omega
  rw [lowercase, if_neg noDot, noTarget]

theorem lowercaseBehind_of_small {text : List Char} (small : ∀ char ∈ text, 97 ≤ char.toNat ∧ char.toNat ≤ 122)
    (before : List Char) : lowercaseBehind before text = text := by
  induction text generalizing before with
  | nil => rfl
  | cons char rest ih =>
    obtain ⟨here, later⟩ := List.forall_mem_cons.mp small
    have noSigma : char.toNat ≠ 0x3A3 := by omega
    rw [lowercaseBehind, if_neg noSigma, lowercase_of_small here.1 here.2, ih later]
    rfl

theorem lowercaseText_of_small {text : String}
    (small : ∀ char ∈ text.toList, 97 ≤ char.toNat ∧ char.toNat ≤ 122) : lowercaseText text = text := by
  rw [lowercaseText, lowercaseBehind_of_small small, String.ofList_toList]

end Highlighter.Unicode
