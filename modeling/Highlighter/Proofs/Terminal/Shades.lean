import Highlighter.Proofs.Text.Digits
import Highlighter.Terminal.Color

/-!
Colors by the names of families and shades. A family that has a light and a dark color is dark in the shades from five
hundred on, but not in those past the largest number of two bytes: these count as no shade.
-/

namespace Highlighter.TerminalColor

/-- A part that the name of a color may begin with, unless the name is one of three channels. -/
structure IsFirstPart (part : String) : Prop where
  nonempty : part ≠ ""
  noHyphen : '-' ∉ part.toList
  noSign : part.toList.head? ≠ some '#'

instance (part : String) : Decidable (IsFirstPart part) :=
  decidable_of_iff (part ≠ "" ∧ '-' ∉ part.toList ∧ part.toList.head? ≠ some '#')
    ⟨fun ⟨nonempty, noHyphen, noSign⟩ => ⟨nonempty, noHyphen, noSign⟩,
      fun ⟨nonempty, noHyphen, noSign⟩ => ⟨nonempty, noHyphen, noSign⟩⟩

theorem ofId?_intercalate {first : String} (part : IsFirstPart first) {rest : List String}
    (free : ∀ behind ∈ rest, '-' ∉ behind.toList) :
    ofId? ("-".intercalate (first :: rest)) = ofParts? (first :: rest) := by
  have split : ("-".intercalate (first :: rest)).toList.splitOn '-' = (first :: rest).map String.toList := by
    rw [String.toList_intercalate]
    exact List.splitOn_intercalate '-' (by simpa using ⟨part.noHyphen, free⟩) (by simp)
  have head : ("-".intercalate (first :: rest)).toList.head? = first.toList.head? := by
    obtain ⟨char, chars, same⟩ := List.exists_cons_of_ne_nil (by simpa using part.nonempty : first.toList ≠ [])
    rw [String.toList_intercalate]
    cases rest <;> simp [same]
  have noSign := part.noSign
  rw [← head] at noSign
  unfold ofId?
  split
  next chars text =>
    rw [text] at noSign
    exact absurd rfl noSign
  next =>
    have same : String.ofList ∘ String.toList = id := funext fun part => String.ofList_toList
    rw [split, List.map_map, same, List.map_id]

section Families

variable {family : String}

theorem isFirstPart_of_known {colors : TerminalColor × TerminalColor} (known : family? family = some colors) :
    IsFirstPart family ∧ ¬ (family = "text" ∨ family = "bg") := by
  have each : ∀ entry ∈ families, ∀ name ∈ entry.1, IsFirstPart name ∧ ¬ (name = "text" ∨ name = "bg") := by decide
  obtain ⟨entry, found, -⟩ := Option.map_eq_some_iff.mp known
  have named := List.find?_some found
  exact each entry (List.mem_of_find?_eq_some found) family (List.contains_iff_mem.mp named)

def frontParts : List (List String) := [[], ["text"], ["bg"]]

/-- A family is read together with the part behind it, whatever stands in front of it. -/
theorem ofId?_family (part : IsFirstPart family) (noFront : ¬ (family = "text" ∨ family = "bg")) {rest : List String}
    (free : ∀ behind ∈ rest, '-' ∉ behind.toList) :
    ∀ before ∈ frontParts, ofId? ("-".intercalate (before ++ family :: rest)) = ofFamily? family rest.head? := by
  have behind : ∀ part ∈ family :: rest, '-' ∉ part.toList := List.forall_mem_cons.mpr ⟨part.noHyphen, free⟩
  simp only [frontParts, List.mem_cons, List.not_mem_nil, or_false]
  rintro before (rfl | rfl | rfl)
  · exact (ofId?_intercalate part free).trans (if_neg noFront)
  · exact ofId?_intercalate (by decide : IsFirstPart "text") behind
  · exact ofId?_intercalate (by decide : IsFirstPart "bg") behind

def fronts : List String := ["", "text-", "bg-"]

theorem ofId?_front {front : String} (known : front ∈ fronts) (part : IsFirstPart family)
    (noFront : ¬ (family = "text" ∨ family = "bg")) :
    ofId? (front ++ family) = ofFamily? family none ∧
      ∀ shade : String, '-' ∉ shade.toList →
        ofId? (front ++ family ++ "-" ++ shade) = ofFamily? family (some shade) := by
  obtain ⟨before, among, unshaded, shaded⟩ : ∃ before ∈ frontParts,
      front ++ family = "-".intercalate (before ++ [family]) ∧
        ∀ shade, front ++ family ++ "-" ++ shade = "-".intercalate (before ++ [family, shade]) := by
    simp only [fronts, List.mem_cons, List.not_mem_nil, or_false] at known
    rcases known with rfl | rfl | rfl
    · exact ⟨[], by simp [frontParts]⟩
    · exact ⟨["text"], by simp [frontParts, ← String.toList_inj]⟩
    · exact ⟨["bg"], by simp [frontParts, ← String.toList_inj]⟩
  constructor
  · rw [unshaded]
    exact ofId?_family part noFront (by simp) before among
  · intro shade free
    rw [shaded]
    exact ofId?_family part noFront (by simpa using free) before among

variable {light dark : TerminalColor}

theorem ofFamily?_unshaded (known : family? family = some (light, dark)) : ofFamily? family none = some light := by
  unfold ofFamily?
  rw [known]
  rfl

theorem ofFamily?_shaded (known : family? family = some (light, dark)) (shade : Nat) :
    ofFamily? family (some (toString shade)) = some (if 500 ≤ shade ∧ shade ≤ 65535 then dark else light) := by
  have number : shade? (toString shade) = if shade ≤ 65535 then some shade else none :=
    Text.unsigned?_toString shadeLimit shade
  unfold ofFamily?
  rw [known, Option.map_some, Option.bind_some, number]
  by_cases small : shade ≤ 65535
  · rw [if_pos small]
    change some (if 500 ≤ shade then dark else light) = _
    simp only [small, and_true]
  · rw [if_neg small, if_neg (by omega)]

end Families

/-- A family is dark in a shade from five hundred on and light in any other one, and without a shade it is light. It
does not matter what stands in front of its name. -/
def IsShaded (family : String) (light dark : TerminalColor) (shade : Nat) : Prop :=
  ∀ front ∈ fronts, ofId? (front ++ family) = some light ∧
    ofId? (front ++ family ++ "-" ++ toString shade) = some (if 500 ≤ shade then dark else light)

/-- A shade is dark from five hundred on, up to the largest number of two bytes. -/
theorem isShaded_iff_le {family : String} {light dark : TerminalColor} (known : family? family = some (light, dark))
    (two : light ≠ dark) (shade : Nat) :
    (∀ front ∈ fronts, ofId? (front ++ family) = some light ∧
      ofId? (front ++ family ++ "-" ++ toString shade) =
        some (if 500 ≤ shade ∧ shade ≤ 65535 then dark else light)) ∧
      (IsShaded family light dark shade ↔ shade ≤ 65535) := by
  have read : ∀ front ∈ fronts, ofId? (front ++ family) = some light ∧
      ofId? (front ++ family ++ "-" ++ toString shade) =
        some (if 500 ≤ shade ∧ shade ≤ 65535 then dark else light) := by
    intro front among
    obtain ⟨part, noFront⟩ := isFirstPart_of_known known
    obtain ⟨unshaded, shaded⟩ := ofId?_front among part noFront
    rw [unshaded, shaded _ (Text.not_mem_toString (by decide) shade), ofFamily?_unshaded known,
      ofFamily?_shaded known]
    exact ⟨rfl, rfl⟩
  refine ⟨read, fun shaded => ?_, fun small front among => ?_⟩
  · by_contra large
    have lightShade := (read "" List.mem_cons_self).2
    have darkShade := (shaded "" List.mem_cons_self).2
    rw [if_neg (by omega)] at lightShade
    rw [if_pos (by omega), lightShade] at darkShade
    exact two (Option.some.inj darkShade)
  · obtain ⟨unshaded, shaded⟩ := read front among
    simp only [small, and_true] at shaded
    exact ⟨unshaded, shaded⟩

/-- Rose is dark in the shade 900. -/
theorem isShaded_iff_le_rose :
    family? "rose" = some (red, darkRed) ∧ red ≠ darkRed ∧ IsShaded "rose" red darkRed 900 := by
  have known : family? "rose" = some (red, darkRed) := by decide
  exact ⟨known, by decide, (isShaded_iff_le known (by decide) 900).2.mpr (by decide)⟩

/-- In a shade past the limit a family is light. -/
theorem exists_light_shade :
    ¬ ∀ family light dark, family? family = some (light, dark) → light ≠ dark →
      ∀ shade, IsShaded family light dark shade := by
  intro dark
  have shaded := dark "red" red darkRed (by decide) (by decide) 65536
  have isDark := (shaded "" List.mem_cons_self).2
  exact absurd isDark (by decide +kernel)

end Highlighter.TerminalColor
