import Highlighter.Proofs.Text.Digits
import Highlighter.Text.Quoted
import Mathlib.Data.List.TakeDrop

/-!
Reading quoted text. What stands between quotes, with its escapes undone, is the text that was quoted. Quoted text
holds neither tabs nor line feeds, whatever was quoted.
-/

namespace Highlighter.Text

def letterEscape? : Char → Option Char
  | '0' => some '\x00'
  | 't' => some '\t'
  | 'r' => some '\r'
  | 'n' => some '\n'
  | '\\' => some '\\'
  | '"' => some '"'
  | _ => none

def readCode? : List Char → Option (Char × List Char)
  | '\x7b' :: rest =>
    match rest.span (· ≠ '\x7d') with
    | (digits, '\x7d' :: rest) => ((number? 16 digits).bind charOf?).map fun char => (char, rest)
    | _ => none
  | _ => none

def readEscape? : List Char → Option (Char × List Char)
  | [] => none
  | letter :: rest => if letter = 'u' then readCode? rest else (letterEscape? letter).map fun char => (char, rest)

def readChar? : List Char → Option (Char × List Char)
  | [] => none
  | char :: rest => if char = '\\' then readEscape? rest else some (char, rest)

theorem length_of_readCode? {text rest : List Char} {char : Char} (read : readCode? text = some (char, rest)) :
    rest.length < text.length := by
  unfold readCode? at read
  split at read
  next behind =>
    split at read
    next digits after spanned =>
      rw [List.span_eq_takeWhile_dropWhile, Prod.mk.injEq] at spanned
      have shorter := (List.dropWhile_sublist (· ≠ '\x7d') (l := behind)).length_le
      rw [spanned.2, List.length_cons] at shorter
      obtain ⟨_, _, same⟩ := Option.map_eq_some_iff.mp read
      rw [← (Prod.mk.inj same).2, List.length_cons]
      omega
    next => cases read
  next => cases read

theorem length_of_readEscape? {text rest : List Char} {char : Char} (read : readEscape? text = some (char, rest)) :
    rest.length < text.length := by
  cases text with
  | nil => cases read
  | cons letter behind =>
    rw [readEscape?] at read
    split at read
    next =>
      have shorter := length_of_readCode? read
      rw [List.length_cons]
      omega
    next =>
      obtain ⟨_, _, same⟩ := Option.map_eq_some_iff.mp read
      rw [← (Prod.mk.inj same).2]
      exact Nat.lt_succ_self _

theorem length_of_readChar? {text rest : List Char} {char : Char} (read : readChar? text = some (char, rest)) :
    rest.length < text.length := by
  cases text with
  | nil => cases read
  | cons first behind =>
    rw [readChar?] at read
    split at read
    next =>
      have shorter := length_of_readEscape? read
      rw [List.length_cons]
      omega
    next =>
      rw [← (Prod.mk.inj (Option.some.inj read)).2]
      exact Nat.lt_succ_self _

def unescape? (text : List Char) : Option (List Char) :=
  match _read : readChar? text with
  | some (char, rest) => (unescape? rest).map (char :: ·)
  | none => if text.isEmpty then some [] else none
termination_by text.length
decreasing_by exact length_of_readChar? _read

def unquoted? : List Char → Option (List Char)
  | '"' :: rest => if rest.getLast? = some '"' then unescape? rest.dropLast else none
  | _ => none

theorem escapeChar_cases (char : Char) :
    (∃ letter, escapeChar char = ['\\', letter] ∧ letterEscape? letter = some char) ∨
      escapeChar char = ['\\', 'u', '\x7b'] ++ hexDigits char.toNat ++ ['\x7d'] ∨
      escapeChar char = [char] ∧ char ∉ ['\\', '"', '\t', '\n'] := by
  by_cases zero : char = '\x00'
  · exact .inl ⟨'0', by rw [escapeChar, if_pos zero], by rw [zero]; rfl⟩
  by_cases tab : char = '\t'
  · exact .inl ⟨'t', by rw [escapeChar, if_neg zero, if_pos tab], by rw [tab]; rfl⟩
  by_cases back : char = '\r'
  · exact .inl ⟨'r', by rw [escapeChar, if_neg zero, if_neg tab, if_pos back], by rw [back]; rfl⟩
  by_cases feed : char = '\n'
  · exact .inl ⟨'n', by rw [escapeChar, if_neg zero, if_neg tab, if_neg back, if_pos feed], by rw [feed]; rfl⟩
  by_cases marked : char = '\\' ∨ char = '"'
  · refine .inl ⟨char, ?_, by rcases marked with rfl | rfl <;> rfl⟩
    rw [escapeChar, if_neg zero, if_neg tab, if_neg back, if_neg feed, if_pos marked]
  have written : escapeChar char =
      if hidden.contains char then ['\\', 'u', '\x7b'] ++ hexDigits char.toNat ++ ['\x7d'] else [char] := by
    rw [escapeChar, if_neg zero, if_neg tab, if_neg back, if_neg feed, if_neg marked]
  cases hides : hidden.contains char with
  | true => exact .inr (.inl (by rw [written, if_pos hides]))
  | false => exact .inr (.inr ⟨by rw [written, if_neg (by simp [hides])], by simp_all⟩)

theorem readCode?_hexDigits (char : Char) (rest : List Char) :
    readCode? ('\x7b' :: (hexDigits char.toNat ++ '\x7d' :: rest)) = some (char, rest) := by
  have digits : ∀ digit ∈ hexDigits char.toNat, decide (digit ≠ '\x7d') = true := by
    intro digit member
    have other : '\x7d' ∉ hexDigits char.toNat := not_mem_toDigits (by decide) (by decide) (by decide) _
    exact decide_eq_true fun same => other (same ▸ member)
  have spanned : (hexDigits char.toNat ++ '\x7d' :: rest).span (· ≠ '\x7d') =
      (hexDigits char.toNat, '\x7d' :: rest) := by
    rw [List.span_eq_takeWhile_dropWhile, List.takeWhile_append_of_pos digits, List.dropWhile_append_of_pos digits]
    simp
  have value : number? 16 (hexDigits char.toNat) = some char.toNat := number?_toDigits (by decide) (by decide) _
  rw [readCode?, spanned]
  simp [value, charOf?_toNat]

theorem readChar?_escapeChar (char : Char) (rest : List Char) :
    readChar? (escapeChar char ++ rest) = some (char, rest) := by
  rcases escapeChar_cases char with ⟨letter, written, known⟩ | written | ⟨written, ordinary⟩
  · have notCode : letter ≠ 'u' := by
      rintro rfl
      cases known
    rw [written, List.cons_append, List.cons_append, readChar?, if_pos rfl, readEscape?, if_neg notCode, known]
    rfl
  · have text : escapeChar char ++ rest =
        '\\' :: 'u' :: '\x7b' :: (hexDigits char.toNat ++ '\x7d' :: rest) := by
      simp [written]
    rw [text, readChar?, if_pos rfl, readEscape?, if_pos rfl, readCode?_hexDigits]
  · have unescaped : char ≠ '\\' := fun same => ordinary (same ▸ List.mem_cons_self)
    rw [written, List.singleton_append, readChar?, if_neg unescaped]

theorem unescape?_flatMap (text : List Char) : unescape? (text.flatMap escapeChar) = some text := by
  induction text with
  | nil =>
    rw [unescape?]
    rfl
  | cons char text ih =>
    rw [List.flatMap_cons, unescape?]
    split
    next other rest read =>
      rw [readChar?_escapeChar, Option.some.injEq, Prod.mk.injEq] at read
      rw [← read.1, ← read.2, ih]
      rfl
    next none => exact absurd ((readChar?_escapeChar char _).symm.trans none) (by simp)

theorem unquoted?_quoted (text : String) : unquoted? (quoted text).toList = some text.toList := by
  rw [quoted, String.toList_ofList, List.cons_append, unquoted?, if_pos (by simp), List.dropLast_concat,
    unescape?_flatMap]

theorem not_mem_escapeChar {mark : Char} (separates : mark = '\t' ∨ mark = '\n') (char : Char) :
    mark ∉ escapeChar char := by
  have unknown : letterEscape? mark = none := by rcases separates with rfl | rfl <;> rfl
  have noDigit : digitValue? 16 mark = none := by rcases separates with rfl | rfl <;> rfl
  have unused : mark ∉ ['\\', 'u', '\x7b', '\x7d'] := by rcases separates with rfl | rfl <;> decide
  rcases escapeChar_cases char with ⟨letter, written, known⟩ | written | ⟨written, ordinary⟩
  · have other : mark ≠ letter := by
      rintro rfl
      exact absurd (unknown.symm.trans known) (by simp)
    rw [written]
    simp_all
  · have digits : mark ∉ hexDigits char.toNat := not_mem_toDigits (by decide) (by decide) noDigit _
    rw [written]
    simp_all
  · rw [written, List.mem_singleton]
    rintro rfl
    rcases separates with rfl | rfl <;> simp at ordinary

theorem not_mem_quoted {mark : Char} (separates : mark = '\t' ∨ mark = '\n') (text : String) :
    mark ∉ (quoted text).toList := by
  have noQuote : mark ≠ '"' := by rcases separates with rfl | rfl <;> decide
  rw [quoted, String.toList_ofList]
  simp [noQuote, not_mem_escapeChar separates]

end Highlighter.Text
