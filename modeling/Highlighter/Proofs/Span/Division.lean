import Highlighter.Proofs.Span.Contiguous
import Highlighter.Proofs.Span.Taken
import Mathlib.Data.List.Chain

/-!
The division of a line. Where what is taken comes from left to right, the spans follow one another without a gap from
the first byte of the line to the last one; those of a kind other than plain text are the stretches that were taken,
each of them whole.
-/

namespace Highlighter

def Taken.Between (first last : Nat) : List Taken → Prop
  | [] => first ≤ last
  | item :: rest => first ≤ item.interval.start ∧ Between item.interval.stop last rest

namespace Taken

theorem between_of_leftToRight {first last : Nat} {taken : List Taken} (ordered : LeftToRight taken)
    (bounds : first ≤ last) (inside : ∀ item ∈ taken, first ≤ item.interval.start ∧ item.interval.stop ≤ last) :
    Between first last taken := by
  induction taken generalizing first with
  | nil => exact bounds
  | cons item rest ih =>
    obtain ⟨behind, restOrdered⟩ := List.pairwise_cons.mp ordered
    obtain ⟨itemStart, itemStop⟩ := inside item (List.mem_cons_self ..)
    exact ⟨itemStart, ih restOrdered itemStop fun other member =>
      ⟨behind other member, (inside other (List.mem_cons_of_mem _ member)).2⟩⟩

theorem Between.le {first last : Nat} {taken : List Taken} (within : Between first last taken) :
    first ≤ last := by
  induction taken generalizing first with
  | nil => exact within
  | cons item rest ih =>
    have bound := ih within.2
    have nonempty := item.interval.start_lt_stop
    have start := within.1
    omega

end Taken

namespace Span

def between (chars : List Char) (first last : Nat) (kind : TokenKind) : Span where
  text := .ofList ((chars.take last).drop first)
  kind := kind
  start := utf8Length (chars.take first)

theorem stop_between (chars : List Char) {first last : Nat} (kind : TokenKind) (ordered : first ≤ last) :
    (between chars first last kind).stop = utf8Length (chars.take last) := by
  simp only [stop, between, String.toList_ofList]
  exact (utf8Length_take_add chars ordered).symm

theorem text_between_ne {chars : List Char} {first last : Nat} {kind : TokenKind} (nonempty : first < last)
    (inside : last ≤ chars.length) : (between chars first last kind).text ≠ "" := by
  intro empty
  have count := congrArg (fun text : String => text.toList.length) empty
  simp only [between, String.toList_ofList, List.length_drop, List.length_take, String.toList_empty,
    List.length_nil] at count
  omega

def gap (chars : List Char) (first last : Nat) : List Span :=
  if first < last then [between chars first last .plain] else []

/-- The division of a text from one of its characters on. -/
def divideFrom (chars : List Char) (index : Nat) (taken : List Taken) : List Span :=
  divide index (utf8Length (chars.take index)) (chars.drop index) taken

theorem ofText_eq (chars : List Char) (first : Nat) {last : Nat} (kind : TokenKind) (inside : last ≤ chars.length) :
    ofText ((chars.take last).drop first) kind (utf8Length (chars.take first)) =
      if first < last then [between chars first last kind] else [] := by
  have empty : ((chars.take last).drop first).isEmpty = true ↔ ¬first < last := by
    rw [List.isEmpty_iff, List.drop_eq_nil_iff, List.length_take]
    omega
  by_cases ordered : first < last
  · simp [ofText, between, ordered, empty]
  · simp [ofText, ordered, empty]

theorem divideFrom_nil (chars : List Char) (index : Nat) :
    divideFrom chars index [] = gap chars index chars.length := by
  have same := ofText_eq chars index .plain (Nat.le_refl chars.length)
  rwa [List.take_length] at same

theorem divideFrom_cons {chars : List Char} {index : Nat} {item : Taken} {rest : List Taken}
    (within : Taken.Between index chars.length (item :: rest)) :
    divideFrom chars index (item :: rest) =
      gap chars index item.interval.start ++
        between chars item.interval.start item.interval.stop item.kind ::
          divideFrom chars item.interval.stop rest := by
  obtain ⟨start, behind⟩ := within
  have nonempty := item.interval.start_lt_stop
  have inside := behind.le
  have before : (chars.drop index).take (item.interval.start - index) =
      (chars.take item.interval.start).drop index := List.take_drop .. |>.trans (by congr; omega)
  have text : (chars.drop item.interval.start).take (item.interval.stop - item.interval.start) =
      (chars.take item.interval.stop).drop item.interval.start := List.take_drop .. |>.trans (by congr; omega)
  have behindGap : (chars.drop index).drop (item.interval.start - index) = chars.drop item.interval.start := by
    rw [List.drop_drop]
    congr
    omega
  have behindItem : (chars.drop item.interval.start).drop (item.interval.stop - item.interval.start) =
      chars.drop item.interval.stop := by
    rw [List.drop_drop]
    congr
    omega
  simp only [divideFrom, divide, List.splitAt_eq, before, text, behindGap, behindItem,
    ← utf8Length_take_add chars start, ← utf8Length_take_add chars (Nat.le_of_lt nonempty)]
  rw [ofText_eq chars index .plain (by omega), ofText_eq chars item.interval.start item.kind inside,
    if_pos nonempty, gap]
  simp

theorem contiguous_gap (chars : List Char) {first last : Nat} (ordered : first ≤ last) :
    Contiguous (utf8Length (chars.take first)) (utf8Length (chars.take last)) (gap chars first last) := by
  unfold gap
  split
  · exact ⟨rfl, stop_between chars .plain ordered⟩
  · have same : first = last := by omega
    subst same
    rfl

theorem contiguous_divideFrom {chars : List Char} {index : Nat} {taken : List Taken}
    (within : Taken.Between index chars.length taken) :
    Contiguous (utf8Length (chars.take index)) (utf8Length chars) (divideFrom chars index taken) := by
  induction taken generalizing index with
  | nil =>
    rw [divideFrom_nil]
    simpa using contiguous_gap chars within
  | cons item rest ih =>
    rw [divideFrom_cons within]
    have nonempty := item.interval.start_lt_stop
    refine (contiguous_gap chars within.1).append ⟨rfl, ?_⟩
    rw [stop_between chars item.kind (Nat.le_of_lt nonempty)]
    exact ih within.2

theorem flatMap_text_gap (chars : List Char) (first last : Nat) :
    (gap chars first last).flatMap (·.text.toList) = (chars.take last).drop first := by
  unfold gap
  split
  next => simp [between]
  next reversed =>
    symm
    simp only [List.flatMap_nil, List.drop_eq_nil_iff, List.length_take]
    omega

private theorem drop_take_append_drop {chars : List Char} {first last : Nat} (ordered : first ≤ last)
    (inside : last ≤ chars.length) : (chars.take last).drop first ++ chars.drop last = chars.drop first := by
  conv_rhs => rw [← List.take_append_drop last chars]
  rw [List.drop_append_of_le_length]
  rw [List.length_take]
  omega

theorem flatMap_text_divideFrom {chars : List Char} {index : Nat} {taken : List Taken}
    (within : Taken.Between index chars.length taken) :
    (divideFrom chars index taken).flatMap (·.text.toList) = chars.drop index := by
  induction taken generalizing index with
  | nil => rw [divideFrom_nil, flatMap_text_gap, List.take_length]
  | cons item rest ih =>
    have nonempty := item.interval.start_lt_stop
    have inside := within.2.le
    rw [divideFrom_cons within, List.flatMap_append, List.flatMap_cons, flatMap_text_gap, ih within.2]
    simp only [between, String.toList_ofList]
    rw [drop_take_append_drop (Nat.le_of_lt nonempty) inside, drop_take_append_drop within.1 (by omega)]

theorem mem_gap {chars : List Char} {first last : Nat} {span : Span} (member : span ∈ gap chars first last) :
    first < last ∧ span = between chars first last .plain := by
  unfold gap at member
  split at member
  next ordered => exact ⟨ordered, List.mem_singleton.mp member⟩
  next => cases member

def ofTaken (chars : List Char) (item : Taken) : Span :=
  between chars item.interval.start item.interval.stop item.kind

/-- The spans of a division are plain text or stretches that were taken, and no such stretch is missing. -/
theorem mem_divideFrom {chars : List Char} {index : Nat} {taken : List Taken}
    (within : Taken.Between index chars.length taken) :
    (∀ item ∈ taken, ofTaken chars item ∈ divideFrom chars index taken) ∧
      ∀ span ∈ divideFrom chars index taken, span.text ≠ "" ∧
        (span.kind = .plain ∨ ∃ item ∈ taken, span = ofTaken chars item) := by
  have plainGap {first last : Nat} (inside : last ≤ chars.length) :
      ∀ span ∈ gap chars first last, span.text ≠ "" ∧ span.kind = .plain := by
    intro span member
    obtain ⟨ordered, rfl⟩ := mem_gap member
    exact ⟨text_between_ne ordered inside, rfl⟩
  induction taken generalizing index with
  | nil =>
    rw [divideFrom_nil]
    refine ⟨by simp, fun span member => ?_⟩
    have plain := plainGap (Nat.le_refl _) span member
    exact ⟨plain.1, .inl plain.2⟩
  | cons item rest ih =>
    obtain ⟨restKept, restSpans⟩ := ih within.2
    have nonempty := item.interval.start_lt_stop
    have inside := within.2.le
    rw [divideFrom_cons within]
    constructor
    · intro other member
      rcases List.mem_cons.mp member with rfl | later
      · exact List.mem_append_right _ (List.mem_cons_self ..)
      · exact List.mem_append_right _ (List.mem_cons_of_mem _ (restKept other later))
    · intro span member
      rcases List.mem_append.mp member with before | behind
      · have plain := plainGap (by omega) span before
        exact ⟨plain.1, .inl plain.2⟩
      · rcases List.mem_cons.mp behind with rfl | later
        · exact ⟨text_between_ne nonempty inside, .inr ⟨item, List.mem_cons_self .., rfl⟩⟩
        · obtain ⟨text, known⟩ := restSpans span later
          exact ⟨text, known.imp id fun ⟨other, member, same⟩ => ⟨other, List.mem_cons_of_mem _ member, same⟩⟩

theorem isChain_kind_divideFrom {chars : List Char} {index : Nat} {taken : List Taken}
    (within : Taken.Between index chars.length taken) (kinds : ∀ item ∈ taken, item.kind ≠ .plain) :
    (divideFrom chars index taken).IsChain fun left right => left.kind = .plain → right.kind ≠ .plain := by
  induction taken generalizing index with
  | nil =>
    rw [divideFrom_nil, gap]
    split
    · exact .singleton _
    · exact .nil
  | cons item rest ih =>
    have later := ih within.2 fun other member => kinds other (List.mem_cons_of_mem _ member)
    have itemKind := kinds item (List.mem_cons_self ..)
    have tail : (between chars item.interval.start item.interval.stop item.kind ::
        divideFrom chars item.interval.stop rest).IsChain
          fun left right => left.kind = .plain → right.kind ≠ .plain := by
      cases spans : divideFrom chars item.interval.stop rest with
      | nil => exact .singleton _
      | cons span spans' => exact .cons_cons (fun plain => absurd plain itemKind) (spans ▸ later)
    rw [divideFrom_cons within, gap]
    split
    · exact .cons_cons (fun _ => itemKind) tail
    · exact tail

theorem ofLine_eq (rules : List Rule) (line : String) :
    ofLine rules line = divideFrom line.toList 0 (Taken.sorted (Taken.ofRules rules line.toList)) := by
  simp [ofLine, divideFrom]

end Span

theorem Taken.between_sorted (rules : List Rule) (chars : List Char) :
    Between 0 chars.length (sorted (ofRules rules chars)) := by
  have valid := valid_ofRules rules chars
  refine between_of_leftToRight (leftToRight_sorted valid) (Nat.zero_le _) ?_
  intro item member
  exact ⟨Nat.zero_le _, valid.inside item ((sorted_perm _).mem_iff.mp member)⟩

end Highlighter
