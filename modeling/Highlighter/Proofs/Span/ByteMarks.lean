import Highlighter.Proofs.Span.Division
import Highlighter.Span.ByteMarks

/-!
Division by marks on bytes. After any rules the marks that are set are those of the bytes that the rules have taken,
so the division never leaves the line, never cuts a character apart, and gives the spans of the line, in whatever way
ranges are put in order by their starts.
-/

namespace Highlighter.ByteMarks

def Accepted.covers (item : Accepted) (byte : Nat) : Bool := item.start ≤ byte && byte < item.stop

def Accepted.ofTaken (chars : List Char) (item : Taken) : Accepted :=
  ⟨(item.interval.bytes chars).1, (item.interval.bytes chars).2, item.kind⟩

def State.ofTaken (line : String) (taken : List Taken) : State where
  marks := (List.range line.utf8ByteSize).map fun byte =>
    taken.any fun item => (Accepted.ofTaken line.toList item).covers byte
  accepted := (taken.map (Accepted.ofTaken line.toList)).reverse

theorem Accepted.covers_iff {item : Accepted} {byte : Nat} :
    item.covers byte = true ↔ item.start ≤ byte ∧ byte < item.stop := by
  simp [covers]

theorem State.getElem?_marks_ofTaken (line : String) (taken : List Taken) (byte : Nat) :
    (State.ofTaken line taken).marks[byte]? =
      if byte < line.utf8ByteSize then
        some (taken.any fun item => (Accepted.ofTaken line.toList item).covers byte)
      else none := by
  by_cases inside : byte < line.utf8ByteSize
  · simp [State.ofTaken, inside]
  · simp [State.ofTaken, inside]

@[simp]
theorem State.length_marks_ofTaken (line : String) (taken : List Taken) :
    (State.ofTaken line taken).marks.length = line.utf8ByteSize := by
  simp [State.ofTaken]

section Bounds

variable {line : String} {interval : Interval} (inside : interval.stop ≤ line.toList.length)
include inside

theorem bytes_lt : (interval.bytes line.toList).1 < (interval.bytes line.toList).2 :=
  utf8Length_take_lt line.toList interval.start_lt_stop inside

theorem bytes_le : (interval.bytes line.toList).2 ≤ line.utf8ByteSize := by
  have bound := utf8Length_take_le line.toList inside
  rwa [List.take_length, utf8Length_toList] at bound

theorem overlaps_iff_bytes {other : Interval} (otherInside : other.stop ≤ line.toList.length) :
    other.overlaps interval = true ↔
      ∃ byte, ((other.bytes line.toList).1 ≤ byte ∧ byte < (other.bytes line.toList).2) ∧
        (interval.bytes line.toList).1 ≤ byte ∧ byte < (interval.bytes line.toList).2 := by
  have nonempty := bytes_lt inside
  have otherNonempty := bytes_lt otherInside
  have leftFirst := utf8Length_take_lt_iff line.toList other.start interval.stop inside
  have rightFirst := utf8Length_take_lt_iff line.toList interval.start other.stop otherInside
  rw [Interval.overlaps_iff, ← leftFirst, ← rightFirst]
  simp only [Interval.bytes] at nonempty otherNonempty ⊢
  constructor
  · rintro ⟨left, right⟩
    exact ⟨max (utf8Length (line.toList.take other.start)) (utf8Length (line.toList.take interval.start)),
      by omega⟩
  · rintro ⟨byte, shared⟩
    omega

end Bounds

theorem State.marks_ofTaken_eq_true_iff {line : String} {taken : List Taken}
    (inside : ∀ item ∈ taken, item.interval.stop ≤ line.toList.length) {byte : Nat} :
    (State.ofTaken line taken).marks[byte]? = some true ↔
      ∃ item ∈ taken, (item.interval.bytes line.toList).1 ≤ byte ∧ byte < (item.interval.bytes line.toList).2 := by
  rw [getElem?_marks_ofTaken]
  constructor
  · intro marked
    split at marked
    next =>
      obtain ⟨item, member, covered⟩ := List.any_eq_true.mp (Option.some.inj marked)
      exact ⟨item, member, Accepted.covers_iff.mp covered⟩
    next => cases marked
  · rintro ⟨item, member, covered⟩
    have bound := bytes_le (inside item member)
    rw [if_pos (by omega), Option.some.injEq, List.any_eq_true]
    exact ⟨item, member, Accepted.covers_iff.mpr covered⟩

theorem any_read? {marks inside : List Bool} {start stop : Nat} (got : read? marks start stop = some inside) :
    inside.any id = true ↔ ∃ byte, (start ≤ byte ∧ byte < stop) ∧ marks[byte]? = some true := by
  unfold read? at got
  split at got
  next bounds =>
    cases got
    simp only [List.any_eq_true, id_eq, exists_eq_right, List.mem_iff_getElem?, List.getElem?_drop,
      List.getElem?_take]
    constructor
    · rintro ⟨offset, marked⟩
      split at marked
      next below => exact ⟨start + offset, ⟨by omega, below⟩, marked⟩
      next => cases marked
    · rintro ⟨byte, ⟨above, below⟩, marked⟩
      refine ⟨byte - start, ?_⟩
      rw [Nat.add_sub_cancel' above, if_pos below]
      exact marked
  next => cases got

theorem getElem?_set? {marks after : List Bool} {start stop : Nat} (got : set? marks start stop = some after)
    (byte : Nat) : after[byte]? = if start ≤ byte ∧ byte < stop then some true else marks[byte]? := by
  unfold set? at got
  split at got
  next bounds =>
    cases got
    simp only [List.append_assoc, List.getElem?_append, List.length_take, List.length_replicate,
      List.getElem?_take, List.getElem?_replicate, List.getElem?_drop]
    have front : min start marks.length = start := by omega
    rw [front]
    by_cases before : byte < start
    · simp [before, Nat.not_le.mpr before]
    · by_cases inside : byte < stop
      · have within : byte - start < stop - start := by omega
        simp [before, within, inside, Nat.not_lt.mp before]
      · have behind : ¬byte - start < stop - start := by omega
        have place : stop + (byte - start - (stop - start)) = byte := by omega
        simp [before, behind, inside, place]
  next => cases got

section Bounds

variable {line : String} {taken : List Taken} {interval : Interval} (inside : interval.stop ≤ line.toList.length)
include inside

private theorem bounds_ofTaken :
    (interval.bytes line.toList).1 ≤ (interval.bytes line.toList).2 ∧
      (interval.bytes line.toList).2 ≤ (State.ofTaken line taken).marks.length := by
  rw [State.length_marks_ofTaken]
  exact ⟨Nat.le_of_lt (bytes_lt inside), bytes_le inside⟩

theorem read?_ofTaken (takenInside : ∀ item ∈ taken, item.interval.stop ≤ line.toList.length) :
    ∃ marks, read? (State.ofTaken line taken).marks (interval.bytes line.toList).1
        (interval.bytes line.toList).2 = some marks ∧
      marks.any id = taken.any (·.interval.overlaps interval) := by
  obtain ⟨marks, got⟩ : ∃ marks, read? (State.ofTaken line taken).marks (interval.bytes line.toList).1
      (interval.bytes line.toList).2 = some marks := ⟨_, if_pos (bounds_ofTaken inside)⟩
  refine ⟨marks, got, ?_⟩
  rw [Bool.eq_iff_iff, any_read? got, List.any_eq_true]
  constructor
  · rintro ⟨byte, within, marked⟩
    obtain ⟨item, member, covered⟩ := (State.marks_ofTaken_eq_true_iff takenInside).mp marked
    exact ⟨item, member, (overlaps_iff_bytes inside (takenInside item member)).mpr ⟨byte, covered, within⟩⟩
  · rintro ⟨item, member, overlaps⟩
    obtain ⟨byte, covered, within⟩ := (overlaps_iff_bytes inside (takenInside item member)).mp overlaps
    exact ⟨byte, within, (State.marks_ofTaken_eq_true_iff takenInside).mpr ⟨item, member, covered⟩⟩

theorem set?_ofTaken (kind : TokenKind) :
    set? (State.ofTaken line taken).marks (interval.bytes line.toList).1 (interval.bytes line.toList).2 =
      some (State.ofTaken line (⟨interval, kind⟩ :: taken)).marks := by
  obtain ⟨after, got⟩ : ∃ after, set? (State.ofTaken line taken).marks (interval.bytes line.toList).1
      (interval.bytes line.toList).2 = some after := ⟨_, if_pos (bounds_ofTaken inside)⟩
  rw [got, Option.some.injEq]
  apply List.ext_getElem?
  intro byte
  have lineEnd := bytes_le inside
  rw [getElem?_set? got, State.getElem?_marks_ofTaken, State.getElem?_marks_ofTaken, List.any_cons]
  by_cases within : (interval.bytes line.toList).1 ≤ byte ∧ byte < (interval.bytes line.toList).2
  · have covered : (Accepted.ofTaken line.toList ⟨interval, kind⟩).covers byte = true :=
      Accepted.covers_iff.mpr within
    rw [if_pos within, if_pos (by omega), covered, Bool.true_or]
  · have missed : (Accepted.ofTaken line.toList ⟨interval, kind⟩).covers byte = false := by
      rw [← Bool.not_eq_true, Accepted.covers_iff]
      exact within
    rw [if_neg within, missed, Bool.false_or]

/-- One range is accepted exactly if its stretch is taken. -/
theorem add?_ofTaken (takenInside : ∀ item ∈ taken, item.interval.stop ≤ line.toList.length) (kind : TokenKind) :
    add? kind (State.ofTaken line taken) (interval.bytes line.toList) =
      some (State.ofTaken line (Taken.add kind taken interval)) := by
  obtain ⟨marks, got, met⟩ := read?_ofTaken inside takenInside
  unfold add?
  cases overlaps : taken.any (·.interval.overlaps interval) with
  | true =>
    rw [overlaps] at met
    simp only [got, met, Taken.add, overlaps, Option.bind_eq_bind, Option.bind_some, ↓reduceIte]
    rfl
  | false =>
    rw [overlaps] at met
    have accepted : (State.ofTaken line (⟨interval, kind⟩ :: taken)).accepted =
        (State.ofTaken line taken).accepted ++ [Accepted.ofTaken line.toList ⟨interval, kind⟩] := by
      simp [State.ofTaken]
    simp only [got, met, set?_ofTaken inside kind, Taken.add, overlaps, Option.bind_eq_bind, Option.bind_some,
      Bool.false_eq_true, ↓reduceIte]
    exact congrArg some (congrArg (State.mk _) accepted.symm)

end Bounds

theorem addRule?_ofTaken {line : String} {taken : List Taken} (valid : Taken.Valid line.toList.length taken)
    (rule : Rule) :
    addRule? line (State.ofTaken line taken) rule =
      some (State.ofTaken line (Taken.addRule line.toList taken rule)) := by
  suffices run : ∀ intervals : List Interval, (∀ interval ∈ intervals, interval.stop ≤ line.toList.length) →
      ∀ taken : List Taken, (∀ item ∈ taken, item.interval.stop ≤ line.toList.length) →
        (intervals.map (·.bytes line.toList)).foldlM (add? rule.kind) (State.ofTaken line taken) =
          some (State.ofTaken line (intervals.foldl (Taken.add rule.kind) taken)) from
    run _ (fun _ => Pattern.stop_le_of_mem_intervals) taken valid.inside
  intro intervals inside
  induction intervals with
  | nil => exact fun _ _ => rfl
  | cons interval rest ih =>
    intro taken takenInside
    have first := inside interval (List.mem_cons_self ..)
    rw [List.map_cons, List.foldlM_cons, add?_ofTaken first takenInside, List.foldl_cons]
    apply ih fun other member => inside other (List.mem_cons_of_mem _ member)
    intro item member
    unfold Taken.add at member
    split at member
    · exact takenInside item member
    · rcases List.mem_cons.mp member with rfl | earlier
      · exact first
      · exact takenInside item earlier

theorem ofRules?_eq (rules : List Rule) (line : String) :
    ofRules? rules line = some (State.ofTaken line (Taken.ofRules rules line.toList)) := by
  have start : (⟨List.replicate line.utf8ByteSize false, []⟩ : State) = State.ofTaken line [] := by
    simp [State.ofTaken, List.map_const']
  suffices run : ∀ taken, Taken.Valid line.toList.length taken →
      rules.foldlM (addRule? line) (State.ofTaken line taken) =
        some (State.ofTaken line (rules.foldl (Taken.addRule line.toList) taken)) by
    rw [ofRules?, start]
    exact run [] ⟨.nil, by simp, by simp⟩
  induction rules with
  | nil => exact fun _ _ => rfl
  | cons rule rest ih =>
    intro taken valid
    rw [List.foldlM_cons, addRule?_ofTaken valid]
    exact ih _ (Taken.valid_addRule valid rule)

theorem isValid_take (line : String) (count : Nat) :
    (String.Pos.Raw.mk (utf8Length (line.toList.take count))).IsValid line := by
  rw [String.Pos.Raw.isValid_iff_exists_take_toList]
  exact ⟨count, by rw [← utf8Length_toList, String.toList_ofList]⟩

theorem slice?_take (line : String) {first last : Nat} (ordered : first ≤ last) :
    slice? line (utf8Length (line.toList.take first)) (utf8Length (line.toList.take last)) =
      some (.ofList ((line.toList.take last).drop first)) := by
  have bounds := And.intro (utf8Length_take_le line.toList ordered)
    (And.intro (isValid_take line first) (isValid_take line last))
  have size (text : List Char) : utf8Length text = (String.ofList text).toByteArray.size := by
    rw [String.size_toByteArray, ← utf8Length_toList, String.toList_ofList]
  have parts : line.toByteArray = (String.ofList (line.toList.take first)).toByteArray ++
      ((String.ofList ((line.toList.take last).drop first)).toByteArray ++
        (String.ofList (line.toList.drop last)).toByteArray) := by
    have chars : line.toList = line.toList.take first ++
        ((line.toList.take last).drop first ++ line.toList.drop last) := by
      have front := List.take_append_drop first (line.toList.take last)
      rw [List.take_take, Nat.min_eq_left ordered] at front
      rw [← List.append_assoc, front, List.take_append_drop]
    rw [← String.toByteArray_append, ← String.toByteArray_append, ← String.ofList_append,
      ← String.ofList_append, ← chars, String.ofList_toList]
  rw [slice?, dif_pos bounds, Option.some.injEq, ← String.toByteArray_inj, String.toByteArray_extract]
  simp only [utf8Length_take_add line.toList ordered, size, parts]
  exact (ByteArray.extract_append_size_add (i := 0)).trans (ByteArray.extract_append_eq_left rfl)

theorem gap?_take (line : String) {first last : Nat} (ordered : first ≤ last) (inside : last ≤ line.toList.length) :
    gap? line (utf8Length (line.toList.take first)) (utf8Length (line.toList.take last)) =
      some (Span.gap line.toList first last) := by
  have nonempty := utf8Length_take_lt_iff line.toList first last inside
  unfold gap? Span.gap
  rw [slice?_take line ordered]
  by_cases less : first < last
  · rw [if_pos less, if_pos (nonempty.mpr less)]
    rfl
  · rw [if_neg less, if_neg (fun bytes => less (nonempty.mp bytes))]

theorem cut?_ofTaken {line : String} {index : Nat} {taken : List Taken}
    (within : Taken.Between index line.toList.length taken) :
    cut? line (utf8Length (line.toList.take index)) (taken.map (Accepted.ofTaken line.toList)) =
      some (Span.divideFrom line.toList index taken) := by
  induction taken generalizing index with
  | nil =>
    have gap := gap?_take line within (Nat.le_refl _)
    rw [List.take_length, utf8Length_toList] at gap
    rw [List.map_nil, cut?, gap, Span.divideFrom_nil]
  | cons item rest ih =>
    have nonempty := item.interval.start_lt_stop
    have inside := within.2.le
    have gap := gap?_take line within.1 (by omega)
    have text := slice?_take line (Nat.le_of_lt nonempty)
    have later := ih within.2
    rw [Span.divideFrom_cons within, List.map_cons, cut?]
    simp only [Accepted.ofTaken, Interval.bytes] at later ⊢
    simp only [gap, text, later, Option.bind_eq_bind, Option.bind_some, pure]
    rfl

/-- Ranges that have a byte each and share none. -/
structure Apart (accepted : List Accepted) : Prop where
  nonempty : ∀ item ∈ accepted, item.start < item.stop
  disjoint : accepted.Pairwise fun left right => left.stop ≤ right.start ∨ right.stop ≤ left.start

/-- Ranges that are apart have different starts, so there is one order by them. -/
theorem Apart.eq_of_starts {left right : List Accepted} (apart : Apart right) (same : left.Perm right)
    (leftStarts : left.Pairwise fun first second => first.start ≤ second.start)
    (rightStarts : right.Pairwise fun first second => first.start ≤ second.start) : left = right := by
  have rightDistinct : right.Pairwise fun first second => first.start ≠ second.start := by
    refine apart.disjoint.imp_of_mem ?_
    intro first second firstMember secondMember disjoint
    have firstNonempty := apart.nonempty first firstMember
    have secondNonempty := apart.nonempty second secondMember
    omega
  have leftDistinct := (same.pairwise_iff Ne.symm).mpr rightDistinct
  have leftBelow := leftDistinct.and leftStarts
  have rightBelow := rightDistinct.and rightStarts
  apply same.eq_of_pairwise _ leftBelow rightBelow
  intro first second _ _ before after
  omega

theorem apart_ofTaken {line : String} {taken : List Taken} (valid : Taken.Valid line.toList.length taken) :
    Apart (taken.map (Accepted.ofTaken line.toList)) where
  nonempty := by
    intro item member
    obtain ⟨stretch, inTaken, rfl⟩ := List.mem_map.mp member
    exact bytes_lt (valid.inside stretch inTaken)
  disjoint := by
    refine List.pairwise_map.mpr (valid.disjoint.imp fun disjoint => ?_)
    exact (Interval.overlaps_eq_false_iff.mp disjoint).imp (utf8Length_take_le _) (utf8Length_take_le _)

theorem arrange_ofTaken (order : StartOrder) {line : String} {taken : List Taken}
    (valid : Taken.Valid line.toList.length taken) :
    order.arrange (State.ofTaken line taken).accepted =
      (Taken.sorted taken).map (Accepted.ofTaken line.toList) := by
  have arranged : (order.arrange (State.ofTaken line taken).accepted).Perm
      (taken.map (Accepted.ofTaken line.toList)) := (order.perm _).trans (List.reverse_perm _)
  have sorted := (Taken.sorted_perm taken).map (Accepted.ofTaken line.toList)
  have apart := apart_ofTaken (Taken.valid_perm (Taken.sorted_perm taken) valid)
  apply apart.eq_of_starts (arranged.trans sorted.symm) (order.starts _)
  refine List.pairwise_map.mpr ((Taken.leftToRight_sorted valid).imp ?_)
  intro left right before
  have nonempty := left.interval.start_lt_stop
  exact utf8Length_take_le _ (by omega)

/-- Marks on bytes give the spans of a line and never fail. -/
theorem spans?_eq (order : StartOrder) (rules : List Rule) (line : String) :
    spans? order rules line = some (Span.ofLine rules line) := by
  unfold spans?
  split
  next empty =>
    rw [String.isEmpty_iff] at empty
    subst empty
    have within := Taken.between_sorted rules []
    rw [Span.ofLine_eq]
    cases sorted : Taken.sorted (Taken.ofRules rules []) with
    | nil => simp [sorted, Span.divideFrom_nil, Span.gap]
    | cons item rest =>
      -- No stretch has room in an empty line.
      rw [sorted] at within
      have bound := within.2.le
      have nonempty := item.interval.start_lt_stop
      simp only [List.length_nil] at bound
      omega
  next =>
    have cut := cut?_ofTaken (Taken.between_sorted rules line.toList)
    rw [List.take_zero, utf8Length_nil, ← Span.ofLine_eq] at cut
    simp only [ofRules?_eq, Option.bind_eq_bind, Option.bind_some,
      arrange_ofTaken order (Taken.valid_ofRules rules line.toList), cut]

end Highlighter.ByteMarks
