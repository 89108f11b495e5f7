import Highlighter.Proofs.Pattern.Way

/-!
Marks do no harm. Where no match lies behind a mark, to pass it a second time would be in vain; and where one does, it
is found the first time. So a machine finds what its way tells, as long as its marks differ and its loops read.
-/

namespace Highlighter.Pattern

namespace Attempt

/-- Among the marks of its own the attempt may have passed `dead` ones, behind which there is no match. It comes to the
result then, and if that is no match it has passed no marks but these. -/
def Gives (dead own : Nat → Prop) (attempt : Attempt) (result : Option Outcome) : Prop :=
  ∀ marks, (∀ mark ∈ marks, own mark → dead mark) →
    (attempt marks).1 = result ∧ (result = none → ∀ mark ∈ (attempt marks).2, mark ∈ marks ∨ own mark ∧ dead mark)

def settled (result : Option Outcome) : Attempt := fun marks => (result, marks)

variable {dead own firstOwn secondOwn : Nat → Prop} {attempt first second : Attempt}
  {result firstResult secondResult : Option Outcome}

theorem gives_settled (dead own : Nat → Prop) (result : Option Outcome) : (settled result).Gives dead own result :=
  fun _ _ => ⟨rfl, fun _ _ member => .inl member⟩

theorem Gives.outcome (gives : attempt.Gives dead own result) : attempt.outcome = result := (gives [] (by simp)).1

theorem Gives.mono (gives : attempt.Gives dead firstOwn result) (more : ∀ mark, firstOwn mark → own mark) :
    attempt.Gives dead own result := by
  intro marks harmless
  obtain ⟨same, passed⟩ := gives marks fun mark member owned => harmless mark member (more mark owned)
  exact ⟨same, fun failed mark member => (passed failed mark member).imp_right (And.imp_left (more mark))⟩

theorem Gives.map (gives : attempt.Gives dead own result) (change : Outcome → Outcome) :
    (attempt.map change).Gives dead own (result.map change) := by
  intro marks harmless
  obtain ⟨same, passed⟩ := gives marks harmless
  exact ⟨congrArg (Option.map change) same, fun failed => passed (Option.map_eq_none_iff.mp failed)⟩

theorem Gives.passing {mark : Nat} (gives : attempt.Gives dead own result) (isDead : dead mark ↔ result = none)
    (unowned : ¬ own mark) :
    (Attempt.passing mark attempt).Gives dead (fun other => other = mark ∨ own other) result := by
  intro marks harmless
  unfold Attempt.passing
  split
  next again =>
    have inMarks : mark ∈ marks := by simpa using again
    have failed := isDead.mp (harmless mark inMarks (.inl rfl))
    exact ⟨failed.symm, fun _ other member => .inl member⟩
  next =>
    obtain ⟨same, passed⟩ := gives (mark :: marks) fun other member owned => by
      rcases List.mem_cons.mp member with rfl | earlier
      · exact absurd owned unowned
      · exact harmless other earlier (.inr owned)
    refine ⟨same, fun failed other member => ?_⟩
    rcases passed failed other member with pushed | ⟨owned, isDead⟩
    · rcases List.mem_cons.mp pushed with rfl | earlier
      · exact .inr ⟨.inl rfl, isDead.mpr failed⟩
      · exact .inl earlier
    · exact .inr ⟨.inr owned, isDead⟩

theorem Gives.orElse (firstGives : first.Gives dead firstOwn firstResult)
    (secondGives : second.Gives dead secondOwn secondResult) :
    (first.orElse second).Gives dead (fun mark => firstOwn mark ∨ secondOwn mark) (firstResult <|> secondResult) := by
  intro marks harmless
  obtain ⟨firstSame, firstPassed⟩ := firstGives marks fun mark member owned => harmless mark member (.inl owned)
  simp only [Attempt.orElse]
  generalize first marks = attempted at firstSame firstPassed ⊢
  obtain ⟨reached, middle⟩ := attempted
  cases firstSame
  cases reached with
  | some outcome => exact ⟨rfl, fun failed => absurd failed (by simp)⟩
  | none =>
    have middleHarmless : ∀ mark ∈ middle, secondOwn mark → dead mark := by
      intro mark member owned
      rcases firstPassed rfl mark member with earlier | ⟨-, isDead⟩
      · exact harmless mark earlier (.inr owned)
      · exact isDead
    obtain ⟨secondSame, secondPassed⟩ := secondGives middle middleHarmless
    refine ⟨secondSame, fun failed mark member => ?_⟩
    rcases secondPassed failed mark member with inMiddle | ⟨owned, isDead⟩
    · exact (firstPassed rfl mark inMiddle).imp_right (And.imp_left .inl)
    · exact .inr ⟨.inr owned, isDead⟩

theorem Gives.again {mark : Nat} (firstGives : first.Gives dead firstOwn firstResult)
    (secondGives : second.Gives dead secondOwn secondResult) (greedy : Bool)
    (isDead : dead mark ↔ Way.prefer greedy firstResult secondResult = none) (firstUnowned : ¬ firstOwn mark)
    (secondUnowned : ¬ secondOwn mark) :
    (Machine.again mark greedy first second).Gives dead
      (fun other => other = mark ∨ firstOwn other ∨ secondOwn other) (Way.prefer greedy firstResult secondResult) := by
  refine Gives.passing ?_ isDead (by simp [firstUnowned, secondUnowned])
  cases greedy with
  | false => exact (secondGives.orElse firstGives).mono fun other => Or.symm
  | true => exact firstGives.orElse secondGives

end Attempt

namespace Machine

def marks : Machine → List Nat
  | empty => []
  | char _ _ => []
  | assertion _ => []
  | token inner => inner.marks
  | seq first second => first.marks ++ second.marks
  | choice first second => first.marks ++ second.marks
  | marked mark inner => mark :: inner.marks
  | loop mark _ body => mark :: body.marks

def front : Machine → List Nat
  | empty => []
  | char _ _ => []
  | assertion _ => []
  | token inner => inner.front
  | seq first second => if first.reads then first.front else first.front ++ second.front
  | choice first second => first.front ++ second.front
  | marked mark inner => mark :: inner.front
  | loop _ _ body => body.front

theorem mem_marks_of_mem_front {machine : Machine} {mark : Nat} (member : mark ∈ machine.front) :
    mark ∈ machine.marks := by
  induction machine with
  | empty => cases member
  | char members next => cases member
  | assertion condition => cases member
  | token inner ih => exact ih member
  | seq first second firstIh secondIh =>
    simp only [front] at member
    split at member
    · exact List.mem_append_left _ (firstIh member)
    · exact List.mem_append.mpr ((List.mem_append.mp member).imp firstIh secondIh)
  | choice first second firstIh secondIh =>
    exact List.mem_append.mpr ((List.mem_append.mp member).imp firstIh secondIh)
  | marked other inner ih =>
    rcases List.mem_cons.mp member with same | later
    · exact List.mem_cons.mpr (.inl same)
    · exact List.mem_cons_of_mem _ (ih later)
  | loop other greedy body ih => exact List.mem_cons_of_mem _ (ih member)

/-- The dead marks of a machine at a place are those behind which there is no match, if a sequel follows the machine. -/
def Tells (dead : Nat → Prop) (before : Option Char) (text : List Char) : Machine → Sequel → Prop
  | empty, _ => True
  | char _ _, _ => True
  | assertion _, _ => True
  | token inner, follow => inner.Tells dead before text follow.closing
  | seq first second, follow => first.Tells dead before text (second.way follow) ∧ second.Tells dead before text follow
  | choice first second, follow => first.Tells dead before text follow ∧ second.Tells dead before text follow
  | marked mark inner, follow => (dead mark ↔ inner.way follow before text = none) ∧ inner.Tells dead before text follow
  | loop mark greedy body, follow =>
    (dead mark ↔ Way.again greedy body.way follow before text = none) ∧
      body.Tells dead before text (Way.again greedy body.way follow)

theorem Tells.congr {dead other : Nat → Prop} {before : Option Char} {text : List Char} {machine : Machine}
    {follow : Sequel} (tells : machine.Tells dead before text follow)
    (same : ∀ mark ∈ machine.marks, other mark ↔ dead mark) : machine.Tells other before text follow := by
  induction machine generalizing follow with
  | empty => trivial
  | char members next => trivial
  | assertion condition => trivial
  | token inner ih => exact ih tells same
  | seq first second firstIh secondIh =>
    exact ⟨firstIh tells.1 fun mark member => same mark (List.mem_append_left _ member),
      secondIh tells.2 fun mark member => same mark (List.mem_append_right _ member)⟩
  | choice first second firstIh secondIh =>
    exact ⟨firstIh tells.1 fun mark member => same mark (List.mem_append_left _ member),
      secondIh tells.2 fun mark member => same mark (List.mem_append_right _ member)⟩
  | marked mark inner ih =>
    exact ⟨(same mark List.mem_cons_self).trans tells.1,
      ih tells.2 fun other member => same other (List.mem_cons_of_mem _ member)⟩
  | loop mark greedy body ih =>
    exact ⟨(same mark List.mem_cons_self).trans tells.1,
      ih tells.2 fun other member => same other (List.mem_cons_of_mem _ member)⟩

theorem exists_tells {machine : Machine} (distinct : machine.marks.Nodup) (before : Option Char) (text : List Char)
    (follow : Sequel) : ∃ dead, machine.Tells dead before text follow := by
  -- Marks that differ can be called dead independently of each other.
  have both {first second : Machine} (distinct : (first.marks ++ second.marks).Nodup) {left right : Sequel}
      (firstTells : ∃ dead, first.Tells dead before text left)
      (secondTells : ∃ dead, second.Tells dead before text right) :
      ∃ dead, first.Tells dead before text left ∧ second.Tells dead before text right := by
    obtain ⟨firstDead, firstTells⟩ := firstTells
    obtain ⟨secondDead, secondTells⟩ := secondTells
    have disjoint := (List.nodup_append.mp distinct).2.2
    refine ⟨fun mark => if mark ∈ first.marks then firstDead mark else secondDead mark, ?_, ?_⟩
    · exact firstTells.congr fun mark member => by rw [if_pos member]
    · refine secondTells.congr fun mark member => ?_
      rw [if_neg fun inFirst => disjoint mark inFirst mark member rfl]
  have one {inner : Machine} {mark : Nat} (absent : mark ∉ inner.marks) (isDead : Prop) {sequel : Sequel}
      (tells : ∃ dead, inner.Tells dead before text sequel) :
      ∃ dead : Nat → Prop, (dead mark ↔ isDead) ∧ inner.Tells dead before text sequel := by
    obtain ⟨dead, tells⟩ := tells
    refine ⟨fun other => if other = mark then isDead else dead other, by simp, tells.congr fun other member => ?_⟩
    have differs : other ≠ mark := fun same => absent (same ▸ member)
    simp [differs]
  induction machine generalizing follow with
  | empty => exact ⟨fun _ => False, trivial⟩
  | char members next => exact ⟨fun _ => False, trivial⟩
  | assertion condition => exact ⟨fun _ => False, trivial⟩
  | token inner ih => exact ih distinct _
  | seq first second firstIh secondIh =>
    obtain ⟨firstDistinct, secondDistinct, -⟩ := List.nodup_append.mp distinct
    exact both distinct (firstIh firstDistinct _) (secondIh secondDistinct _)
  | choice first second firstIh secondIh =>
    obtain ⟨firstDistinct, secondDistinct, -⟩ := List.nodup_append.mp distinct
    exact both distinct (firstIh firstDistinct _) (secondIh secondDistinct _)
  | marked mark inner ih =>
    obtain ⟨absent, innerDistinct⟩ := List.nodup_cons.mp distinct
    exact one absent _ (ih innerDistinct _)
  | loop mark greedy body ih =>
    obtain ⟨absent, bodyDistinct⟩ := List.nodup_cons.mp distinct
    exact one absent _ (ih bodyDistinct _)

/-- The machine in front of a text, where each leaf has learned what comes behind the first character if the machine
is followed by a sequel. -/
def taught : Machine → Sequel → List Char → Machine
  | empty, _, _ => empty
  | char members _, _, [] => char members none
  | char members _, follow, letter :: rest => char members (follow (some letter) rest)
  | assertion condition, _, _ => assertion condition
  | token inner, follow, text => token (inner.taught follow.closing text)
  | seq first second, follow, text => seq (first.taught (second.way follow) text) (second.taught follow text)
  | choice first second, follow, text => choice (first.taught follow text) (second.taught follow text)
  | marked mark inner, follow, text => marked mark (inner.taught follow text)
  | loop mark greedy body, follow, text => loop mark greedy (body.taught (Way.again greedy body.way follow) text)

@[simp] theorem reads_taught (machine : Machine) (follow : Sequel) (text : List Char) :
    (machine.taught follow text).reads = machine.reads := by
  induction machine generalizing follow with
  | empty => rfl
  | char members next => cases text <;> rfl
  | assertion condition => rfl
  | token inner ih => exact ih _
  | seq first second firstIh secondIh => simp [taught, reads, firstIh, secondIh]
  | choice first second firstIh secondIh => simp [taught, reads, firstIh, secondIh]
  | marked mark inner ih => exact ih _
  | loop mark greedy body ih => exact ih _

theorem enter_eq_of_reads {machine : Machine} (reads : machine.reads = true) (here : Position)
    (follow other : Attempt) :
    machine.enter here follow = machine.enter here other := by
  induction machine generalizing follow other with
  | empty => cases reads
  | char members next => rfl
  | assertion condition => cases reads
  | token inner ih =>
    simp only [enter]
    rw [ih reads (follow.map Outcome.closeToken) (other.map Outcome.closeToken)]
  | seq first second firstIh secondIh =>
    simp only [enter]
    rcases Bool.or_eq_true _ _ |>.mp reads with firstReads | secondReads
    · exact firstIh firstReads _ _
    · rw [secondIh secondReads follow other]
  | choice first second firstIh secondIh =>
    obtain ⟨firstReads, secondReads⟩ := Bool.and_eq_true _ _ |>.mp reads
    simp only [enter]
    rw [firstIh firstReads follow other, secondIh secondReads follow other]
  | marked mark inner ih =>
    simp only [enter]
    rw [ih reads follow other]
  | loop mark greedy body ih => exact ih reads _ _

/-- The marks that an attempt owns which enters a machine and goes on with another one: those in front and, unless the
machine reads, those of the other one. -/
def Owns (machine : Machine) (own : Nat → Prop) (mark : Nat) : Prop :=
  mark ∈ machine.front ∨ machine.reads = false ∧ own mark

section Position

variable {machine : Machine} {dead own : Nat → Prop} {follow : Attempt} {sequel : Sequel} {before : Option Char}
  {text : List Char}

theorem owns_seq {first second : Machine} {mark : Nat} (owned : first.Owns (second.Owns own) mark) :
    (seq first second).Owns own mark := by
  rcases owned with inFirst | ⟨firstReads, inSecond | ⟨secondReads, owned⟩⟩
  · refine .inl ?_
    rw [front]
    split
    · exact inFirst
    · exact List.mem_append_left _ inFirst
  · exact .inl (by simp [front, firstReads, inSecond])
  · exact .inr ⟨by simp [reads, firstReads, secondReads], owned⟩

theorem owns_choice {first second : Machine} {mark : Nat} (owned : first.Owns own mark ∨ second.Owns own mark) :
    (choice first second).Owns own mark := by
  rcases owned with (inFirst | ⟨nullable, owned⟩) | inSecond | ⟨nullable, owned⟩
  · exact .inl (List.mem_append_left _ inFirst)
  · exact .inr ⟨by simp [reads, nullable], owned⟩
  · exact .inl (List.mem_append_right _ inSecond)
  · exact .inr ⟨by simp [reads, nullable], owned⟩

theorem front_apart_of_seq {first second : Machine} (distinct : (seq first second).marks.Nodup)
    (firstReads : first.reads = false)
    (apart : (seq first second).reads = true ∨ ∀ mark ∈ (seq first second).front, ¬ own mark) :
    (second.reads = true ∨ ∀ mark ∈ second.front, ¬ own mark) ∧ ∀ mark ∈ first.front, ¬ second.Owns own mark := by
  have disjoint := (List.nodup_append.mp distinct).2.2
  simp only [reads, front, firstReads, Bool.false_or, Bool.false_eq_true, if_false, List.mem_append] at apart
  refine ⟨apart.imp_right fun fresh mark member => fresh mark (.inr member), ?_⟩
  rintro mark member (inSecond | ⟨secondReads, owned⟩)
  · exact disjoint mark (mem_marks_of_mem_front member) mark (mem_marks_of_mem_front inSecond) rfl
  · exact apart.resolve_left (by simp [secondReads]) mark (.inl member) owned

/-- A machine that has been taught finds at a position what its way tells. -/
theorem gives_enter (distinct : machine.marks.Nodup) (orderly : machine.Orderly)
    (tells : machine.Tells dead before text sequel) (given : follow.Gives dead own (sequel before text))
    (apart : machine.reads = true ∨ ∀ mark ∈ machine.front, ¬ own mark) :
    ((machine.taught sequel text).enter ⟨before, text.head?⟩ follow).Gives dead (machine.Owns own)
      (machine.way sequel before text) := by
  induction machine generalizing own follow sequel with
  | empty => exact given.mono fun mark owned => .inr ⟨rfl, owned⟩
  | char members next => cases text <;> exact Attempt.gives_settled _ _ _
  | assertion condition =>
    simp only [taught, enter, way, Way.holding]
    split
    · exact given.mono fun mark owned => .inr ⟨rfl, owned⟩
    · exact Attempt.gives_settled _ _ none
  | token inner ih => exact (ih distinct orderly tells (given.map Outcome.closeToken) apart).map Outcome.openToken
  | seq first second firstIh secondIh =>
    obtain ⟨firstDistinct, secondDistinct, -⟩ := List.nodup_append.mp distinct
    cases firstReads : first.reads with
    | true =>
      -- What follows the first machine is not tried at this position.
      have settled := firstIh firstDistinct orderly.1 tells.1
        (Attempt.gives_settled dead (fun _ => False) (second.way sequel before text)) (.inl firstReads)
      simp only [taught, enter]
      rw [enter_eq_of_reads ((reads_taught ..).trans firstReads) _ _ (Attempt.settled (second.way sequel before text))]
      exact settled.mono fun mark owned => owns_seq (owned.imp_right (And.imp_right False.elim))
    | false =>
      obtain ⟨secondApart, firstApart⟩ := front_apart_of_seq distinct firstReads apart
      have secondGives := secondIh secondDistinct orderly.2 tells.2 given secondApart
      exact (firstIh firstDistinct orderly.1 tells.1 secondGives (.inr firstApart)).mono fun mark => owns_seq
  | choice first second firstIh secondIh =>
    obtain ⟨firstDistinct, secondDistinct, -⟩ := List.nodup_append.mp distinct
    have firstApart : first.reads = true ∨ ∀ mark ∈ first.front, ¬ own mark :=
      apart.imp (fun reads => (Bool.and_eq_true _ _ |>.mp reads).1)
        fun fresh mark member => fresh mark (List.mem_append_left _ member)
    have secondApart : second.reads = true ∨ ∀ mark ∈ second.front, ¬ own mark :=
      apart.imp (fun reads => (Bool.and_eq_true _ _ |>.mp reads).2)
        fun fresh mark member => fresh mark (List.mem_append_right _ member)
    have firstGives := firstIh firstDistinct orderly.1 tells.1 given firstApart
    have secondGives := secondIh secondDistinct orderly.2 tells.2 given secondApart
    exact (firstGives.orElse secondGives).mono fun mark => owns_choice
  | marked mark inner ih =>
    obtain ⟨absent, innerDistinct⟩ := List.nodup_cons.mp distinct
    have innerApart := apart.imp_right fun fresh other member => fresh other (List.mem_cons_of_mem _ member)
    have unowned : ¬ inner.Owns own mark := by
      rintro (inFront | ⟨nullable, owned⟩)
      · exact absent (mem_marks_of_mem_front inFront)
      · refine apart.resolve_left ?_ mark List.mem_cons_self owned
        simp [reads, nullable]
    refine ((ih innerDistinct orderly tells.2 given innerApart).passing tells.1 unowned).mono ?_
    rintro other (rfl | inFront | owned)
    · exact .inl List.mem_cons_self
    · exact .inl (List.mem_cons_of_mem _ inFront)
    · exact .inr owned
  | loop mark greedy body ih =>
    obtain ⟨bodyReads, bodyOrderly⟩ := orderly
    have settled := ih (List.nodup_cons.mp distinct).2 bodyOrderly tells.2
      (Attempt.gives_settled dead (fun _ => False) (Way.again greedy body.way sequel before text)) (.inl bodyReads)
    simp only [taught, enter, way]
    rw [enter_eq_of_reads ((reads_taught ..).trans bodyReads) _ _
      (Attempt.settled (Way.again greedy body.way sequel before text)), Way.looping_eq (reads_way bodyReads)]
    exact settled.mono fun other owned => Or.inl (by simpa [Owns, front] using owned)

theorem gives_again {mark : Nat} {greedy : Bool} {body : Machine} (distinct : (loop mark greedy body).marks.Nodup)
    (orderly : (loop mark greedy body).Orderly) (tells : (loop mark greedy body).Tells dead before text sequel)
    (given : follow.Gives dead own (sequel before text)) (unowned : ¬ own mark) :
    (again mark greedy ((body.taught (Way.again greedy body.way sequel) text).enter ⟨before, text.head?⟩ .fail)
      follow).Gives dead (fun other => other = mark ∨ other ∈ body.front ∨ own other)
        (Way.again greedy body.way sequel before text) := by
  obtain ⟨bodyReads, bodyOrderly⟩ := orderly
  obtain ⟨absent, bodyDistinct⟩ := List.nodup_cons.mp distinct
  have run := gives_enter bodyDistinct bodyOrderly tells.2
    (Attempt.gives_settled dead (fun _ => False) (Way.again greedy body.way sequel before text)) (.inl bodyReads)
  rw [← Way.looping_eq (reads_way bodyReads), enter_eq_of_reads ((reads_taught ..).trans bodyReads) _ _ .fail] at run
  have inFront : ∀ other, body.Owns (fun _ => False) other → other ∈ body.front := by simp [Owns]
  exact (run.mono inFront).again given greedy tells.1 (fun member => absent (mem_marks_of_mem_front member)) unowned

/-- No mark is passed twice where the machine is left for what follows it, which owns marks. -/
def Clear : Machine → (Nat → Prop) → Prop
  | empty, _ => True
  | char _ _, _ => True
  | assertion _, _ => True
  | token inner, own => inner.Clear own
  | seq first second, own =>
    (second.reads = true ∨ ∀ mark ∈ second.front, ¬ own mark) ∧ second.Clear own ∧ first.Clear (second.Owns own)
  | choice first second, own => first.Clear own ∧ second.Clear own
  | marked _ inner, own => inner.Clear own
  | loop mark _ body, own => ¬ own mark ∧ body.Clear fun other => other = mark ∨ other ∈ body.front ∨ own other

theorem Clear.anti {other : Nat → Prop} (clear : machine.Clear own) (fewer : ∀ mark, other mark → own mark) :
    machine.Clear other := by
  induction machine generalizing own other with
  | empty => trivial
  | char members next => trivial
  | assertion condition => trivial
  | token inner ih => exact ih clear fewer
  | seq first second firstIh secondIh =>
    refine ⟨clear.1.imp_right fun fresh mark member owned => fresh mark member (fewer mark owned),
      secondIh clear.2.1 fewer, firstIh clear.2.2 fun mark => Or.imp_right (And.imp_right (fewer mark))⟩
  | choice first second firstIh secondIh => exact ⟨firstIh clear.1 fewer, secondIh clear.2 fewer⟩
  | marked mark inner ih => exact ih clear fewer
  | loop mark greedy body ih =>
    exact ⟨fun owned => clear.1 (fewer mark owned), ih clear.2 fun other => Or.imp_right (Or.imp_right (fewer other))⟩

theorem fresh_parts {first second : Machine} (distinct : (first.marks ++ second.marks).Nodup)
    (fresh : ∀ mark ∈ first.marks ++ second.marks, ¬ own mark) :
    (∀ mark ∈ first.marks, ¬ (mark ∈ second.front ∨ own mark)) ∧
      ∀ mark ∈ second.marks, ¬ (mark ∈ first.front ∨ own mark) := by
  have disjoint := (List.nodup_append.mp distinct).2.2
  constructor
  · rintro mark inFirst (inSecond | owned)
    · exact disjoint mark inFirst mark (mem_marks_of_mem_front inSecond) rfl
    · exact fresh mark (List.mem_append_left _ inFirst) owned
  · rintro mark inSecond (inFirst | owned)
    · exact disjoint mark (mem_marks_of_mem_front inFirst) mark inSecond rfl
    · exact fresh mark (List.mem_append_right _ inSecond) owned

theorem fresh_inside {inner : Machine} {mark : Nat} (absent : mark ∉ inner.marks)
    (fresh : ∀ other ∈ mark :: inner.marks, ¬ own other) : ∀ other ∈ inner.marks, ¬ (other = mark ∨ own other) := by
  rintro other member (rfl | owned)
  · exact absent member
  · exact fresh other (List.mem_cons_of_mem _ member) owned

theorem clear_seq_front {first second : Machine} (reads : (seq first second).reads = true)
    (secondFresh : ∀ mark ∈ second.marks, ¬ (mark ∈ first.front ∨ own mark))
    (firstClear : first.Clear fun mark => mark ∈ second.front ∨ own mark)
    (firstFront : first.reads = true → first.Clear fun mark => mark ∈ first.front ∨ mark ∈ second.front ∨ own mark)
    (secondClear : second.Clear fun mark => mark ∈ first.front ∨ own mark)
    (secondFront : second.reads = true →
      second.Clear fun mark => mark ∈ second.front ∨ mark ∈ first.front ∨ own mark) :
    (seq first second).Clear fun mark => mark ∈ (seq first second).front ∨ own mark := by
  cases firstReads : first.reads with
  | true =>
    simp only [front, firstReads, if_true]
    refine ⟨.inr fun mark member => secondFresh mark (mem_marks_of_mem_front member), secondClear,
      (firstFront firstReads).anti ?_⟩
    rintro mark (inSecond | ⟨-, inFirst | owned⟩)
    · exact .inr (.inl inSecond)
    · exact .inl inFirst
    · exact .inr (.inr owned)
  | false =>
    have secondReads : second.reads = true := by simpa [Machine.reads, firstReads] using reads
    simp only [front, firstReads, Bool.false_eq_true, if_false, List.mem_append]
    refine ⟨.inl secondReads, (secondFront secondReads).anti ?_, firstClear.anti ?_⟩
    · rintro mark ((inFirst | inSecond) | owned)
      · exact .inr (.inl inFirst)
      · exact .inl inSecond
      · exact .inr (.inr owned)
    · rintro mark (inSecond | ⟨nullable, -⟩)
      · exact .inl inSecond
      · rw [secondReads] at nullable
        cases nullable

theorem clear_of_distinct (distinct : machine.marks.Nodup) (orderly : machine.Orderly)
    (fresh : ∀ mark ∈ machine.marks, ¬ own mark) :
    machine.Clear own ∧ (machine.reads = true → machine.Clear fun mark => mark ∈ machine.front ∨ own mark) := by
  -- The second half is what a loop asks of its body, whose runs are followed by the loop's own front.
  induction machine generalizing own with
  | empty => exact ⟨trivial, fun _ => trivial⟩
  | char members next => exact ⟨trivial, fun _ => trivial⟩
  | assertion condition => exact ⟨trivial, fun _ => trivial⟩
  | token inner ih => exact ih distinct orderly fresh
  | seq first second firstIh secondIh =>
    obtain ⟨firstDistinct, secondDistinct, -⟩ := List.nodup_append.mp distinct
    obtain ⟨firstFresh, secondFresh⟩ := fresh_parts distinct fresh
    obtain ⟨firstClear, firstClearFront⟩ := firstIh firstDistinct orderly.1 firstFresh
    obtain ⟨secondClear, secondClearFront⟩ := secondIh secondDistinct orderly.2 secondFresh
    refine ⟨⟨.inr fun mark member owned => ?_, secondClear.anti fun mark => .inr, firstClear.anti fun mark => ?_⟩,
      fun reads => clear_seq_front reads secondFresh firstClear firstClearFront secondClear secondClearFront⟩
    · exact secondFresh mark (mem_marks_of_mem_front member) (.inr owned)
    · exact Or.imp_right And.right
  | choice first second firstIh secondIh =>
    obtain ⟨firstDistinct, secondDistinct, -⟩ := List.nodup_append.mp distinct
    obtain ⟨firstFresh, secondFresh⟩ := fresh_parts distinct fresh
    obtain ⟨firstClear, firstClearFront⟩ := firstIh firstDistinct orderly.1 firstFresh
    obtain ⟨secondClear, secondClearFront⟩ := secondIh secondDistinct orderly.2 secondFresh
    refine ⟨⟨firstClear.anti fun mark => .inr, secondClear.anti fun mark => .inr⟩, fun reads => ?_⟩
    obtain ⟨firstReads, secondReads⟩ := Bool.and_eq_true _ _ |>.mp reads
    simp only [front, List.mem_append]
    refine ⟨(firstClearFront firstReads).anti ?_, (secondClearFront secondReads).anti ?_⟩
    · rintro mark ((inFirst | inSecond) | owned)
      · exact .inl inFirst
      · exact .inr (.inl inSecond)
      · exact .inr (.inr owned)
    · rintro mark ((inFirst | inSecond) | owned)
      · exact .inr (.inl inFirst)
      · exact .inl inSecond
      · exact .inr (.inr owned)
  | marked mark inner ih =>
    obtain ⟨absent, innerDistinct⟩ := List.nodup_cons.mp distinct
    obtain ⟨clear, clearFront⟩ := ih innerDistinct orderly (fresh_inside absent fresh)
    refine ⟨clear.anti fun other => .inr, fun reads => (clearFront reads).anti fun other owned => ?_⟩
    simp only [front, List.mem_cons] at owned
    rcases owned with (same | inFront) | owned
    · exact .inr (.inl same)
    · exact .inl inFront
    · exact .inr (.inr owned)
  | loop mark greedy body ih =>
    obtain ⟨bodyReads, bodyOrderly⟩ := orderly
    obtain ⟨absent, bodyDistinct⟩ := List.nodup_cons.mp distinct
    have clearFront := (ih bodyDistinct bodyOrderly (fresh_inside absent fresh)).2 bodyReads
    refine ⟨⟨fresh mark List.mem_cons_self, clearFront.anti ?_⟩, fun _ => ⟨?_, clearFront.anti ?_⟩⟩
    · rintro other (same | inFront | owned)
      · exact .inr (.inl same)
      · exact .inl inFront
      · exact .inr (.inr owned)
    · rintro (inFront | owned)
      · exact absent (mem_marks_of_mem_front inFront)
      · exact fresh mark List.mem_cons_self owned
    · rintro other (same | inFront | inFront | owned)
      · exact .inr (.inl same)
      · exact .inl inFront
      · exact .inl inFront
      · exact .inr (.inr owned)

/-- At a position a machine learns what it has to know at the position before. -/
theorem update_taught {letter : Char} (distinct : machine.marks.Nodup) (orderly : machine.Orderly)
    (tells : machine.Tells dead (some letter) text sequel) (given : follow.Gives dead own (sequel (some letter) text))
    (clear : machine.Clear own) :
    (machine.taught sequel text).update ⟨some letter, text.head?⟩ follow (sequel (some letter) text) =
      machine.taught sequel (letter :: text) := by
  induction machine generalizing own follow sequel with
  | empty => rfl
  | char members next => cases text <;> rfl
  | assertion condition => rfl
  | token inner ih => exact congrArg token (ih distinct orderly tells (given.map Outcome.closeToken) clear)
  | seq first second firstIh secondIh =>
    obtain ⟨firstDistinct, secondDistinct, -⟩ := List.nodup_append.mp distinct
    have next := gives_enter secondDistinct orderly.2 tells.2 given clear.1
    simp only [taught, update]
    rw [next.outcome, firstIh firstDistinct orderly.1 tells.1 next clear.2.2,
      secondIh secondDistinct orderly.2 tells.2 given clear.2.1]
  | choice first second firstIh secondIh =>
    obtain ⟨firstDistinct, secondDistinct, -⟩ := List.nodup_append.mp distinct
    simp only [taught, update]
    rw [firstIh firstDistinct orderly.1 tells.1 given clear.1, secondIh secondDistinct orderly.2 tells.2 given clear.2]
  | marked mark inner ih =>
    exact congrArg (marked mark) (ih (List.nodup_cons.mp distinct).2 orderly tells.2 given clear)
  | loop mark greedy body ih =>
    have next := gives_again distinct orderly tells given clear.1
    simp only [taught, update]
    rw [next.outcome, ih (List.nodup_cons.mp distinct).2 orderly.2 tells.2 next clear.2]

end Position

end Machine

end Highlighter.Pattern
