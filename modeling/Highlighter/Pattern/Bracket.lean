import Highlighter.Pattern.Escape

/-! Bracketed classes: items and ranges, nested brackets, and operations between what stands on their sides. -/

namespace Highlighter.Pattern

open Unicode

inductive ClassOperation where
  | inter
  | diff
  | symmDiff

def ClassOperation.apply : ClassOperation → CharClass → CharClass → CharClass
  | inter, left, right => .inter left right
  | diff, left, right => .diff left right
  | symmDiff, left, right => .symmDiff left right

namespace Bracket

/-- Items read one after the other: single characters and ranges, classes among them, the number of items, and
how deep the deepest item is nested. -/
structure Items where
  chars : CodeRanges := []
  classes : List CharClass := []
  count : Nat := 0
  depth : Nat := 0

namespace Items

def addRange (items : Items) (first last : Char) : Items :=
  { items with chars := items.chars.insert first.toNat last.toNat, count := items.count + 1 }

def addClass (items : Items) (members : CharClass) (depth : Nat) : Items :=
  { items with
    classes := items.classes ++ [members], count := items.count + 1, depth := max items.depth depth }

def members (items : Items) : CharClass :=
  match items.chars, items.classes with
  | [], classes => .unions classes
  | chars, classes => .unions (.table chars :: classes)

/-- The depth of the items: several stand one level above each of them. -/
def level (items : Items) : Nat := if items.count ≤ 1 then items.depth else items.depth + 1

end Items

structure LeftSide where
  operation : ClassOperation
  members : CharClass
  depth : Nat

/-- A bracket that has been opened: whether it is negated, the items in front of it in the bracket around it,
and the left side of the operation in it that waits for its right one. -/
structure Opened where
  negated : Bool
  outer : Items
  left : Option LeftSide := none

def combine (flags : Flags) (left : Option LeftSide) (items : Items) : CharClass × Nat :=
  match left with
  | none => (items.members, items.level)
  | some side =>
    (side.operation.apply (flags.foldCase side.members) (flags.foldCase items.members),
      max side.depth items.level + 1)

def readHyphens (flags : Flags) : Nat → Items → List Char → Items × List Char
  | 0, items, text => (items, text)
  | fuel + 1, items, text =>
    match flags.skip text with
    | '-' :: rest => readHyphens flags fuel (items.addRange '-' '-') rest
    | rest => (items, rest)

/-- Reads what follows an opening bracket: a sign of negation, hyphens and, as the first item, a closing bracket
that stands for itself. -/
def readOpening (flags : Flags) (text : List Char) : Bool × Items × List Char :=
  let (negated, text) := match flags.skip text with
    | '^' :: rest => (true, rest)
    | rest => (false, rest)
  match readHyphens flags (text.length + 1) {} text with
  | (items, ']' :: rest) =>
    if items.count = 0 then (negated, items.addRange ']' ']', rest) else (negated, items, ']' :: rest)
  | (items, rest) => (negated, items, rest)

def namedRanges? (name : List Char) : Option CodeRanges :=
  match String.ofList name with
  | "alnum" => some [(0x30, 0x39), (0x41, 0x5A), (0x61, 0x7A)]
  | "alpha" => some [(0x41, 0x5A), (0x61, 0x7A)]
  | "ascii" => some [(0, 0x7F)]
  | "blank" => some [(0x09, 0x09), (0x20, 0x20)]
  | "cntrl" => some [(0, 0x1F), (0x7F, 0x7F)]
  | "digit" => some [(0x30, 0x39)]
  | "graph" => some [(0x21, 0x7E)]
  | "lower" => some [(0x61, 0x7A)]
  | "print" => some [(0x20, 0x7E)]
  | "punct" => some [(0x21, 0x2F), (0x3A, 0x40), (0x5B, 0x60), (0x7B, 0x7E)]
  | "space" => some [(0x09, 0x0D), (0x20, 0x20)]
  | "upper" => some [(0x41, 0x5A)]
  | "word" => some [(0x30, 0x39), (0x41, 0x5A), (0x5F, 0x5F), (0x61, 0x7A)]
  | "xdigit" => some [(0x30, 0x39), (0x41, 0x46), (0x61, 0x66)]
  | _ => none

/-- Reads a class in the style of `[:alpha:]` or `[:^alpha:]` from behind its opening bracket: its ranges,
whether it is negated, and the text behind it. -/
def readNamed? : List Char → Option (CodeRanges × Bool × List Char)
  | ':' :: rest =>
    let (negated, text) := match rest with
      | '^' :: rest => (true, rest)
      | rest => (false, rest)
    match text.span (· ≠ ':') with
    | (name, ':' :: ']' :: rest) => (namedRanges? name).map fun ranges => (ranges, negated, rest)
    | _ => none
  | _ => none

def readItem? (flags : Flags) : List Char → Option (Escape × List Char)
  | [] => none
  | '\\' :: rest => Escape.read? flags rest
  | char :: rest => some (.literal char false, rest)

/-- The character of a literal item. Without Unicode it is an ASCII character. -/
def itemChar? (flags : Flags) : Escape → Option Char
  | .literal char _ => if flags.unicode || char.toNat < 128 then some char else none
  | _ => none

def peek? (flags : Flags) (text : List Char) : Option Char :=
  if !flags.ignoreBlanks then text.head?
  else
    match text.dropWhile CharClass.space.contains with
    | '#' :: rest => (rest.find? (!CharClass.space.contains ·)) <|> text.head?
    | char :: _ => some char
    | [] => text.head?

def addItem? (flags : Flags) (items : Items) (item : Escape) : Option Items :=
  match item with
  | .members members => some (items.addClass members 0)
  | _ => (itemChar? flags item).map fun char => items.addRange char char

/-- Reads an item or a range and adds it. A hyphen makes a range unless a closing bracket or another hyphen
follows it. -/
def readRange? (flags : Flags) (items : Items) (text : List Char) : Option (Items × List Char) :=
  (readItem? flags text).bind fun (item, rest) =>
    match flags.skip rest with
    | [] => none
    | '-' :: rest =>
      if peek? flags rest = some ']' ∨ peek? flags rest = some '-' then
        (addItem? flags items item).map fun items => (items, '-' :: rest)
      else
        (readItem? flags (flags.skip rest)).bind fun (last, rest) =>
          match itemChar? flags item, itemChar? flags last with
          | some first, some last => if first ≤ last then some (items.addRange first last, rest) else none
          | _, _ => none
    | rest => (addItem? flags items item).map fun items => (items, rest)

/-- Reads the content of the innermost of the opened brackets up to the end of the outermost one, and gives its
class and depth. Every round reads one character at least, so as many rounds as there are characters are
enough. -/
def readContent (flags : Flags) :
    Nat → Opened → List Opened → Items → List Char → Option (CharClass × Nat × List Char)
  | 0, _, _, _, _ => none
  | fuel + 1, opened, around, items, text =>
    let operate (operation : ClassOperation) (rest : List Char) :=
      let (members, depth) := combine flags opened.left items
      readContent flags fuel { opened with left := some ⟨operation, members, depth⟩ } around {} rest
    match flags.skip text with
    | [] => none
    | ']' :: rest =>
      let (members, depth) := combine flags opened.left items
      (flags.negate? opened.negated (flags.foldCase members)).bind fun members =>
        match around with
        | [] => some (members, depth + 1, rest)
        | outer :: around =>
          readContent flags fuel outer around (opened.outer.addClass members (depth + 1)) rest
    | '&' :: '&' :: rest => operate .inter rest
    | '-' :: '-' :: rest => operate .diff rest
    | '~' :: '~' :: rest => operate .symmDiff rest
    | '[' :: rest =>
      match readNamed? rest with
      | some (ranges, negated, rest) =>
        (flags.negate? negated (flags.foldCase (.table ranges))).bind fun members =>
          readContent flags fuel opened around (items.addClass members 0) rest
      | none =>
        let (negated, inner, rest) := readOpening flags rest
        readContent flags fuel ⟨negated, items, none⟩ (opened :: around) inner rest
    | rest => (readRange? flags items rest).bind fun (items, rest) =>
      readContent flags fuel opened around items rest

def read? (flags : Flags) (text : List Char) : Option (CharClass × Nat × List Char) :=
  let (negated, items, rest) := readOpening flags text
  readContent flags (text.length + 1) ⟨negated, {}, none⟩ [] items rest

end Bracket

end Highlighter.Pattern
