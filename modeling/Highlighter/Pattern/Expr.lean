import Highlighter.Pattern.Lexeme
import Highlighter.Unicode.Comparison

/-! Expressions: the structure of a pattern, built from its lexemes and brought into a simple form. -/

namespace Highlighter.Pattern

open Unicode

/-- A pattern's structure. Sequences and alternatives nest to the right. -/
inductive Expr where
  | empty
  | char (members : CharClass)
  | assertion (assertion : Assertion)
  /-- Matches as the inner expression and captures the match; `token` marks the group of that name. -/
  | capture (token : Bool) (inner : Expr)
  /-- Repeats the inner expression, `least` times or more and at most `most` times. -/
  | repetition (inner : Expr) (least : Nat) (most : Option Nat) (greedy : Bool)
  | seq (first second : Expr)
  /-- Matches the first expression or, where this leads to no match, the second. -/
  | choice (first second : Expr)
  deriving DecidableEq, Repr

namespace Expr

def elements : Expr → List Expr
  | empty => []
  | seq first second => first.elements ++ second.elements
  | other => [other]

def branches : Expr → List Expr
  | choice first second => first.branches ++ second.branches
  | other => [other]

def ofElements : List Expr → Expr
  | [] => empty
  | [only] => only
  | first :: rest => seq first (ofElements rest)

def ofBranches : List Expr → Expr
  | [] => char .none
  | [only] => only
  | first :: rest => choice first (ofBranches rest)

def concat (parts : List Expr) : Expr := ofElements (parts.flatMap elements)

def isEmptyOnly : Expr → Bool
  | empty => true
  | char _ => false
  | assertion _ => true
  | capture _ inner => inner.isEmptyOnly
  | repetition inner _ _ _ => inner.isEmptyOnly
  | seq first second => first.isEmptyOnly && second.isEmptyOnly
  | choice first second => first.isEmptyOnly && second.isEmptyOnly

/-- A repetition. What matches the empty text alone is repeated once at most, and a repetition that runs exactly
once is what it repeats. -/
def repeated (inner : Expr) (least : Nat) (most : Option Nat) (greedy : Bool) : Expr :=
  let (least, most) := if inner.isEmptyOnly then (min least 1, some (min (most.getD 1) 1)) else (least, most)
  if most = some 0 then empty
  else if least = 1 ∧ most = some 1 then inner
  else repetition inner least most greedy

def isLiteral : Expr → Bool
  | char members => members.isSingle
  | _ => false

/-- The expressions are built alike, so that branches which begin with them can share them. Groups that capture are
distinct even if they look alike. -/
def same : Expr → Expr → Bool
  | empty, empty => true
  | char left, char right => left.alike right
  | assertion left, assertion right => left = right
  | repetition left leftLeast leftMost leftGreedy, repetition right rightLeast rightMost rightGreedy =>
    leftLeast = rightLeast && leftMost = rightMost && leftGreedy = rightGreedy && left.same right
  | seq leftFirst leftSecond, seq rightFirst rightSecond => leftFirst.same rightFirst && leftSecond.same rightSecond
  | choice leftFirst leftSecond, choice rightFirst rightSecond =>
    leftFirst.same rightFirst && leftSecond.same rightSecond
  | _, _ => false

def commonElements : List Expr → List Expr → List Expr
  | left :: lefts, right :: rights => if left.same right then left :: commonElements lefts rights else []
  | _, _ => []

def charClasses? : List Expr → Option (List CharClass)
  | [] => some []
  | char members :: rest => (charClasses? rest).map (members :: ·)
  | _ :: _ => none

def mergedClass (classes : List CharClass) : CharClass :=
  let tables := classes.filterMap fun | .table members => some members | _ => none
  let others := classes.filter fun | .table _ => false | _ => true
  let merged := tables.flatten.foldl (fun (set : CodeRanges) (first, last) => set.insert first last) []
  if merged.isEmpty then .unions others else .unions (.table merged :: others)

/-- The classes of expressions that are all characters, or all classes of another number of characters. -/
def mergeable? (parts : List Expr) : Option (List CharClass) :=
  (charClasses? parts).filter fun classes => classes.all (·.isSingle) || !classes.any (·.isSingle)

def choose (parts : List Expr) : Expr :=
  let parts := parts.flatMap branches
  match mergeable? parts with
  | some (first :: second :: rest) => char (mergedClass ((first :: second :: rest).map (·.unmarked)))
  | _ => ofBranches parts

/-- Some common elements of branches without the characters at their end, if one of the branches goes on with another
character there. -/
def wholeLiterals (common : List Expr) (branches : List (List Expr)) : List Expr :=
  if branches.any fun branch => (branch.drop common.length).head?.any isLiteral then
    (common.reverse.dropWhile isLiteral).reverse
  else common

/-- The elements that the branches of a choice all begin with, where characters side by side are shared as a whole.
There are none if a branch is a single element or nothing but characters. -/
def commonFront (parts : List Expr) : List Expr :=
  match parts.map elements with
  | [] => []
  | first :: rest =>
    if (first :: rest).any fun branch => branch.length < 2 || branch.all isLiteral then []
    else wholeLiterals (rest.foldl commonElements first) (first :: rest)

/-- A choice between expressions. Branches of several elements that all begin with the same ones share them, so
that what these match is settled before the branches part. -/
def alternation (parts : List Expr) : Expr :=
  let parts := parts.flatMap branches
  match parts, commonFront parts with
  | [only], _ => only
  | parts, [] => choose parts
  | parts, common =>
    ofElements (common ++ [choose (parts.map fun part => ofElements (part.elements.drop common.length))])

/-- What has been read of a pattern: an expression, how deep it is nested, and whether it can be repeated. -/
structure Part where
  expr : Expr
  depth : Nat
  repeatable : Bool

namespace Part

def levelOf (parts : List Part) : Nat :=
  let deepest := parts.foldl (fun depth part => max depth part.depth) 0
  if parts.length ≤ 1 then deepest else deepest + 1

def concat (parts : List Part) : Part := ⟨.concat (parts.map (·.expr)), levelOf parts, true⟩

def alternation (parts : List Part) : Part := ⟨.alternation (parts.map (·.expr)), levelOf parts, true⟩

end Part

/-- The group being read: its finished branches and the parts of its current branch, both last to first, and
whether it captures and is named "token". -/
structure Group where
  capture : Option Bool
  branches : List Part := []
  parts : List Part := []

namespace Group

def push (group : Group) (part : Part) : Group := { group with parts := part :: group.parts }

def content (group : Group) : Part :=
  .alternation ((Part.concat group.parts.reverse :: group.branches).reverse)

def close (group : Group) : Part :=
  let content := group.content
  match group.capture with
  | none => { content with depth := content.depth + 1 }
  | some token => ⟨.capture token content.expr, content.depth + 1, true⟩

end Group

def readLexeme (group : Group) (around : List Group) : Lexeme → Option (Group × List Group)
  | .char members depth => some (group.push ⟨char members, depth, true⟩, around)
  | .assertion condition => some (group.push ⟨assertion condition, 0, true⟩, around)
  | .flagChange => some (group.push ⟨empty, 0, false⟩, around)
  | .bar => some ({ group with branches := .concat group.parts.reverse :: group.branches, parts := [] }, around)
  | .openGroup => some ({ capture := none }, group :: around)
  | .openCapture name => some ({ capture := some (name = some "token") }, group :: around)
  | .closeGroup =>
    match around with
    | [] => none
    | outer :: around => some (outer.push group.close, around)
  | .repetition least most greedy =>
    match group.parts with
    | [] => none
    | part :: parts =>
      if part.repeatable then
        some ({ group with parts := ⟨part.expr.repeated least most greedy, part.depth + 1, true⟩ :: parts }, around)
      else none

def readLexemes : Group → List Group → List Lexeme → Option Part
  | group, around, [] => if around.isEmpty then some group.content else none
  | group, around, lexeme :: rest =>
    (readLexeme group around lexeme).bind fun (group, around) => readLexemes group around rest

def depthLimit : Nat := 250

/-- The expression of lexemes. Groups have different names. -/
def ofLexemes? (lexemes : List Lexeme) : Option Expr :=
  if (lexemes.filterMap Lexeme.groupName?).Nodup then
    (readLexemes { capture := none } [] lexemes).bind fun part =>
      if part.depth ≤ depthLimit then some part.expr else none
  else none

def ofText? (text : String) : Option Expr := (Lexeme.ofText? text).bind ofLexemes?

end Expr

end Highlighter.Pattern
