/-!
# Regular expressions

The abstract syntax: classes of characters, conditions on a position, and the usual combinations.
Classes and case folding of letters know ASCII only; a class is otherwise a set of code points.

* `CharSet`: a set of code points as closed ranges.
* `Look`: a condition on the characters around a position.
* `Regex`: an expression, with its groups numbered from one.
-/

namespace DeviceLab.Regex

/-- A set of code points as closed ranges, in ascending order and with a gap between any two. -/
structure CharSet where
  ranges : List (Nat × Nat)
  deriving DecidableEq, Repr

namespace CharSet

/-- Membership. -/
def mem (s : CharSet) (c : Char) : Bool :=
  s.ranges.any fun (lo, hi) => lo ≤ c.toNat && c.toNat ≤ hi

/-- Joins ranges that overlap or touch; they come in the order of their lower ends.  The first
argument is the range before them. -/
def joined : Nat × Nat → List (Nat × Nat) → List (Nat × Nat)
  | range, [] => [range]
  | (lo, hi), (a, b) :: more =>
    if a ≤ hi + 1 then joined (lo, max hi b) more else (lo, hi) :: joined (a, b) more

/-- The set of the code points in some of the given ranges. -/
def ofRanges (ranges : List (Nat × Nat)) : CharSet :=
  match ranges.mergeSort fun r s => r.1 ≤ s.1 with
  | [] => ⟨[]⟩
  | range :: more => ⟨joined range more⟩

/-- One code point. -/
def single (c : Char) : CharSet := ⟨[(c.toNat, c.toNat)]⟩

def lastCode : Nat := 0x10ffff

/-- Every code point. -/
def all : CharSet := ⟨[(0, lastCode)]⟩

/-- What ascending ranges leave out, from a code point on. -/
def gaps : Nat → List (Nat × Nat) → List (Nat × Nat)
  | start, [] => if start ≤ lastCode then [(start, lastCode)] else []
  | start, (lo, hi) :: more =>
    if start < lo then (start, lo - 1) :: gaps (hi + 1) more else gaps (hi + 1) more

/-- The code points outside a set. -/
def complement (s : CharSet) : CharSet := ⟨gaps 0 s.ranges⟩

/-- The other case of the ASCII letters in a range.  A range with small letters adds only their
capitals, also when it holds capitals of its own. -/
def otherCase (range : Nat × Nat) : Option (Nat × Nat) :=
  let (lo, hi) := range
  if lo ≤ 0x7a ∧ 0x61 ≤ hi then some (max lo 0x61 - 0x20, min hi 0x7a - 0x20)
  else if lo ≤ 0x5a ∧ 0x41 ≤ hi then some (max lo 0x41 + 0x20, min hi 0x5a + 0x20)
  else none

/-- The set together with the other case of its ranges. -/
def foldCase (s : CharSet) : CharSet := .ofRanges (s.ranges ++ s.ranges.filterMap otherCase)

def digit : CharSet := ⟨[(0x30, 0x39)]⟩

/-- Tab, line feed, vertical tab, form feed, carriage return and blank. -/
def space : CharSet := ⟨[(0x09, 0x0d), (0x20, 0x20)]⟩

/-- Letters, digits and the underscore. -/
def word : CharSet := ⟨[(0x30, 0x39), (0x41, 0x5a), (0x5f, 0x5f), (0x61, 0x7a)]⟩

/-- The named ASCII classes. -/
def named? (name : String) : Option CharSet :=
  match name with
  | "alnum" => some ⟨[(0x30, 0x39), (0x41, 0x5a), (0x61, 0x7a)]⟩
  | "alpha" => some ⟨[(0x41, 0x5a), (0x61, 0x7a)]⟩
  | "ascii" => some ⟨[(0, 0x7f)]⟩
  | "blank" => some ⟨[(0x09, 0x09), (0x20, 0x20)]⟩
  | "cntrl" => some ⟨[(0, 0x1f), (0x7f, 0x7f)]⟩
  | "digit" => some digit
  | "graph" => some ⟨[(0x21, 0x7e)]⟩
  | "lower" => some ⟨[(0x61, 0x7a)]⟩
  | "print" => some ⟨[(0x20, 0x7e)]⟩
  | "punct" => some ⟨[(0x21, 0x2f), (0x3a, 0x40), (0x5b, 0x60), (0x7b, 0x7e)]⟩
  | "space" => some space
  | "upper" => some ⟨[(0x41, 0x5a)]⟩
  | "word" => some word
  | "xdigit" => some ⟨[(0x30, 0x39), (0x41, 0x46), (0x61, 0x66)]⟩
  | _ => none

end CharSet

/-- A condition on a position, given by the characters right before and after it. -/
inductive Look where
  | textStart
  | textEnd
  | lineStart
  | lineEnd
  /-- Line starts and ends where a carriage return may end a line too. -/
  | lineStartCrlf
  | lineEndCrlf
  | wordBoundary
  | notWordBoundary
  | wordStart
  | wordEnd
  | wordStartHalf
  | wordEndHalf
  deriving DecidableEq, Repr

/-- Whether the condition holds between two characters; none stands for the end of the text. -/
def Look.holds (look : Look) (before after : Option Char) : Bool :=
  let wordBefore := before.any CharSet.word.mem
  let wordAfter := after.any CharSet.word.mem
  match look with
  | .textStart => before.isNone
  | .textEnd => after.isNone
  | .lineStart => before.isNone || before == some '\n'
  | .lineEnd => after.isNone || after == some '\n'
  | .lineStartCrlf =>
    before.isNone || before == some '\n' || (before == some '\r' && after != some '\n')
  | .lineEndCrlf =>
    after.isNone || after == some '\r' || (after == some '\n' && before != some '\r')
  | .wordBoundary => wordBefore != wordAfter
  | .notWordBoundary => wordBefore == wordAfter
  | .wordStart => !wordBefore && wordAfter
  | .wordEnd => wordBefore && !wordAfter
  | .wordStartHalf => !wordBefore
  | .wordEndHalf => !wordAfter

end Regex

/-- A regular expression. -/
inductive Regex where
  | empty
  /-- One character that stands for itself. -/
  | char (c : Char)
  /-- One character of a set. -/
  | set (s : Regex.CharSet)
  | look (l : Regex.Look)
  /-- At least `low` and at most `high` rounds, as many as possible first when `greedy`. -/
  | rounds (low : Nat) (high : Option Nat) (greedy : Bool) (body : Regex)
  /-- A group that remembers what it matched last. -/
  | group (index : Nat) (name : Option String) (body : Regex)
  | concat (parts : List Regex)
  /-- The first branch that leads to a match is taken. -/
  | branches (parts : List Regex)

namespace Regex

/-- Parts one after the other; none is the empty expression, and one is itself. -/
def inSequence : List Regex → Regex
  | [] => .empty
  | [part] => part
  | parts => .concat parts

/-- Branches; a single one is itself. -/
def inBranches : List Regex → Regex
  | [part] => part
  | parts => .branches parts

/-- Rounds of an expression; no round is the empty expression, and exactly one is the body. -/
def inRounds (low : Nat) (high : Option Nat) (greedy : Bool) (body : Regex) : Regex :=
  if low = 0 ∧ high = some 0 then .empty
  else if low = 1 ∧ high = some 1 then body
  else .rounds low high greedy body

mutual

/-- Whether the expression can match without taking a character. -/
def nullable : Regex → Bool
  | .empty => true
  | .char _ => false
  | .set _ => false
  | .look _ => true
  | .rounds low _ _ body => low == 0 || body.nullable
  | .group _ _ body => body.nullable
  | .concat parts => allNullable parts
  | .branches parts => anyNullable parts

/-- Whether every part can match without taking a character. -/
def allNullable : List Regex → Bool
  | [] => true
  | part :: parts => part.nullable && allNullable parts

/-- Whether some part can match without taking a character. -/
def anyNullable : List Regex → Bool
  | [] => false
  | part :: parts => part.nullable || anyNullable parts

end

mutual

/-- The number of levels below the expression. -/
def depth : Regex → Nat
  | .rounds _ _ _ body => body.depth + 1
  | .group _ _ body => body.depth + 1
  | .concat parts => depths parts 0 + 1
  | .branches parts => depths parts 0 + 1
  | _ => 0

/-- The greatest depth of several expressions, and at least `least`. -/
def depths : List Regex → Nat → Nat
  | [], least => least
  | part :: parts, least => depths parts (max least part.depth)

end

mutual

/-- The greatest number of a group, or zero. -/
def lastGroup : Regex → Nat
  | .rounds _ _ _ body => body.lastGroup
  | .group index _ body => max index body.lastGroup
  | .concat parts => lastGroups parts 0
  | .branches parts => lastGroups parts 0
  | _ => 0

/-- The greatest number of a group in several expressions, and at least `least`. -/
def lastGroups : List Regex → Nat → Nat
  | [], least => least
  | part :: parts, least => lastGroups parts (max least part.lastGroup)

end

end Regex

end DeviceLab
