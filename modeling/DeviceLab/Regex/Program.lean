import DeviceLab.Decimal.Powers
import DeviceLab.Regex.Syntax

/-!
# Programs for expressions

A program is a list of instructions; an instruction that does not jump hands over to the next one.
`Program.ofRegex` lays an expression out so that the first of several ways is the preferred one.
-/

namespace DeviceLab.Regex

/-- One instruction. -/
inductive Instr where
  /-- Takes one character of the set. -/
  | take (s : CharSet)
  /-- Goes on only where the condition holds. -/
  | check (l : Look)
  /-- Remembers the position in a slot: `2g` is the start of group `g`, and `2g + 1` its end. -/
  | save (slot : Nat)
  /-- Goes on at each address, the first one preferred. -/
  | fork (targets : List Nat)
  /-- A match. -/
  | accept

abbrev Program := Array Instr

mutual

/-- The number of instructions of an expression. -/
def size : Regex → Nat
  | .empty => 0
  | .char _ => 1
  | .set _ => 1
  | .look _ => 1
  | .group _ _ body => body.size + 2
  | .concat parts => sizes parts 0
  | .branches parts => branchSizes parts 1
  | .rounds low none _ body =>
    if low = 0 then body.size + 2 else low * body.size + 1
  | .rounds low (some high) _ body => low * body.size + (high - low) * (body.size + 1)

/-- The number of instructions of parts in sequence, on top of a number. -/
def sizes : List Regex → Nat → Nat
  | [], n => n
  | part :: parts, n => sizes parts (n + part.size)

/-- The number of instructions of branches, each of which ends with a jump, on top of a number. -/
def branchSizes : List Regex → Nat → Nat
  | [], n => n
  | part :: parts, n => branchSizes parts (n + part.size + 1)

end

/-- Two ways on, the first of which is to go round once more, when `greedy`. -/
def choice (greedy : Bool) (again onward : Nat) : Instr :=
  .fork (if greedy then [again, onward] else [onward, again])

/-- The addresses of branches that stand one behind the other. -/
def branchStarts : Nat → List Regex → List Nat
  | _, [] => []
  | start, part :: parts => start :: branchStarts (start + part.size + 1) parts

/-- Puts the same code `n` times behind a program. -/
def repeated (code : Program → Program) : Nat → Program → Program
  | 0, program => program
  | n + 1, program => repeated code n (code program)

/-- Puts up to `n` more rounds behind a program, each of which may be the last: the code of a round
stands behind the choice between it and the end. -/
def optional (code : Program → Program) (greedy : Bool) (onward : Nat) : Nat → Program → Program
  | 0, program => program
  | n + 1, program =>
    optional code greedy onward n (code (program.push (choice greedy (program.size + 1) onward)))

mutual

/-- Puts the instructions of an expression behind a program.  Rounds of a body that can match
without a character run it before the first choice, which keeps the order of preference. -/
def emit : Regex → Program → Program
  | .empty, program => program
  | .char c, program => program.push (.take (.single c))
  | .set s, program => program.push (.take s)
  | .look l, program => program.push (.check l)
  | .group index _ body, program =>
    (emit body (program.push (.save (2 * index)))).push (.save (2 * index + 1))
  | .concat parts, program => emitAll parts program
  | .branches parts, program =>
    let start := program.size
    emitBranches (start + branchSizes parts 1) parts
      (program.push (.fork (branchStarts (start + 1) parts)))
  | .rounds low none greedy body, program =>
    let start := program.size
    if low = 0 then
      let onward := start + body.size + 2
      let last := if body.nullable then choice greedy (start + 1) onward else .fork [start]
      (emit body (program.push (choice greedy (start + 1) onward))).push last
    else
      let again := start + (low - 1) * body.size
      (repeated (emit body) low program).push (choice greedy again (again + body.size + 1))
  | .rounds low (some high) greedy body, program =>
    let onward := program.size + low * body.size + (high - low) * (body.size + 1)
    optional (emit body) greedy onward (high - low) (repeated (emit body) low program)

/-- Puts the instructions of parts in sequence behind a program. -/
def emitAll : List Regex → Program → Program
  | [], program => program
  | part :: parts, program => emitAll parts (emit part program)

/-- Puts the instructions of branches behind a program; each of them goes on behind the last. -/
def emitBranches (onward : Nat) : List Regex → Program → Program
  | [], program => program
  | part :: parts, program =>
    emitBranches onward parts ((emit part program).push (.fork [onward]))

end

namespace Program

def instr? (program : Program) (address : Nat) : Option Instr := program[address]?

/-- The program of an expression: it remembers the whole match as group zero. -/
def ofRegex (r : Regex) : Program :=
  ((emit r #[.save 0]).push (.save 1)).push .accept

end Program

/-!
## The room that an expression takes

Patterns that would take too much room are refused.  The room is counted as for an automaton with
one state for each character, set, condition, choice, join and end of a group.
-/

def stateRoom : Nat := 32

/-- The room of a state with ways to two others. -/
def choiceRoom : Nat := stateRoom + 2 * 4

mutual

/-- The room of an expression, in bytes. -/
def room : Regex → Nat
  | .empty => stateRoom
  | .char _ => stateRoom
  | .set s => stateRoom + 8 * s.ranges.length
  | .look _ => stateRoom
  | .group _ _ body => body.room + 2 * stateRoom
  | .concat parts => rooms parts 0
  | .branches parts => rooms parts (2 * stateRoom + 4 * parts.length)
  | .rounds low none _ body =>
    if low = 0 then body.room + choiceRoom + if body.nullable then choiceRoom + stateRoom else 0
    else low * body.room + choiceRoom
  | .rounds low (some high) _ body =>
    if low = high then low * body.room
    else if low = 0 ∧ high = 1 then choiceRoom + body.room + stateRoom
    else (if low = 0 then stateRoom else low * body.room) + stateRoom +
      (high - low) * (choiceRoom + body.room)

/-- The room of several expressions, on top of a number. -/
def rooms : List Regex → Nat → Nat
  | [], n => n
  | part :: parts, n => rooms parts (n + part.room)

end

mutual

/-- The room of the names of groups, each of which is kept once. -/
def nameRoom : Regex → Nat
  | .group _ name body => body.nameRoom + (name.map fun text => text.utf8ByteSize + 4).getD 0
  | .concat parts => nameRooms parts 0
  | .branches parts => nameRooms parts 0
  | .rounds _ _ _ body => body.nameRoom
  | _ => 0

/-- The room of the names of groups in several expressions, on top of a number. -/
def nameRooms : List Regex → Nat → Nat
  | [], n => n
  | part :: parts, n => nameRooms parts (n + part.nameRoom)

end

/-- The room of the program of an expression: its states, those of the whole match, the names of
groups, and an entry for each group. -/
def totalRoom (r : Regex) : Nat :=
  r.room + r.nameRoom + 3 * stateRoom + 16 * (r.lastGroup + 1)

/-- The room that a program may take. -/
def roomLimit : Nat := 10 * Decimal.twoTo 20

end DeviceLab.Regex
