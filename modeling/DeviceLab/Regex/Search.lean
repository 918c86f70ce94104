import DeviceLab.Regex.Pattern
import DeviceLab.Regex.Program

/-!
# Searching a text

All ways through a program are followed side by side, one character at a time, as a list of threads
in the order of preference.  A thread that arrives at an instruction where an earlier one already
stands is dropped, so that the work for one character is bounded by the program.

* `Matcher`: a pattern ready to be searched for.
* `Matcher.search`: the leftmost match, of those the preferred one, as the slots it saved.
* `Matcher.capture?`: the text of a group in a match.
-/

namespace DeviceLab.Regex

/-- The positions remembered by a thread, at most one for each slot. -/
abbrev Slots := List (Nat × Nat)

def Slots.set (slots : Slots) (slot position : Nat) : Slots :=
  (slot, position) :: slots.filter fun entry => entry.1 != slot

def Slots.get? (slots : Slots) (slot : Nat) : Option Nat :=
  (slots.find? fun entry => entry.1 == slot).map (·.2)

/-- A way through the program: the instruction it stands at, and what it remembers. -/
structure Thread where
  address : Nat
  slots : Slots

/-- A position in a text: its number and the characters beside it. -/
structure Position where
  index : Nat
  before : Option Char
  after : Option Char

/-- The number of steps in which the threads of one position are found, those that it starts with
not counted. -/
def Program.budget (program : Program) : Nat :=
  program.foldl (fun n instr => n + match instr with
    | .fork targets => targets.length + 1
    | _ => 2) 2

/-- Follows threads up to the instructions that take a character or accept.  `pending` are threads
still to be followed, in order of preference; an address once seen is not followed again. -/
def follow (program : Program) (here : Position) :
    Nat → List Thread → Array Bool → List Thread → Array Bool × List Thread
  | 0, _, seen, found => (seen, found)
  | _, [], seen, found => (seen, found)
  | fuel + 1, t :: pending, seen, found =>
    if seen.getD t.address true then follow program here fuel pending seen found
    else
      let seen := seen.setIfInBounds t.address true
      match program.instr? t.address with
      | none => follow program here fuel pending seen found
      | some (.take _) | some .accept => follow program here fuel pending seen (t :: found)
      | some (.check l) =>
        if l.holds here.before here.after then
          follow program here fuel (⟨t.address + 1, t.slots⟩ :: pending) seen found
        else follow program here fuel pending seen found
      | some (.save slot) =>
        let next := ⟨t.address + 1, t.slots.set slot here.index⟩
        follow program here fuel (next :: pending) seen found
      | some (.fork targets) =>
        follow program here fuel (targets.map (⟨·, t.slots⟩) ++ pending) seen found

/-- The threads of a position in the order of preference, from where threads of the position before
it went on. -/
def threadsAt (program : Program) (budget : Nat) (here : Position) (starts : List Thread) :
    List Thread :=
  (follow program here (budget + starts.length) starts (Array.replicate program.size false)
    []).2.reverse

/-- Splits off the first thread that accepts: its slots, and the threads preferred to it, which are
put behind the given ones in reverse. -/
def untilAccept (program : Program) : List Thread → List Thread → List Thread × Option Slots
  | preferred, [] => (preferred.reverse, none)
  | preferred, t :: rest =>
    match program.instr? t.address with
    | some .accept => (preferred.reverse, some t.slots)
    | _ => untilAccept program (t :: preferred) rest

/-- The threads that can take a character, behind it. -/
def advanceBy (program : Program) (c : Char) (threads : List Thread) : List Thread :=
  threads.filterMap fun t =>
    match program.instr? t.address with
    | some (.take s) => if s.mem c then some ⟨t.address + 1, t.slots⟩ else none
    | _ => none

/-- Searches from a position on.  As long as no match is known, each position also starts a thread
of its own, the least preferred one. -/
def searchFrom (program : Program) (budget : Nat) (before : Option Char) (index : Nat)
    (threads : List Thread) (best : Option Slots) : List Char → Option Slots
  | [] => step none |>.2
  | c :: rest =>
    let (preferred, best) := step (some c)
    searchFrom program budget (some c) (index + 1) (advanceBy program c preferred) best rest
where
  /-- The threads still worth following at a position, and the best match so far. -/
  step (after : Option Char) : List Thread × Option Slots :=
    let starts := if best.isNone then threads ++ [⟨0, []⟩] else threads
    if starts.isEmpty then ([], best)
    else
      let (preferred, found) :=
        untilAccept program [] (threadsAt program budget ⟨index, before, after⟩ starts)
      (preferred, found.or best)

/-- A pattern ready to be searched for. -/
structure Matcher where
  program : Program
  /-- The number of groups, the whole match not counted. -/
  groups : Nat

namespace Matcher

/-- The matcher of a pattern, unless the pattern is none or it takes too much room. -/
def ofPattern? (pattern : String) : Option Matcher := do
  let r ← Regex.ofPattern? pattern
  if roomLimit < r.totalRoom then none
  else some ⟨.ofRegex r, r.lastGroup⟩

def search (m : Matcher) (text : List Char) : Option Slots :=
  searchFrom m.program m.program.budget none 0 [] none text

/-- The text that a group matched last, when it took part. -/
def capture? (text : List Char) (slots : Slots) (group : Nat) : Option (List Char) := do
  let first ← slots.get? (2 * group)
  let last ← slots.get? (2 * group + 1)
  return (text.drop first).take (last - first)

end Matcher

end DeviceLab.Regex
