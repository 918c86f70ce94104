import DeviceLab.Tools.Texts

/-!
# Programs that look at columns

Programs that break long lines, and that replace tabs by blanks and blanks by tabs: `fold`, `expand`,
`unexpand`.
-/

namespace DeviceLab.Tools

open Text Unix

/-- Words in which numbers behind a hyphen stand for an option with a letter. -/
def withNumbers (letter : Char) (words : List String) : List String :=
  words.map fun word =>
    match word.toList with
    | '-' :: c :: rest =>
      if c.isDigit then String.ofList ('-' :: letter :: c :: rest) else word
    | _ => word

namespace Fold

/-- How lines are broken. -/
structure Plan where
  width : Nat
  countsBytes : Bool
  breaksAtBlanks : Bool

/-- The column behind a character. -/
def columnBehind (p : Plan) (column : Nat) (c : Char) : Nat :=
  if p.countsBytes then column + 1
  else if c = '\x08' then column - 1
  else if c = '\r' then 0
  else if c = '\t' then column + 8 - column % 8
  else column + 1

/-- The parts of a text; `line` holds the part at hand, the last character first, and `fuel` bounds
the number of characters and of breaks. -/
def broken (p : Plan) : Nat → List Char → List Char → Nat → List (List Char) → List (List Char)
  | 0, _, line, _, done => (line :: done).reverse.map List.reverse
  | _ + 1, [], line, _, done => (line :: done).reverse.map List.reverse
  | fuel + 1, c :: rest, line, column, done =>
    if c = '\n' then broken p fuel rest [] 0 (('\n' :: line) :: done)
    else
      let next := columnBehind p column c
      if next ≤ p.width then broken p fuel rest (c :: line) next done
      else
        let behind := if p.breaksAtBlanks then line.takeWhile fun c => c != ' ' && c != '\t' else line
        if p.breaksAtBlanks && behind.length < line.length then
          let front := line.drop behind.length
          let column := behind.reverse.foldl (columnBehind p) 0
          broken p fuel (c :: rest) behind column (('\n' :: front) :: done)
        else if line.isEmpty then broken p fuel rest [c] next done
        else broken p fuel (c :: rest) [] 0 (('\n' :: line) :: done)

/-- Breaks long lines. -/
def run (words : List String) : Tool Unit := do
  let table : OptionTable :=
    { letters := "bsw:"
      names := [("width", .required, 'w'), ("bytes", .no, 'b'), ("spaces", .no, 's')] }
  let (options, files) ← table.read (withNumbers 'w' words)
  let width ← wholeBetween 1 (mostUnsigned - 9) "invalid number of columns"
    ((lastOf? options 'w').getD "80")
  let p : Plan :=
    { width := width.toNat, countsBytes := isGiven options 'b'
      breaksAtBlanks := isGiven options 's' }
  forTexts files fun text =>
    Tool.say (String.ofList (broken p (text.length * 3 + 4) text [] 0 []).flatten)

end Fold

/-! ### Tabs -/

/-- The columns at which tabs end. -/
structure TabStops where
  /-- The distance of tabs that are all alike. -/
  size : Nat := 8
  /-- The columns of tabs that are not. -/
  columns : List Nat := []
  /-- The distance of tabs behind the last one of these, from the start of the line, and from the last
  one. -/
  extension : Nat := 0
  increment : Nat := 0

namespace TabStops

/-- The column of the next tab, if there is one. -/
def next? (t : TabStops) (column : Nat) : Option Nat :=
  if t.columns.isEmpty then some (column + (t.size - column % t.size))
  else
    match t.columns.find? (column < ·) with
    | some n => some n
    | none =>
      if t.extension != 0 then some (column + (t.extension - column % t.extension))
      else if t.increment != 0 then
        let last := t.columns.getLastD 0
        some (column + (t.increment - (column - last) % t.increment))
      else none

/-- What has been read of a list of tabs. -/
structure Reader where
  stops : TabStops := { size := 0 }
  /-- The sign in front of the number at hand. -/
  sign : Option Char := none

/-- Adds a number in a list of tabs. -/
def add (r : Reader) (digits : String) : Tool Reader := do
  match r.sign with
  | some '/' =>
    if r.stops.extension != 0 then Tool.fail "'/' specifier only allowed with the last value"
    return { r with stops := { r.stops with extension := digits.toNat?.getD 0 } }
  | some _ =>
    if r.stops.increment != 0 then Tool.fail "'+' specifier only allowed with the last value"
    return { r with stops := { r.stops with increment := digits.toNat?.getD 0 } }
  | none => return { r with
      stops := { r.stops with columns := r.stops.columns ++ [digits.toNat?.getD 0] } }

/-- Reads a list of tabs. -/
def readList (whole : List Char) : Nat → List Char → Reader → Tool Reader
  | 0, _, r => return r
  | _ + 1, [], r => return r
  | fuel + 1, c :: rest, r => do
    if c = ',' || c = ' ' || c = '\t' then readList whole fuel rest r
    else if c = '/' || c = '+' then readList whole fuel rest { r with sign := some c }
    else if c.isDigit then
      let digits := (c :: rest).takeWhile Char.isDigit
      let text := String.ofList digits
      if mostUnsigned < (text.toNat?.getD 0 : Nat) then
        Tool.fail ("tab stop is too large " ++ Quote.text text)
      let r ← add r text
      let behind := (c :: rest).drop digits.length
      match behind with
      | '/' :: _ | '+' :: _ =>
        let mark := behind.headD ' '
        Tool.fail (s!"'{mark}' specifier not at start of number: "
          ++ Quote.text (String.ofList behind))
      | _ => readList whole fuel behind r
    else
      Tool.fail ("tab size contains invalid character(s): "
        ++ Quote.text (String.ofList (c :: rest)))

/-- The tabs that options tell. -/
def ofOptions (options : List Given) : Tool TabStops := do
  let lists := options.filter fun given => given.letter == 't'
  if lists.isEmpty then return {}
  let r ← lists.foldlM (fun r given => do
    let chars := given.argument.toList
    readList chars (chars.length + 1) chars r) ({} : Reader)
  let t := r.stops
  let isAscending : Bool := (t.columns.zip (t.columns.drop 1)).all fun (a, b) => a < b
  if t.columns.contains 0 then Tool.fail "tab size cannot be 0"
  unless isAscending do Tool.fail "tab sizes must be ascending"
  if t.increment != 0 && t.extension != 0 then
    Tool.fail "'/' specifier is mutually exclusive with '+'"
  match t.columns with
  | [] =>
    return { size := if t.extension != 0 then t.extension
      else if t.increment != 0 then t.increment else 8 }
  | [one] =>
    if t.extension = 0 && t.increment = 0 then return { size := one }
    return t
  | _ => return t

end TabStops

namespace Expand

/-- A line without tabs, the last character first. -/
def line (t : TabStops) (onlyFront : Bool) : List Char → Bool → Nat → List Char → List Char
  | [], _, _, done => done.reverse
  | c :: rest, converts, column, done =>
    if !converts then line t onlyFront rest false column (c :: done)
    else if c = '\t' then
      let next := (t.next? column).getD (column + 1)
      line t onlyFront rest true next (List.replicate (next - column) ' ' ++ done)
    else
      let column := if c = '\x08' then column - 1 else column + 1
      line t onlyFront rest (!onlyFront || c = ' ') column (c :: done)

/-- Replaces tabs by blanks. -/
def run (words : List String) : Tool Unit := do
  let table : OptionTable :=
    { letters := "it:", names := [("initial", .no, 'i'), ("tabs", .required, 't')] }
  let (options, files) ← table.read (withNumbers 't' words)
  let t ← TabStops.ofOptions options
  forTexts files fun text => do
    for part in fullLines '\n' text do
      Tool.say (String.ofList (line t (isGiven options 'i') part true 0 []))

end Expand

namespace Unexpand

/-- What is known between two characters of a line. -/
structure State where
  converts : Bool := true
  column : Nat := 0
  /-- Whether a single blank stands just before a tab. -/
  isLone : Bool := false
  isBehindBlank : Bool := true
  /-- Blanks that may still become a tab, the last one first. -/
  pending : List Char := []
  /-- What has been written, the last character first. -/
  done : List Char := []

/-- The pending blanks with a tab in the place of the first one. -/
def withTab (pending : List Char) : List Char :=
  match pending with
  | [] => []
  | pending => pending.dropLast ++ ['\t']

/-- Writes the pending blanks and a character. -/
def State.write (s : State) (whole : Bool) (isBlank : Bool) (c : Option Char) : State :=
  let pending := if 1 < s.pending.length && s.isLone then withTab s.pending else s.pending
  let isLone := if s.pending.isEmpty then s.isLone else false
  { s with
    done := c.toList ++ pending ++ s.done, pending := [], isLone
    isBehindBlank := isBlank, converts := s.converts && (whole || isBlank) }

/-- Goes on behind a character. -/
def step (t : TabStops) (whole : Bool) (s : State) (c : Char) : State :=
  if !s.converts then { s with done := c :: s.done }
  else if c = ' ' || c = '\t' then
    match t.next? s.column with
    | none => { s with converts := false }.write whole true (some c)
    | some next =>
      if c = '\t' then
        let pending := withTab s.pending
        let pending := if s.isLone then pending.drop (pending.length - 1) else []
        { s with column := next, pending }.write whole true (some c)
      else
        let column := s.column + 1
        if !(s.isBehindBlank && column = next) then
          { s with
            column, isLone := s.isLone || column = next, pending := c :: s.pending
            isBehindBlank := true }
        else
          let pending := withTab s.pending
          let pending := if s.isLone then pending.drop (pending.length - 1) else []
          { s with column, pending }.write whole true (some '\t')
  else if c = '\x08' then { s with column := s.column - 1 }.write whole false (some c)
  else { s with column := s.column + 1 }.write whole false (some c)

/-- Replaces blanks by tabs. -/
def run (words : List String) : Tool Unit := do
  let table : OptionTable :=
    { letters := "at:"
      names := [("all", .no, 'a'), ("first-only", .no, '1'), ("tabs", .required, 't')] }
  let (options, files) ← table.read (withNumbers 't' words)
  let t ← TabStops.ofOptions options
  let whole := (isGiven options 'a' || isGiven options 't') && !isGiven options '1'
  forTexts files fun text => do
    for part in fullLines '\n' text do
      let s := part.foldl (step t whole) {}
      Tool.say (String.ofList (s.write whole false none).done.reverse)

end Unexpand

end DeviceLab.Tools
