import DeviceLab.Tools.Sorting

/-!
# Programs that work on lines

Programs that choose some lines or some parts of them, or make them up: `cut`, `paste`, `comm`, `tr`,
`seq`, `yes`.
-/

namespace DeviceLab.Tools

open Text Unix

/-! ### Parts of lines -/

namespace Cut

/-- What is cut out of lines. -/
inductive Kind where
  | bytes
  | fields

/-- Places from a first one to a last one, if there is a last one. -/
abbrev Range := Nat × Option Nat

/-- The places that a part of a list tells. -/
def readRange (kind : Kind) (text : String) : Tool Range := do
  let chars := text.toList
  let first := chars.takeWhile (· != '-')
  let number (digits : List Char) : Tool Nat := do
    let shown := Quote.text (String.ofList digits)
    if digits.all Char.isDigit then
      match (String.ofList digits).toNat?.getD 0 with
      | 0 => match kind with
        | .bytes => Tool.failWords "byte/character positions are numbered from 1"
        | .fields => Tool.failWords "fields are numbered from 1"
      | n => return n
    else match kind with
      | .bytes => Tool.failWords s!"invalid byte/character position {shown}"
      | .fields => Tool.failWords s!"invalid field value {shown}"
  if first.length = chars.length then
    let n ← number first
    return (n, some n)
  let last := chars.drop (first.length + 1)
  if first.isEmpty && last.isEmpty then
    Tool.failWords "invalid range with no endpoint: -"
  let from_ ← if first.isEmpty then pure 1 else number first
  let limit ← if last.isEmpty then pure none else some <$> number last
  if limit.any (· < from_) then Tool.failWords "invalid decreasing range"
  return (from_, limit)

def isIn (ranges : List Range) (n : Nat) : Bool :=
  ranges.any fun (first, last) => first ≤ n && last.all (n ≤ ·)

/-- The things at chosen places. -/
def chosen (ranges : List Range) (inverts : Bool) (things : List α) : List α :=
  ((List.range things.length).zip things).filterMap fun (n, thing) =>
    if isIn ranges (n + 1) != inverts then some thing else none

def fieldsOf (tab : Char) (line : List Char) : List (List Char) :=
  let (last, fields) := line.foldr (fun c (field, fields) =>
    if c == tab then ([], field :: fields) else (c :: field, fields)) (([], []) : List Char × _)
  last :: fields

/-- The runs of neighbouring places among chosen ones, as texts. -/
def runs (ranges : List Range) (inverts : Bool) (line : List Char) : List (List Char) :=
  let startsRange (n : Nat) : Bool := ranges.any fun range => range.1 == n
  let (_, done) := line.foldl (fun (n, (isOpen, runs)) c =>
    let isChosen := isIn ranges n != inverts
    let isNew := !isOpen || startsRange n && !isIn (ranges.filter fun r => r.1 < n) n
    let runs := if !isChosen then runs
      else if isNew then [c] :: runs
      else match runs with
        | run :: others => (c :: run) :: others
        | [] => [[c]]
    (n + 1, (isChosen, runs))) (1, (false, ([] : List (List Char))))
  done.2.reverse.map List.reverse

/-- Cuts parts out of lines. -/
def run (words : List String) : Tool Unit := do
  let table : OptionTable :=
    { letters := "b:c:d:f:nsz"
      names := [("bytes", .required, 'b'), ("characters", .required, 'c'),
        ("delimiter", .required, 'd'), ("fields", .required, 'f'), ("only-delimited", .no, 's'),
        ("output-delimiter", .required, 'O'), ("complement", .no, 'C'),
        ("zero-terminated", .no, 'z')] }
  let (options, files) ← table.read words
  let lists := options.filter fun given => "bcf".toList.contains given.letter
  if 1 < lists.length then Tool.failWords "only one list may be specified"
  match lists with
  | [] => Tool.failWords "you must specify a list of bytes, characters, or fields"
  | given :: _ =>
    let kind : Kind := if given.letter = 'f' then .fields else .bytes
    let tab ← match lastOf? options 'd' with
      | none => pure '\t'
      | some word =>
        match kind, word.toList with
        | .bytes, _ =>
          Tool.failWords "an input delimiter may be specified only when operating on fields"
        | _, [c] => pure c
        | _, [] => pure '\x00'
        | _, _ => Tool.failWords "the delimiter must be a single character"
    let parts := (given.argument.splitOn ",").flatMap (·.splitOn " ")
    let ranges ← parts.mapM (readRange kind)
    let inverts := isGiven options 'C'
    forTexts files fun text => do
      let cut (line : List Char) : List (List Char) :=
        match kind with
        | .bytes =>
          let between := ((lastOf? options 'O').getD "").toList
          [between.intercalate (runs ranges inverts line)]
        | .fields =>
          let fields := fieldsOf tab line
          if fields.length = 1 then if isGiven options 's' then [] else [line]
          else
            let between := ((lastOf? options 'O').getD tab.toString).toList
            [between.intercalate (chosen ranges inverts fields)]
      Tool.say (joinLines ((Tool.lines text).flatMap cut))

end Cut

namespace Paste

/-- The characters that a list of separators tells. -/
def separators : List Char → List (List Char)
  | [] => []
  | '\\' :: 'n' :: rest => ['\n'] :: separators rest
  | '\\' :: 't' :: rest => ['\t'] :: separators rest
  | '\\' :: '0' :: rest => [] :: separators rest
  | '\\' :: c :: rest => [c] :: separators rest
  | c :: rest => [c] :: separators rest

/-- Joins parts with separators, which are used in turn. -/
def joined (separators : List (List Char)) (parts : List (List Char)) : List Char :=
  ((List.range parts.length).zip parts).flatMap fun (n, part) =>
    if n = 0 then part
    else separators.getD ((n - 1) % max 1 separators.length) [] ++ part

/-- Puts lines of files side by side. -/
def run (words : List String) : Tool Unit := do
  let table : OptionTable :=
    { letters := "d:sz", names := [("delimiters", .required, 'd'), ("serial", .no, 's')] }
  let (options, files) ← table.read words
  let separators := separators ((lastOf? options 'd').getD "\t").toList
  let separators := if separators.isEmpty then [[]] else separators
  let files := orInput files
  let texts ← files.mapM fun path => return (← Tool.readFile path).map Tool.lines
  let texts := texts.filterMap id
  if isGiven options 's' then
    Tool.say (joinLines (texts.map (joined separators)))
  else if (← get).status = 0 then
    let inputs := (files.filter (· == "-")).length
    let texts := if inputs < 2 then texts
      else
        let lines := (texts.map fun text => text).flatten
        (List.range inputs).map fun k =>
          ((List.range lines.length).zip lines).filterMap fun (n, line) =>
            if n % inputs = k then some line else none
    let rows := texts.foldl (fun n text => max n text.length) 0
    let row (n : Nat) : List Char := joined separators (texts.map fun text => text.getD n [])
    Tool.say (joinLines ((List.range rows).map row))

end Paste

namespace Comm

/-- What is told about lines that are out of order. -/
inductive Checking where
  /-- Nothing. -/
  | never
  /-- Something, once there is a line in one file only. -/
  | usual
  /-- Everything, and that is the end. -/
  | always
  deriving DecidableEq, Repr

/-- How the lines are shown. -/
structure Plan where
  hidden : List Nat := []
  separator : String := "\t"
  ending : Char := '\n'
  checking : Checking := .usual

/-- What is left of a file, and its last line before that. -/
structure Side where
  rest : List (List Char)
  before : Option (List Char) := none
  /-- Whether lines have been found to be out of order. -/
  isOdd : Bool := false

/-- The two files, and how many lines each column has. -/
structure State where
  first : Side
  second : Side
  counts : Nat × Nat × Nat := (0, 0, 0)

/-- Whether a line has been found in one file only. -/
def State.isUneven (s : State) : Bool := 0 < s.counts.1 || 0 < s.counts.2.1

/-- Sees whether two lines of a file are in order. -/
def check (p : Plan) (isUneven : Bool) (number : Nat) (side : Side) (a b : List Char) : Tool Side := do
  let matters := p.checking = .always || p.checking = .usual && isUneven
  if matters && !side.isOdd && Order.compareTexts a b == .gt then
    let detail := "file " ++ toString number ++ " is not in sorted order"
    if p.checking = .always then Tool.fail detail
    Tool.complain detail
    return { side with isOdd := true }
  return side

/-- Goes to the next line of a file. -/
def advance (p : Plan) (isUneven : Bool) (number : Nat) (side : Side) : Tool Side := do
  match side.rest, side.before with
  | a :: b :: rest, _ =>
    check p isUneven number { side with rest := b :: rest, before := some a } a b
  | [a], some b => check p isUneven number { side with rest := [], before := some a } b a
  | [a], none => return { side with rest := [], before := some a }
  | [], _ => return side

/-- Shows a line in a column. -/
def showLine (p : Plan) (column : Nat) (line : List Char) : Tool Unit := do
  unless p.hidden.contains column do
    let front := (List.range column).filter fun k => 0 < k && !p.hidden.contains k
    Tool.say (String.join (front.map fun _ => p.separator) ++ String.ofList line ++
      p.ending.toString)

/-- Goes through both files; `fuel` bounds the number of lines. -/
def merge (p : Plan) : Nat → State → Tool State
  | 0, s => return s
  | fuel + 1, s => do
    let order : Option (Ordering × List Char) := match s.first.rest, s.second.rest with
      | [], [] => none
      | a :: _, [] => some (.lt, a)
      | [], b :: _ => some (.gt, b)
      | a :: _, b :: _ =>
        let order := Order.compareTexts a b
        some (order, if order == .gt then b else a)
    match order with
    | none => return s
    | some (order, line) =>
      let (n, m, k) := s.counts
      let (column, counts) := match order with
        | .lt => (1, (n + 1, m, k))
        | .gt => (2, (n, m + 1, k))
        | .eq => (3, (n, m, k + 1))
      showLine p column line
      let s := { s with counts }
      let first ← if order == .gt then pure s.first else advance p s.isUneven 1 s.first
      let second ← if order == .lt then pure s.second else advance p s.isUneven 2 s.second
      merge p fuel { s with first, second }

def table : OptionTable where
  letters := "123z"
  names := [("check-order", .no, 'c'), ("nocheck-order", .no, 'n'),
    ("output-delimiter", .required, 'd'), ("total", .no, 't'), ("zero-terminated", .no, 'z')]

/-- Compares two ordered files line by line. -/
def run (words : List String) : Tool Unit := do
  let (options, files) ← table.read words
  match files with
  | [] => Tool.failMissing
  | [file] => Tool.failWords ("missing operand after " ++ Quote.text file)
  | [first, second] =>
    let ending := if isGiven options 'z' then Char.ofNat 0 else '\n'
    let load (path : String) : Tool (List (List Char)) := do
      match ← Tool.readFile path with
      | some text => return Tool.linesBy ending text
      | none => throw 1
    let as ← load first
    let bs ← load second
    let letters := options.map (·.letter)
    let checking := match (letters.filter fun c => c = 'c' || c = 'n').getLast? with
      | some 'c' => .always
      | some _ => .never
      | none => .usual
    let hidden := [1, 2, 3].filter fun n => letters.contains (Char.ofNat (48 + n))
    let separator := match lastOf? options 'd' with
      | none => "\t"
      | some text => if text.isEmpty then "\x00" else text
    let p : Plan := { hidden, separator, ending, checking }
    let s ← merge p (as.length + bs.length + 1) { first := { rest := as }, second := { rest := bs } }
    if letters.contains 't' then
      let (n, m, k) := s.counts
      Tool.say (separator.intercalate [toString n, toString m, toString k, "total"] ++
        ending.toString)
    if s.first.isOdd || s.second.isOdd then Tool.warn "input is not in sorted order"
  | _ :: _ :: extra :: _ => Tool.failExtra extra

end Comm

/-! ### Characters -/

namespace Tr

/-- The characters of a class. -/
def classOf? (name : String) : Option (List Char) :=
  let all := (List.range 256).map Char.ofNat
  let isPrint (c : Char) : Bool := 32 ≤ c.toNat && c.toNat < 127
  let pick (test : Char → Bool) : Option (List Char) := some (all.filter test)
  match name with
  | "alnum" => pick Char.isAlphanum
  | "alpha" => pick Char.isAlpha
  | "blank" => pick fun c => c == ' ' || c == '\t'
  | "cntrl" => pick fun c => c.toNat < 32 || c.toNat == 127
  | "digit" => pick Char.isDigit
  | "graph" => pick fun c => isPrint c && c != ' '
  | "lower" => pick Char.isLower
  | "print" => pick isPrint
  | "punct" => pick fun c => isPrint c && c != ' ' && !c.isAlphanum
  | "space" => pick Wc.isSpace
  | "upper" => pick Char.isUpper
  | "xdigit" => pick fun c =>
      c.isDigit || 'a' ≤ c && c ≤ 'f' || 'A' ≤ c && c ≤ 'F'
  | _ => none

/-- A part of a set of characters. -/
inductive Part where
  | chars (chars : List Char)
  /-- A character that is repeated a number of times, or as often as there is room. -/
  | repeated (c : Char) (count : Nat)

/-- A character that may be written with a backslash, whether it was, and what is behind. -/
def character : List Char → Option (Char × Bool × List Char)
  | [] => none
  | '\\' :: rest =>
    let octal := (rest.take 3).takeWhile fun c => '0' ≤ c && c ≤ '7'
    if !octal.isEmpty then
      let n := octal.foldl (fun n c => n * 8 + (c.toNat - 48)) 0
      if n < 256 then some (Char.ofNat n, true, rest.drop octal.length)
      else some (Char.ofNat (n / 8), true, rest.drop 2)
    else match rest with
      | [] => some ('\\', true, [])
      | c :: rest =>
        let named := [('a', 7), ('b', 8), ('f', 12), ('n', 10), ('r', 13), ('t', 9), ('v', 11)]
        some (((named.lookup c).map Char.ofNat).getD c, true, rest)
  | c :: rest => some (c, false, rest)

/-- The parts of a set of characters. -/
def parts : Nat → List Char → List Part → Tool (List Part)
  | 0, _, found => return found.reverse
  | fuel + 1, text, found => do
    match text with
    | '[' :: ':' :: rest =>
      let name := String.ofList (rest.takeWhile (· != ':'))
      match rest.drop name.length with
      | ':' :: ']' :: rest =>
        match classOf? name with
        | some chars => return ← parts fuel rest (.chars chars :: found)
        | none => Tool.fail ("invalid character class " ++ Quote.text name)
      | _ => pure ()
    | '[' :: '=' :: c :: '=' :: ']' :: rest =>
      return ← parts fuel rest (.chars [c] :: found)
    | '[' :: rest =>
      if let some (c, _, '*' :: rest) := character rest then
        let digits := rest.takeWhile Char.isDigit
        if let ']' :: rest := rest.drop digits.length then
          let base := if digits.head? = some '0' then 8 else 10
          let count := digits.foldl (fun n c => n * base + (c.toNat - 48)) 0
          return ← parts fuel rest (.repeated c count :: found)
    | _ => pure ()
    match character text with
    | none => return found.reverse
    | some (first, _, rest) =>
      match rest with
      | '-' :: more =>
        match character more with
        | none => parts fuel rest (.chars [first] :: found)
        | some (last, _, behind) =>
          if last.toNat < first.toNat then
            let shown := String.ofList (text.take (text.length - behind.length))
            Tool.fail (s!"range-endpoints of {Quote.text shown} are in reverse collating " ++
              "sequence order")
          let range := (List.range (last.toNat - first.toNat + 1)).map fun k =>
            Char.ofNat (first.toNat + k)
          parts fuel behind (.chars range :: found)
      | _ => parts fuel rest (.chars [first] :: found)

/-- The characters of parts; a repeated one without a count fills up to a size. -/
def charsOf (size : Nat) (parts : List Part) : List Char :=
  let fixed := parts.foldl (fun n part => match part with
    | .chars chars => n + chars.length
    | .repeated _ count => n + count) 0
  parts.flatMap fun
    | .chars chars => chars
    | .repeated c 0 => List.replicate (size - fixed) c
    | .repeated c count => List.replicate count c

/-- What is done with the characters of the input. -/
structure Plan where
  deleted : Array Bool
  mapped : Array Char
  squeezed : Array Bool

/-- Carries a plan out on a part of the input; `last` is the last character that was written. -/
def carryOut (p : Plan) : List Char → Option Char → List Char → List Char × Option Char
  | [], last, done => (done.reverse, last)
  | c :: rest, last, done =>
    if p.deleted.getD c.toNat false then carryOut p rest last done
    else
      let c := p.mapped.getD c.toNat c
      if last == some c && p.squeezed.getD c.toNat false then carryOut p rest last done
      else carryOut p rest (some c) (c :: done)

/-- Carries a plan out on the input, part by part. -/
def copy (p : Plan) (last : Option Char) : Nat → Tool Unit
  | 0 => return
  | fuel + 1 => do
    match ← Tool.readSome 0 Tool.blockSize with
    | .ok [] => return
    | .ok part =>
      let (text, last) := carryOut p part last []
      Tool.say (String.ofList text)
      copy p last fuel
    | .error e => Tool.fail ("read error: " ++ e.reason)

def tableOf (chars : List Char) : Array Bool :=
  chars.foldl (fun t c => t.setIfInBounds c.toNat true) (Array.replicate 256 false)

/-- Replaces or deletes characters. -/
def run (words : List String) : Tool Unit := do
  let table : OptionTable :=
    { letters := "cCdst", isStrict := true
      names := [("complement", .no, 'c'), ("delete", .no, 'd'), ("squeeze-repeats", .no, 's'),
        ("truncate-set1", .no, 't')] }
  let (options, sets) ← table.read words
  let inverts := isGiven options 'c' || isGiven options 'C'
  let deletes := isGiven options 'd'
  let squeezes := isGiven options 's'
  let translates := sets.length = 2 && !deletes
  match sets with
  | [] => Tool.failMissing
  | [only] =>
    if deletes == squeezes then
      Tool.complain ("missing operand after " ++ Quote.text only)
      if squeezes then
        Tool.tell "Two strings must be given when both deleting and squeezing repeats.\n"
      else Tool.tell "Two strings must be given when translating.\n"
      Tool.failUsage
  | _ :: second :: rest =>
    if deletes && !squeezes then
      Tool.complain ("extra operand " ++ Quote.text second)
      if rest.isEmpty then
        Tool.tell "Only one string may be given when deleting without squeezing repeats.\n"
      Tool.failUsage
    match rest with
    | extra :: _ => Tool.failExtra extra
    | [] => pure ()
  let read (text : String) : Tool (List Part) := parts (text.length + 1) text.toList []
  let first := charsOf 0 (← read (sets.headD ""))
  let first := if inverts then
      let listed := tableOf first
      ((List.range 256).filter fun n => !listed.getD n false).map Char.ofNat
    else first
  let second := charsOf first.length (← read ((sets.drop 1).headD ""))
  if translates && second.isEmpty && !isGiven options 't' then
    Tool.fail "when not truncating set1, string2 must be non-empty"
  let identity : Array Char := ((List.range 256).map Char.ofNat).toArray
  let pairs := if isGiven options 't' then first.zip second
    else first.zip (second ++ List.replicate (first.length - second.length)
      (second.getLast?.getD ' '))
  let mapped := if translates then
      pairs.foldl (fun (t : Array Char) (c, d) => t.setIfInBounds c.toNat d) identity
    else identity
  let none_ : Array Bool := Array.replicate 256 false
  let plan : Plan :=
    { deleted := if deletes then tableOf first else none_
      mapped
      squeezed := if !squeezes then none_
        else if sets.length = 2 then tableOf second else tableOf first }
  copy plan none Tool.partLimit

end Tr

/-! ### Made-up lines -/

namespace Seq

/-- A decimal number: its digits as one number, and how many stand behind the point. -/
def number? (text : String) : Option (Int × Nat) :=
  let (isNegative, chars) := match text.toList with
    | '-' :: rest => (true, rest)
    | '+' :: rest => (false, rest)
    | chars => (false, chars)
  let whole := chars.takeWhile Char.isDigit
  let fraction := match chars.drop whole.length with
    | '.' :: rest => some rest
    | [] => some []
    | _ => none
  match fraction with
  | none => none
  | some fraction =>
    if !fraction.all Char.isDigit || whole.isEmpty && fraction.isEmpty then none
    else
      let n : Int := ((String.ofList (whole ++ fraction)).toNat?.getD 0 : Nat)
      some (if isNegative then -n else n, fraction.length)

/-- A decimal number in figures. -/
def shown (places : Nat) (n : Int) : String :=
  let digits := padLeft (places + 1) (toString n.natAbs) '0'
  let whole := digits.toList.take (digits.length - places)
  let fraction := digits.toList.drop (digits.length - places)
  (if n < 0 then "-" else "") ++ String.ofList whole ++
    if places = 0 then "" else "." ++ String.ofList fraction

/-- A number in figures that is filled up with zeros. -/
def widened (width : Nat) (text : String) : String :=
  match text.toList with
  | '-' :: digits => "-" ++ padLeft (width - 1) (String.ofList digits) '0'
  | _ => padLeft width text '0'

/-- Writes numbers; `fuel` bounds how many. -/
def count (show_ : Int → String) (between : String) (step last : Int) : Nat → Int → Bool → Tool Unit
  | 0, _, _ => return
  | fuel + 1, n, isFirst => do
    if (if 0 < step then last < n else n < last) then
      unless isFirst do Tool.say "\n"
    else
      Tool.say ((if isFirst then "" else between) ++ show_ n)
      count show_ between step last fuel (n + step) false

/-- Writes the numbers from one to another one. -/
def run (words : List String) : Tool Unit := do
  let table : OptionTable :=
    { letters := "f:s:w", isStrict := true
      names := [("format", .required, 'f'), ("separator", .required, 's'),
        ("equal-width", .no, 'w')] }
  let isNumber (word : String) : Bool :=
    match word.toList with
    | '-' :: c :: _ => c.isDigit || c == '.'
    | _ => false
  let front := words.takeWhile fun word => !isNumber word
  let (options, others) ← table.read front
  let operands := others ++ words.drop front.length
  match operands with
  | [] => Tool.failMissing
  | _ :: _ :: _ :: extra :: _ => Tool.failExtra extra
  | _ => pure ()
  let numbers ← operands.mapM fun word => do
    match number? word with
    | some n => return n
    | none => Tool.failWords ("invalid floating point argument: " ++ Quote.text word)
  let (first, step, last) := match numbers with
    | [last] => ((1, 0), (1, 0), last)
    | [first, last] => (first, (1, 0), last)
    | first :: step :: last :: _ => (first, step, last)
    | [] => ((1, 0), (1, 0), (0, 0))
  if step.1 = 0 then
    Tool.failWords ("invalid Zero increment value: " ++ Quote.text (operands.getD 1 ""))
  let places := max first.2 step.2
  let scale := max places last.2
  let scaled (n : Int × Nat) : Int := n.1 * Nat.pow 10 (scale - n.2)
  let plain (n : Int) : String := shown places (n / Nat.pow 10 (scale - places))
  let width := max (plain (scaled first)).length (plain (scaled last)).length
  let show_ (n : Int) : String :=
    match lastOf? options 'f' with
    | some format =>
      (Shell.Format.carryOut format [plain n]).output
    | none => if isGiven options 'w' then widened width (plain n) else plain n
  let between := (lastOf? options 's').getD "\n"
  count show_ between (scaled step) (scaled last) Tool.partLimit (scaled first) true

end Seq

namespace Yes

/-- Writes a text again and again. -/
def repeat_ (block : String) : Nat → Tool Unit
  | 0 => return
  | fuel + 1 => do
    match ← Tool.write 1 block with
    | .ok () => repeat_ block fuel
    | .error e => Tool.fail ("standard output: " ++ e.reason)

/-- Writes a line again and again. -/
def run (words : List String) : Tool Unit := do
  let table : OptionTable := { letters := "", isStrict := true }
  let (_, words) ← table.read words
  let line := (if words.isEmpty then "y" else " ".intercalate words) ++ "\n"
  let block := String.join (List.replicate (max 1 (Tool.partSize * 2 / line.length)) line)
  repeat_ block Tool.partLimit

end Yes

end DeviceLab.Tools
