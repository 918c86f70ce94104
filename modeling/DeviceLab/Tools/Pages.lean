import DeviceLab.Tools.Patterns

/-!
# Programs that number lines or turn them around

Programs that number the lines of pages, and that write the last part of a text first: `nl`, `tac`.
-/

namespace DeviceLab.Tools

open Text Unix

namespace Nl

/-- Which lines are numbered. -/
inductive Style where
  | all
  | filled
  | none_
  | fitting (p : Pattern)

/-- How lines are numbered. -/
structure Plan where
  header : Style := .none_
  body : Style := .filled
  footer : Style := .none_
  start : Int := 1
  step : Int := 1
  /-- Whether the numbers start again on each page. -/
  restarts : Bool := true
  /-- How many empty lines count as one. -/
  joined : Nat := 1
  between : String := "\t"
  width : Nat := 6
  atLeft : Bool := false
  zeros : Bool := false
  mark : List Char := ['\\', ':']

/-- The style that a word tells. -/
def styleOf (what word : String) : Tool (Option Style) := do
  match word.toList with
  | 'a' :: _ => return some .all
  | 't' :: _ => return some .filled
  | 'n' :: _ => return some .none_
  | 'p' :: text =>
    match Pattern.read false false text with
    | .ok found => return some (.fitting found.pattern)
    | .error e => Tool.fail e
  | _ =>
    Tool.complain ("invalid " ++ what ++ " numbering style: " ++ Quote.text word)
    return none

/-- The number of a line as it is shown. -/
def Plan.number (p : Plan) (n : Int) : String :=
  let layout : Decimal.Layout := { atLeft := p.atLeft, zeros := p.zeros, width := p.width }
  layout.whole n ++ p.between

/-- What is known between two lines. -/
structure State where
  number : Int
  style : Style
  blanks : Nat := 0

/-- Numbers a line. -/
def numbered (p : Plan) (s : State) (line : List Char) : Tool State := do
  let plain : Tool State := do
    Tool.sayLine (String.ofList (List.replicate (p.width + p.between.length) ' ' ++ line))
    return s
  let counted (s : State) : Tool State := do
    Tool.sayLine (p.number s.number ++ String.ofList line)
    return { s with number := s.number + p.step }
  match s.style with
  | .none_ => plain
  | .filled => if line.isEmpty then plain else counted s
  | .fitting pattern =>
    if (pattern.findFrom { chars := line.toArray } 0).isSome then counted s else plain
  | .all =>
    if p.joined ≤ 1 then counted s
    else if !line.isEmpty || s.blanks + 1 = p.joined then counted { s with blanks := 0 }
    else do
      discard plain
      return { s with blanks := s.blanks + 1 }

/-- Deals with a line, which may start a part of a page. -/
def step (p : Plan) (s : State) (line : List Char) : Tool State := do
  let marks (n : Nat) : List Char := (List.replicate n p.mark).flatten
  let style : Option Style :=
    if p.mark.length < 2 then none
    else if line == marks 3 then some p.header
    else if line == marks 2 then some p.body
    else if line == marks 1 then some p.footer
    else none
  match style with
  | some style =>
    Tool.say "\n"
    return { s with style, number := if p.restarts then p.start else s.number }
  | none => numbered p s line

/-- The options of `nl`. -/
def table : OptionTable where
  letters := "h:b:f:v:i:pl:s:w:n:d:"
  names := [("header-numbering", .required, 'h'), ("body-numbering", .required, 'b'),
    ("footer-numbering", .required, 'f'), ("starting-line-number", .required, 'v'),
    ("line-increment", .required, 'i'), ("no-renumber", .no, 'p'),
    ("join-blank-lines", .required, 'l'), ("number-separator", .required, 's'),
    ("number-width", .required, 'w'), ("number-format", .required, 'n'),
    ("section-delimiter", .required, 'd')]

/-- What an option changes; there is no plan once something is wrong. -/
def withOption (p : Plan × Bool) (given : Given) : Tool (Plan × Bool) := do
  let (p, isOk) := p
  let word := given.argument
  let style (what : String) (change : Style → Plan) : Tool (Plan × Bool) := do
    match ← styleOf what word with
    | some s => return (change s, isOk)
    | none => return (p, false)
  match given.letter with
  | 'h' => style "header" fun s => { p with header := s }
  | 'b' => style "body" fun s => { p with body := s }
  | 'f' => style "footer" fun s => { p with footer := s }
  | 'v' =>
    let start ← wholeBetween (-mostSigned - 1) mostSigned "invalid starting line number" word
    return ({ p with start }, isOk)
  | 'i' =>
    let step ← wholeBetween (-mostSigned - 1) mostSigned "invalid line number increment" word
    return ({ p with step }, isOk)
  | 'p' => return ({ p with restarts := false }, isOk)
  | 'l' =>
    let joined ← wholeBetween 1 mostSigned "invalid line number of blank lines" word
    return ({ p with joined := joined.toNat }, isOk)
  | 's' => return ({ p with between := word }, isOk)
  | 'w' =>
    let width ← wholeBetween 1 2147483647 "invalid line number field width" word
    return ({ p with width := width.toNat }, isOk)
  | 'n' =>
    match word with
    | "ln" => return ({ p with atLeft := true, zeros := false }, isOk)
    | "rn" => return ({ p with atLeft := false, zeros := false }, isOk)
    | "rz" => return ({ p with atLeft := false, zeros := true }, isOk)
    | _ =>
      Tool.complain ("invalid line numbering format: " ++ Quote.text word)
      return (p, false)
  | _ =>
    match word.toList with
    | [c] => return ({ p with mark := c :: p.mark.drop 1 }, isOk)
    | chars => return ({ p with mark := chars }, isOk)

/-- Numbers the lines of files. -/
def run (words : List String) : Tool Unit := do
  let (options, files) ← table.read words
  let (p, isOk) ← options.foldlM withOption (({} : Plan), true)
  unless isOk do Tool.failUsage
  discard <| (orInput files).foldlM (fun (s : State) path => do
    match ← Tool.readFile path with
    | none => return s
    | some text => (Tool.lines text).foldlM (step p) s) { number := p.start, style := p.body }

end Nl

namespace Tac

/-- The places in a text at which separators start, the last one first, with the places behind them;
`fuel` bounds their number. -/
def separatorsBefore (lengthAt : Nat → Option Nat) : Nat → Nat → List (Nat × Nat)
  | 0, _ => []
  | fuel + 1, behind =>
    let found := (List.range behind).reverse.findSome? fun n =>
      (lengthAt n).bind fun size =>
        if n + size ≤ behind then some (n, n + size) else none
    match found with
    | some (first, last) => (first, last) :: separatorsBefore lengthAt fuel first
    | none => []

/-- The parts of a text, the last one first; `isFront` tells that separators stand in front of their
parts. -/
def parts (isFront : Bool) (text : Array Char) : List (Nat × Nat) → Nat → List (List Char)
  | [], behind => [(text.extract 0 behind).toList]
  | (first, last) :: rest, behind =>
    let cut := if isFront then first else last
    (text.extract cut behind).toList :: parts isFront text rest cut

/-- Writes the parts of files from the last one to the first one. -/
def run (words : List String) : Tool Unit := do
  let table : OptionTable :=
    { letters := "brs:"
      names := [("before", .no, 'b'), ("regex", .no, 'r'), ("separator", .required, 's')] }
  let (options, files) ← table.read words
  let separator := ((lastOf? options 's').getD "\n").toList
  let isPattern := isGiven options 'r'
  if isPattern && separator.isEmpty then Tool.fail "separator cannot be empty"
  let separator := if separator.isEmpty then ['\x00'] else separator
  let pattern : Option Pattern ← if isPattern then
      match Pattern.read false false separator with
      | .ok found => pure (some found.pattern)
      | .error e => Tool.fail e
    else pure none
  (orInput files).forM fun path => do
    let shown := if path = "-" then "standard input" else path
    match ← Tool.open_ path with
    | .error e =>
      Tool.warn ("failed to open " ++ Quote.always path ++ " for reading: " ++ e.reason)
    | .ok descriptor =>
      match ← Tool.readAll descriptor with
      | .error e => Tool.warn (Quote.always shown ++ ": read error: " ++ e.reason)
      | .ok text =>
        let whole := text.toArray
        let size := separator.length
        let isAt (n : Nat) : Bool := (whole.extract n (n + size)).toList == separator
        let places : List (Nat × Nat) := match pattern, separator with
          | some p, _ =>
            let line : Pattern.Line := { chars := whole, hasLines := true }
            separatorsBefore (fun n => (p.findAt line n).map fun (m, _) => m - n)
              (whole.size + 1) whole.size
          | none, [c] =>
            ((List.range whole.size).filter fun n => whole.getD n ' ' == c).reverse.map fun n =>
              (n, n + 1)
          | none, _ =>
            separatorsBefore (fun n => if isAt n then some size else none) (whole.size + 1)
              whole.size
        for part in parts (isGiven options 'b') whole places whole.size do
          Tool.say (String.ofList part)

end Tac

end DeviceLab.Tools
