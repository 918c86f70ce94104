import DeviceLab.Shell.Format
import DeviceLab.Tools.Texts

/-!
# Programs that order lines

Programs that order lines, and that leave out lines that repeat others: `sort`, `uniq`.

* `Order.compareBy`: the order of two lines by a key.
* `Order.compareVersions`: the order of names with numbers in them.
-/

namespace DeviceLab.Tools

open Text Unix

def joinLines (lines : List (List Char)) : String :=
  String.join (lines.map fun line => String.ofList line ++ "\n")

/-! ### Order -/

namespace Order

/-- How keys are compared. -/
structure Manner where
  skipsBlanks : Bool := false
  skipsEndBlanks : Bool := false
  isNumeric : Bool := false
  isGeneral : Bool := false
  isHuman : Bool := false
  isMonth : Bool := false
  isVersion : Bool := false
  isRandom : Bool := false
  foldsCase : Bool := false
  isDictionary : Bool := false
  isPrintable : Bool := false
  isReversed : Bool := false

/-- Whether nothing is said about the manner, but perhaps that the order is turned around. -/
def Manner.isUsual (m : Manner) : Bool :=
  !(m.skipsBlanks || m.skipsEndBlanks || m.isNumeric || m.isGeneral || m.isHuman || m.isMonth ||
    m.isVersion || m.isRandom || m.foldsCase || m.isDictionary || m.isPrintable)

/-- A manner with a letter added; `front` and `back` tell at which end of the key it stands. -/
def Manner.with? (m : Manner) (front back : Bool) (letter : Char) : Option Manner :=
  match letter with
  | 'b' => some { m with
      skipsBlanks := m.skipsBlanks || front, skipsEndBlanks := m.skipsEndBlanks || back }
  | 'n' => some { m with isNumeric := true }
  | 'g' => some { m with isGeneral := true }
  | 'h' => some { m with isHuman := true }
  | 'M' => some { m with isMonth := true }
  | 'V' => some { m with isVersion := true }
  | 'R' => some { m with isRandom := true }
  | 'f' => some { m with foldsCase := true }
  | 'd' => some { m with isDictionary := true }
  | 'i' => some { m with isPrintable := !m.isDictionary }
  | 'r' => some { m with isReversed := true }
  | _ => none

/-- The letters of a manner that cannot stand together with others. -/
def Manner.letters (m : Manner) : String :=
  let all : List (Bool × Char) :=
    [(m.isDictionary, 'd'), (m.foldsCase, 'f'), (m.isGeneral, 'g'), (m.isHuman, 'h'),
      (m.isPrintable, 'i'), (m.isMonth, 'M'), (m.isNumeric, 'n'), (m.isRandom, 'R'),
      (m.isVersion, 'V')]
  String.ofList ((all.filter (·.1)).map (·.2))

/-- Whether a manner asks for several kinds of order at once. -/
def Manner.isTorn (m : Manner) : Bool :=
  let kinds := [m.isNumeric, m.isGeneral, m.isHuman, m.isMonth,
    m.isVersion || m.isRandom || m.isDictionary || m.isPrintable]
  1 < (kinds.filter id).length

/-- A part of a line that is compared. -/
structure Key where
  firstField : Nat := 0
  firstChar : Nat := 0
  /-- The field with its end, unless it is the end of the line. -/
  lastField : Option Nat := none
  lastChar : Nat := 0
  manner : Manner := {}

def isBlank (c : Char) : Bool := c == ' ' || c == '\t' || c == '\n'

/-- A line behind a number of fields; `keepsLast` tells that the separator of the last one stays. -/
def behindFields (tab : Option Char) (keepsLast : Bool) : Nat → List Char → List Char
  | 0, line => line
  | n + 1, line =>
    match tab with
    | none => behindFields tab keepsLast n ((line.dropWhile isBlank).dropWhile (!isBlank ·))
    | some tab =>
      let rest := line.dropWhile (· != tab)
      if n = 0 && keepsLast then rest else behindFields (some tab) keepsLast n (rest.drop 1)

/-- The part of a line that a key tells. -/
def part (tab : Option Char) (key : Key) (line : List Char) : List Char :=
  let start := behindFields tab false key.firstField line
  let start := if key.manner.skipsBlanks then start.dropWhile isBlank else start
  let start := start.drop key.firstChar
  match key.lastField with
  | none => start
  | some field =>
    let behind := if key.lastChar = 0 then behindFields tab true (field + 1) line
      else
        let rest := behindFields tab false field line
        (if key.manner.skipsEndBlanks then rest.dropWhile isBlank else rest).drop key.lastChar
    start.take (start.length - behind.length)

/-! ### Kinds of order -/

/-- The number at the start of a text: its digits as one number, and how many stand behind the
point; and what is behind it. -/
def numberAt (text : List Char) : (Int × Nat) × List Char :=
  let text := text.dropWhile isBlank
  let (isNegative, text) := match text with
    | '-' :: rest => (true, rest)
    | _ => (false, text)
  let whole := text.takeWhile Char.isDigit
  let rest := text.drop whole.length
  let (fraction, rest) := match rest with
    | '.' :: rest =>
      let digits := rest.takeWhile Char.isDigit
      (digits, rest.drop digits.length)
    | _ => ([], rest)
  let n : Int := ((String.ofList (whole ++ fraction)).toNat?.getD 0 : Nat)
  ((if isNegative then -n else n, fraction.length), rest)

def compareNumbers (a b : Int × Nat) : Ordering :=
  compare (a.1 * Nat.pow 10 b.2) (b.1 * Nat.pow 10 a.2)

/-- The rank of the letter behind a number that makes it larger; zero has none. -/
def unitRank (text : List Char) : Int :=
  let ((n, _), rest) := numberAt text
  let isNegative := (text.dropWhile isBlank).head? == some '-'
  if n = 0 then 0
  else
    let letters : List (Char × Int) :=
      [('K', 1), ('k', 1), ('M', 2), ('G', 3), ('T', 4), ('P', 5), ('E', 6), ('Z', 7), ('Y', 8),
        ('R', 9), ('Q', 10)]
    let rank := (rest.head?.bind fun c => letters.lookup c).getD 0
    if isNegative then -rank else rank

/-- Compares real numbers; texts that are no numbers come first, and then values that are no
numbers. -/
def compareReals (a b : List Char) : Ordering :=
  let read (text : List Char) : Option Float :=
    (Shell.Format.realOf? text).map fun (x, _) => Float.ofBits x.bits
  match read a, read b with
  | none, none => .eq
  | none, some _ => .lt
  | some _, none => .gt
  | some x, some y =>
    if x < y then .lt else if y < x then .gt else if x == y then .eq
    else if y == y then .lt else if x == x then .gt else .eq

/-- The number of the month whose name a text starts with, or nothing. -/
def month (text : List Char) : Nat :=
  let name := ((text.dropWhile isBlank).take 3).map Char.toUpper
  let names := ["JAN", "FEB", "MAR", "APR", "MAY", "JUN", "JUL", "AUG", "SEP", "OCT", "NOV", "DEC"]
  match names.findIdx? fun month => month.toList == name with
  | some n => n + 1
  | none => 0

/-- Compares texts. -/
def compareTexts : List Char → List Char → Ordering
  | [], [] => .eq
  | [], _ => .lt
  | _, [] => .gt
  | a :: as, b :: bs =>
    match compare a.toNat b.toNat with
    | .eq => compareTexts as bs
    | o => o

/-- The rank of a character between the numbers of a name: a tilde comes before the end, letters come
behind it, and other characters behind letters. -/
def versionRank : List Char → Int
  | [] => -1
  | c :: _ =>
    if c.isDigit then 0
    else if c.isAlpha then c.toNat
    else if c = '~' then -2
    else c.toNat + 256

/-- Whether a name starts with something that is no number. -/
def startsPlain : List Char → Bool
  | [] => false
  | c :: _ => !c.isDigit

/-- Compares what stands before the next numbers of two names; gives what is behind. -/
def comparePlain : Nat → List Char → List Char → Except Ordering (List Char × List Char)
  | 0, a, b => .ok (a, b)
  | fuel + 1, a, b =>
    if startsPlain a || startsPlain b then
      if versionRank a != versionRank b then .error (compare (versionRank a) (versionRank b))
      else comparePlain fuel (a.drop 1) (b.drop 1)
    else .ok (a, b)

/-- Compares names part by part: numbers by their values, and what stands between them by ranks;
`fuel` bounds the number of parts. -/
def compareParts : Nat → List Char → List Char → Ordering
  | 0, _, _ => .eq
  | fuel + 1, a, b =>
    if a.isEmpty && b.isEmpty then .eq
    else
      match comparePlain (a.length + b.length + 1) a b with
      | .error o => o
      | .ok (a, b) =>
        let a := a.dropWhile (· = '0')
        let b := b.dropWhile (· = '0')
        let n := a.takeWhile Char.isDigit
        let m := b.takeWhile Char.isDigit
        match (compare n.length m.length).then (compareTexts n m) with
        | .eq => compareParts fuel (a.drop n.length) (b.drop m.length)
        | o => o

/-- What is left of a name without its endings, each of which is a point and letters. -/
def withoutEndings (name : List Char) : List Char :=
  let isStart (c : Char) : Bool := c.isAlpha || c = '~'
  let isInner (c : Char) : Bool := c.isAlphanum || c = '~'
  let rec areEndings : Nat → List Char → Bool
    | _, [] => true
    | 0, _ => false
    | fuel + 1, '.' :: c :: rest => isStart c && areEndings fuel (rest.dropWhile isInner)
    | _, _ => false
  let size := ((List.range name.length).drop 1).find? fun n =>
    areEndings name.length (name.drop n)
  name.take (size.getD name.length)

/-- Compares names with numbers in them: first without their endings. -/
def compareVersions (a b : List Char) : Ordering :=
  match a, b with
  | [], [] => .eq
  | [], _ => .lt
  | _, [] => .gt
  | _, _ =>
    let rank (name : List Char) : Nat :=
      if name = ['.'] then 0 else if name = ['.', '.'] then 1
      else if name.head? = some '.' then 2 else 3
    match compare (rank a) (rank b) with
    | .eq =>
      let fuel := a.length + b.length + 1
      match compareParts fuel (withoutEndings a) (withoutEndings b) with
      | .eq => compareParts fuel a b
      | o => o
    | o => o

/-- A text as it is compared. -/
def folded (m : Manner) (text : List Char) : List Char :=
  let isPrintable (c : Char) : Bool := 32 ≤ c.toNat && c.toNat < 127
  let text := if m.isDictionary then text.filter fun c => isBlank c || c.isAlphanum
    else if m.isPrintable then text.filter isPrintable else text
  if m.foldsCase then text.map Char.toUpper else text

/-- Compares the parts of two lines that a key tells. -/
def compareBy (tab : Option Char) (key : Key) (a b : List Char) : Ordering :=
  let m := key.manner
  let a := folded m (part tab key a)
  let b := folded m (part tab key b)
  let byNumber : Ordering := compareNumbers (numberAt a).1 (numberAt b).1
  let o := if m.isNumeric then byNumber
    else if m.isGeneral then compareReals a b
    else if m.isHuman then (compare (unitRank a) (unitRank b)).then byNumber
    else if m.isMonth then compare (month a) (month b)
    else if m.isVersion then compareVersions a b
    else compareTexts a b
  if m.isReversed then o.swap else o

/-- Compares two lines by keys, the first ones first. -/
def compareKeys (tab : Option Char) : List Key → List Char → List Char → Ordering
  | [], _, _ => .eq
  | key :: keys, a, b =>
    match compareBy tab key a b with
    | .eq => compareKeys tab keys a b
    | o => o

/-! ### Keys as they are written -/

/-- A count at the start of a text, and what is behind. -/
def count? (text : List Char) : Option (Nat × List Char) :=
  let digits := text.takeWhile Char.isDigit
  if digits.isEmpty then none
  else some ((String.ofList digits).toNat?.getD 0, text.drop digits.length)

/-- A count, which has to be there. -/
def needCount (what : String) (text : List Char) : Tool (Nat × List Char) :=
  match count? text with
  | some found => return found
  | none =>
    Tool.fail (what ++ ": invalid count at start of " ++ Quote.text (String.ofList text))

/-- The letters of a manner at the start of a text. -/
def manner (m : Manner) (front back : Bool) : List Char → Manner × List Char
  | [] => (m, [])
  | c :: rest =>
    match m.with? front back c with
    | some m => manner m front back rest
    | none => (m, c :: rest)

/-- The key that a word tells. -/
def readKey (word : String) : Tool Key := do
  let badField (detail : String) : Tool Unit :=
    Tool.fail (detail ++ ": invalid field specification " ++ Quote.text word)
  let (field, rest) ← needCount "invalid number at field start" word.toList
  if field = 0 then badField "field number is zero"
  let (char, rest) ← match rest with
    | '.' :: rest => needCount "invalid number after '.'" rest
    | _ => pure (1, rest)
  if char = 0 then badField "character offset is zero"
  let (m, rest) := manner {} true false rest
  let key : Key := { firstField := field - 1, firstChar := char - 1, manner := m }
  match rest with
  | ',' :: rest =>
    let (field, rest) ← needCount "invalid number after ','" rest
    if field = 0 then badField "field number is zero"
    let (char, rest) ← match rest with
      | '.' :: rest => needCount "invalid number after '.'" rest
      | _ => pure (0, rest)
    let (m, rest) := manner m false true rest
    unless rest.isEmpty do badField "stray character in field spec"
    return { key with lastField := some (field - 1), lastChar := char, manner := m }
  | rest =>
    unless rest.isEmpty do badField "stray character in field spec"
    return key

/-- The word of a key that an old word with a plus sign tells, perhaps with one behind it that has a
minus sign. -/
def oldKey? (first : String) (second : Option String) : Option String :=
  let place (text : List Char) (isEnd : Bool) : Option String := do
    let (field, rest) ← count? text
    let (char, rest) ← match rest with
      | '.' :: rest => count? rest
      | _ => some (0, rest)
    let (_, left) := manner {} true true rest
    if !left.isEmpty then none
    else
      let letters := String.ofList rest
      if isEnd then
        if char = 0 then some (toString field ++ letters)
        else some (toString (field + 1) ++ "." ++ toString char ++ letters)
      else some (toString (field + 1) ++ "." ++ toString (char + 1) ++ letters)
  match first.toList with
  | '+' :: rest =>
    (place rest false).bind fun start =>
      match second with
      | none => some start
      | some word => (place (word.toList.drop 1) true).map fun back => start ++ "," ++ back
  | _ => none

/-- Words in which keys are written in the new way. -/
def withNewKeys : List String → List String
  | [] => []
  | [word] =>
    match oldKey? word none with
    | some key => ["-k" ++ key]
    | none => [word]
  | word :: next :: rest =>
    let isEnd := match next.toList with
      | '-' :: c :: _ => c.isDigit
      | _ => false
    if isEnd then
      match oldKey? word (some next) with
      | some key => ("-k" ++ key) :: withNewKeys rest
      | none => word :: withNewKeys (next :: rest)
    else
      match oldKey? word none with
      | some key => ("-k" ++ key) :: withNewKeys (next :: rest)
      | none => word :: withNewKeys (next :: rest)

/-- The manner and the keys that options tell; a key without a manner has that of the options. -/
def keysOf (options : List Given) : Tool (Manner × List Key) := do
  let m := options.foldl (fun (m : Manner) given => (m.with? true true given.letter).getD m) {}
  let keys ← (options.filter fun given => given.letter == 'k').mapM fun given =>
    readKey given.argument
  let keys := keys.map fun key =>
    if key.manner.isUsual && !key.manner.isReversed then { key with manner := m } else key
  let keys := if keys.isEmpty && !m.isUsual then [{ manner := m }] else keys
  for key in keys do
    if key.manner.isTorn then
      Tool.fail ("options '-" ++ key.manner.letters ++ "' are incompatible")
  return (m, keys)

/-! ### The program -/

/-- Leaves out lines that are the same as the one before. -/
def distinct (isSame : List Char → List Char → Bool) :
    List (List Char) → List Char → List (List Char)
  | [], last => [last]
  | line :: rest, last =>
    if isSame last line then distinct isSame rest last else last :: distinct isSame rest line

/-- The number of the first line that comes in front of the one before it. -/
def disorder? (isBefore : List Char → List Char → Bool) :
    Nat → List (List Char) → Option (Nat × List Char)
  | n, a :: b :: rest => if isBefore b a then some (n + 1, b) else disorder? isBefore (n + 1) (b :: rest)
  | _, _ => none

/-- Puts lines of several files together, at each step the least of their first lines; `fuel` bounds
the number of lines. -/
def merged (compareLines : List Char → List Char → Ordering) :
    Nat → List (List (List Char)) → List (List Char)
  | 0, _ => []
  | fuel + 1, files =>
    let least := files.zipIdx.foldl (fun (least : Option (List Char × Nat)) (lines, n) =>
      match lines, least with
      | [], _ => least
      | line :: _, none => some (line, n)
      | line :: _, some (other, _) =>
        if (compareLines line other) == .lt then some (line, n) else least) none
    match least with
    | none => []
    | some (line, n) =>
      line :: merged compareLines fuel (files.modify n (List.drop 1))

/-- The options of `sort`. -/
def table : OptionTable where
  letters := "bcCdfghik:mMno:rRsS:t:T:uVy:z"
  names := [("numeric-sort", .no, 'n'), ("general-numeric-sort", .no, 'g'),
    ("human-numeric-sort", .no, 'h'), ("month-sort", .no, 'M'), ("version-sort", .no, 'V'),
    ("random-sort", .no, 'R'), ("dictionary-order", .no, 'd'), ("ignore-nonprinting", .no, 'i'),
    ("reverse", .no, 'r'), ("unique", .no, 'u'), ("key", .required, 'k'),
    ("field-separator", .required, 't'), ("output", .required, 'o'), ("stable", .no, 's'),
    ("ignore-case", .no, 'f'), ("check", .possible, '1'), ("ignore-leading-blanks", .no, 'b'),
    ("merge", .no, 'm'), ("zero-terminated", .no, 'z'), ("sort", .required, '2'),
    ("buffer-size", .required, 'S'), ("temporary-directory", .required, 'T'),
    ("parallel", .required, 'p'), ("batch-size", .required, 'p'),
    ("compress-program", .required, 'p'), ("random-source", .required, 'p'),
    ("files0-from", .required, '0')]

/-- Options in which those that name a kind are replaced by their letters. -/
def withLetters (options : List Given) : Tool (List Given) :=
  options.mapM fun given => do
    match given.letter with
    | '1' =>
      if given.argument.isEmpty then return { letter := 'c' }
      let letter ← chooseBy "--check"
        [(["quiet", "silent"], 'C'), (["diagnose-first"], 'c')] given.argument
      return { letter }
    | '2' =>
      let letter ← chooseBy "--sort"
        [(["general-numeric"], 'g'), (["human-numeric"], 'h'), (["month"], 'M'),
          (["numeric"], 'n'), (["random"], 'R'), (["version"], 'V')] given.argument
      return { letter }
    | _ => return given

/-- Reads the lines of a file. -/
def linesIn (ending : Char) (path : String) : Tool (List (List Char)) := do
  match ← Tool.open_ path with
  | .error e => Tool.fail ("cannot read: " ++ Quote.file path ++ ": " ++ e.reason)
  | .ok descriptor =>
    match ← Tool.readAll descriptor with
    | .ok text => return Tool.linesBy ending text
    | .error e => Tool.fail ("read failed: " ++ Quote.file path ++ ": " ++ e.reason)

/-- The files that are named in a file. -/
def filesIn (path : String) : Tool (List String) := do
  match ← Tool.open_ path with
  | .error e =>
    Tool.fail ("cannot open " ++ Quote.always path ++ " for reading: " ++ e.reason)
  | .ok descriptor =>
    let text := (← Tool.readAll descriptor).toOption.getD []
    if text.isEmpty then Tool.fail ("no input from " ++ Quote.text path)
    return (Tool.linesBy '\x00' text).map String.ofList

/-- Orders lines. -/
def run (words : List String) : Tool Unit := do
  modify fun s => { s with failStatus := 2 }
  let (options, files) ← table.read (withNewKeys words)
  let options ← withLetters options
  let files ← match lastOf? options '0', files with
    | none, files => pure files
    | some _, extra :: _ =>
      Tool.complain ("extra operand " ++ Quote.text extra)
      Tool.tell "file operands cannot be combined with --files0-from\n"
      Tool.failUsage
    | some path, [] => filesIn path
  let tab ← match lastOf? options 't' with
    | none => pure none
    | some word =>
      match word.toList with
      | [c] => pure (some c)
      | ['\\', '0'] => pure (some '\x00')
      | [] => Tool.fail "empty tab"
      | _ => Tool.fail ("multi-character tab " ++ Quote.text word)
  let (m, keys) ← keysOf options
  let checks := isGiven options 'c' || isGiven options 'C'
  if isGiven options 'c' && isGiven options 'C' then
    Tool.fail "options '-cC' are incompatible"
  if checks && isGiven options 'o' then
    let letter := if isGiven options 'c' then "c" else "C"
    Tool.fail ("options '-" ++ letter ++ "o' are incompatible")
  if checks then
    match files with
    | _ :: extra :: _ =>
      let letter := if isGiven options 'c' then "c" else "C"
      Tool.fail ("extra operand " ++ Quote.text extra ++ " not allowed with -" ++ letter)
    | _ => pure ()
  let isUnique := isGiven options 'u'
  let isStable := isUnique || isGiven options 's'
  let lastResort (a b : List Char) : Ordering :=
    if isStable && !keys.isEmpty then .eq
    else if m.isReversed then (compareTexts a b).swap else compareTexts a b
  let compareLines (a b : List Char) : Ordering := (compareKeys tab keys a b).then (lastResort a b)
  let ending := if isGiven options 'z' then '\x00' else '\n'
  let texts ← (orInput files).mapM (linesIn ending)
  let lines := texts.flatten
  if checks then
    let isBefore (b a : List Char) : Bool :=
      if isUnique then compareLines a b != .lt else compareLines a b == .gt
    match disorder? isBefore 1 lines with
    | none => return
    | some (n, line) =>
      if isGiven options 'c' then
        Tool.complain (files.headD "-" ++ s!":{n}: disorder: " ++ String.ofList line)
      throw 1
  let sorted := if isGiven options 'm' then merged compareLines (lines.length + 1) texts
    else lines.mergeSort fun a b => compareLines a b != .gt
  let sorted := match isUnique, sorted with
    | true, first :: rest => distinct (fun a b => (compareLines a b).isEq) rest first
    | _, _ => sorted
  let text := String.join (sorted.map fun line => String.ofList line ++ ending.toString)
  match lastOf? options 'o' with
  | none => Tool.say text
  | some path =>
    match ← Tool.ask (.openFile path .writing) with
    | .error e => Tool.fail ("open failed: " ++ Quote.file path ++ ": " ++ e.reason)
    | .ok descriptor => discard (Tool.write descriptor text)

end Order

/-! ### Repeated lines -/

namespace Uniq

/-- Where empty lines stand between groups of lines. -/
structure Gaps where
  before : Bool := false
  between : Bool := false
  behind : Bool := false

/-- What is written of groups of lines that are the same. -/
structure Plan where
  counts : Bool := false
  /-- Whether single lines, first lines of several ones, and all further lines are written. -/
  showsSingle : Bool := true
  showsFirst : Bool := true
  showsAll : Bool := false
  /-- Whether all lines of all groups are written. -/
  isGrouped : Bool := false
  gaps : Gaps := {}
  ending : Char := '\n'

/-- Lines in groups of neighbours that are the same. -/
def groups (isSame : List Char → List Char → Bool) : List (List Char) → List (List (List Char))
  | [] => []
  | line :: rest =>
    match groups isSame rest with
    | (next :: more) :: others =>
      if isSame line next then (line :: next :: more) :: others
      else [line] :: (next :: more) :: others
    | others => [line] :: others

/-- The part of a line that is compared. -/
def part (fields chars : Nat) (width : Option Nat) (line : List Char) : List Char :=
  let rec behind : Nat → List Char → List Char
    | 0, line => line
    | n + 1, line => behind n ((line.dropWhile Order.isBlank).dropWhile (!Order.isBlank ·))
  let line := (behind fields line).drop chars
  width.elim line line.take

/-- The lines of a group that are written. -/
def chosen (p : Plan) (group : List (List Char)) : List (List Char) :=
  if p.isGrouped then group
  else
    match group with
    | [only] => if p.showsSingle then [only] else []
    | group =>
      if p.showsAll then
        group.dropLast ++ if p.showsFirst then group.getLast?.toList else []
      else if p.showsFirst then group.head?.toList else []

/-- The text of groups. -/
def written (p : Plan) (all : List (List (List Char))) : String :=
  let line (n : Nat) (text : List Char) : String :=
    (if p.counts then padLeft 7 (toString n) ' ' ++ " " else "") ++ String.ofList text
      ++ p.ending.toString
  let parts := all.filterMap fun group =>
    match chosen p group with
    | [] => none
    | lines => some (String.join (lines.map (line group.length)))
  let gap (isThere : Bool) : String := if isThere then p.ending.toString else ""
  if parts.isEmpty then ""
  else gap p.gaps.before ++ (gap p.gaps.between).intercalate parts ++ gap p.gaps.behind

/-- Words in which old numbers stand for options: fields behind a hyphen, characters behind a plus
sign. -/
def withNewCounts (words : List String) : List String :=
  words.map fun word =>
    match word.toList with
    | '-' :: c :: rest =>
      if c.isDigit && rest.all Char.isDigit then "-f" ++ String.ofList (c :: rest) else word
    | '+' :: c :: rest =>
      if c.isDigit && rest.all Char.isDigit then "-s" ++ String.ofList (c :: rest) else word
    | _ => word

/-- The options of `uniq`. -/
def table : OptionTable where
  letters := "cdDuif:s:w:z"
  names := [("count", .no, 'c'), ("repeated", .no, 'd'), ("unique", .no, 'u'),
    ("ignore-case", .no, 'i'), ("skip-fields", .required, 'f'), ("all-repeated", .possible, 'D'),
    ("group", .possible, 'g'), ("skip-chars", .required, 's'), ("check-chars", .required, 'w'),
    ("zero-terminated", .no, 'z')]

/-- What options ask for. -/
def planOf (options : List Given) : Tool Plan := do
  let gapsOf (option : String) (choices : List (List String × Gaps)) (letter : Char) (usual : Gaps) :
      Tool Gaps :=
    match lastOf? options letter with
    | none => return {}
    | some word => if word.isEmpty then return usual else chooseBy option choices word
  let before : Gaps := { before := true, between := true }
  let between : Gaps := { between := true }
  let all ← gapsOf "--all-repeated"
    [(["none"], {}), (["prepend"], before), (["separate"], between)] 'D' {}
  let grouped ← gapsOf "--group"
    [(["prepend"], before), (["append"], { between := true, behind := true }),
      (["separate"], between), (["both"], { before := true, between := true, behind := true })]
    'g' between
  let has (letter : Char) : Bool := isGiven options letter
  if has 'g' && (has 'c' || has 'd' || has 'D' || has 'u') then
    Tool.failWords "--group is mutually exclusive with -c/-d/-D/-u"
  if has 'c' && has 'D' then
    Tool.failWords "printing all duplicated lines and repeat counts is meaningless"
  return {
    counts := has 'c', showsSingle := !has 'd' && !has 'D', showsFirst := !has 'u'
    showsAll := has 'D', isGrouped := has 'g', gaps := if has 'g' then grouped else all
    ending := if has 'z' then '\x00' else '\n' }

/-- Leaves out lines that repeat the one before. -/
def run (words : List String) : Tool Unit := do
  let (options, files) ← table.read (withNewCounts words)
  let count (letter : Char) (what : String) : Tool (Option Nat) := do
    match lastOf? options letter with
    | none => return none
    | some word =>
      match word.toNat? with
      | some n => return some n
      | none => Tool.fail s!"{word}: invalid number of {what}"
  let fields := (← count 'f' "fields to skip").getD 0
  let chars := (← count 's' "bytes to skip").getD 0
  let width ← count 'w' "bytes to compare"
  match files with
  | _ :: _ :: extra :: _ => Tool.failExtra extra
  | _ => pure ()
  let p ← planOf options
  let isSame (a b : List Char) : Bool :=
    let fold (line : List Char) : List Char :=
      let line := part fields chars width line
      if isGiven options 'i' then line.map Char.toLower else line
    fold a == fold b
  match ← Tool.readFile (files.headD "-") with
  | none => return
  | some text =>
    let shown := written p (groups isSame (Tool.linesBy p.ending text))
    match files with
    | [_, target] =>
      if target = "-" then Tool.say shown
      else
        match ← Tool.ask (.openFile target .writing) with
        | .ok descriptor => discard (Tool.write descriptor shown)
        | .error e => Tool.warnFile target e
    | _ => Tool.say shown

end Uniq

end DeviceLab.Tools
