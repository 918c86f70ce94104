import DeviceLab.Decimal.Formatted
import DeviceLab.Shell.Format
import DeviceLab.Tools.Texts

/-!
# Bytes as numbers and letters

The program `od`, which shows the bytes of files in rows: as numbers in a base, as letters or by their
names.  Several bytes may tell one number.

* `Od.formsOf`: how bytes are shown, as it is written.
* `Od.rowText`: a row of bytes in a form.
-/

namespace DeviceLab.Tools

open Text Unix

namespace Od

/-! ### Forms -/

/-- How bytes are shown. -/
structure Form where
  /-- The number of bytes that are shown together, and how wide that is. -/
  size : Nat
  width : Nat
  shown : List Nat → String
  /-- Whether the letters stand behind a row, too. -/
  hasLetters : Bool := false

/-- A number in a base, in a fixed number of digits. -/
def inBase (base width n : Nat) : String := padLeft width (String.ofList (Nat.toDigits base n)) '0'

/-- The number that some bytes tell, the first one least. -/
def word (bytes : List Nat) : Nat := bytes.foldr (fun b n => b + 256 * n) 0

/-- The number with a sign that some bytes tell. -/
def signedWord (bytes : List Nat) : Int :=
  let n := word bytes
  let size := Nat.pow 256 bytes.length
  if n < size / 2 then n else (n : Int) - size

/-- Whether a byte is a letter that can be seen. -/
def isPrint (n : Nat) : Bool := 32 ≤ n && n < 127

/-- A byte as a letter. -/
def letter (n : Nat) : String :=
  let named := [(0, "\\0"), (7, "\\a"), (8, "\\b"), (9, "\\t"), (10, "\\n"), (11, "\\v"),
    (12, "\\f"), (13, "\\r")]
  (named.lookup n).getD (if isPrint n then (Char.ofNat n).toString else inBase 8 3 n)

/-- The name of a byte, without its highest bit. -/
def nameOf (n : Nat) : String :=
  let names := ["nul", "soh", "stx", "etx", "eot", "enq", "ack", "bel", "bs", "ht", "nl", "vt", "ff",
    "cr", "so", "si", "dle", "dc1", "dc2", "dc3", "dc4", "nak", "syn", "etb", "can", "em", "sub",
    "esc", "fs", "gs", "rs", "us", "sp"]
  let n := n % 128
  if n = 127 then "del" else names.getD n (Char.ofNat n).toString

/-- The shortest text of a number from a number of digits on that tells it; `reads` tells whether a
text does. -/
def realText (reads : String → Bool) (x : Float) : Nat → Nat → String
  | 0, digits => text digits
  | fuel + 1, digits =>
    if reads (text digits) then text digits else realText reads x fuel (digits + 1)
where
  /-- The number with a count of digits. -/
  text (digits : Nat) : String :=
    ({ precision := some digits : Decimal.Layout }).real .general false ⟨x.toBits⟩

/-- The number that a text tells. -/
def readReal (text : String) : Float :=
  match Shell.Format.realOf? text.toList with
  | some (x, _) => Float.ofBits x.bits
  | none => 0

/-- The real number that eight bytes, or four of them, tell. -/
def real (bytes : List Nat) : String :=
  if bytes.length = 8 then
    let x := Float.ofBits (word bytes).toUInt64
    let least := if x.abs < Float.ofBits 0x0010000000000000 then 1 else 15
    realText (fun text => x.isNaN || (readReal text).toBits == x.toBits) x 17 least
  else
    let x := Float32.ofBits (word bytes).toUInt32
    let least := if x.abs < Float32.ofBits 0x00800000 then 1 else 6
    realText (fun text => x.isNaN || (readReal text).toFloat32.toBits == x.toBits) x.toFloat 9 least

/-- The size that a letter or digits tell behind a kind of numbers, and what is behind. -/
def sizeAt (letters : List (Char × Nat)) (usual : Nat) (text : List Char) : Nat × List Char :=
  match text with
  | c :: rest =>
    match letters.lookup c with
    | some size => (size, rest)
    | none =>
      let digits := text.takeWhile Char.isDigit
      if digits.isEmpty then (usual, text)
      else ((String.ofList digits).toNat?.getD 0, text.drop digits.length)
  | [] => (usual, [])

/-- The form at the start of a text, and what is behind it. -/
def formAt (whole : String) (kind : Char) (rest : List Char) : Tool (Form × List Char) := do
  let missing (size : Nat) (what : String) : Tool (Form × List Char) :=
    Tool.fail (s!"invalid type string {Quote.text whole};\nthis system doesn't provide a {size}-byte "
      ++ what ++ " type")
  if kind = 'a' then
    return ({ size := 1, width := 3, shown := fun bytes => nameOf (word bytes) }, rest)
  else if kind = 'c' then
    return ({ size := 1, width := 3, shown := fun bytes => letter (word bytes) }, rest)
  else if kind = 'f' then
    let (size, rest) := sizeAt [('F', 4), ('D', 8), ('L', 16)] 8 rest
    if size = 4 then return ({ size, width := 15, shown := real }, rest)
    if size = 8 then return ({ size, width := 24, shown := real }, rest)
    missing size "floating point"
  else if "doux".toList.contains kind then
    let (size, rest) := sizeAt [('C', 1), ('S', 2), ('I', 4), ('L', 8)] 4 rest
    unless [1, 2, 4, 8].contains size do return ← missing size "integral"
    let pick (widths : List Nat) : Nat := widths.getD size.log2 0
    let form : Form := match kind with
      | 'd' =>
        { size, width := pick [4, 6, 11, 20], shown := fun bytes => toString (signedWord bytes) }
      | 'u' => { size, width := pick [3, 5, 10, 20], shown := fun bytes => toString (word bytes) }
      | 'o' =>
        let width := pick [3, 6, 11, 22]
        { size, width, shown := fun bytes => inBase 8 width (word bytes) }
      | _ => { size, width := 2 * size, shown := fun bytes => inBase 16 (2 * size) (word bytes) }
    return (form, rest)
  else
    Tool.fail (s!"invalid character '{kind}' in type string " ++ Quote.text whole)

/-- The forms that a text tells; `fuel` bounds their number. -/
def formsOf (whole : String) : Nat → List Char → Tool (List Form)
  | 0, _ => return []
  | _ + 1, [] => return []
  | fuel + 1, kind :: rest => do
    let (form, rest) ← formAt whole kind rest
    let (form, rest) := match rest with
      | 'z' :: rest => ({ form with hasLetters := true }, rest)
      | rest => (form, rest)
    return form :: (← formsOf whole fuel rest)

/-! ### Rows -/

/-- Groups of a number of bytes. -/
def groups (size : Nat) : Nat → List Nat → List (List Nat)
  | 0, _ => []
  | _, [] => []
  | fuel + 1, bytes => bytes.take size :: groups size fuel (bytes.drop size)

/-- How rows are shown. -/
structure Plan where
  forms : List Form
  /-- The number of bytes in a row. -/
  rowSize : Nat
  /-- How a place is shown: its base and its width, if it is shown at all. -/
  address : Option (Nat × Nat)
  showsAll : Bool
  isBigEndian : Bool

/-- The place of a row. -/
def Plan.addressText (p : Plan) (n : Nat) : String :=
  match p.address with
  | some (base, width) => inBase base width n
  | none => ""

/-- A row of bytes in a form, with enough blanks in front of its parts that the rows of all forms are
as wide as the widest one. -/
def rowText (p : Plan) (form : Form) (row : List Nat) : String :=
  let fields := p.rowSize / form.size
  let blank := (p.rowSize - row.length) / form.size
  let widest := p.forms.foldl (fun n f => max n ((f.width + 1) * (p.rowSize / f.size))) 0
  let room := widest - form.width * fields
  let filled := row ++ List.replicate ((fields - blank) * form.size - row.length) 0
  let cells := (groups form.size filled.length filled).zipIdx.map fun (bytes, k) =>
    let bytes := if p.isBigEndian then bytes.reverse else bytes
    let left := fields - k
    let width := room * left / fields - room * (left - 1) / fields + form.width
    padLeft width (form.shown bytes) ' '
  let letters := if form.hasLetters then
      String.ofList (List.replicate (blank * form.width + room * blank / fields) ' ')
        ++ "  >" ++ String.ofList (row.map fun n => if isPrint n then Char.ofNat n else '.') ++ "<"
    else ""
  String.join cells ++ letters

/-- Shows a row in all forms. -/
def sayRow (p : Plan) (place : Nat) (row : List Nat) : Tool Unit :=
  p.forms.zipIdx.forM fun (form, k) =>
    let address := p.addressText place
    let front := if k = 0 then address else String.ofList (List.replicate address.length ' ')
    Tool.sayLine (front ++ rowText p form row)

/-- What is known between two rows. -/
structure State where
  files : List String
  descriptor : Option Nat := none
  ahead : List Nat := []
  /-- The number of bytes that may still be read, if that is limited. -/
  left : Option Nat := none
  place : Nat := 0
  last : Option (List Nat) := none
  isStarred : Bool := false

/-- Opens the first of some files that can be opened. -/
def openFirst (s : State) : List String → Tool State
  | [] => return { s with files := [], descriptor := none }
  | path :: rest => do
    match ← Tool.open_ path with
    | .ok n => return { s with files := rest, descriptor := some n }
    | .error e =>
      Tool.warnFile path e
      openFirst s rest

/-- Opens the next file that can be opened. -/
def openNext (s : State) : Tool State := openFirst s s.files

/-- Reads on; `fuel` bounds the number of files that are at their ends. -/
def readOn : Nat → State → Tool State
  | 0, s => return { s with descriptor := none }
  | fuel + 1, s => do
    match s.descriptor with
    | none => return s
    | some descriptor =>
      match ← Tool.readSome descriptor Tool.blockSize with
      | .ok [] =>
        Tool.close descriptor
        readOn fuel (← openNext s)
      | .ok part =>
        let part := match s.left with
          | some n => part.take n
          | none => part
        return { s with
          ahead := s.ahead ++ part.map Char.toNat
          left := s.left.map (· - part.length) }
      | .error e =>
        Tool.warn ("read error: " ++ e.reason)
        readOn fuel (← openNext s)

/-- Whether nothing more can be read. -/
def State.isOver (s : State) : Bool := s.descriptor.isNone || s.left == some 0

/-- Leaves out bytes; `fuel` bounds the number of parts. -/
def skip : Nat → Nat → State → Tool State
  | 0, _, s => return s
  | fuel + 1, n, s => do
    if n ≤ s.ahead.length then return { s with ahead := s.ahead.drop n }
    if s.descriptor.isNone then Tool.fail "cannot skip past end of combined input"
    let n := n - s.ahead.length
    skip fuel n (← readOn (s.files.length + 2) { s with ahead := [] })

/-- Shows the rows; `fuel` bounds their number. -/
def rows (p : Plan) : Nat → State → Tool State
  | 0, s => return s
  | fuel + 1, s => do
    if s.ahead.length < p.rowSize && !s.isOver then
      rows p fuel (← readOn (s.files.length + 2) s)
    else if s.ahead.length < p.rowSize then
      unless s.ahead.isEmpty do sayRow p s.place s.ahead
      return { s with place := s.place + s.ahead.length, ahead := [] }
    else
      let row := s.ahead.take p.rowSize
      let isAgain := !p.showsAll && s.last == some row
      if !isAgain then sayRow p s.place row
      else if !s.isStarred then Tool.sayLine "*"
      rows p fuel { s with
        ahead := s.ahead.drop p.rowSize, place := s.place + p.rowSize, last := some row
        isStarred := isAgain }

/-! ### Texts among bytes -/

/-- Reads all that is left; `fuel` bounds the number of parts. -/
def readRest : Nat → State → Tool State
  | 0, s => return s
  | fuel + 1, s => do
    if s.isOver then return s
    readRest fuel (← readOn (s.files.length + 2) s)

/-- The texts among bytes with their places; each is ended by a zero and has a least length. -/
def texts (least : Nat) : List Nat → Nat → List Nat → List (Nat × List Nat) →
    List (Nat × List Nat)
  | [], _, _, found => found.reverse
  | n :: rest, place, run, found =>
    if isPrint n then texts least rest (place + 1) (n :: run) found
    else if n = 0 && least ≤ run.length then
      texts least rest (place + 1) [] ((place - run.length, run.reverse) :: found)
    else texts least rest (place + 1) [] found

/-! ### The program -/

/-- The number that an old word tells, from where on the bytes are shown. -/
def oldPlace? (text : String) : Option Nat :=
  let chars := text.toList
  let chars := if chars.head? == some '+' then chars.drop 1 else chars
  let (scale, chars) := match chars.reverse with
    | 'b' :: rest => (512, rest.reverse)
    | 'B' :: rest => (1024, rest.reverse)
    | _ => (1, chars)
  let (base, chars) := match chars.reverse, chars with
    | '.' :: rest, _ => (10, rest.reverse)
    | _, '0' :: 'x' :: rest => (16, rest)
    | _, _ => (8, chars)
  match digits? base chars.length chars with
  | some (n, []) => some (n * scale)
  | _ => none

/-- A number in a base that its start tells, with a letter behind it that multiplies it. -/
def number? (text : String) : Option Nat :=
  let (base, chars) := match text.toList with
    | '0' :: 'x' :: rest => (16, rest)
    | '0' :: c :: rest => if c.isDigit then (8, c :: rest) else (10, '0' :: c :: rest)
    | chars => (10, chars)
  match digits? base chars.length chars with
  | some (n, rest) => (scaleOf? (String.ofList rest)).map (n * ·)
  | none => none

/-- The options of `od`. -/
def table : OptionTable where
  letters := "A:aBbcDdeFfHhIij:LlN:OoS:st:vw::Xx"
  names := [("address-radix", .required, 'A'), ("format", .required, 't'),
    ("skip-bytes", .required, 'j'), ("read-bytes", .required, 'N'),
    ("output-duplicates", .no, 'v'), ("strings", .possible, 'S'), ("width", .possible, 'w'),
    ("endian", .required, '1'), ("traditional", .no, '2')]

/-- What old letters stand for. -/
def oldForms : List (Char × String) :=
  [('a', "a"), ('b', "o1"), ('c', "c"), ('D', "u4"), ('d', "u2"), ('F', "fD"), ('e', "fD"),
    ('f', "fF"), ('H', "x4"), ('X', "x4"), ('i', "dI"), ('I', "dL"), ('L', "dL"), ('l', "dL"),
    ('O', "o4"), ('o', "o2"), ('B', "o2"), ('s', "d2"), ('h', "x2"), ('x', "x2")]

/-- The number that an option tells. -/
def numberOf (options : List Given) (c : Char) : Tool (Option Nat) := do
  match lastOf? options c with
  | none => return none
  | some text =>
    match number? text with
    | some n => return some n
    | none => Tool.fail (s!"invalid -{c} argument " ++ Quote.text text)

/-- Shows the bytes of files. -/
def run (words : List String) : Tool Unit := do
  let (options, files) ← table.read words
  let address ← match ((lastOf? options 'A').getD "o").toList with
    | 'd' :: _ => pure (some (10, 7))
    | 'o' :: _ => pure (some (8, 7))
    | 'x' :: _ => pure (some (16, 6))
    | 'n' :: _ => pure none
    | c :: _ =>
      Tool.fail (s!"invalid output address radix '{c}'; it must be one character from [doxn]")
    | [] =>
      Tool.fail ("invalid output address radix '\x00'; it must be one character from [doxn]")
  let skipped ← numberOf options 'j'
  let most ← numberOf options 'N'
  let texts_ := options.filterMap fun given =>
    if given.letter = 't' then some given.argument else oldForms.lookup given.letter
  let forms ← (if texts_.isEmpty then ["o2"] else texts_).mapM fun text =>
    formsOf text (text.length + 1) text.toList
  let forms := forms.flatten
  let isBigEndian ← match lastOf? options '1' with
    | none => pure false
    | some word => chooseBy "--endian" [(["little"], false), (["big"], true)] word
  let isModern := options.any fun given => "AjNtvwS".toList.contains given.letter
  let (files, skipped) := if isModern then (files, skipped)
    else
      match files with
      | [word] =>
        match if word.startsWith "+" then oldPlace? word else none with
        | some n => ([], some n)
        | none => (files, skipped)
      | [file, word] =>
        let isNumber := word.toList.head?.any fun c => c = '+' || c.isDigit
        match if isNumber then oldPlace? word else none with
        | some n => ([file], some n)
        | none => (files, skipped)
      | _ => (files, skipped)
  let common := forms.foldl (fun n form => n.lcm form.size) 1
  let usual := if common < 16 then common * (16 / common) else common
  let rowSize ← match lastOf? options 'w' with
    | none => pure usual
    | some text =>
      let text := if text.isEmpty then "32" else text
      match if text.toList.all Char.isDigit then text.toNat? else none with
      | none => Tool.fail ("invalid -w argument " ++ Quote.text text)
      | some n =>
        if n != 0 && n % common = 0 then pure n
        else
          Tool.complain s!"warning: invalid width {n}; using {common} instead"
          pure common
  let p : Plan :=
    { forms, rowSize, address, showsAll := isGiven options 'v', isBigEndian }
  let s ← openNext { files := orInput files, left := most, place := skipped.getD 0 }
  if s.descriptor.isNone then return
  let s ← match skipped with
    | none => pure s
    | some n => do
      let t ← skip Tool.partLimit n { s with left := none }
      let kept := match most with
        | some n => t.ahead.take n
        | none => t.ahead
      pure { t with ahead := kept, left := most.map (· - kept.length) }
  match lastOf? options 'S' with
  | some text =>
    let least := if text.isEmpty then 3 else (number? text).getD 3
    if texts_ != [] then Tool.fail "no type may be specified when dumping strings"
    let s ← readRest Tool.partLimit s
    for (place, run) in texts least s.ahead (skipped.getD 0) [] [] do
      let front := p.addressText place
      Tool.sayLine ((if front.isEmpty then "" else front ++ " ")
        ++ String.ofList (run.map Char.ofNat))
  | none =>
    let s ← rows p Tool.partLimit s
    match p.address with
    | some _ => Tool.sayLine (p.addressText s.place)
    | none => return

end Od

end DeviceLab.Tools
