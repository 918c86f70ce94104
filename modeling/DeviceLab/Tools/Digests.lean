import DeviceLab.Tools.Options

/-!
# Digests

Short texts that tell whether two files are the same: they depend on every byte of a file.  Words of
a digest are natural numbers below a power of two.

* `Words`: arithmetic on words of a width.
* `Digest.md5`, `Digest.sha1`, `Digest.sha2`, `Digest.blake`: digests of bytes.
* `Digest.cyclic`, `Digest.rotated`, `Digest.plainSum`: check sums.
* `Digest.run`, `Digest.runCheckSum`, `Digest.runSum`: the programs that tell and check them.
-/

namespace DeviceLab.Tools

open Text Unix Tool

/-! ### Words -/

namespace Words

/-- What is left of a number in a word of a width. -/
def cut (width n : Nat) : Nat := n % Nat.pow 2 width

def sum (width : Nat) (words : List Nat) : Nat := cut width (words.foldl (· + ·) 0)

/-- The word with all bits turned over. -/
def inverted (width n : Nat) : Nat := Nat.pow 2 width - 1 - cut width n

/-- The word with its bits moved to the right; those that fall out come in at the left. -/
def right (width n count : Nat) : Nat := n >>> count ||| cut width (n <<< (width - count))

/-- The word with its bits moved to the left; those that fall out come in at the right. -/
def left (width n count : Nat) : Nat := cut width (n <<< count) ||| n >>> (width - count)

/-- The number of some bytes, the greatest one first. -/
def ofBytes (bytes : List Nat) : Nat := bytes.foldl (fun n byte => n * 256 + byte) 0

/-- The bytes of a number, the greatest one first. -/
def toBytes (count n : Nat) : List Nat :=
  (List.range count).map fun k => n >>> (8 * (count - 1 - k)) % 256

/-- The hexadecimal digits of bytes. -/
def hex (bytes : List Nat) : String :=
  String.ofList (bytes.flatMap fun byte => [Nat.digitChar (byte / 16), Nat.digitChar (byte % 16)])

/-- A list in parts of a size; `fuel` bounds their number. -/
def partsOf (size : Nat) : Nat → List α → List (List α)
  | 0, _ => []
  | fuel + 1, list =>
    if list.isEmpty then [] else list.take size :: partsOf size fuel (list.drop size)

def parts (size : Nat) (list : List α) : List (List α) := partsOf size (list.length + 1) list

/-- The greatest number whose power is not above another number; `fuel` bounds its bits. -/
def rootOf (power n : Nat) : Nat → Nat → Nat
  | 0, found => found
  | fuel + 1, found =>
    let next := found + Nat.pow 2 fuel
    rootOf power n fuel (if next.pow power ≤ n then next else found)

/-- The first bits of the fraction of a root. -/
def rootBits (width power n : Nat) : Nat :=
  cut width (rootOf power (n * Nat.pow 2 (power * width)) (width + 8) 0)

/-- The first prime numbers. -/
def primes : List Nat :=
  (List.range 410).filter fun n => 2 ≤ n && (List.range n).all fun d => d < 2 || n % d != 0

end Words

/-! ### Digests -/

/-- The bytes of a file, each a number below 256. -/
abbrev Octet := Nat

namespace Digest

open Words

/-- The bytes with a mark behind them, zeros, and their number of bits in the last bytes of a block. -/
def padded (block sizeBytes : Nat) (greatestFirst : Bool) (bytes : List Octet) : List Octet :=
  let length := bytes.length
  let zeros := (block - (length + 1 + sizeBytes) % block) % block
  let size := toBytes sizeBytes (8 * length)
  bytes ++ 128 :: (List.replicate zeros 0 ++ if greatestFirst then size else size.reverse)

/-- The words of a block, the greatest byte of each first. -/
def wordsOf (size : Nat) (block : List Octet) : Array Nat :=
  ((parts size block).map ofBytes).toArray

/-! #### The digest with 128 bits -/

/-- How far each step of a digest moves bits, four numbers for each of four rounds. -/
def md5Moves : Array Nat := #[7, 12, 17, 22, 5, 9, 14, 20, 4, 11, 16, 23, 6, 10, 15, 21]

/-- The whole parts of the sines of one to sixty-four times `2^32`. -/
def md5Sines : Array Nat :=
  #[0xd76aa478, 0xe8c7b756, 0x242070db, 0xc1bdceee, 0xf57c0faf, 0x4787c62a, 0xa8304613, 0xfd469501,
    0x698098d8, 0x8b44f7af, 0xffff5bb1, 0x895cd7be, 0x6b901122, 0xfd987193, 0xa679438e, 0x49b40821,
    0xf61e2562, 0xc040b340, 0x265e5a51, 0xe9b6c7aa, 0xd62f105d, 0x02441453, 0xd8a1e681, 0xe7d3fbc8,
    0x21e1cde6, 0xc33707d6, 0xf4d50d87, 0x455a14ed, 0xa9e3e905, 0xfcefa3f8, 0x676f02d9, 0x8d2a4c8a,
    0xfffa3942, 0x8771f681, 0x6d9d6122, 0xfde5380c, 0xa4beea44, 0x4bdecfa9, 0xf6bb4b60, 0xbebfbc70,
    0x289b7ec6, 0xeaa127fa, 0xd4ef3085, 0x04881d05, 0xd9d4d039, 0xe6db99e5, 0x1fa27cf8, 0xc4ac5665,
    0xf4292244, 0x432aff97, 0xab9423a7, 0xfc93a039, 0x655b59c3, 0x8f0ccc92, 0xffeff47d, 0x85845dd1,
    0x6fa87e4f, 0xfe2ce6e0, 0xa3014314, 0x4e0811a1, 0xf7537e82, 0xbd3af235, 0x2ad7d2bb, 0xeb86d391]

/-- Four words, as a digest is built up in them. -/
structure Four where
  a : Nat
  b : Nat
  c : Nat
  d : Nat

/-- One block goes into four words. -/
def md5Block (s : Four) (block : List Octet) : Four :=
  let words := ((parts 4 block).map fun part => ofBytes part.reverse).toArray
  let t := (List.range 64).foldl (fun t i =>
    let (f, place) := match i / 16 with
      | 0 => ((t.b &&& t.c) ||| (inverted 32 t.b &&& t.d), i)
      | 1 => ((t.d &&& t.b) ||| (inverted 32 t.d &&& t.c), (5 * i + 1) % 16)
      | 2 => (t.b ^^^ t.c ^^^ t.d, (3 * i + 5) % 16)
      | _ => (t.c ^^^ (t.b ||| inverted 32 t.d), 7 * i % 16)
    let mixed := sum 32 [t.a, f, md5Sines.getD i 0, words.getD place 0]
    let moved := left 32 mixed (md5Moves.getD (i / 16 * 4 + i % 4) 0)
    { a := t.d, b := sum 32 [t.b, moved], c := t.b, d := t.c : Four }) s
  { a := sum 32 [s.a, t.a], b := sum 32 [s.b, t.b], c := sum 32 [s.c, t.c]
    d := sum 32 [s.d, t.d] }

/-- The digest with 128 bits. -/
def md5 (bytes : List Octet) : List Octet :=
  let start : Four := ⟨0x67452301, 0xefcdab89, 0x98badcfe, 0x10325476⟩
  let s := (parts 64 (padded 64 8 false bytes)).foldl md5Block start
  [s.a, s.b, s.c, s.d].flatMap fun word => (toBytes 4 word).reverse

/-! #### The digest with 160 bits -/

/-- The words of a block, and those that come of them by a rule, up to a number of words. -/
def expanded (next : Array Nat → Nat → Nat) (count : Nat) (words : Array Nat) : Array Nat :=
  (List.range' words.size (count - words.size)).foldl (fun words i => words.push (next words i))
    words

/-- One block goes into five words. -/
def sha1Block (s : List Nat) (block : List Octet) : List Nat :=
  let next (w : Array Nat) (i : Nat) : Nat :=
    left 32 (w.getD (i - 3) 0 ^^^ w.getD (i - 8) 0 ^^^ w.getD (i - 14) 0 ^^^ w.getD (i - 16) 0) 1
  let words := expanded next 80 (wordsOf 4 block)
  let t := (List.range 80).foldl (fun t i =>
    match t with
    | [a, b, c, d, e] =>
      let (f, k) := match i / 20 with
        | 0 => ((b &&& c) ||| (inverted 32 b &&& d), 0x5a827999)
        | 1 => (b ^^^ c ^^^ d, 0x6ed9eba1)
        | 2 => ((b &&& c) ||| (b &&& d) ||| (c &&& d), 0x8f1bbcdc)
        | _ => (b ^^^ c ^^^ d, 0xca62c1d6)
      [sum 32 [left 32 a 5, f, e, k, words.getD i 0], a, left 32 b 30, c, d]
    | t => t) s
  (s.zip t).map fun (x, y) => sum 32 [x, y]

/-- The digest with 160 bits. -/
def sha1 (bytes : List Octet) : List Octet :=
  let start := [0x67452301, 0xefcdab89, 0x98badcfe, 0x10325476, 0xc3d2e1f0]
  let s := (parts 64 (padded 64 8 true bytes)).foldl sha1Block start
  s.flatMap (toBytes 4)

/-! #### The family with up to 512 bits -/

/-- What tells the two halves of a family of digests apart. -/
structure Sha2 where
  /-- The bits of a word. -/
  width : Nat
  rounds : Nat
  /-- How far bits are moved in each of four sums; the last number of two of them drops bits. -/
  moves : Array Nat
  /-- The words that the rounds bring in. -/
  constants : Array Nat

/-- The words that rounds bring in: bits of the cube roots of prime numbers. -/
def cubeBits (width rounds : Nat) : Array Nat :=
  ((primes.take rounds).map (rootBits width 3)).toArray

/-- The half with short words. -/
def short : Sha2 :=
  ⟨32, 64, #[2, 13, 22, 6, 11, 25, 7, 18, 3, 17, 19, 10], cubeBits 32 64⟩

/-- The half with long words. -/
def long : Sha2 :=
  ⟨64, 80, #[28, 34, 39, 14, 18, 41, 1, 8, 7, 19, 61, 6], cubeBits 64 80⟩

/-- One block goes into eight words. -/
def Sha2.block (k : Sha2) (s : List Nat) (block : List Octet) : List Nat :=
  let w := k.width
  let move (n : Nat) : Nat := k.moves.getD n 0
  let whole (n x : Nat) : Nat :=
    right w x (move n) ^^^ right w x (move (n + 1)) ^^^ right w x (move (n + 2))
  let part (n x : Nat) : Nat :=
    right w x (move n) ^^^ right w x (move (n + 1)) ^^^ x >>> move (n + 2)
  let next (words : Array Nat) (i : Nat) : Nat :=
    sum w [part 9 (words.getD (i - 2) 0), words.getD (i - 7) 0, part 6 (words.getD (i - 15) 0),
      words.getD (i - 16) 0]
  let words := expanded next k.rounds (wordsOf (w / 8) block)
  let t := (List.range k.rounds).foldl (fun t i =>
    match t with
    | [a, b, c, d, e, f, g, h] =>
      let first := sum w [h, whole 3 e, (e &&& f) ^^^ (inverted w e &&& g), k.constants.getD i 0,
        words.getD i 0]
      let second := sum w [whole 0 a, (a &&& b) ^^^ (a &&& c) ^^^ (b &&& c)]
      [sum w [first, second], a, b, c, sum w [d, first], e, f, g]
    | t => t) s
  (s.zip t).map fun (x, y) => sum w [x, y]

/-- A digest of the family, from its first words. -/
def Sha2.digest (k : Sha2) (start : List Nat) (size : Nat) (bytes : List Octet) : List Octet :=
  let block := k.width * 2
  let s := (parts block (padded block (k.width / 4) true bytes)).foldl k.block start
  (s.flatMap (toBytes (k.width / 8))).take size

/-- The first words of a digest: bits of the square roots of eight prime numbers. -/
def squareBits (width first : Nat) : List Nat :=
  ((primes.drop first).take 8).map (rootBits width 2)

/-- A digest of the family by its number of bits. -/
def sha2 (bits : Nat) (bytes : List Octet) : List Octet :=
  match bits with
  | 224 => short.digest ((squareBits 64 8).map (cut 32)) 28 bytes
  | 256 => short.digest (squareBits 32 0) 32 bytes
  | 384 => long.digest (squareBits 64 8) 48 bytes
  | _ => long.digest (squareBits 64 0) 64 bytes

/-! #### The digest of any length -/

/-- The order in which words come in, for each of ten rounds. -/
def blakeOrders : Array (Array Nat) :=
  #[#[0, 1, 2, 3, 4, 5, 6, 7, 8, 9, 10, 11, 12, 13, 14, 15],
    #[14, 10, 4, 8, 9, 15, 13, 6, 1, 12, 0, 2, 11, 7, 5, 3],
    #[11, 8, 12, 0, 5, 2, 15, 13, 10, 14, 3, 6, 7, 1, 9, 4],
    #[7, 9, 3, 1, 13, 12, 11, 14, 2, 6, 5, 10, 4, 0, 15, 8],
    #[9, 0, 5, 7, 2, 4, 10, 15, 14, 1, 11, 12, 6, 8, 3, 13],
    #[2, 12, 6, 10, 0, 11, 8, 3, 4, 13, 7, 5, 15, 14, 1, 9],
    #[12, 5, 1, 15, 14, 13, 4, 10, 0, 7, 6, 3, 9, 2, 8, 11],
    #[13, 11, 7, 14, 12, 1, 3, 9, 5, 0, 15, 4, 8, 6, 2, 10],
    #[6, 15, 14, 9, 11, 3, 0, 8, 12, 2, 13, 7, 1, 4, 10, 5],
    #[10, 2, 8, 4, 7, 6, 1, 5, 15, 11, 9, 14, 3, 12, 13, 0]]

/-- The places of the words that are mixed with each other in a round. -/
def blakeMixes : List (Nat × Nat × Nat × Nat) :=
  [(0, 4, 8, 12), (1, 5, 9, 13), (2, 6, 10, 14), (3, 7, 11, 15), (0, 5, 10, 15), (1, 6, 11, 12),
    (2, 7, 8, 13), (3, 4, 9, 14)]

/-- Mixes four words with two that come in. -/
def blakeMix (v : Array Nat) (places : Nat × Nat × Nat × Nat) (x y : Nat) : Array Nat :=
  let (a, b, c, d) := places
  let half (v : Array Nat) (x first second : Nat) : Array Nat :=
    let at_ (n : Nat) : Nat := v.getD n 0
    let va := sum 64 [at_ a, at_ b, x]
    let vd := right 64 (at_ d ^^^ va) first
    let vc := sum 64 [at_ c, vd]
    let vb := right 64 (at_ b ^^^ vc) second
    (((v.set! a va).set! b vb).set! c vc).set! d vd
  half (half v x 32 24) y 16 63

/-- One block goes into eight words; `count` bytes have come in with it. -/
def blakeBlock (h : List Nat) (block : List Octet) (count : Nat) (isLast : Bool) : List Nat :=
  let words := ((parts 8 block).map fun part => ofBytes part.reverse).toArray
  let first := (h ++ squareBits 64 0).toArray
  let v := first.modify 12 (· ^^^ cut 64 count)
  let v := if isLast then v.modify 14 (inverted 64) else v
  let v := (List.range 12).foldl (fun v round =>
    let order := blakeOrders.getD (round % 10) #[]
    blakeMixes.zipIdx.foldl (fun v (places, n) =>
      blakeMix v places (words.getD (order.getD (2 * n) 0) 0)
        (words.getD (order.getD (2 * n + 1) 0) 0)) v) v
  h.zipIdx.map fun (word, n) => word ^^^ v.getD n 0 ^^^ v.getD (n + 8) 0

/-- The digest with a number of bytes. -/
def blake (size : Nat) (bytes : List Octet) : List Octet :=
  let start := match squareBits 64 0 with
    | word :: rest => (word ^^^ 0x01010000 ^^^ size) :: rest
    | [] => []
  let blocks := if bytes.isEmpty then [[]] else parts 128 bytes
  let h := blocks.zipIdx.foldl (fun h (block, n) =>
    let isLast := n + 1 = blocks.length
    let full := block ++ List.replicate (128 - block.length) 0
    blakeBlock h full (128 * n + block.length) isLast) start
  (h.flatMap fun word => (toBytes 8 word).reverse).take size

/-! #### Check sums -/

/-- One bit goes into a cyclic check sum. -/
def cyclicStep (sum : Nat) : Nat :=
  let moved := cut 32 (sum <<< 1)
  if 0x80000000 ≤ sum then moved ^^^ 0x04c11db7 else moved

/-- One byte goes into a cyclic check sum. -/
def cyclicByte (sum : Nat) (byte : Octet) : Nat :=
  (List.range 8).foldl (fun sum _ => cyclicStep sum) (sum ^^^ byte <<< 24)

/-- The bytes of a length, the least one first, as far as there are any. -/
def lengthBytes : Nat → Nat → List Octet
  | 0, _ => []
  | fuel + 1, n => if n = 0 then [] else n % 256 :: lengthBytes fuel (n / 256)

/-- The cyclic check sum of some bytes and their number. -/
def cyclic (bytes : List Octet) : Nat :=
  inverted 32 ((bytes ++ lengthBytes 8 bytes.length).foldl cyclicByte 0)

/-- The check sum with 16 bits that is turned with every byte. -/
def rotated (bytes : List Octet) : Nat :=
  bytes.foldl (fun sum byte => cut 16 (sum / 2 + sum % 2 * 32768 + byte)) 0

/-- The check sum with 16 bits of a plain sum. -/
def plainSum (bytes : List Octet) : Nat :=
  let sum := cut 32 (bytes.foldl (· + ·) 0)
  let folded := sum % 65536 + sum / 65536
  folded % 65536 + folded / 65536

/-! ### Programs -/

/-- A kind of digest: its name, its number of bytes, and what it is. -/
structure Kind where
  name : String
  size : Nat
  digest : List Octet → List Octet

def kinds : List (String × Kind) :=
  [("md5", ⟨"MD5", 16, md5⟩), ("sha1", ⟨"SHA1", 20, sha1⟩), ("sha224", ⟨"SHA224", 28, sha2 224⟩),
    ("sha256", ⟨"SHA256", 32, sha2 256⟩), ("sha384", ⟨"SHA384", 48, sha2 384⟩),
    ("sha512", ⟨"SHA512", 64, sha2 512⟩), ("blake2b", ⟨"BLAKE2b", 64, blake 64⟩)]

/-- The numbers of the bytes of a text. -/
def octets (text : List Char) : List Octet := text.map Char.toNat

/-- A name as it stands behind a digest, with a mark in front of all if it has to be escaped. -/
def escapedName (name : String) : String × String :=
  let needs := name.toList.any fun c => c = '\\' || c = '\n' || c = '\r'
  if !needs then ("", name)
  else ("\\", String.ofList (name.toList.flatMap fun c =>
    if c = '\\' then ['\\', '\\'] else if c = '\n' then ['\\', 'n']
    else if c = '\r' then ['\\', 'r'] else [c]))

/-- How digests are told. -/
structure Manner where
  isBinary : Bool := false
  isTagged : Bool := false
  ending : String := "\n"

/-- The line for a file. -/
def lineFor (kind : Kind) (manner : Manner) (digest : String) (name : String) : String :=
  let (mark, shown) := if manner.ending = "\n" then escapedName name else ("", name)
  let label := if kind.name = "BLAKE2b" && kind.size < 64 then
    "BLAKE2b-" ++ toString (8 * kind.size) else kind.name
  if manner.isTagged then mark ++ label ++ " (" ++ shown ++ ") = " ++ digest ++ manner.ending
  else mark ++ digest ++ (if manner.isBinary then " *" else "  ") ++ shown ++ manner.ending

/-- A line that tells a digest: the digest and the name; nothing if it is none. -/
def readLine? (kind : Kind) (line : String) : Option (String × String) :=
  let isHex (text : String) : Bool :=
    text.length = 2 * kind.size && text.toList.all fun c =>
      c.isDigit || 'a' ≤ c.toLower && c.toLower ≤ 'f'
  let line := String.ofList (line.toList.dropWhile fun c => c = ' ' || c = '\t')
  let front := kind.name ++ " ("
  if line.startsWith front then
    match (line.splitOn ") = ").reverse with
    | digest :: first :: rest =>
      let name := String.ofList
        ((") = ".intercalate (first :: rest).reverse).toList.drop front.length)
      if isHex digest then some (digest, name) else none
    | _ => none
  else
    let digest := String.ofList (line.toList.takeWhile (· != ' '))
    match line.toList.drop digest.length with
    | ' ' :: _ :: name =>
      if isHex digest && !name.isEmpty then some (digest, String.ofList name) else none
    | _ => none

/-- How a check is told. -/
structure CheckManner where
  isQuiet : Bool := false
  isSilent : Bool := false
  warns : Bool := false
  isStrict : Bool := false
  passesMissing : Bool := false

/-- What has come of a check so far. -/
structure CheckState where
  malformed : Nat := 0
  read : Nat := 0
  unreadable : Nat := 0
  different : Nat := 0
  same : Nat := 0

/-- The text of a file, or why it cannot be read. -/
def textOf (path : String) : Tool (Except IoError (List Char)) := do
  match ← open_ path with
  | .error e => return .error e
  | .ok descriptor =>
    let text ← readAll descriptor
    close descriptor
    return text

/-- One of several things, or more. -/
def counted (n : Nat) (one more : String) : String := toString n ++ " " ++ if n = 1 then one else more

/-- Checks the digests that a file tells. -/
def checkFile (kind : Kind) (manner : CheckManner) (path : String) : Tool Unit := do
  let shownPath := if path = "-" then "'standard input'" else Quote.file path
  match ← textOf path with
  | .error e => warn (shownPath ++ ": " ++ e.reason)
  | .ok text =>
    let mut s : CheckState := {}
    for (line, n) in (Tool.lines text).zipIdx do
      if line.isEmpty || line.head? == some '#' then continue
      match readLine? kind (String.ofList line) with
      | none =>
        s := { s with malformed := s.malformed + 1 }
        if manner.warns then
          complain (shownPath ++ ": " ++ toString (n + 1) ++ ": improperly formatted "
            ++ kind.name ++ " checksum line")
      | some (digest, name) =>
        s := { s with read := s.read + 1 }
        match ← textOf name with
        | .error e =>
          if manner.passesMissing && e == .notFound then continue
          s := { s with unreadable := s.unreadable + 1 }
          complain (Quote.file name ++ ": " ++ e.reason)
          unless manner.isSilent do sayLine (name ++ ": FAILED open or read")
        | .ok text =>
          let isSame := hex (kind.digest (octets text)) == String.ofList (digest.toList.map Char.toLower)
          s := if isSame then { s with same := s.same + 1 }
            else { s with different := s.different + 1 }
          unless manner.isSilent || isSame && manner.isQuiet do
            sayLine (name ++ ": " ++ if isSame then "OK" else "FAILED")
    if s.read = 0 then warn (shownPath ++ ": no properly formatted checksum lines found")
    else
      unless manner.isSilent do
        if 0 < s.malformed then
          complain ("WARNING: " ++ counted s.malformed "line is improperly formatted"
            "lines are improperly formatted")
        if 0 < s.unreadable then
          complain ("WARNING: " ++ counted s.unreadable "listed file could not be read"
            "listed files could not be read")
        if 0 < s.different then
          complain ("WARNING: " ++ counted s.different "computed checksum did NOT match"
            "computed checksums did NOT match")
        if manner.passesMissing && s.same = 0 then
          complain (shownPath ++ ": no file was verified")
      if 0 < s.unreadable + s.different || manner.isStrict && 0 < s.malformed ||
          manner.passesMissing && s.same = 0 then
        note 1

/-- The options of the programs for digests. -/
def table : OptionTable :=
  { letters := "bctwz"
    names := [("binary", .no, 'b'), ("check", .no, 'c'), ("text", .no, 't'), ("warn", .no, 'w'),
      ("zero", .no, 'z'), ("tag", .no, 'T'), ("quiet", .no, 'Q'), ("status", .no, 'S'),
      ("strict", .no, 'X'), ("ignore-missing", .no, 'M')] }

/-- Tells or checks digests of files. -/
def perform (kind : Kind) (options : List Given) (operands : List String) : Tool Unit := do
  let operands := if operands.isEmpty then ["-"] else operands
  let given := isGiven options
  if given 'c' then
    if given 'T' then failWords "the --tag option is meaningless when verifying checksums"
    if given 'b' || given 't' then
      failWords "the --binary and --text options are meaningless when verifying checksums"
    let manner : CheckManner :=
      { isQuiet := given 'Q', isSilent := given 'S', warns := given 'w', isStrict := given 'X'
        passesMissing := given 'M' }
    for path in operands do checkFile kind manner path
  else
    for (letter, name) in [('M', "ignore-missing"), ('S', "status"), ('w', "warn"), ('Q', "quiet"),
        ('X', "strict")] do
      if given letter then
        failWords ("the --" ++ name ++ " option is meaningful only when verifying checksums")
    let isBinary := (options.filter fun o => o.letter = 'b' || o.letter = 't').getLast?.any
      (·.letter = 'b')
    let manner : Manner :=
      { isBinary, isTagged := given 'T', ending := if given 'z' then "\x00" else "\n" }
    for path in operands do
      match ← textOf path with
      | .error e => warnFile path e
      | .ok text => say (lineFor kind manner (hex (kind.digest (octets text))) path)

/-- Tells or checks digests of one kind. -/
def run (kind : Kind) (words : List String) : Tool Unit := do
  let (options, operands) ← table.read words
  perform kind options operands

/-- The kind of a digest whose length can be chosen. -/
def blakeKind (options : List Given) : Tool Kind := do
  match lastOf? options 'l' with
  | none => return ⟨"BLAKE2b", 64, blake 64⟩
  | some text =>
    match text.toNat? with
    | none => fail ("invalid length: " ++ Quote.text text)
    | some n =>
      if n % 8 != 0 then
        complain ("invalid length: " ++ Quote.text text)
        fail "length is not a multiple of 8"
      if 512 < n then
        complain ("invalid length: " ++ Quote.text text)
        fail "maximum digest length for 'BLAKE2b' is 512 bits"
      let size := if n = 0 then 64 else n / 8
      return ⟨"BLAKE2b", size, blake size⟩

/-- Tells or checks digests whose length can be chosen. -/
def runBlake (words : List String) : Tool Unit := do
  let (options, operands) ← { table with
    letters := table.letters ++ "l:", names := ("length", .required, 'l') :: table.names }.read words
  perform (← blakeKind options) options operands

/-- A number at the right of a place. -/
def placed (width : Nat) (fill : Char) (n : Nat) : String :=
  let digits := toString n
  String.ofList (List.replicate (width - digits.length) fill) ++ digits

/-- The number of blocks of a size that some bytes fill. -/
def blocksOf (size count : Nat) : Nat := (count + size - 1) / size

/-- The line of a turned check sum. -/
def rotatedLine (bytes : List Octet) (shownName : String) : String :=
  placed 5 '0' (rotated bytes) ++ " " ++ placed 5 ' ' (blocksOf 1024 bytes.length) ++ shownName

/-- The line of a plain check sum. -/
def plainLine (bytes : List Octet) (shownName : String) : String :=
  toString (plainSum bytes) ++ " " ++ toString (blocksOf 512 bytes.length) ++ shownName

/-- The line of a cyclic check sum. -/
def cyclicLine (bytes : List Octet) (shownName : String) : String :=
  toString (cyclic bytes) ++ " " ++ toString bytes.length ++ shownName

/-- Tells a check sum of each file. -/
def tellSums (line : List Octet → String → String) (operands : List String) : Tool Unit := do
  let named := operands.map fun path => (path, " " ++ path)
  for (path, shown) in if named.isEmpty then [("-", "")] else named do
    match ← textOf path with
    | .error e => warnFile path e
    | .ok text => sayLine (line (octets text) shown)

/-- Tells check sums with 16 bits. -/
def runSum (words : List String) : Tool Unit := do
  let (options, operands) ← { letters := "rs", names := [("sysv", .no, 's')] : OptionTable }.read words
  let isPlain := (options.getLast?.map (·.letter)) == some 's'
  tellSums (if isPlain then plainLine else rotatedLine) operands

/-- The names of the kinds of digests and check sums. -/
def algorithms : List String :=
  ["bsd", "sysv", "crc", "md5", "sha1", "sha224", "sha256", "sha384", "sha512", "blake2b", "sm3"]

/-- Tells cyclic check sums, or digests of a kind that is asked for. -/
def runCheckSum (words : List String) : Tool Unit := do
  let (options, operands) ← { table with
    letters := table.letters ++ "a:l:"
    names := ("algorithm", .required, 'a') :: ("length", .required, 'l') ::
      ("untagged", .no, 'U') :: table.names }.read words
  match lastOf? options 'a' with
  | none | some "crc" => tellSums cyclicLine operands
  | some "bsd" => tellSums rotatedLine operands
  | some "sysv" => tellSums plainLine operands
  | some "blake2b" =>
    let options := if isGiven options 'U' then options else { letter := 'T' } :: options
    perform (← blakeKind options) options operands
  | some name =>
    match kinds.lookup name with
    | none =>
      complain ("invalid argument " ++ Quote.text name ++ " for '--algorithm'")
      tell ("Valid arguments are:\n" ++ String.join (algorithms.map fun name =>
        "  - '" ++ name ++ "'\n"))
      failUsage
    | some kind =>
      let isTagged := !(isGiven options 'U' || isGiven options 'c')
      perform kind (if isTagged then { letter := 'T' } :: options else options) operands

end Digest

/-! ### Bytes as letters -/

namespace Letters

/-- The letters that stand for six bits each. -/
def six : Array Char :=
  "ABCDEFGHIJKLMNOPQRSTUVWXYZabcdefghijklmnopqrstuvwxyz0123456789+/".toList.toArray

/-- The letters that stand for five bits each. -/
def five : Array Char := "ABCDEFGHIJKLMNOPQRSTUVWXYZ234567".toList.toArray

/-- How bytes are told by letters: a number of bytes by a number of letters, each for some bits. -/
structure Code where
  bytes : Nat
  letters : Nat
  bits : Nat
  alphabet : Array Char

/-- Four letters for three bytes. -/
def base64 : Code := ⟨3, 4, 6, six⟩

/-- Eight letters for five bytes. -/
def base32 : Code := ⟨5, 8, 5, five⟩

/-- The letters for some bytes, with marks in the place of missing ones. -/
def Code.encode (code : Code) (bytes : List Nat) : List Char :=
  (Words.parts code.bytes bytes).flatMap fun part =>
    let n := Words.ofBytes (part ++ List.replicate (code.bytes - part.length) 0)
    let used := (8 * part.length + code.bits - 1) / code.bits
    (List.range code.letters).map fun k =>
      if used ≤ k then '='
      else code.alphabet.getD (n >>> (code.bits * (code.letters - 1 - k)) % Nat.pow 2 code.bits) '='

/-- The bytes of one group of letters, if it is one. -/
def Code.decodeGroup (code : Code) (group : List Char) : Option (List Nat) :=
  let used := group.takeWhile (· != '=')
  let isWhole := group.length = code.letters && (group.drop used.length).all (· = '=')
  let bytes := used.length * code.bits / 8
  let places := used.map fun c => code.alphabet.idxOf? c
  let isPossible := bytes != 0 && (8 * bytes + code.bits - 1) / code.bits = used.length
  if !isWhole || !isPossible || places.any Option.isNone then none
  else
    let digits := places.map (·.getD 0) ++ List.replicate (code.letters - used.length) 0
    let n := digits.foldl (fun n digit => n * Nat.pow 2 code.bits + digit) 0
    some ((Words.toBytes code.bytes n).take bytes)

/-- The bytes that letters tell, up to the first group that is none, and whether there is one. -/
def Code.decode (code : Code) (letters : List Char) : List Nat × Bool :=
  let groups := (Words.parts code.letters letters).map fun group => (group, code.decodeGroup group)
  let good := groups.takeWhile fun (_, bytes) => bytes.isSome
  ((good.map fun (_, bytes) => bytes.getD []).flatten, good.length < groups.length)

/-- The options of the programs that tell bytes by letters. -/
def table : OptionTable :=
  { letters := "diw:"
    names := [("decode", .no, 'd'), ("ignore-garbage", .no, 'i'), ("wrap", .required, 'w')] }

/-- Tells bytes by letters, or the other way round. -/
def run (code : Code) (words : List String) : Tool Unit := do
  let (options, operands) ← table.read words
  let width ← match lastOf? options 'w' with
    | none => pure 76
    | some text => match text.toNat? with
      | some n => pure n
      | none => fail ("invalid wrap size: " ++ Quote.text text)
  let path ← match operands with
    | [] => pure "-"
    | [path] => pure path
    | _ :: word :: _ => failExtra word
  match ← Digest.textOf path with
  | .error e =>
    if e == .isADirectory then fail ("read error: " ++ e.reason)
    else fail (Quote.file path ++ ": " ++ e.reason)
  | .ok text =>
    if isGiven options 'd' then
      let isLetter (c : Char) : Bool := c = '=' || code.alphabet.contains c
      let letters := if isGiven options 'i' then text.filter isLetter else text.filter (· != '\n')
      let (bytes, isBad) := code.decode letters
      say (String.ofList (bytes.map Char.ofNat))
      if isBad then fail "invalid input"
    else
      let letters := code.encode (Digest.octets text)
      if width = 0 then say (String.ofList letters)
      else for line in Words.parts width letters do sayLine (String.ofList line)

end Letters

end DeviceLab.Tools
