import DeviceLab.Tools.IndentedState

/-!
# Methods of the values of indented scripts

What can be asked of texts, lists, tables and sets, and how values are laid out in texts.

* `Indented.formatValue`, `Indented.formatPercent`, `Indented.formatBraces`: values in texts.
* `Indented.methodNames`: the methods that a value has.
* `Indented.callMethod`: the call of a method.
-/

namespace DeviceLab.Tools.Indented

open Text Unix Tool

/-! ### Values in texts -/

/-- A value laid out as a text tells. -/
def formatValue (call : Caller) (v : Value) (layout : String) : Running String := do
  if let some f := ownMethod? (← get).heap v "__format__" then
    return ← needText (← call f [v, .text layout] [])
  if layout.isEmpty then return ← textOf call v
  let kind ← kindOf v
  let unknown (f : Format) : Running String :=
    fail "ValueError" ("Unknown format code '" ++ (f.letter.getD ' ').toString
      ++ "' for object of type '" ++ kind ++ "'")
  match Format.read? layout with
  | none => fail "ValueError" ("Invalid format specifier '" ++ layout ++ "' for object of type '"
      ++ kind ++ "'")
  | some f =>
    match v with
    | .text s => if f.letter.getD 's' = 's' then return f.text s else unknown f
    | .whole n => match f.whole? n with
      | some text => return text
      | none => unknown f
    | .truth b =>
      if f.letter.isNone then return f.text (if b then "True" else "False")
      match f.whole? (if b then 1 else 0) with
      | some text => return text
      | none => unknown f
    | .real x =>
      if "eEfFgGn%".toList.contains (f.letter.getD 'g') then return f.real x else unknown f
    | _ => failType ("unsupported format string passed to " ++ kind ++ ".__format__")

/-- A value converted as a letter tells. -/
def converted (call : Caller) (conversion : Option Char) (v : Value) : Running Value := do
  match conversion with
  | some 'r' | some 'a' => return .text (← exactTextOf call v)
  | some 's' => return .text (← textOf call v)
  | _ => return v

/-- The flags of a percent sign. -/
structure PercentFlags where
  isLeft : Bool := false
  isSigned : Bool := false
  isSpaced : Bool := false
  isZero : Bool := false
  isFull : Bool := false

/-- Takes flags. -/
def takeFlags : List Char → PercentFlags → PercentFlags × List Char
  | '-' :: rest, f => takeFlags rest { f with isLeft := true }
  | '+' :: rest, f => takeFlags rest { f with isSigned := true }
  | ' ' :: rest, f => takeFlags rest { f with isSpaced := true }
  | '0' :: rest, f => takeFlags rest { f with isZero := true }
  | '#' :: rest, f => takeFlags rest { f with isFull := true }
  | rest, f => (f, rest)

/-- A text whose percent signs stand for values; `named` is the table of values with names. -/
def percentParts (call : Caller) (named : Value) :
    Nat → List Char → List Value → List String → Running String
  | 0, _, _, done => return String.join done.reverse
  | _ + 1, [], left, done => do
    unless left.isEmpty do
      match ← look named with
      | some (.table _) => pure ()
      | _ => failType "not all arguments converted during string formatting"
    return String.join done.reverse
  | fuel + 1, '%' :: rest, left, done => do
    let takeOne (left : List Value) : Running (Value × List Value) :=
      match left with
      | v :: left => return (v, left)
      | [] => failType "not enough arguments for format string"
    let (key, rest) : Option String × List Char := match rest with
      | '(' :: more =>
        let name := more.takeWhile (· != ')')
        (some (String.ofList name), more.drop (name.length + 1))
      | _ => (none, rest)
    let (flags, rest) := takeFlags rest {}
    let number (rest : List Char) (left : List Value) : Running (Option Nat × List Char × List Value) := do
      match rest with
      | '*' :: rest =>
        let (v, left) ← takeOne left
        return (some (← needWhole v).toNat, rest, left)
      | _ =>
        let digits := rest.takeWhile Char.isDigit
        return ((String.ofList digits).toNat?, rest.drop digits.length, left)
    let (width, rest, left) ← number rest left
    let (precision, rest, left) ← (do
      match rest with
      | '.' :: rest =>
        let (n, rest, left) ← number rest left
        return (some (n.getD 0), rest, left)
      | _ => return (none, rest, left) : Running (Option Nat × List Char × List Value))
    match rest with
    | [] => fail "ValueError" "incomplete format"
    | '%' :: rest => percentParts call named fuel rest left ("%" :: done)
    | letter :: rest =>
      let (v, left) ← match key with
        | none => takeOne left
        | some key => do
          let h := (← get).heap
          match h.get? named with
          | some (.table entries) =>
            match keyPlace? h entries (.text key) with
            | some n => pure ((entries.getD n default).2, left)
            | none => failArgs "KeyError" [.text key] []
          | _ => failType "format requires a mapping"
      let align : Option Char := if flags.isLeft then some '<'
        else if flags.isZero && !"srac".toList.contains letter then some '=' else some '>'
      let f : Format :=
        { fill := if align == some '=' then '0' else ' ', align
          sign := if flags.isSigned then '+' else if flags.isSpaced then ' ' else '-'
          isFull := flags.isFull, width := width.getD 0, precision }
      let needed (shown : String) : Running Unit := do
        failType ("%" ++ letter.toString ++ " format: " ++ shown ++ " is required, not "
          ++ (← kindOf v))
      let text ← match letter with
        | 's' => pure (f.text (← textOf call v))
        | 'r' | 'a' => pure (f.text (← exactTextOf call v))
        | 'c' => match v with
          | .whole n => pure (f.text (Char.ofNat n.toNat).toString)
          | _ => pure (f.text (← needText v))
        | 'd' | 'i' | 'u' =>
          match v.number? with
          | some (.inl n) =>
            let digits := toString n.natAbs
            let digits := String.ofList (List.replicate (precision.getD 0 - digits.length) '0')
              ++ digits
            pure (f.fillUp '>' (f.signText (n < 0)) digits)
          | some (.inr x) =>
            let n := (wholePart? x).getD 0
            pure (f.fillUp '>' (f.signText (n < 0)) (toString n.natAbs))
          | none =>
            needed "a real number"
            pure ""
        | 'x' | 'X' | 'o' =>
          match v.number? with
          | some (.inl n) => pure (({ f with letter := some letter }.whole? n).getD "")
          | _ =>
            needed "an integer"
            pure ""
        | 'f' | 'F' | 'e' | 'E' | 'g' | 'G' =>
          match v.number? with
          | some (.inl n) => pure ({ f with letter := some letter }.real (realOfInt n))
          | some (.inr x) => pure ({ f with letter := some letter }.real x)
          | none => failType ("must be real number, not " ++ (← kindOf v))
        | other =>
          fail "ValueError" ("unsupported format character '" ++ other.toString ++ "' (0x"
            ++ String.ofList (hexDigits 2 other.toNat) ++ ")")
      percentParts call named fuel rest left (text :: done)
  | fuel + 1, c :: rest, left, done => percentParts call named fuel rest left (c.toString :: done)

/-- A text whose percent signs stand for values. -/
def formatPercent (call : Caller) (text : String) (values : Value) : Running String :=
  let left := match values with
    | .tuple items => items
    | v => [v]
  let chars := text.toList
  percentParts call values (chars.length + 1) chars left []

/-- What a text is searched for between braces, and what is behind them. -/
def bracePart (depth : Nat) : List Char → List Char → Option (List Char × List Char)
  | [], _ => none
  | c :: rest, part =>
    if c = '\x7b' then bracePart (depth + 1) rest (c :: part)
    else if c = '\x7d' then
      match depth with
      | 0 => some (part.reverse, rest)
      | d + 1 => bracePart d rest (c :: part)
    else bracePart depth rest (c :: part)

/-! ### Parts of texts -/

/-- Whether a character separates words. -/
def isBlank (c : Char) : Bool := c.isWhitespace || c.toNat = 11 || c.toNat = 12

/-- A text without some characters at its ends. -/
def stripped (front behind : Bool) (isCut : Char → Bool) (s : String) : String :=
  let chars := s.toList
  let chars := if front then chars.dropWhile isCut else chars
  String.ofList (if behind then (chars.reverse.dropWhile isCut).reverse else chars)

def startsWith (s front : List Char) : Bool := front.isPrefixOf s

/-- The places where a text has another one, without overlaps. -/
def placesOf (part : List Char) : Nat → Nat → List Char → List Nat
  | 0, _, _ => []
  | fuel + 1, place, s =>
    if startsWith s part then
      let size := max 1 part.length
      place :: placesOf part fuel (place + size) (s.drop size)
    else match s with
      | [] => []
      | _ :: rest => placesOf part fuel (place + 1) rest

/-- A text cut at another one, up to a number of times. -/
def cutAt (mark : List Char) : Option Nat → Nat → List Char → List Char → List (List Char)
  | _, 0, s, piece => [piece.reverse ++ s]
  | limit, fuel + 1, s, piece =>
    if limit == some 0 then [piece.reverse ++ s]
    else if startsWith s mark then
      piece.reverse :: cutAt mark (limit.map (· - 1)) fuel (s.drop mark.length) []
    else match s with
      | [] => [piece.reverse]
      | c :: rest => cutAt mark limit fuel rest (c :: piece)

/-- The words of a text, up to a number of cuts. -/
def wordsOf : Option Nat → Nat → List Char → List (List Char)
  | _, 0, _ => []
  | limit, fuel + 1, s =>
    let s := s.dropWhile isBlank
    if s.isEmpty then []
    else if limit == some 0 then [(s.reverse.dropWhile isBlank).reverse]
    else
      let word := s.takeWhile fun c => !isBlank c
      word :: wordsOf (limit.map (· - 1)) fuel (s.drop word.length)

/-- A text in which another one is replaced, up to a number of times. -/
def replaced (old new : List Char) : Option Nat → Nat → List Char → List Char
  | _, 0, s => s
  | limit, fuel + 1, s =>
    if limit == some 0 then s
    else if startsWith s old then
      match old, s with
      | [], [] => new
      | [], c :: rest => new ++ c :: replaced old new (limit.map (· - 1)) fuel rest
      | _, _ => new ++ replaced old new (limit.map (· - 1)) fuel (s.drop old.length)
    else match s with
      | [] => []
      | c :: rest => c :: replaced old new limit fuel rest

/-- The lines of a text, perhaps with their ends. -/
def linesOf (keepEnds : Bool) (s : List Char) : List (List Char) :=
  (wholeLines s).map fun line =>
    if keepEnds then line else (line.reverse.dropWhile (· = '\n')).reverse

/-- A text whose words start with capital letters. -/
def titled : Bool → List Char → List Char
  | _, [] => []
  | inWord, c :: rest => (if inWord then c.toLower else c.toUpper) :: titled c.isAlpha rest

/-- Whether all characters of a text that is not empty are of a kind. -/
def allOf (isKind : Char → Bool) (s : String) : Bool := !s.isEmpty && s.toList.all isKind

/-- A value that is a number of times, where a negative one stands for no limit. -/
def limitOf (v : Option Value) : Running (Option Nat) := do
  match v with
  | none | some .nothing => return none
  | some v =>
    let n ← needWhole v
    return if n < 0 then none else some n.toNat

/-- The value of a parameter, by its place or by its name. -/
def argument (arguments : List Value) (named : List (String × Value)) (place : Nat) (name : String) :
    Option Value := arguments[place]? <|> named.lookup name

/-- The methods of texts that give texts or truths, and look at nothing else. -/
def plainTextMethod? (name s : String) : Option Value :=
  let mapped (f : Char → Char) : Option Value := some (.text (String.ofList (s.toList.map f)))
  let test (b : Bool) : Option Value := some (.truth b)
  match name with
  | "upper" => mapped Char.toUpper
  | "lower" | "casefold" => mapped Char.toLower
  | "swapcase" => mapped fun c => if c.isUpper then c.toLower else c.toUpper
  | "title" => some (.text (String.ofList (titled false s.toList)))
  | "capitalize" => some (.text (match s.toList with
      | [] => ""
      | c :: rest => String.ofList (c.toUpper :: rest.map Char.toLower)))
  | "isdigit" | "isdecimal" | "isnumeric" => test (allOf Char.isDigit s)
  | "isalpha" => test (allOf (fun c => c.isAlpha || 128 ≤ c.toNat) s)
  | "isalnum" => test (allOf (fun c => c.isAlphanum || 128 ≤ c.toNat) s)
  | "isspace" => test (allOf isBlank s)
  | "isascii" => test (s.toList.all fun c => c.toNat < 128)
  | "isprintable" => test (s.toList.all isPrintable)
  | "isidentifier" => test (allOf isNameChar s && s.toList.head?.any startsName)
  | "isupper" => test (s.toList.any Char.isUpper && !s.toList.any Char.isLower)
  | "islower" => test (s.toList.any Char.isLower && !s.toList.any Char.isUpper)
  | "istitle" => test (s.toList.any Char.isAlpha && titled false s.toList == s.toList)
  | _ => none

/-- The methods of texts. -/
def textMethods : List String :=
  ["upper", "lower", "casefold", "swapcase", "title", "capitalize", "isdigit", "isdecimal",
    "isnumeric", "isalpha", "isalnum", "isspace", "isascii", "isprintable", "isidentifier",
    "isupper", "islower", "istitle", "strip", "lstrip", "rstrip", "split", "rsplit", "splitlines",
    "join", "replace", "startswith", "endswith", "find", "rfind", "index", "rindex", "count",
    "zfill", "ljust", "rjust", "center", "format", "encode", "partition", "rpartition",
    "removeprefix", "removesuffix", "expandtabs", "translate"]

/-- The texts that a text is compared with at one of its ends. -/
def endsOf (v : Value) : Running (List (List Char)) := do
  match v with
  | .text s | .bytes s => return [s.toList]
  | .tuple items => items.mapM fun item => do
    match item with
    | .text s | .bytes s => return s.toList
    | _ =>
      failType ("tuple for startswith must only contain str, not " ++ (← kindOf item))
  | _ =>
    failType ("startswith first arg must be str or a tuple of str, not " ++ (← kindOf v))

/-- A method of a text; `wrap` makes a value of the parts of the text. -/
def textMethod (call : Caller) (wrap : String → Value) (s name : String) (arguments : List Value)
    (named : List (String × Value)) : Running Value := do
  let chars := s.toList
  let wrapped (cs : List Char) : Value := wrap (String.ofList cs)
  let part (v : Value) : Running (List Char) := do
    match v with
    | .text s | .bytes s => return s.toList
    | _ => failType ("must be str, not " ++ (← kindOf v))
  match plainTextMethod? name s with
  | some (.text t) => return wrap t
  | some v => return v
  | none =>
    match name, arguments with
    | "strip", _ | "lstrip", _ | "rstrip", _ =>
      let isCut ← match arguments.head? with
        | none | some .nothing => pure isBlank
        | some v => do
          let cut ← part v
          pure fun c => cut.contains c
      return wrap (stripped (name != "rstrip") (name != "lstrip") isCut s)
    | "split", _ | "rsplit", _ =>
      let limit ← limitOf (argument arguments named 1 "maxsplit")
      let isBack := name == "rsplit" && limit.isSome
      let source := if isBack then chars.reverse else chars
      let pieces ← match argument arguments named 0 "sep" with
        | none | some .nothing => pure (wordsOf limit (chars.length + 1) source)
        | some v => do
          let mark ← part v
          if mark.isEmpty then fail "ValueError" "empty separator"
          pure (cutAt (if isBack then mark.reverse else mark) limit (chars.length + 1) source [])
      let pieces := if isBack then (pieces.map List.reverse).reverse else pieces
      makeList (pieces.map wrapped)
    | "splitlines", _ =>
      let keep := (argument arguments named 0 "keepends").any (isTrue #[])
      makeList ((linesOf keep chars).map wrapped)
    | "join", [v] =>
      let items ← itemsOf call v
      let texts ← items.zipIdx.mapM fun (item, n) => do
        match item with
        | .text t | .bytes t => return t
        | _ =>
          failType ("sequence item " ++ toString n ++ ": expected str instance, "
            ++ (← kindOf item) ++ " found")
      return wrap (s.intercalate texts)
    | "replace", old :: new :: more =>
      let limit ← limitOf (more.head? <|> named.lookup "count")
      return wrapped (replaced (← part old) (← part new) limit (chars.length + 1) chars)
    | "startswith", v :: more =>
      let from_ ← limitOf more.head?
      return .truth ((← endsOf v).any (startsWith (chars.drop (from_.getD 0))))
    | "endswith", v :: _ =>
      return .truth ((← endsOf v).any fun part => startsWith chars.reverse part.reverse)
    | "find", v :: more | "rfind", v :: more | "index", v :: more | "rindex", v :: more
    | "count", v :: more =>
      let wanted ← match v with
        | .whole n => pure [Char.ofNat n.toNat]
        | _ => part v
      let place (v : Option Value) (usual : Nat) : Running Nat := do
        match v with
        | none | some .nothing => return usual
        | some v =>
          let n ← needWhole v
          return (if n < 0 then n + chars.length else min n chars.length).toNat
      let first ← place more.head? 0
      let behind ← place more[1]? chars.length
      let source := (chars.take behind).drop first
      if name = "count" then
        let n := (placesOf wanted (source.length + 1) 0 source).length
        return .whole (if wanted.isEmpty then source.length + 1 else n)
      let found := (List.range (source.length + 1)).filter fun n => startsWith (source.drop n) wanted
      match if name.startsWith "r" then found.getLast? else found.head? with
      | some n => return .whole (n + first : Nat)
      | none =>
        if name = "index" || name = "rindex" then fail "ValueError" "substring not found"
        return .whole (-1)
    | "zfill", [v] =>
      let width := (← needWhole v).toNat
      let (sign, digits) := match chars with
        | '-' :: rest => (['-'], rest)
        | '+' :: rest => (['+'], rest)
        | rest => ([], rest)
      return wrapped (sign ++ List.replicate (width - chars.length) '0' ++ digits)
    | "ljust", v :: more | "rjust", v :: more | "center", v :: more =>
      let missing := (← needWhole v).toNat - chars.length
      let fill ← match more.head? with
        | some v => do pure ((← part v).headD ' ')
        | none => pure ' '
      let front := match name with
        | "ljust" => 0
        | "rjust" => missing
        | _ => missing / 2 + (missing % 2) * ((missing + chars.length) % 2)
      return wrapped (List.replicate front fill ++ chars ++ List.replicate (missing - front) fill)
    | "encode", _ => return .bytes (encoded s)
    | "decode", _ => return .text (decoded s)
    | "hex", _ => return .text (String.ofList (chars.flatMap fun c => hexDigits 2 c.toNat))
    | "partition", [v] =>
      let mark ← part v
      match cutAt mark (some 1) (chars.length + 1) chars [] with
      | [front, back] => return .tuple [wrapped front, wrapped mark, wrapped back]
      | _ => return .tuple [wrap s, wrap "", wrap ""]
    | "rpartition", [v] =>
      let mark ← part v
      match cutAt mark.reverse (some 1) (chars.length + 1) chars.reverse [] with
      | [back, front] => return .tuple [wrapped front.reverse, wrapped mark, wrapped back.reverse]
      | _ => return .tuple [wrap "", wrap "", wrap s]
    | "removeprefix", [v] =>
      let front ← part v
      return if startsWith chars front then wrapped (chars.drop front.length) else wrap s
    | "removesuffix", [v] =>
      let back ← part v
      return if startsWith chars.reverse back.reverse then
        wrapped (chars.take (chars.length - back.length)) else wrap s
    | "expandtabs", _ =>
      let size ← limitOf arguments.head?
      let size := size.getD 8
      let shown := chars.foldl (fun (shown, column) c =>
        if c = '\t' then
          let n := size - column % max 1 size
          (List.replicate n ' ' ++ shown, column + n)
        else (c :: shown, if c = '\n' then 0 else column + 1)) (([], 0) : List Char × Nat)
      return wrapped shown.1.reverse
    | _, _ => failType (name ++ "() takes exactly one argument (" ++ toString arguments.length
        ++ " given)")

/-! ### Containers -/

def listMethods : List String :=
  ["append", "extend", "insert", "pop", "remove", "clear", "index", "count", "sort", "reverse",
    "copy"]

def tableMethods : List String :=
  ["get", "keys", "values", "items", "pop", "popitem", "setdefault", "update", "clear", "copy",
    "fromkeys"]

def setMethods : List String :=
  ["add", "remove", "discard", "pop", "clear", "copy", "update", "union", "intersection",
    "difference", "symmetric_difference", "issubset", "issuperset", "isdisjoint"]

def fileMethods : List String :=
  ["read", "readline", "readlines", "write", "writelines", "close", "flush", "fileno", "isatty",
    "seek", "__enter__", "__exit__"]

/-- The methods that a value has by itself. -/
def methodNames (h : Heap) (v : Value) : List String :=
  match v with
  | .text _ => textMethods
  | .bytes _ => "decode" :: "hex" :: textMethods.filter (· != "encode")
  | .tuple _ | .range _ _ _ => ["index", "count"]
  | .whole _ | .truth _ => ["bit_length", "to_bytes", "as_integer_ratio", "conjugate"]
  | .real _ => ["is_integer", "hex", "as_integer_ratio"]
  | .native "sys.stdin" | .native "sys.stdout" | .native "sys.stderr" => fileMethods
  | .native "os.environ" => tableMethods
  | .native "sys.argv" => listMethods
  | _ =>
    match h.get? v with
    | some (.list _) => listMethods
    | some (.table _) => tableMethods
    | some (.set _) => setMethods
    | some (.file ..) => fileMethods
    | some (.stream _) => ["__next__", "close", "send"]
    | some (.error ..) => ["with_traceback", "add_note"]
    | _ => []

/-- A set of the values, each once. -/
def onlyOnce (h : Heap) (items : List Value) : Array Value :=
  items.foldl (fun kept v => if kept.any (same h v) then kept else kept.push v) #[]

/-- The entries with a new value under a key. -/
def withEntry (h : Heap) (entries : Array (Value × Value)) (key value : Value) :
    Array (Value × Value) :=
  match keyPlace? h entries key with
  | some n => entries.set! n ((entries.getD n default).1, value)
  | none => entries.push (key, value)

/-- The entries that a value gives: those of a table, or pairs. -/
def entriesOf (call : Caller) (v : Value) : Running (List (Value × Value)) := do
  let source ← match v with
    | .native "os.environ" => do pure (← get).environ
    | v => pure v
  match ← look source with
  | some (.table entries) => return entries.toList
  | _ =>
    let items ← itemsOf call source
    items.zipIdx.mapM fun (item, n) => do
      match ← itemsOf call item with
      | [key, value] => return (key, value)
      | other =>
        fail "ValueError" ("dictionary update sequence element #" ++ toString n ++ " has length "
          ++ toString other.length ++ "; 2 is required")

/-- The parts of two values for which it is not clear which one is below the other one; `fuel` bounds
how deep they are looked into. -/
def unordered (h : Heap) : Nat → Value → Value → Value × Value
  | 0, a, b => (a, b)
  | fuel + 1, a, b =>
    let items (v : Value) : Option (List Value) := match v with
      | .tuple items => some items
      | v => match h.get? v with
        | some (.list items) => some items.toList
        | _ => none
    match items a, items b with
    | some xs, some ys =>
      if kindName h a != kindName h b then (a, b)
      else
        match (xs.zip ys).find? fun (x, y) => !same h x y with
        | some (x, y) => unordered h fuel x y
        | none => (a, b)
    | _, _ => (a, b)

/-- Whether a value is below another one. -/
def lessOrFail (call : Caller) (op : String) (a b : Value) : Running Bool := do
  let h := (← get).heap
  match less? h depthLimit a b with
  | some r => return r
  | none =>
    match ownMethod? h a "__lt__", ownMethod? h b "__gt__" with
    | some f, _ => return isTrue h (← call f [a, b] [])
    | none, some f => return isTrue h (← call f [b, a] [])
    | none, none =>
      let (a, b) := unordered h 100 a b
      failType ("'" ++ op ++ "' not supported between instances of '" ++ (← kindOf a) ++ "' and '"
        ++ (← kindOf b) ++ "'")

/-- Puts a value among others, the greatest of which stands first, behind those that it is below. -/
def insertSorted (call : Caller) (key v : Value) :
    List (Value × Value) → Running (List (Value × Value))
  | [] => return [(key, v)]
  | (key', v') :: rest => do
    if ← lessOrFail call "<" key key' then
      return (key', v') :: (← insertSorted call key v rest)
    else return (key, v) :: (key', v') :: rest

/-- Values in order, by the values that a function gives of them. -/
def sorted (call : Caller) (items : List Value) (named : List (String × Value)) :
    Running (List Value) := do
  let h := (← get).heap
  let isReverse := (named.lookup "reverse").any (isTrue h)
  let items := if isReverse then items.reverse else items
  let keyed ← items.mapM fun v => do
    match named.lookup "key" with
    | none | some .nothing => return (v, v)
    | some f => return (← call f [v] [], v)
  let rec go : List (Value × Value) → List (Value × Value) → Running (List (Value × Value))
    | [], done => return done
    | (key, v) :: rest, done => do go rest (← insertSorted call key v done)
  let done ← go keyed []
  let values := done.map Prod.snd
  return if isReverse then values else values.reverse

/-- A method of a list. -/
def listMethod (call : Caller) (self : Value) (items : Array Value) (name : String)
    (arguments : List Value) (named : List (String × Value)) : Running Value := do
  let h := (← get).heap
  let keep (items : Array Value) : Running Value := do
    put self (.list items)
    return .nothing
  match name, arguments with
  | "append", [v] => keep (items.push v)
  | "extend", [v] => keep (items ++ (← itemsOf call v).toArray)
  | "insert", [n, v] =>
    let n ← needWhole n
    let place := (max 0 (min (if n < 0 then n + items.size else n) items.size)).toNat
    keep ((items.toList.take place ++ v :: items.toList.drop place).toArray)
  | "pop", _ =>
    if items.isEmpty then fail "IndexError" "pop from empty list"
    let n ← match arguments.head? with
      | none => pure (items.size - 1)
      | some v => indexIn "pop" items.size v
    discard (keep ((items.toList.take n ++ items.toList.drop (n + 1)).toArray))
    return items.getD n .nothing
  | "remove", [v] =>
    match items.findIdx? (same h v) with
    | some n => keep ((items.toList.take n ++ items.toList.drop (n + 1)).toArray)
    | none => fail "ValueError" "list.remove(x): x not in list"
  | "clear", [] => keep #[]
  | "copy", [] => make (.list items)
  | "reverse", [] => keep items.reverse
  | "index", v :: _ =>
    match items.findIdx? (same h v) with
    | some n => return .whole n
    | none => fail "ValueError" ((← exactTextOf call v) ++ " is not in list")
  | "count", [v] => return .whole (items.filter (same h v)).size
  | "sort", [] => keep (← sorted call items.toList named).toArray
  | _, _ => failType ("list." ++ name ++ "() takes exactly one argument ("
      ++ toString arguments.length ++ " given)")

/-- A method of a table. -/
def tableMethod (call : Caller) (self : Value) (entries : Array (Value × Value)) (name : String)
    (arguments : List Value) (named : List (String × Value)) : Running Value := do
  let h := (← get).heap
  let keep (entries : Array (Value × Value)) : Running Value := do
    put self (.table entries)
    return .nothing
  let without (n : Nat) : Array (Value × Value) :=
    (entries.toList.take n ++ entries.toList.drop (n + 1)).toArray
  match name, arguments with
  | "get", key :: more =>
    needKey key
    match keyPlace? h entries key with
    | some n => return (entries.getD n default).2
    | none => return more.headD .nothing
  | "keys", [] => makeList (entries.toList.map Prod.fst)
  | "values", [] => makeList (entries.toList.map Prod.snd)
  | "items", [] => makeList (entries.toList.map fun (key, value) => .tuple [key, value])
  | "pop", key :: more =>
    match keyPlace? h entries key, more with
    | some n, _ =>
      discard (keep (without n))
      return (entries.getD n default).2
    | none, v :: _ => return v
    | none, [] => failArgs "KeyError" [key] []
  | "popitem", [] =>
    match entries.back? with
    | some (key, value) =>
      discard (keep entries.pop)
      return .tuple [key, value]
    | none => failArgs "KeyError" [.text "popitem(): dictionary is empty"] []
  | "setdefault", key :: more =>
    match keyPlace? h entries key with
    | some n => return (entries.getD n default).2
    | none =>
      let value := more.headD .nothing
      discard (keep (entries.push (key, value)))
      return value
  | "update", _ =>
    let more ← match arguments.head? with
      | some v => entriesOf call v
      | none => pure []
    let more := more ++ named.map fun (name, v) => (.text name, v)
    let h := (← get).heap
    keep (more.foldl (fun entries (key, value) => withEntry h entries key value) entries)
  | "clear", [] => keep #[]
  | "copy", [] => make (.table entries)
  | _, _ => failType (name ++ " expected at least 1 argument, got " ++ toString arguments.length)

/-- A method of a set. -/
def setMethod (call : Caller) (self : Value) (items : Array Value) (name : String)
    (arguments : List Value) : Running Value := do
  let keep (items : Array Value) : Running Value := do
    put self (.set items)
    return .nothing
  let others ← match name with
    | "add" | "remove" | "discard" => pure []
    | _ => do
      let found ← arguments.mapM (itemsOf call)
      pure found.flatten
  let h := (← get).heap
  let isIn (vs : Array Value) (v : Value) : Bool := vs.any (same h v)
  match name, arguments with
  | "add", [v] =>
    needKey v
    if isIn items v then return .nothing else keep (items.push v)
  | "remove", [v] =>
    if isIn items v then keep (items.filter fun w => !same h v w) else failArgs "KeyError" [v] []
  | "discard", [v] => keep (items.filter fun w => !same h v w)
  | "pop", [] =>
    match items[0]? with
    | some v =>
      discard (keep (items.filter fun w => !same h v w))
      return v
    | none => failArgs "KeyError" [.text "pop from an empty set"] []
  | "clear", [] => keep #[]
  | "copy", [] => make (.set items)
  | "update", _ => keep (onlyOnce h (items.toList ++ others))
  | "union", _ => make (.set (onlyOnce h (items.toList ++ others)))
  | "intersection", _ => make (.set (items.filter (isIn others.toArray)))
  | "difference", _ => make (.set (items.filter fun v => !isIn others.toArray v))
  | "symmetric_difference", _ =>
    let other := onlyOnce h others
    make (.set (items.filter (fun v => !isIn other v) ++ other.filter fun v => !isIn items v))
  | "issubset", _ => return .truth (items.all (isIn others.toArray))
  | "issuperset", _ => return .truth (others.all (isIn items))
  | "isdisjoint", _ => return .truth !(others.any (isIn items))
  | _, _ => failType ("set." ++ name ++ "() takes exactly one argument ("
      ++ toString arguments.length ++ " given)")

/-! ### Files -/

/-- Writes what is to be written to a file. -/
def flushFile (v : Value) : Running Unit := do
  match ← look v with
  | some (.file path mode (some descriptor) ahead waiting) =>
    unless waiting.isEmpty do
      put v (.file path mode (some descriptor) ahead [])
      orFail [] (← lift (Tool.write descriptor (String.join waiting.reverse)))
  | _ => return

/-- Closes a file. -/
def closeFile (v : Value) : Running Unit := do
  flushFile v
  match ← look v with
  | some (.file path mode (some descriptor) _ _) =>
    put v (.file path mode none [] [])
    discard (ask (.close descriptor))
  | _ => return

/-- Reads a line, with what has been read before; `fuel` bounds the number of parts. -/
def readLineFrom (descriptor : Nat) : Nat → List Char → Running (List Char × List Char)
  | 0, ahead => return (ahead, [])
  | fuel + 1, ahead => do
    let line := ahead.takeWhile (· != '\n')
    if line.length < ahead.length then return (line ++ ['\n'], ahead.drop (line.length + 1))
    match ← orFail [] (← lift (Tool.readSome descriptor Tool.blockSize)) with
    | [] => return (ahead, [])
    | part => readLineFrom descriptor fuel (ahead ++ part)

/-- A method of a file, or of the input or one of the outputs. -/
def fileMethod (call : Caller) (self : Value) (name : String) (arguments : List Value) :
    Running Value := do
  let (path, mode, descriptor, ahead, waiting) ← match self with
    | .native "sys.stdin" => do pure ("<stdin>", "r", some 0, (← get).ahead, [])
    | .native "sys.stdout" => pure ("<stdout>", "w", some 1, [], [])
    | .native _ => pure ("<stderr>", "w", some 2, [], [])
    | _ => do
      match ← look self with
      | some (.file path mode descriptor ahead waiting) =>
        pure (path, mode, descriptor, ahead, waiting)
      | _ => pure ("", "", none, [], [])
  let keepAhead (rest : List Char) : Running Unit := do
    match self with
    | .native _ => modify fun s => { s with ahead := rest }
    | _ => put self (.file path mode descriptor rest waiting)
  let some number := descriptor
    | if name = "close" || name = "__exit__" then return .nothing
      else fail "ValueError" "I/O operation on closed file."
  let canRead := mode.toList.any fun c => c = 'r' || c = '+'
  let needReading : Running Unit := do
    unless canRead do fail "io.UnsupportedOperation" "not readable"
  let writeText (v : Value) : Running Value := do
    unless mode.toList.any fun c => "wax+".toList.contains c do
      fail "io.UnsupportedOperation" "not writable"
    let (bytes, size) ← match v, isBinary mode with
      | .text s, false => pure (encoded s, s.length)
      | .bytes s, true => pure (s, s.length)
      | v, false =>
        failType ("write() argument must be str, not " ++ (← kindOf v))
      | v, true =>
        failType ("a bytes-like object is required, not '" ++ (← kindOf v) ++ "'")
    match self with
    | .native "sys.stdout" => emit (decoded bytes)
    | .native _ => emitComplaint (decoded bytes)
    | _ => put self (.file path mode descriptor ahead (bytes :: waiting))
    return .whole size
  match name, arguments with
  | "read", _ =>
    needReading
    match arguments.head? with
    | some (.whole n) =>
      if n < 0 then
        let rest ← orFail [] (← lift (Tool.readAll number))
        keepAhead []
        return contentValue mode (String.ofList (ahead ++ rest))
      let more ← if ahead.length < n.toNat then do
          orFail [] (← lift (Tool.readSome number Tool.blockSize))
        else pure []
      let text := ahead ++ more
      keepAhead (text.drop n.toNat)
      return contentValue mode (String.ofList (text.take n.toNat))
    | _ =>
      let rest ← orFail [] (← lift (Tool.readAll number))
      keepAhead []
      return contentValue mode (String.ofList (ahead ++ rest))
  | "readline", _ =>
    needReading
    let (line, rest) ← readLineFrom number Tool.partLimit ahead
    keepAhead rest
    return contentValue mode (String.ofList line)
  | "readlines", _ =>
    needReading
    makeList (← itemsOf call self)
  | "write", [v] => writeText v
  | "writelines", [v] =>
    for item in ← itemsOf call v do discard (writeText item)
    return .nothing
  | "flush", _ =>
    match self with
    | .native "sys.stdout" => lift flush
    | .native _ => pure ()
    | _ => flushFile self
    return .nothing
  | "fileno", _ => return .whole number
  | "isatty", _ => return .truth false
  | "close", _ | "__exit__", _ =>
    match self with
    | .native _ => pure ()
    | _ => closeFile self
    return .nothing
  | "__enter__", _ => return self
  | _, _ => return .nothing

/-! ### All methods -/

/-- The place of a value among some values. -/
def indexOf (call : Caller) (kind : String) (items : List Value) (v : Value) : Running Value := do
  let h := (← get).heap
  match items.findIdx? (same h v) with
  | some n => return .whole n
  | none =>
    if kind = "tuple" then fail "ValueError" "tuple.index(x): x not in tuple"
    fail "ValueError" ((← exactTextOf call v) ++ " is not in " ++ kind)

/-- Calls a method of a value. -/
def callMethod (call : Caller) (self : Value) (name : String) (arguments : List Value)
    (named : List (String × Value)) : Running Value := do
  let source ← match self with
    | .native "os.environ" => do pure (← get).environ
    | .native "sys.argv" => do pure (← get).words
    | v => pure v
  match source with
  | .text s => textMethod call Value.text s name arguments named
  | .bytes s => textMethod call Value.bytes s name arguments named
  | .native _ => fileMethod call self name arguments
  | .whole n =>
    match name with
    | "bit_length" => return .whole (if n = 0 then 0 else n.natAbs.log2 + 1)
    | _ => return self
  | .real x => return .truth ((floor? x).any fun n => realOfInt n == x)
  | .tuple items =>
    match name, arguments with
    | "index", v :: _ => indexOf call "tuple" items v
    | _, v :: _ =>
      let h := (← get).heap
      return .whole (items.filter (same h v)).length
    | _, [] => failType ("tuple." ++ name ++ "() takes exactly one argument (0 given)")
  | _ =>
    match ← look source with
    | some (.list items) => listMethod call source items name arguments named
    | some (.table entries) => tableMethod call source entries name arguments named
    | some (.set items) => setMethod call source items name arguments
    | some (.file ..) => fileMethod call source name arguments
    | some (.stream items) =>
      match name, items with
      | "__next__", v :: rest =>
        put source (.stream rest)
        return v
      | "__next__", [] => failArgs "StopIteration" [] []
      | _, _ => return .nothing
    | some (.error ..) => return self
    | _ => failType ("'" ++ (← kindOf self) ++ "' object is not callable")

end DeviceLab.Tools.Indented
