import DeviceLab.Tools.IndentedMethods

/-!
# Values of indented scripts as documents

* `Indented.Json.write`: the document of a value.
* `Indented.Json.read`: the value of a document.
-/

namespace DeviceLab.Tools.Indented

open Text Unix Tool

namespace Json

/-! ### Writing -/

/-- A character between quotation marks. -/
def quotedChar (isPlain : Bool) (c : Char) : List Char :=
  if c = '"' || c = '\\' then ['\\', c]
  else if c = '\n' then ['\\', 'n']
  else if c = '\r' then ['\\', 'r']
  else if c = '\t' then ['\\', 't']
  else if c.toNat = 8 then ['\\', 'b']
  else if c.toNat = 12 then ['\\', 'f']
  else if c.toNat < 32 || isPlain && 126 < c.toNat then
    if c.toNat < 0x10000 then '\\' :: 'u' :: hexDigits 4 c.toNat
    else
      let n := c.toNat - 0x10000
      '\\' :: 'u' :: hexDigits 4 (0xd800 + n / 1024) ++ '\\' :: 'u' ::
        hexDigits 4 (0xdc00 + n % 1024)
  else [c]

/-- A text between quotation marks. -/
def quoted (isPlain : Bool) (s : String) : String :=
  "\"" ++ String.ofList (s.toList.flatMap (quotedChar isPlain)) ++ "\""

/-- How documents are written. -/
structure Style where
  indent : Option String := none
  isSorted : Bool := false
  isPlain : Bool := true
  comma : String := ", "
  colon : String := ": "

/-- The number of a value in a document. -/
def realText (x : Float) : String :=
  match Indented.realText x with
  | "inf" => "Infinity"
  | "-inf" => "-Infinity"
  | "nan" => "NaN"
  | text => text

/-- The parts of a document between brackets. -/
def bracketed (style : Style) (depth : Nat) (open_ closing : String) (parts : List String) : String :=
  match style.indent with
  | none => open_ ++ style.comma.intercalate parts ++ closing
  | some indent =>
    if parts.isEmpty then open_ ++ closing
    else
      let line (n : Nat) : String := "\n" ++ String.join (List.replicate n indent)
      open_ ++ line (depth + 1) ++ (style.comma ++ line (depth + 1)).intercalate parts
        ++ line depth ++ closing

mutual

/-- The document of a value; `usual` makes another value of one that has none. -/
def write (call : Caller) (style : Style) (usual : Option Value) : Nat → Nat → Value → Running String
  | 0, _, _ => fail "ValueError" "Circular reference detected"
  | fuel + 1, depth, v => do
    match v with
    | .nothing => return "null"
    | .truth b => return if b then "true" else "false"
    | .whole n => return toString n
    | .real x => return realText x
    | .text s => return quoted style.isPlain s
    | .tuple items =>
      return bracketed style depth "[" "]" (← writeAll call style usual fuel (depth + 1) items)
    | v =>
      match ← look v with
      | some (.list items) =>
        return bracketed style depth "[" "]"
          (← writeAll call style usual fuel (depth + 1) items.toList)
      | some (.table entries) =>
        let keyed := entries.toList
        let keyed ← if style.isSorted then do
            let keys ← sorted call (keyed.map Prod.fst) []
            let h := (← get).heap
            pure (keys.filterMap fun key => (keyPlace? h entries key).bind fun n => entries[n]?)
          else pure keyed
        return bracketed style depth "\x7b" "\x7d"
          (← writeEntries call style usual fuel (depth + 1) keyed)
      | _ =>
        match usual with
        | some f => do
          let other ← call f [v] []
          write call style usual fuel depth other
        | none =>
          failType ("Object of type " ++ (← kindOf v) ++ " is not JSON serializable")

/-- The documents of values. -/
def writeAll (call : Caller) (style : Style) (usual : Option Value) :
    Nat → Nat → List Value → Running (List String)
  | 0, _, _ => return []
  | _ + 1, _, [] => return []
  | fuel + 1, depth, v :: rest => do
    let first ← write call style usual fuel depth v
    return first :: (← writeAll call style usual fuel depth rest)

/-- The documents of the entries of a table. -/
def writeEntries (call : Caller) (style : Style) (usual : Option Value) :
    Nat → Nat → List (Value × Value) → Running (List String)
  | 0, _, _ => return []
  | _ + 1, _, [] => return []
  | fuel + 1, depth, (key, v) :: rest => do
    let key ← match key with
      | .text s => pure (quoted style.isPlain s)
      | .whole _ | .real _ | .truth _ | .nothing => do
        pure ("\"" ++ (← write call style usual fuel depth key) ++ "\"")
      | other =>
        failType ("keys must be str, int, float, bool or None, not " ++ (← kindOf other))
    let first := key ++ style.colon ++ (← write call style usual fuel depth v)
    return first :: (← writeEntries call style usual fuel depth rest)

end

/-! ### Reading -/

/-- The document that is read, with what is left of it. -/
structure Source where
  whole : List Char
  rest : List Char

/-- The functions in which a document is complained about. -/
def framesOf (detail : String) : List Frame :=
  let path := "/usr/lib/python3.12/json/decoder.py"
  let outer := frameOf "/usr/lib/python3.12/json/__init__.py" "loads" 346
    "return _default_decoder.decode(s)" 7 26
  let decode := frameOf path "decode" 337 "obj, end = self.raw_decode(s, idx=_w(s, 0).end())" 11 38
  if detail = "Extra data" then
    [outer, frameOf path "decode" 340 "raise JSONDecodeError(\"Extra data\", s, end)" 0 0]
  else if detail = "Expecting value" then
    [outer, decode, frameOf path "raw_decode" 355
      "raise JSONDecodeError(\"Expecting value\", s, err.value) from None" 0 0]
  else [outer, decode, frameOf path "raw_decode" 353 "obj, end = self.scan_once(s, idx)" 11 22]

/-- Complains about a document at a place. -/
def failAt (s : Source) (detail : String) (rest : List Char) : Running α := do
  let place := s.whole.length - rest.length
  let before := s.whole.take place
  let line := 1 + (before.filter (· = '\n')).length
  let column := 1 + (before.reverse.takeWhile (· != '\n')).length
  throughFrames (framesOf detail) <| fail "json.decoder.JSONDecodeError" (detail ++ ": line " ++ toString line ++ " column "
    ++ toString column ++ " (char " ++ toString place ++ ")")

/-- What is left without the blanks in front of it. -/
def skipBlanks (cs : List Char) : List Char :=
  cs.dropWhile fun c => c = ' ' || c = '\t' || c = '\n' || c = '\r'

/-- The characters of a text up to its closing quotation mark. -/
def readText (s : Source) (start : List Char) : Nat → List Char → List Char →
    Running (String × List Char)
  | 0, _, rest => failAt s "Unterminated string starting at" rest
  | fuel + 1, done, rest => do
    match rest with
    | [] => failAt s "Unterminated string starting at" start
    | '"' :: rest => return (String.ofList done.reverse, rest)
    | '\\' :: 'u' :: more =>
      match digits? 16 4 more with
      | some (n, rest) =>
        match rest with
        | '\\' :: 'u' :: again =>
          match digits? 16 4 again with
          | some (m, behind) =>
            if 0xd800 ≤ n && n < 0xdc00 && 0xdc00 ≤ m && m < 0xe000 then
              let c := Char.ofNat (0x10000 + (n - 0xd800) * 1024 + (m - 0xdc00))
              readText s start fuel (c :: done) behind
            else readText s start fuel (Char.ofNat n :: done) rest
          | none => readText s start fuel (Char.ofNat n :: done) rest
        | _ => readText s start fuel (Char.ofNat n :: done) rest
      | none => failAt s "Invalid \\uXXXX escape" more
    | '\\' :: c :: more =>
      match [('n', '\n'), ('t', '\t'), ('r', '\r'), ('b', Char.ofNat 8), ('f', Char.ofNat 12),
        ('"', '"'), ('\\', '\\'), ('/', '/')].lookup c with
      | some d => readText s start fuel (d :: done) more
      | none => failAt s "Invalid \\escape" rest
    | c :: more =>
      if c.toNat < 32 then failAt s "Invalid control character at" rest
      readText s start fuel (c :: done) more

/-- The number at the start of a text, with what is behind it. -/
def number? (cs : List Char) : Option (Value × List Char) :=
  let (sign, digits) := match cs with
    | '-' :: rest => (['-'], rest)
    | rest => ([], rest)
  let whole := match digits with
    | '0' :: _ => ['0']
    | _ => digits.takeWhile Char.isDigit
  if whole.isEmpty then none
  else
    let rest := digits.drop whole.length
    let (part, rest) := match rest with
      | '.' :: more =>
        let found := more.takeWhile Char.isDigit
        if found.isEmpty then ([], rest) else ('.' :: found, more.drop found.length)
      | _ => ([], rest)
    let (power, rest) := match rest with
      | c :: more =>
        if c = 'e' || c = 'E' then
          let (sign, more) := match more with
            | '+' :: more => ([], more)
            | '-' :: more => (['-'], more)
            | _ => ([], more)
          let found := more.takeWhile Char.isDigit
          if found.isEmpty then ([], rest) else ('e' :: sign ++ found, more.drop found.length)
        else ([], rest)
      | [] => ([], rest)
    if part.isEmpty && power.isEmpty then
      let n : Int := ((String.ofList whole).toNat?.getD 0 : Nat)
      some (.whole (if sign.isEmpty then n else -n), rest)
    else
      match Shell.Format.realOf? (sign ++ whole ++ part ++ power) with
      | some (x, _) => some (.real (Float.ofBits x.bits), rest)
      | none => none

mutual

/-- The value at the start of a document, with what is behind it. -/
def readValue (s : Source) : Nat → List Char → Running (Value × List Char)
  | 0, rest => failAt s "Expecting value" rest
  | fuel + 1, rest => do
    match rest with
    | '"' :: more =>
      let (text, rest) ← readText s rest (more.length + 1) [] more
      return (.text text, rest)
    | '[' :: more =>
      match skipBlanks more with
      | ']' :: rest => return (← makeList [], rest)
      | more =>
        let (items, rest) ← readItems s fuel more
        return (← makeList items, rest)
    | '\x7b' :: more =>
      match skipBlanks more with
      | '\x7d' :: rest => return (← makeTable [], rest)
      | more =>
        let (entries, rest) ← readEntries s fuel more
        let h := (← get).heap
        let kept := entries.foldl (fun kept (key, v) => withEntry h kept key v) #[]
        return (← make (.table kept), rest)
    | _ =>
      let words : List (String × Value) :=
        [("null", .nothing), ("true", .truth true), ("false", .truth false),
          ("NaN", .real (0.0 / 0.0)), ("Infinity", .real (1.0 / 0.0)),
          ("-Infinity", .real (-1.0 / 0.0))]
      match words.find? fun (word, _) => word.toList.isPrefixOf rest with
      | some (word, v) => return (v, rest.drop word.length)
      | none =>
        match number? rest with
        | some found => return found
        | none => failAt s "Expecting value" rest

/-- The values up to a closing bracket. -/
def readItems (s : Source) : Nat → List Char → Running (List Value × List Char)
  | 0, rest => failAt s "Expecting value" rest
  | fuel + 1, rest => do
    let (v, rest) ← readValue s fuel rest
    match skipBlanks rest with
    | ']' :: rest => return ([v], rest)
    | ',' :: more =>
      let (items, rest) ← readItems s fuel (skipBlanks more)
      return (v :: items, rest)
    | rest => failAt s "Expecting ',' delimiter" rest

/-- The entries up to a closing brace. -/
def readEntries (s : Source) : Nat → List Char → Running (List (Value × Value) × List Char)
  | 0, rest => failAt s "Expecting value" rest
  | fuel + 1, rest => do
    match rest with
    | '"' :: more =>
      let (key, rest) ← readText s rest (more.length + 1) [] more
      match skipBlanks rest with
      | ':' :: rest =>
        let (v, rest) ← readValue s fuel (skipBlanks rest)
        match skipBlanks rest with
        | '\x7d' :: rest => return ([(.text key, v)], rest)
        | ',' :: more =>
          let (entries, rest) ← readEntries s fuel (skipBlanks more)
          return ((.text key, v) :: entries, rest)
        | rest => failAt s "Expecting ',' delimiter" rest
      | rest => failAt s "Expecting ':' delimiter" rest
    | _ => failAt s "Expecting property name enclosed in double quotes" rest

end

/-- The value of a document. -/
def read (text : String) : Running Value := do
  let whole := text.toList
  let s : Source := ⟨whole, whole⟩
  let (v, rest) ← readValue s (whole.length * 4 + 16) (skipBlanks whole)
  match skipBlanks rest with
  | [] => return v
  | rest => failAt s "Extra data" rest

/-- The style that named values ask for. -/
def styleOf (named : List (String × Value)) : Style :=
  let isSorted := (named.lookup "sort_keys").any (isTrue #[])
  let isPlain := (named.lookup "ensure_ascii").all (isTrue #[])
  let indent := match named.lookup "indent" with
    | some (.whole n) => some (String.ofList (List.replicate n.toNat ' '))
    | some (.text s) => some s
    | _ => none
  let (comma, colon) := match named.lookup "separators" with
    | some (.tuple [.text comma, .text colon]) => (comma, colon)
    | _ => (if indent.isSome then "," else ", ", ": ")
  { indent, isSorted, isPlain, comma, colon }

end Json

end DeviceLab.Tools.Indented
