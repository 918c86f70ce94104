import Std.Data.HashMap
import DeviceLab.Decimal.Shortest
import DeviceLab.Text.Classes
import DeviceLab.Tools.IndentedScript

/-!
# Values of indented scripts

Numbers, texts and the like are values by themselves; what can be changed is an object, which a value
names by its number.

* `Indented.Value`, `Indented.Object`: values and objects.
* `Indented.realText`, `Indented.quoted`: the texts of numbers, and texts between quotation marks.
* `Indented.Format`: how values are laid out.
* `Indented.equal`, `Indented.less?`: comparisons.
-/

namespace DeviceLab.Tools.Indented

open Decimal Text

/-! ### Values and objects -/

/-- A value. -/
inductive Value where
  | nothing
  | ellipsis
  | truth (b : Bool)
  | whole (n : Int)
  | real (x : Float)
  | text (s : String)
  /-- Bytes, each as a character. -/
  | bytes (s : String)
  | tuple (items : List Value)
  | range (first behind step : Int)
  | object (n : Nat)
  /-- A function or a kind that every script has. -/
  | native (name : String)
  /-- A function that belongs to a value. -/
  | method (self : Value) (name : String)
  | module (name : String)
  deriving Inhabited

/-- Where a function was when something went wrong. -/
structure Frame where
  function : String
  span : Span
  anchor : Option Anchor := none
  /-- The path of another script and what is shown of it, if the function is not in the script. -/
  elsewhere : Option (String × List String) := none
  deriving Inhabited

/-- Something that can be changed. -/
inductive Object where
  | list (items : Array Value)
  | table (entries : Array (Value × Value))
  | set (items : Array Value)
  | function (name : String) (plain : List (String × Option Value)) (spread : Option String)
      (named : List (String × Option Value)) (spreadNames : Option String) (names : Names)
      (body : List Stmt) (scope : Nat)
  /-- A function of a kind together with the object that it is called for. -/
  | bound (self function : Value)
  | kind (name : String) (bases : List Value) (attributes : List (String × Value))
  | instance_ (kind : Value) (attributes : List (String × Value))
  /-- What is raised. -/
  | error (kind : Value) (arguments : List Value) (attributes : List (String × Value))
      (frames : List Frame) (cause context : Option Value)
  | file (path mode : String) (descriptor : Option Nat) (ahead : List Char) (waiting : List String)
  /-- Values that are taken one by one. -/
  | stream (items : List Value)
  deriving Inhabited

/-- The objects by their numbers. -/
abbrev Heap := Array Object

/-- The kinds of what is raised, each with the kind that it belongs to. -/
def errorKinds : List (String × String) :=
  [("BaseException", "object"), ("SystemExit", "BaseException"),
    ("KeyboardInterrupt", "BaseException"), ("GeneratorExit", "BaseException"),
    ("Exception", "BaseException"), ("ArithmeticError", "Exception"),
    ("ZeroDivisionError", "ArithmeticError"), ("OverflowError", "ArithmeticError"),
    ("AssertionError", "Exception"), ("AttributeError", "Exception"), ("EOFError", "Exception"),
    ("ImportError", "Exception"), ("ModuleNotFoundError", "ImportError"),
    ("LookupError", "Exception"), ("IndexError", "LookupError"), ("KeyError", "LookupError"),
    ("MemoryError", "Exception"), ("NameError", "Exception"), ("UnboundLocalError", "NameError"),
    ("OSError", "Exception"), ("BlockingIOError", "OSError"), ("ChildProcessError", "OSError"),
    ("ConnectionError", "OSError"), ("BrokenPipeError", "ConnectionError"),
    ("ConnectionRefusedError", "ConnectionError"), ("FileExistsError", "OSError"),
    ("FileNotFoundError", "OSError"), ("InterruptedError", "OSError"),
    ("IsADirectoryError", "OSError"), ("NotADirectoryError", "OSError"),
    ("PermissionError", "OSError"), ("ProcessLookupError", "OSError"), ("TimeoutError", "OSError"),
    ("RuntimeError", "Exception"), ("NotImplementedError", "RuntimeError"),
    ("RecursionError", "RuntimeError"), ("StopIteration", "Exception"), ("SyntaxError", "Exception"),
    ("TypeError", "Exception"), ("ValueError", "Exception"), ("UnicodeError", "ValueError"),
    ("UnicodeDecodeError", "UnicodeError"), ("UnicodeEncodeError", "UnicodeError"),
    ("Warning", "Exception"), ("io.UnsupportedOperation", "OSError"),
    ("subprocess.SubprocessError", "Exception"),
    ("subprocess.CalledProcessError", "subprocess.SubprocessError"),
    ("subprocess.TimeoutExpired", "subprocess.SubprocessError"),
    ("json.decoder.JSONDecodeError", "ValueError")]

/-- The name of a kind without its module. -/
def shortName (name : String) : String := (name.splitOn ".").getLastD name

/-! ### Numbers and texts -/

/-- A double-precision number by its bits. -/
def bitsOf (x : Float) : Binary64 := ⟨x.toBits⟩

/-- A whole number as a double-precision one. -/
def realOfInt (n : Int) : Float := Float.ofBits (Binary64.ofInt n).bits

/-- The whole part of a number, toward zero, if it is finite. -/
def wholePart? (x : Float) : Option Int :=
  match (bitsOf x).value with
  | .finite negative m q =>
    let (up, down) := Binary64.powTwo q
    let n : Int := (m * up / down : Nat)
    some (if negative then -n else n)
  | _ => none

/-- The greatest whole number that is not above a number, if it is finite. -/
def floor? (x : Float) : Option Int :=
  (wholePart? x).map fun n => if x < realOfInt n then n - 1 else n

/-- The shortest text of a number that tells it, with a point or an exponent. -/
def realText (x : Float) : String :=
  match (bitsOf x).value with
  | .nan => "nan"
  | .infinite negative => if negative then "-inf" else "inf"
  | .finite negative m q =>
    let sign := if negative then "-" else ""
    if m = 0 then sign ++ "0.0"
    else
      let (digits, exponent) := shortestDigits m q
      let chars := Nat.toDigits 10 digits
      let kept := (chars.reverse.dropWhile (· = '0')).reverse
      let place : Int := chars.length + exponent
      if -4 < place && place ≤ 16 then
        let text := positional digits exponent
        sign ++ if text.toList.contains '.' then text else text ++ ".0"
      else
        let power := place - 1
        let shown := match kept with
          | [c] => [c]
          | c :: rest => c :: '.' :: rest
          | [] => ['0']
        let digits := toString power.natAbs
        sign ++ String.ofList shown ++ "e" ++ (if power < 0 then "-" else "+")
          ++ (if digits.length < 2 then "0" ++ digits else digits)

/-- A number with leading zeros, in hexadecimal digits. -/
def hexDigits (width n : Nat) : List Char :=
  let digits := Nat.toDigits 16 n
  List.replicate (width - digits.length) '0' ++ digits

/-- A character between quotation marks of a kind. -/
def quotedChar (mark : Char) (isBytes : Bool) (c : Char) : List Char :=
  if c = mark || c = '\\' then ['\\', c]
  else if c = '\n' then ['\\', 'n']
  else if c = '\r' then ['\\', 'r']
  else if c = '\t' then ['\\', 't']
  else if c.toNat < 128 then
    if c.toNat < 32 || c.toNat = 127 then '\\' :: 'x' :: hexDigits 2 c.toNat else [c]
  else if isBytes then '\\' :: 'x' :: hexDigits 2 c.toNat
  else if isPrintable c then [c]
  else if c.toNat < 256 then '\\' :: 'x' :: hexDigits 2 c.toNat
  else if c.toNat < 65536 then '\\' :: 'u' :: hexDigits 4 c.toNat
  else '\\' :: 'U' :: hexDigits 8 c.toNat

/-- A text between quotation marks: single ones, unless there are such marks in it and no double
ones. -/
def quoted (isBytes : Bool) (s : String) : String :=
  let chars := s.toList
  let mark := if chars.contains '\'' && !chars.contains '"' then '"' else '\''
  String.ofList ((if isBytes then ['b'] else []) ++ mark :: chars.flatMap (quotedChar mark isBytes)
    ++ [mark])

/-! ### Formats -/

/-- How a value is laid out. -/
structure Format where
  fill : Char := ' '
  align : Option Char := none
  sign : Char := '-'
  isFull : Bool := false
  width : Nat := 0
  grouping : Option Char := none
  precision : Option Nat := none
  letter : Option Char := none

namespace Format

/-- A layout as it is written, if it is one. -/
def read? (text : String) : Option Format :=
  let chars := text.toList
  let isAlign (c : Char) : Bool := "<>=^".toList.contains c
  let (f, chars) : Format × List Char := match chars with
    | fill :: align :: rest =>
      if isAlign align then ({ fill, align := some align }, rest)
      else if isAlign fill then ({ align := some fill }, align :: rest)
      else ({}, chars)
    | [align] => if isAlign align then ({ align := some align }, []) else ({}, chars)
    | [] => ({}, [])
  let (f, chars) := match chars with
    | c :: rest => if c = '+' || c = '-' || c = ' ' then ({ f with sign := c }, rest) else (f, chars)
    | [] => (f, chars)
  let (f, chars) := match chars with
    | '#' :: rest => ({ f with isFull := true }, rest)
    | _ => (f, chars)
  let (f, chars) := match chars with
    | '0' :: rest =>
      (if f.align.isNone then { f with fill := '0', align := some '=' } else f, rest)
    | _ => (f, chars)
  let digits := chars.takeWhile Char.isDigit
  let f := { f with width := (String.ofList digits).toNat?.getD 0 }
  let chars := chars.drop digits.length
  let (f, chars) := match chars with
    | c :: rest => if c = ',' || c = '_' then ({ f with grouping := some c }, rest) else (f, chars)
    | [] => (f, chars)
  let (f, chars) := match chars with
    | '.' :: rest =>
      let digits := rest.takeWhile Char.isDigit
      ({ f with precision := (String.ofList digits).toNat? }, rest.drop digits.length)
    | _ => (f, chars)
  match chars with
  | [] => some f
  | [c] => some { f with letter := some c }
  | _ => none

/-- A text that is filled up to the width, behind something that stays in front. -/
def fillUp (f : Format) (usual : Char) (front body : String) : String :=
  let missing := f.width - (front.length + body.length)
  let filling (n : Nat) : String := String.ofList (List.replicate n f.fill)
  match f.align.getD usual with
  | '<' => front ++ body ++ filling missing
  | '^' => filling (missing / 2) ++ front ++ body ++ filling (missing - missing / 2)
  | '=' => front ++ filling missing ++ body
  | _ => filling missing ++ front ++ body

def grouped (mark : Char) (size : Nat) (digits : List Char) : List Char :=
  let front := digits.length % size
  digits.zipIdx.flatMap fun (c, n) =>
    if n != 0 && n % size = front % size then [mark, c] else [c]

def signText (f : Format) (isNegative : Bool) : String :=
  if isNegative then "-" else if f.sign = '-' then "" else f.sign.toString

/-- A text. -/
def text (f : Format) (s : String) : String :=
  let s := match f.precision with
    | some n => String.ofList (s.toList.take n)
    | none => s
  f.fillUp '<' "" s

/-- A number whose digits in front of the point may be grouped, filled up to the width. -/
def number (f : Format) (isNegative : Bool) (mark : String) (body : String) : String :=
  let whole := body.toList.takeWhile Char.isDigit
  let rest := body.toList.drop whole.length
  let shown := match f.grouping with
    | some mark => grouped mark 3 whole
    | none => whole
  f.fillUp '>' (f.signText isNegative ++ mark) (String.ofList (shown ++ rest))

/-- A real number. -/
def real (f : Format) (x : Float) : String :=
  let size := bitsOf x.abs
  let isNegative := x < 0 || x == 0 && x.toBits != 0
  let layout (usual : Nat) : Layout :=
    { precision := some (f.precision.getD usual), full := f.isFull }
  match f.letter with
  | some 'f' | some 'F' => f.number isNegative "" ((layout 6).real .fixed false size)
  | some 'e' => f.number isNegative "" ((layout 6).real .exponent false size)
  | some 'E' => f.number isNegative "" ((layout 6).real .exponent true size)
  | some 'g' | some 'G' => f.number isNegative "" ((layout 6).real .general false size)
  | some '%' =>
    f.number isNegative "" ((layout 6).real .fixed false (bitsOf (x.abs * 100)) ++ "%")
  | _ =>
    match f.precision with
    | none => f.number isNegative "" (realText x.abs)
    | some _ => f.number isNegative "" ((layout 6).real .general false size)

/-- A whole number, or nothing if it cannot be laid out so. -/
def whole? (f : Format) (n : Int) : Option String :=
  let based (base : Nat) (mark : String) : Option String :=
    let digits := Nat.toDigits base n.natAbs
    let digits := match f.grouping with
      | some c => grouped c 4 digits
      | none => digits
    some (f.fillUp '>' (f.signText (n < 0) ++ if f.isFull then mark else "") (String.ofList digits))
  match f.letter with
  | none | some 'd' | some 'n' => some (f.number (n < 0) "" (toString n.natAbs))
  | some 'x' => based 16 "0x"
  | some 'X' => (based 16 "0X").map fun s => String.ofList (s.toList.map Char.toUpper)
  | some 'o' => based 8 "0o"
  | some 'b' => based 2 "0b"
  | some 'c' => some (f.fillUp '<' "" (Char.ofNat n.toNat).toString)
  | some c => if "eEfFgG%".toList.contains c then some (f.real (realOfInt n)) else none

end Format

/-! ### Comparisons -/

/-- The object that a value names. -/
def Heap.get? (h : Heap) : Value → Option Object
  | .object n => h[n]?
  | _ => none

/-- A number as a real one, if a value is a number. -/
def Value.number? : Value → Option (Int ⊕ Float)
  | .truth b => some (.inl (if b then 1 else 0))
  | .whole n => some (.inl n)
  | .real x => some (.inr x)
  | _ => none

/-- Compares numbers. -/
def numberLess (a b : Int ⊕ Float) : Bool :=
  match a, b with
  | .inl n, .inl m => n < m
  | .inl n, .inr y => realOfInt n < y
  | .inr x, .inl m => x < realOfInt m
  | .inr x, .inr y => x < y

/-- Whether numbers are the same. -/
def numberEqual (a b : Int ⊕ Float) : Bool :=
  match a, b with
  | .inl n, .inl m => n == m
  | .inl n, .inr y => realOfInt n == y
  | .inr x, .inl m => x == realOfInt m
  | .inr x, .inr y => x == y

mutual

/-- Whether two values are the same; `fuel` bounds how deep they are looked into. -/
def equal (h : Heap) : Nat → Value → Value → Bool
  | 0, _, _ => false
  | fuel + 1, a, b =>
    match a.number?, b.number? with
    | some n, some m => numberEqual n m
    | _, _ =>
      match a, b with
      | .nothing, .nothing | .ellipsis, .ellipsis => true
      | .text s, .text t | .bytes s, .bytes t => s == t
      | .tuple xs, .tuple ys => equalAll h fuel xs ys
      | .range a b c, .range d e f => a == d && b == e && c == f
      | .native s, .native t | .module s, .module t => s == t
      | .object n, .object m =>
        if n = m then true
        else
          match h[n]?, h[m]? with
          | some (.list xs), some (.list ys) => equalAll h fuel xs.toList ys.toList
          | some (.set xs), some (.set ys) =>
            xs.size == ys.size && includesAll h fuel xs.toList ys.toList
          | some (.table xs), some (.table ys) =>
            xs.size == ys.size && matchesAll h fuel xs.toList ys.toList
          | _, _ => false
      | _, _ => false

/-- Whether values are the same in the same order. -/
def equalAll (h : Heap) : Nat → List Value → List Value → Bool
  | 0, _, _ => false
  | _ + 1, [], [] => true
  | fuel + 1, a :: as, b :: bs => equal h fuel a b && equalAll h fuel as bs
  | _ + 1, _, _ => false

/-- Whether all values are among others. -/
def includesAll (h : Heap) : Nat → List Value → List Value → Bool
  | 0, _, _ => false
  | _ + 1, [], _ => true
  | fuel + 1, a :: as, bs => bs.any (equal h fuel a) && includesAll h fuel as bs

/-- Whether all entries are among others. -/
def matchesAll (h : Heap) : Nat → List (Value × Value) → List (Value × Value) → Bool
  | 0, _, _ => false
  | _ + 1, [], _ => true
  | fuel + 1, (key, value) :: rest, others =>
    others.any (fun other => equal h fuel key other.1 && equal h fuel value other.2) &&
      matchesAll h fuel rest others

end

/-- How deep values are looked into. -/
def depthLimit : Nat := 100000

def same (h : Heap) (a b : Value) : Bool := equal h depthLimit a b

mutual

/-- Whether a value is below another one, if they have an order. -/
def less? (h : Heap) : Nat → Value → Value → Option Bool
  | 0, _, _ => none
  | fuel + 1, a, b =>
    match a.number?, b.number? with
    | some n, some m => some (numberLess n m)
    | _, _ =>
      match a, b with
      | .text s, .text t | .bytes s, .bytes t => some (s < t)
      | .tuple xs, .tuple ys => lessAll? h fuel xs ys
      | .object n, .object m =>
        match h[n]?, h[m]? with
        | some (.list xs), some (.list ys) => lessAll? h fuel xs.toList ys.toList
        | some (.set xs), some (.set ys) =>
          some (xs.size < ys.size && includesAll h fuel xs.toList ys.toList)
        | _, _ => none
      | _, _ => none

/-- Whether values are below others, by the first ones that differ. -/
def lessAll? (h : Heap) : Nat → List Value → List Value → Option Bool
  | 0, _, _ => none
  | _ + 1, [], ys => some !ys.isEmpty
  | _ + 1, _, [] => some false
  | fuel + 1, x :: xs, y :: ys =>
    if equal h fuel x y then lessAll? h fuel xs ys else less? h fuel x y

end

/-- Whether a value counts as true; an object of a kind of the script does. -/
def isTrue (h : Heap) : Value → Bool
  | .nothing => false
  | .truth b => b
  | .whole n => n != 0
  | .real x => x != 0
  | .text s | .bytes s => !s.isEmpty
  | .tuple items => !items.isEmpty
  | .range first behind step => if 0 < step then first < behind else behind < first
  | .object n =>
    match h[n]? with
    | some (.list items) | some (.set items) => !items.isEmpty
    | some (.table entries) => !entries.isEmpty
    | _ => true
  | _ => true

/-- The name of the kind of a value. -/
def kindName (h : Heap) : Value → String
  | .nothing => "NoneType"
  | .ellipsis => "ellipsis"
  | .truth _ => "bool"
  | .whole _ => "int"
  | .real _ => "float"
  | .text _ => "str"
  | .bytes _ => "bytes"
  | .tuple _ => "tuple"
  | .range _ _ _ => "range"
  | .native name => if isKind name then "type" else "builtin_function_or_method"
  | .method _ _ => "builtin_function_or_method"
  | .module _ => "module"
  | .object n =>
    match h[n]? with
    | some (.list _) => "list"
    | some (.table _) => "dict"
    | some (.set _) => "set"
    | some (.function ..) => "function"
    | some (.bound _ _) => "method"
    | some (.kind ..) => "type"
    | some (.instance_ kind _) | some (.error kind ..) => kindLabel kind
    | some (.file _ mode ..) =>
      if mode.toList.contains 'b' then "_io.BufferedReader" else "_io.TextIOWrapper"
    | some (.stream _) => "generator"
    | none => "object"
where
  /-- Whether a name is one of a kind that every script has. -/
  isKind (name : String) : Bool :=
    ["int", "str", "float", "bool", "list", "tuple", "dict", "set", "bytes", "type", "range",
      "object", "frozenset", "property", "NoneType", "function", "module", "method", "generator",
      "ellipsis", "builtin_function_or_method"].contains name || (errorKinds.lookup name).isSome
  /-- The name of a kind. -/
  kindLabel (kind : Value) : String :=
    match kind with
    | .native name => shortName name
    | .object k => match h[k]? with
      | some (.kind name ..) => name
      | _ => "object"
    | _ => "object"

/-- The entry of a table under a key. -/
def keyPlace? (h : Heap) (entries : Array (Value × Value)) (key : Value) : Option Nat :=
  entries.findIdx? fun entry => same h entry.1 key

def rangeItems (first behind step : Int) : List Value :=
  let count : Int := if 0 < step then (behind - first + step - 1) / step
    else if step < 0 then (first - behind - step - 1) / (-step) else 0
  (List.range count.toNat).map fun (k : Nat) => .whole (first + step * (k : Int))

/-- The places of a part of a sequence. -/
def slicePlaces (size : Nat) (first behind step : Option Int) : List Nat :=
  let step := step.getD 1
  let size : Int := size
  let bound (low high n : Int) : Int :=
    let n := if n < 0 then n + size else n
    max low (min high n)
  let (first, behind) := if 0 < step then
      ((first.map (bound 0 size)).getD 0, (behind.map (bound 0 size)).getD size)
    else
      ((first.map (bound (-1) (size - 1))).getD (size - 1),
        (behind.map (bound (-1) (size - 1))).getD (-1))
  (rangeItems first behind step).filterMap fun v => match v with
    | .whole n => some n.toNat
    | _ => none

end DeviceLab.Tools.Indented
