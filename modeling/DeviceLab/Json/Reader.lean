import DeviceLab.Decimal.Powers
import DeviceLab.Json.Document
import DeviceLab.Decimal.Numeral

/-!
# Reading JSON text

`Document.ofText` reads the first document of a text and says whether anything but blanks follows
it.  Nothing is refused here: damage stays in the document, at the place where it was met.
-/

namespace DeviceLab.Json

open Decimal

/-- The blanks between the parts of a JSON text. -/
def isSpace (c : Char) : Bool := c == ' ' || c == '\n' || c == '\t' || c == '\r'

/-- The text without the blanks at its start. -/
def skipSpace (cs : List Char) : List Char := cs.dropWhile isSpace

/-- The value of a hexadecimal digit. -/
def hexDigit? (c : Char) : Option Nat :=
  if '0' ≤ c ∧ c ≤ '9' then some (c.toNat - '0'.toNat)
  else if 'a' ≤ c ∧ c ≤ 'f' then some (c.toNat - 'a'.toNat + 10)
  else if 'A' ≤ c ∧ c ≤ 'F' then some (c.toNat - 'A'.toNat + 10)
  else none

/-- The number of a run of hexadecimal digits. -/
def hexNumber? (cs : List Char) : Option Nat :=
  cs.foldl (fun n? c => do return (← n?) * 16 + (← hexDigit? c)) (some 0)

/-- Four hexadecimal digits and the rest of the text, which is unfinished only if fewer than four
bytes of it are left. -/
def hexEscape (cs : List Char) : Except Fault (Nat × List Char) :=
  let digits := cs.take 4
  if digits.foldl (fun n c => n + c.utf8Size) 0 < 4 then .error .unfinished
  else match hexNumber? digits with
    | some n => .ok (n, cs.drop 4)
    | none => .error .malformed

/-- The character of a short escape. -/
def shortEscape? (c : Char) : Option Char :=
  if c = '"' ∨ c = '\\' ∨ c = '/' then some c
  else if c = 'b' then some '\x08'
  else if c = 'f' then some '\x0c'
  else if c = 'n' then some '\n'
  else if c = 'r' then some '\r'
  else if c = 't' then some '\t'
  else none

/-- What one step inside a string met. -/
inductive StringPart where
  | finish (rest : List Char)
  | char (c : Char) (rest : List Char)
  /-- An escape that tells no character: the fault when it is wanted; it can be passed over. -/
  | half (fault : Fault) (rest : List Char)
  | fault (f : Fault)

/-- An escape with a hexadecimal number, from behind its `u`.  A number that is half of a surrogate
pair needs the other half right behind it. -/
def numberEscape (cs : List Char) : StringPart :=
  match hexEscape cs with
  | .error f => .fault f
  | .ok (n, rest) =>
    if 0xdc00 ≤ n ∧ n ≤ 0xdfff then .half .malformed rest
    else if n < 0xd800 ∨ 0xdfff < n then .char (Char.ofNat n) rest
    else match rest with
      | [] => .fault .unfinished
      | ['\\'] => .fault .unfinished
      | '\\' :: 'u' :: more =>
        match hexEscape more with
        | .error f => .fault f
        | .ok (m, after) =>
          if 0xdc00 ≤ m ∧ m ≤ 0xdfff then
            .char (Char.ofNat (0x10000 + (n - 0xd800) * 0x400 + (m - 0xdc00))) after
          else .half .malformed rest
      | _ => .half .malformed rest

/-- One step inside a string. -/
def stringPart : List Char → StringPart
  | [] => .fault .unfinished
  | '"' :: rest => .finish rest
  | '\\' :: rest =>
    match rest with
    | [] => .fault .unfinished
    | 'u' :: more => numberEscape more
    | c :: more =>
      match shortEscape? c with
      | some d => .char d more
      | none => .fault .malformed
  | c :: rest => if c.toNat < 0x20 then .fault .malformed else .char c rest

/-- The outcome of a token: its value or the fault when it is wanted, and the rest of the text or
the fault when it is passed over. -/
structure Token (α : Type) where
  value : Except Fault α
  rest : Except Fault (List Char)

/-- A token that is damaged in the same way whether wanted or not. -/
def Token.bad (f : Fault) : Token α := ⟨.error f, .error f⟩

/-- The characters of a string from behind its first quote; `fuel` bounds the number of steps, and
the length of the text is enough. -/
def readString : Nat → List Char → List Char → Token String
  | 0, _, _ => .bad .unfinished
  | fuel + 1, seen, cs =>
    match stringPart cs with
    | .finish rest => ⟨.ok (String.ofList seen.reverse), .ok rest⟩
    | .char c rest => readString fuel (c :: seen) rest
    | .half f rest => ⟨.error f, (readString fuel seen rest).rest⟩
    | .fault f => .bad f

/-- The greatest whole number that the digits of a numeral are gathered in. -/
def gatheredLimit : Nat := twoTo 64

/-- The digits that still fit into the number that they are gathered in. -/
def gathered : Nat → List Char → Nat × List Char
  | n, [] => (n, [])
  | n, c :: cs =>
    let more := n * 10 + (c.toNat - '0'.toNat)
    if more < gatheredLimit then gathered more cs else (n, c :: cs)

/-- The number of a numeral, unless it is too great.  Digits that do not fit are worth nothing, and
the rest is brought to its power of ten in steps, each of which is rounded. -/
def realOf? (negative : Bool) (whole fraction : List Char) (exponent : Int) : Option Binary64 :=
  let (digits, dropped) := gathered 0 whole
  let (digits, unused) := if dropped.isEmpty then gathered digits fraction else (digits, fraction)
  let taken : Int := if dropped.isEmpty then fraction.length - unused.length else 0
  ((Binary64.ofNat digits).timesTenTo (dropped.length - taken + exponent)).map fun x =>
    if negative then x.negated else x

/-- A numeral: an optional minus sign, digits without a superfluous zero in front, a fraction and an
exponent.  A numeral cut off by the end of the text is unfinished when it is wanted. -/
def readNumber (cs : List Char) : Token Document :=
  let cut (rest : List Char) : Token Document :=
    ⟨.error (if rest.isEmpty then .unfinished else .malformed), .error .malformed⟩
  let (negative, body) := match cs with
    | '-' :: rest => (true, rest)
    | _ => (false, cs)
  let whole := body.takeWhile isDigit
  let rest := body.dropWhile isDigit
  if whole.isEmpty then cut rest
  else if whole.head? = some '0' ∧ whole.length ≠ 1 then .bad .malformed
  else
    let (pointed, fraction, rest) : Bool × List Char × List Char := match rest with
      | '.' :: more => (true, more.takeWhile isDigit, more.dropWhile isDigit)
      | _ => (false, [], rest)
    if pointed && fraction.isEmpty then cut rest
    else
      let finish (exponent : Int) (rest : List Char) : Token Document :=
        let value := (realOf? negative whole fraction exponent).map Document.real
        ⟨value.elim (.error .malformed) .ok, .ok rest⟩
      let exponential : Option (List Char) := match rest with
        | c :: more => if c = 'e' ∨ c = 'E' then some more else none
        | [] => none
      match exponential with
      | some more =>
        let (down, power) := match more with
          | '-' :: r => (true, r)
          | '+' :: r => (false, r)
          | _ => (false, more)
        let found := power.takeWhile isDigit
        let after := power.dropWhile isDigit
        if found.isEmpty then cut after
        else
          let size : Int := ofDigits found
          finish (if down then -size else size) after
      | none =>
        if pointed then finish 0 rest
        else
          let n := ofDigits whole
          if negative then
            if n = 0 ∨ twoTo 63 < n then finish 0 rest else ⟨.ok (.int (-(n : Int))), .ok rest⟩
          else if n < twoTo 64 then ⟨.ok (.int n), .ok rest⟩
          else finish 0 rest

/-- One of the words `null`, `true` and `false`, from behind its first letter. -/
def readWord (lead : Char) (value : Document) : List Char → List Char → Document × List Char
  | [], rest => (value, rest)
  | _ :: _, [] => (.damaged lead .unfinished (some .unfinished), [])
  | c :: word, d :: rest =>
    if c = d then readWord lead value word rest
    else (.damaged lead .malformed (some .malformed), [])

/-- A token as a part of a document. -/
def Token.toDocument (lead : Char) (t : Token Document) : Document × List Char :=
  match t.value, t.rest with
  | .ok value, .ok rest => (value, rest)
  | .error wanted, .ok rest => (.damaged lead wanted none, rest)
  | .ok _, .error f => (.damaged lead f (some f), [])
  | .error wanted, .error f => (.damaged lead wanted (some f), [])

def Token.toText (t : Token String) : Document × List Char :=
  Token.toDocument '"' ⟨t.value.map .string, t.rest⟩

mutual

/-- The first document of a text and what follows it; `fuel` bounds the steps. -/
def readDocument : Nat → List Char → Document × List Char
  | 0, _ => (.nothing, [])
  | fuel + 1, cs =>
    match skipSpace cs with
    | [] => (.nothing, [])
    | 'n' :: rest => readWord 'n' .null "ull".toList rest
    | 't' :: rest => readWord 't' (.bool true) "rue".toList rest
    | 'f' :: rest => readWord 'f' (.bool false) "alse".toList rest
    | '"' :: rest => (readString (rest.length + 1) [] rest).toText
    | '[' :: rest =>
      let (items, ending, after) := readItems fuel true rest
      (.array items ending, after)
    | '\x7b' :: rest =>
      let (fields, ending, after) := readFields fuel true rest
      (.object fields ending, after)
    | c :: rest =>
      if c = '-' ∨ isDigit c then (readNumber (c :: rest)).toDocument c
      else (.damaged c .malformed (some .malformed), [])

/-- The items of an array up to its bracket; `first` when no comma is due. -/
def readItems : Nat → Bool → List Char → List Document × Ending × List Char
  | 0, _, _ => ([], .broken .unfinished, [])
  | fuel + 1, first, cs =>
    match skipSpace cs with
    | [] => ([], .broken .unfinished, [])
    | c :: rest =>
      if c = ']' then ([], .closed, rest)
      else if !first && c != ',' then ([], .broken .malformed, [])
      else
        let start := if first then c :: rest else skipSpace rest
        if !first && start.head? = some ']' then ([], .broken .malformed, [])
        else
          let (item, after) := readDocument fuel start
          let (items, ending, after) := readItems fuel false after
          (item :: items, ending, after)

/-- The fields of an object up to its brace; `first` when no comma is due. -/
def readFields : Nat → Bool → List Char → List (Option String × Document) × Ending × List Char
  | 0, _, _ => ([], .broken .unfinished, [])
  | fuel + 1, first, cs =>
    match skipSpace cs with
    | [] => ([], .broken .unfinished, [])
    | c :: rest =>
      if c = '\x7d' then ([], .closed, rest)
      else if !first && c != ',' then ([], .broken .malformed, [])
      else
        match if first then c :: rest else skipSpace rest with
        | [] => ([], .broken .unfinished, [])
        | '\x7d' :: _ => ([], .broken .malformed, [])
        | '"' :: more =>
          let name := readString (more.length + 1) [] more
          match name.rest with
          | .error f => ([], .broken (match name.value with | .error e => e | .ok _ => f), [])
          | .ok after =>
            let name? := name.value.toOption
            match skipSpace after with
            | ':' :: after =>
              let (value, after) := readDocument fuel after
              let (fields, ending, after) := readFields fuel false after
              ((name?, value) :: fields, ending, after)
            | [] => ([(name?, .nothing)], .closed, [])
            | c :: _ => ([(name?, .damaged c .malformed (some .malformed))], .closed, [])
        | start => ([], .oddKey (readDocument fuel start).1.mismatch, [])

end

/-- The first document of a text, and whether more than blanks follows it. -/
def Document.ofText (text : String) : Document × Bool :=
  let cs := text.toList
  let (document, rest) := readDocument (2 * cs.length + 2) cs
  (document, !(skipSpace rest).isEmpty)

end DeviceLab.Json
