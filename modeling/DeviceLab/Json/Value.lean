import DeviceLab.Decimal.Shortest
import DeviceLab.Text.Classes

/-!
# JSON values and their written form

`Value` is a JSON value whose object fields keep their order.  `Value.pretty` writes it over several
lines, two blanks for each level; empty arrays and objects stay on one line.
-/

namespace DeviceLab.Json

open Decimal Text

/-- A JSON value. -/
inductive Value where
  | null
  | bool (b : Bool)
  | int (n : Int)
  | real (x : Binary64)
  | string (s : String)
  | array (items : List Value)
  | object (fields : List (String × Value))

namespace Value

/-- A value that may be absent. -/
def ofOption (f : α → Value) : Option α → Value
  | none => .null
  | some a => f a

/-- A natural number as a value. -/
def nat (n : Nat) : Value := .int n

def strings (items : List String) : Value := .array (items.map .string)

/-- Names with texts, in the order given. -/
def texts (entries : List (String × String)) : Value :=
  .object (entries.map fun (name, text) => (name, .string text))

end Value

/-- One character inside a JSON string: quotes, backslashes and controls are escaped. -/
def escapeChar (c : Char) : List Char :=
  if c = '"' then ['\\', '"']
  else if c = '\\' then ['\\', '\\']
  else if c = '\x08' then ['\\', 'b']
  else if c = '\t' then ['\\', 't']
  else if c = '\n' then ['\\', 'n']
  else if c = '\x0c' then ['\\', 'f']
  else if c = '\r' then ['\\', 'r']
  else if c.toNat < 0x20 then
    ['\\', 'u', '0', '0', Nat.digitChar (c.toNat / 16), Nat.digitChar (c.toNat % 16)]
  else [c]

/-- A string between quotes. -/
def writeString (s : String) : List Char := '"' :: (s.toList.flatMap escapeChar ++ ['"'])

/-- A whole number. -/
def writeInt (n : Int) : List Char :=
  if n < 0 then '-' :: Nat.toDigits 10 n.natAbs else Nat.toDigits 10 n.natAbs

/-- A number with a fraction; a value that JSON cannot tell becomes `null`. -/
def writeReal (x : Binary64) : List Char :=
  if x.isFinite then
    let cs := x.text.toList
    if cs.contains '.' then cs else cs ++ ['.', '0']
  else "null".toList

/-- A line break and the blanks of a level. -/
def newline (level : Nat) : List Char := '\n' :: List.replicate (2 * level) ' '

mutual

/-- A value at a level of indentation. -/
def write (level : Nat) : Value → List Char
  | .null => "null".toList
  | .bool true => "true".toList
  | .bool false => "false".toList
  | .int n => writeInt n
  | .real x => writeReal x
  | .string s => writeString s
  | .array [] => ['[', ']']
  | .array (item :: items) =>
    '[' :: (newline (level + 1) ++ write (level + 1) item ++ writeItems (level + 1) items ++
      newline level ++ [']'])
  | .object [] => ['\x7b', '\x7d']
  | .object ((name, value) :: fields) =>
    '\x7b' :: (newline (level + 1) ++ writeString name ++ [':', ' '] ++ write (level + 1) value ++
      writeFields (level + 1) fields ++ newline level ++ ['\x7d'])

/-- The items after the first one, each behind a comma. -/
def writeItems (level : Nat) : List Value → List Char
  | [] => []
  | item :: items => ',' :: (newline level ++ write level item ++ writeItems level items)

/-- The fields after the first one, each behind a comma. -/
def writeFields (level : Nat) : List (String × Value) → List Char
  | [] => []
  | (name, value) :: fields =>
    ',' :: (newline level ++ writeString name ++ [':', ' '] ++ write level value ++
      writeFields level fields)

end

/-- A value over several lines. -/
def Value.pretty (v : Value) : String := String.ofList (write 0 v)

end DeviceLab.Json
