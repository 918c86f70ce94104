import DeviceLab.Json.Value

/-!
# A document as it was read

A reader that knows which type it wants finds the first fault of a text in the order of the text:
a wrong type, an unknown name or a missing bracket, whichever comes first.  So a document is kept
with its damage in place.  A damaged part says what happens when its value is wanted and what
happens when it is passed over; where a part can be passed over, what follows is still there.
-/

namespace DeviceLab.Json

open Decimal

/-- Why a text does not give a value of the type wanted. -/
inductive Fault where
  /-- The text is not JSON. -/
  | malformed
  /-- The text ends early. -/
  | unfinished
  /-- A part has a wrong type, name or size, is missing or stands twice. -/
  | unfit
  deriving DecidableEq, Repr

/-- How an array or an object ends. -/
inductive Ending where
  | closed
  /-- All of it was read before its type was known, and what is not wanted of it may be left. -/
  | whole
  | broken (fault : Fault)
  /-- A field begins with something other than a string; `asName` is what comes of reading that as
  the name of a variant. -/
  | oddKey (asName : Fault)
  deriving DecidableEq, Repr

/-- What comes of reading on at the end of an array or object. -/
def Ending.fault? : Ending → Option Fault
  | .closed | .whole => none
  | .broken fault => some fault
  | .oddKey _ => some .malformed

/-- A document with its damage in place. -/
inductive Document where
  | null
  | bool (b : Bool)
  | int (n : Int)
  | real (x : Binary64)
  | string (s : String)
  | array (items : List Document) (ending : Ending)
  /-- The name of a field is absent when it holds half of a surrogate pair. -/
  | object (fields : List (Option String × Document)) (ending : Ending)
  /-- A part without a value: its first character, if there is one, the fault when it is wanted, and
  the one when it is passed over. -/
  | damaged (lead : Option Char) (wanted : Fault) (passed : Option Fault)

mutual

/-- A value without damage. -/
def Document.ofValue : Value → Document
  | .null => .null
  | .bool b => .bool b
  | .int n => .int n
  | .real x => .real x
  | .string s => .string s
  | .array items => .array (ofItems items) .closed
  | .object fields => .object (ofFields fields) .closed

/-- Items without damage. -/
def Document.ofItems : List Value → List Document
  | [] => []
  | item :: items => ofValue item :: ofItems items

/-- Fields without damage. -/
def Document.ofFields : List (String × Value) → List (Option String × Document)
  | [] => []
  | (name, value) :: fields => (some name, ofValue value) :: ofFields fields

end

mutual

/-- Passes over a document whose value is not wanted. -/
def Document.pass : Document → Except Fault Unit
  | .array items ending => do
    passItems items
    ending.fault?.elim (.ok ()) .error
  | .object fields ending => do
    passFields fields
    ending.fault?.elim (.ok ()) .error
  | .damaged _ _ passed => passed.elim (.ok ()) .error
  | _ => .ok ()

/-- Passes over items one after the other. -/
def Document.passItems : List Document → Except Fault Unit
  | [] => .ok ()
  | item :: items => do
    item.pass
    passItems items

/-- Passes over fields one after the other. -/
def Document.passFields : List (Option String × Document) → Except Fault Unit
  | [] => .ok ()
  | (_, value) :: fields => do
    value.pass
    passFields fields

end

mutual

/-- Reads a document of any type, nested at most `depth` levels deep.  One that was read whole has
been read at any depth. -/
def Document.load (depth : Nat) : Document → Except Fault Unit
  | .array _ .whole | .object _ .whole => .ok ()
  | .array items ending =>
    if depth ≤ 1 then .error .malformed
    else do
      loadItems (depth - 1) items
      ending.fault?.elim (.ok ()) .error
  | .object fields ending =>
    if depth ≤ 1 then .error .malformed
    else do
      loadFields (depth - 1) fields
      ending.fault?.elim (.ok ()) .error
  | .damaged _ wanted _ => .error wanted
  | _ => .ok ()

/-- Reads items one after the other. -/
def Document.loadItems (depth : Nat) : List Document → Except Fault Unit
  | [] => .ok ()
  | item :: items => do
    item.load depth
    loadItems depth items

/-- Reads fields one after the other. -/
def Document.loadFields (depth : Nat) : List (Option String × Document) → Except Fault Unit
  | [] => .ok ()
  | (name, value) :: fields => do
    if name.isNone then .error .malformed
    value.load depth
    loadFields depth fields

end

/-- The text ends where a document should begin. -/
def Document.nothing : Document := .damaged none .unfinished (some .unfinished)

/-- The fault when a value of another type was wanted. -/
def Document.mismatch : Document → Fault
  | .damaged _ wanted _ => wanted
  | _ => .unfit

end DeviceLab.Json
