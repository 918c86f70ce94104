import DeviceLab.Json.Reader

/-!
# Decoding documents

A `Decoder` reads a value of some type from a document and reports the first fault in the order of
the text.

* Scalars: `text`, `flag`, `whole`, `number`, and `variant` for a type of named constants.
* Collections: `optional`, `list`, `dictionary`.
* `Record`: a structure read from an object by the names of its fields, or from an array by their
  order.  Unknown fields are passed over, a field that stands twice is a fault, and a field that is
  missing is one unless it has a default.  So are items left over in an array, unless it was read
  whole.
-/

namespace DeviceLab.Json

open Decimal

/-- A way to read a value of a type from a document. -/
abbrev Decoder (α : Type) := Document → Except Fault α

def text : Decoder String
  | .string s => .ok s
  | d => .error d.mismatch

def flag : Decoder Bool
  | .bool b => .ok b
  | d => .error d.mismatch

/-- A whole number from `low` to `high`. -/
def whole (low high : Int) : Decoder Int
  | .int n => if low ≤ n ∧ n ≤ high then .ok n else .error .unfit
  | d => .error d.mismatch

/-- A natural number below `limit`. -/
def natural (limit : Nat) : Decoder Nat := fun d =>
  (whole 0 ((limit : Int) - 1) d).map Int.toNat

/-- A number, whole or not. -/
def number : Decoder Binary64
  | .int n => .ok (.ofInt n)
  | .real x => .ok x
  | d => .error d.mismatch

/-- A named constant: its name, or an object with the name as its only field and nothing in it.
Nothing is written `null`; in an object that was read whole it is an empty object or array. -/
def variant (named? : String → Option α) : Decoder α
  | .string s => (named? s).elim (.error .unfit) .ok
  | .object [(some name, .object [] _)] .whole => (named? name).elim (.error .unfit) .ok
  | .object [(some name, .array [] _)] .whole => (named? name).elim (.error .unfit) .ok
  | .object _ .whole => .error .unfit
  | .object [] (.oddKey fault) => .error fault
  | .object [] ending => .error (ending.fault?.getD .malformed)
  | .object ((none, _) :: _) _ => .error .malformed
  | .object ((some name, value) :: rest) ending => do
    let a ← (named? name).elim (.error .unfit) .ok
    match value with
    | .null => pure ()
    | d => throw d.mismatch
    match rest, ending with
    | [], .closed => pure a
    | [], .broken .unfinished => throw .unfinished
    | _, _ => throw .malformed
  | .damaged lead wanted _ => .error (if lead = none ∨ lead = some '"' then wanted else .malformed)
  | _ => .error .malformed

/-- A named constant in a document that was put aside before its type was known: there, an empty
object stands for nothing as well as `null`. -/
def variantAside (named? : String → Option α) : Decoder α
  | .string s => (named? s).elim (.error .unfit) .ok
  | .object [(some name, .null)] _ => (named? name).elim (.error .unfit) .ok
  | .object [(some name, .object [] _)] _ => (named? name).elim (.error .unfit) .ok
  | d => .error d.mismatch

/-- A value that may be `null`. -/
def optional (decode : Decoder α) : Decoder (Option α)
  | .null => .ok none
  | d => some <$> decode d

/-- The items of an array in their order. -/
def list (decode : Decoder α) : Decoder (List α)
  | .array items ending => do
    let found ← items.mapM decode
    ending.fault?.elim (.ok found) .error
  | d => .error d.mismatch

/-- Enters a value under a name, in the order of names; a later value replaces an earlier one. -/
def enter (name : String) (a : α) : List (String × α) → List (String × α)
  | [] => [(name, a)]
  | (other, b) :: rest =>
    if name = other then (name, a) :: rest
    else if name < other then (name, a) :: (other, b) :: rest
    else (other, b) :: enter name a rest

/-- The value under a name. -/
def lookup (name : String) (entries : List (String × α)) : Option α :=
  (entries.find? fun entry => entry.1 == name).map (·.2)

/-- Values under names, in the order of the names. -/
def dictionary (decode : Decoder α) : Decoder (List (String × α))
  | .object fields ending => do
    let found ← fields.foldlM (fun entries (name?, value) => do
      match name? with
      | none => throw .malformed
      | some name => return enter name (← decode value) entries) []
    ending.fault?.elim (.ok found) .error
  | d => .error d.mismatch

/-- The rest of an array while its items are taken one by one. -/
structure Items where
  items : List Document
  ending : Ending

/-- A way to read a structure field by field. -/
structure Record (α : Type) where
  /-- Reads the value of a field by its name; a name that is not known gives nothing. -/
  accepts : String → Option (Document → Except Fault Unit)
  /-- The structure of fields that have all been read before. -/
  build : (String → Option Document) → Except Fault α
  /-- The structure of the next items of an array. -/
  take : Items → Except Fault (α × Items)

namespace Record

/-- A structure without fields. -/
def pure (a : α) : Record α :=
  ⟨fun _ => none, fun _ => .ok a, fun items => .ok (a, items)⟩

/-- A field with its name, its decoder, and what a missing one means. -/
def field (name : String) (decode : Decoder α) (missing : Except Fault α)
    (missingItem : Except Fault α) : Record α where
  accepts other := if name = other then some fun d => (decode d).map fun _ => () else none
  build found := (found name).elim missing decode
  take
    | ⟨d :: items, ending⟩ => (decode d).map fun a => (a, ⟨items, ending⟩)
    | ⟨[], ending⟩ =>
      match ending.fault? with
      | some fault => .error fault
      | none => missingItem.map fun a => (a, ⟨[], ending⟩)

/-- A field that must be there. -/
def required (name : String) (decode : Decoder α) : Record α :=
  field name decode (.error .unfit) (.error .unfit)

/-- A field that has a value of its own when it is missing. -/
def withDefault (name : String) (decode : Decoder α) (value : α) : Record α :=
  field name decode (.ok value) (.ok value)

/-- A field that may be missing or `null`; in an array it must have its place. -/
def nullable (name : String) (decode : Decoder α) : Record (Option α) :=
  field name (optional decode) (.ok none) (.error .unfit)

/-- A field that may be missing or `null`, also in an array. -/
def nullableWithDefault (name : String) (decode : Decoder α) : Record (Option α) :=
  withDefault name (optional decode) none

/-- The fields of the first structure, then those of the second. -/
def seq (f : Record (α → β)) (x : Unit → Record α) : Record β where
  accepts name := (f.accepts name).orElse fun _ => (x ()).accepts name
  build found := do return (← f.build found) (← (x ()).build found)
  take items := do
    let (g, items) ← f.take items
    let (a, items) ← (x ()).take items
    return (g a, items)

instance : Applicative Record where
  pure := Record.pure
  seq := Record.seq

/-- Reads the fields of an object in their order; `found` are those already read. -/
def readFields (r : Record α) (found : List (String × Document)) :
    List (Option String × Document) → Except Fault (List (String × Document))
  | [] => .ok found
  | (none, _) :: _ => .error .malformed
  | (some name, value) :: rest =>
    match r.accepts name with
    | none => do
      value.pass
      readFields r found rest
    | some read => do
      if (lookup name found).isSome then throw .unfit
      read value
      readFields r ((name, value) :: found) rest

/-- The structure of an object's fields, or of an array's items. -/
def decoder (r : Record α) : Decoder α
  | .object fields ending => do
    let found ← r.readFields [] fields
    match ending.fault? with
    | some fault => throw fault
    | none => r.build fun name => lookup name found
  | .array items ending => do
    let (a, rest) ← r.take ⟨items, ending⟩
    match rest.items, ending with
    | [], _ => rest.ending.fault?.elim (.ok a) .error
    | _ :: _, .whole => return a
    | _ :: _, _ => throw .malformed
  | d => .error d.mismatch

end Record

/-- Reads a whole text as one value. -/
def decodeText (decode : Decoder α) (text : String) : Except Fault α := do
  let (document, more) := Document.ofText text
  let a ← decode document
  if more then throw .malformed
  return a

end DeviceLab.Json
