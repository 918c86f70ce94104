import Std.Data.HashMap
import DeviceLab.Tools.RecordScript

/-!
# Tables of records

A table has values under keys, which are texts; a whole number is a key by its digits.  The order in
which a table tells its keys comes from the slots that they are kept in: a key moves to the front of
its slot when it is used, and numbers are not put into slots for texts until a text is looked for.

* `Records.Value`: values of expressions.
* `Records.Table`: tables.
* `Records.Table.reach`: looks for a key, or makes it.
* `Records.Table.keys`: the keys in their order.
-/

namespace DeviceLab.Tools.Records

/-- A value. -/
inductive Value where
  | number (x : Float)
  | text (s : String)
  /-- A text that was read; it counts as a number if it looks like one. -/
  | likely (s : String)
  | unset
  deriving Inhabited

/-- The key of an element. -/
inductive Key where
  | number (n : Int)
  | text (s : String)

def Key.shown : Key → String
  | .number n => toString n
  | .text s => s

/-- A table. -/
structure Table where
  values : Std.HashMap String Value := {}
  /-- The number of slots. -/
  width : Nat := 64
  /-- Numbers that are keys, by their slots. -/
  numbers : Array (List Int) := Array.replicate 64 []
  /-- Texts that are keys, by their slots, if there are any yet. -/
  texts : Option (Array (List String)) := none
  /-- Whether the keys are the numbers from one on, and have not been moved. -/
  isPlain : Bool := false
  deriving Inhabited

namespace Table

/-- The number that tells the slot of a text. -/
def hash (s : String) : Nat :=
  s.toList.foldl (fun h c => (h ^^^ c.toNat) * 16777619 % 4294967296) 2166136261

def slotOf (t : Table) (n : Int) : Nat := (n % t.width).toNat

def textSlotOf (t : Table) (s : String) : Nat := hash s % t.width

/-- The number of keys that a slot has on average when there are more slots. -/
def load : Nat := 12

/-- The slots of twice as many, each kept in order; `slot` tells where a key belongs. -/
def spread (slots : Array (List α)) (slot : α → Nat) : Array (List α) :=
  let halves := slots.toList.zipIdx.map fun (keys, n) => keys.partition fun key => slot key == n
  (halves.map Prod.fst ++ halves.map Prod.snd).toArray

/-- A table with room for its keys. -/
def grown (t : Table) : Table :=
  if t.values.size ≤ t.width * load then t
  else
    let wider := { t with width := t.width * 2 }
    { wider with
      numbers := spread t.numbers wider.slotOf
      texts := t.texts.map fun slots => spread slots wider.textSlotOf }

/-- A table whose numbers are found as texts, too. -/
def withTexts (t : Table) : Table :=
  match t.texts with
  | some _ => t
  | none =>
    let slots := t.numbers.foldl (fun slots keys =>
      keys.foldl (fun slots n =>
        let text := toString n
        slots.modify (t.textSlotOf text) (text :: ·)) slots) (Array.replicate t.width [])
    { t with texts := some slots, isPlain := false }

/-- Looks for a text, and moves it to the front of its slot; makes it if `creates`. -/
def reachText (t : Table) (s : String) (creates : Bool) : Table × Bool :=
  let t := t.withTexts
  let front (t : Table) : Table :=
    { t with texts := t.texts.map fun slots =>
        slots.modify (t.textSlotOf s) fun keys => s :: keys.filter (· != s) }
  if t.values.contains s then (front t, true)
  else if creates then (front { t with values := t.values.insert s .unset }.grown, true)
  else (t, false)

/-- Looks for a number, and moves it to the front of its slot; makes it if `creates`. -/
def reachNumber (t : Table) (n : Int) (creates : Bool) : Table × Bool :=
  let front (t : Table) : Table :=
    { t with
      isPlain := false
      numbers := t.numbers.modify (t.slotOf n) fun keys => n :: keys.filter (· != n) }
  let text := toString n
  if t.isPlain && (t.values.contains text || !creates) then (t, t.values.contains text)
  else if (t.numbers.getD (t.slotOf n) []).contains n then (front t, true)
  else if t.texts.isSome then
    let (t, isThere) := t.reachText text creates
    (if isThere then front t else t, isThere)
  else if creates then (front { t with values := t.values.insert text .unset }.grown, true)
  else (t, false)

/-- Looks for a key, or makes it; tells whether it is there. -/
def reach (t : Table) (key : Key) (creates : Bool) : Table × Bool :=
  match key with
  | .number n => t.reachNumber n creates
  | .text s => t.reachText s creates

def get (t : Table) (key : Key) : Value := t.values.getD key.shown .unset

/-- Puts a value under a key. -/
def put (t : Table) (key : Key) (value : Value) : Table :=
  let t := (t.reach key true).1
  { t with values := t.values.insert key.shown value }

/-- A table without a key. -/
def erase (t : Table) (key : Key) : Table :=
  let (t, isThere) := t.reach key false
  if !isThere then t
  else
    let text := key.shown
    let values := t.values.erase text
    if values.isEmpty then {}
    else
      { t with
        values
        isPlain := false
        numbers := match text.toInt? with
          | some n => t.numbers.modify (t.slotOf n) (·.filter fun m => m != n || toString m != text)
          | none => t.numbers
        texts := t.texts.map fun slots =>
          slots.modify (t.textSlotOf text) (·.filter (· != text)) }

/-- The number of slots for a number of keys; `fuel` bounds how often it is doubled. -/
def widthFor (size : Nat) : Nat → Nat → Nat
  | 0, width => width
  | fuel + 1, width => if size ≤ width * load then width else widthFor size fuel (width * 2)

/-- A table of some values under the numbers from one on. -/
def ofList (values : List Value) : Table :=
  let width := widthFor values.length 64 64
  let empty : Table := { width, numbers := Array.replicate width [], isPlain := !values.isEmpty }
  values.zipIdx.foldl (fun t (value, n) =>
    let n : Int := n + 1
    { t with
      values := t.values.insert (toString n) value
      numbers := t.numbers.modify (t.slotOf n) (n :: ·) }) empty

/-- The keys in their order, with the table, whose numbers are found as texts from now on. -/
def keys (t : Table) : List String × Table :=
  if t.values.isEmpty then ([], t)
  else
    let t := t.withTexts
    (((t.texts.getD #[]).toList).flatten, t)

end Table

end DeviceLab.Tools.Records
