/-!
# Rights to files

The rights of a file are twelve bits: three each for the owner, the group and all others to read, to
write and to carry out, and three special ones.  They are told in octal digits, or as changes.

* `Mode.read?`: the rights that a text tells, seen from those that there are.
* `Mode.shown`: the rights as nine characters.
-/

namespace DeviceLab.Unix.Mode

/-- The number that octal digits tell. -/
def octal? (text : List Char) : Option Nat :=
  if text.isEmpty || !text.all (fun c => '0' ≤ c && c ≤ '7') then none
  else some (text.foldl (fun n c => n * 8 + (c.toNat - 48)) 0)

/-- The bits of some users: the owner, the group, and all others. -/
def bitsOf (users : List Char) : Nat :=
  users.foldl (fun bits c => bits ||| match c with
    | 'u' => 0o4700
    | 'g' => 0o2070
    | 'o' => 0o1007
    | _ => 0o7777) 0

/-- The rights of one kind of users, given to all of them. -/
def copied (mode shift : Nat) : Nat :=
  let bits := mode >>> shift &&& 7
  bits ||| bits <<< 3 ||| bits <<< 6

/-- The bits that a letter gives. -/
def bitsFor (mode : Nat) (isDirectory : Bool) (letter : Char) : Option Nat :=
  match letter with
  | 'r' => some 0o444
  | 'w' => some 0o222
  | 'x' => some 0o111
  | 'X' => some (if isDirectory || mode &&& 0o111 != 0 then 0o111 else 0)
  | 's' => some 0o6000
  | 't' => some 0o1000
  | 'u' => some (copied mode 6)
  | 'g' => some (copied mode 3)
  | 'o' => some (copied mode 0)
  | _ => none

/-- Carries out the changes behind the users that they concern; `fuel` bounds their number. -/
def change? (users mask : Nat) (isDirectory : Bool) : Nat → List Char → Nat → Option Nat
  | 0, _, _ => none
  | _ + 1, [], mode => some mode
  | fuel + 1, sign :: text, mode =>
    if sign != '+' && sign != '-' && sign != '=' then none
    else do
      let letters := text.takeWhile fun c => c != '+' && c != '-' && c != '='
      let bits ← letters.foldlM
        (fun bits c => (bitsFor mode isDirectory c).map (bits ||| ·)) 0
      let bits := bits &&& users &&& (0o7777 ^^^ mask)
      let kept := users &&& (if isDirectory then 0o1777 else 0o7777)
      let mode := match sign with
        | '+' => mode ||| bits
        | '-' => mode &&& (0o7777 ^^^ bits)
        | _ => (mode &&& (0o7777 ^^^ kept)) ||| bits
      change? users mask isDirectory fuel (text.drop letters.length) mode

/-- Carries out one clause: users, and changes. -/
def clause? (mask : Nat) (isDirectory : Bool) (mode : Nat) (clause : List Char) : Option Nat :=
  let users := clause.takeWhile fun c => "ugoa".toList.contains c
  let changes := clause.drop users.length
  if changes.isEmpty then none
  else if users.isEmpty then change? 0o7777 mask isDirectory (changes.length + 1) changes mode
  else change? (bitsOf users) 0 isDirectory (changes.length + 1) changes mode

/-- The rights that a text tells, seen from those that there are.  Changes that name no users do not
touch what the mask keeps back. -/
def read? (mask : Nat) (isDirectory : Bool) (mode : Nat) (text : String) : Option Nat :=
  match octal? text.toList with
  | some n => if n ≤ 0o7777 then some n else none
  | none =>
    if text.isEmpty then none
    else ((text.splitOn ",").map String.toList).foldlM (clause? mask isDirectory) mode

/-- The rights as nine characters. -/
def shown (mode : Nat) : String :=
  let three (bits : Nat) (special : Bool) (set unset : Char) : List Char :=
    [if bits &&& 4 != 0 then 'r' else '-', if bits &&& 2 != 0 then 'w' else '-',
      match bits &&& 1 != 0, special with
      | true, true => set
      | false, true => unset
      | true, false => 'x'
      | false, false => '-']
  String.ofList (three (mode >>> 6) (mode &&& 0o4000 != 0) 's' 'S' ++
    three (mode >>> 3) (mode &&& 0o2000 != 0) 's' 'S' ++
    three mode (mode &&& 0o1000 != 0) 't' 'T')

/-- A number in octal digits, four at least. -/
def digits (mode : Nat) : String :=
  let digits := Nat.toDigits 8 mode
  String.ofList (List.replicate (4 - digits.length) '0' ++ digits)

end DeviceLab.Unix.Mode
