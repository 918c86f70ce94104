/-!
# Text as bytes

Encoding writes a character as one to four bytes.  Decoding reads one character or one invalid part
at a time; an invalid part is the longest run of bytes that could still have become a character, or
a single byte that starts none.

* `encode`: a text as bytes.
* `pieces`: bytes as characters and invalid parts.
* `decode?`: the text, when no part is invalid.
* `decodeLossy`: the text, with one replacement character for each invalid part.
-/

namespace DeviceLab.Text

/-- A sequence of bytes, as files and pipes hold them. -/
abbrev Bytes := List UInt8

namespace Utf8

def encode (s : String) : Bytes := s.toUTF8.toList

/-- What a first byte says: the bits it gives, and the range of each byte that has to follow. -/
def lead (b : Nat) : Option (Nat × List (Nat × Nat)) :=
  let tail := (0x80, 0xbf)
  if b ≤ 0x7f then some (b, [])
  else if 0xc2 ≤ b ∧ b ≤ 0xdf then some (b - 0xc0, [tail])
  else if b = 0xe0 then some (0, [(0xa0, 0xbf), tail])
  else if b = 0xed then some (0xd, [(0x80, 0x9f), tail])
  else if 0xe1 ≤ b ∧ b ≤ 0xef then some (b - 0xe0, [tail, tail])
  else if b = 0xf0 then some (0, [(0x90, 0xbf), tail, tail])
  else if 0xf1 ≤ b ∧ b ≤ 0xf3 then some (b - 0xf0, [tail, tail, tail])
  else if b = 0xf4 then some (4, [(0x80, 0x8f), tail, tail])
  else none

/-- Reads one byte in each range, six bits apiece, and stops before a byte outside its range. -/
def follow (value : Nat) : List (Nat × Nat) → Bytes → Option Nat × Bytes
  | [], rest => (some value, rest)
  | _ :: _, [] => (none, [])
  | (lo, hi) :: ranges, b :: rest =>
    if lo ≤ b.toNat ∧ b.toNat ≤ hi then follow (value * 64 + (b.toNat - 0x80)) ranges rest
    else (none, b :: rest)

theorem follow_length_le (value : Nat) (ranges : List (Nat × Nat)) (bs : Bytes) :
    (follow value ranges bs).2.length ≤ bs.length := by
  induction ranges generalizing value bs with
  | nil => simp [follow]
  | cons range ranges ih =>
    obtain ⟨lo, hi⟩ := range
    cases bs with
    | nil => simp [follow]
    | cons b rest =>
      simp only [follow]
      split
      · exact Nat.le_succ_of_le (ih _ rest)
      · simp

/-- The characters and the invalid parts (`none`) of a sequence of bytes. -/
def pieces : Bytes → List (Option Char)
  | [] => []
  | b :: rest =>
    match lead b.toNat with
    | none => none :: pieces rest
    | some (bits, ranges) =>
      let found := follow bits ranges rest
      found.1.map Char.ofNat :: pieces found.2
  termination_by bs => bs.length
  decreasing_by
    · simp
    · exact Nat.lt_succ_of_le (follow_length_le _ _ _)

/-- The text of the bytes, or nothing when a part of them is invalid. -/
def decode? (bs : Bytes) : Option String :=
  ((pieces bs).mapM id).map String.ofList

/-- The text of the bytes, in which each invalid part has become U+FFFD. -/
def decodeLossy (bs : Bytes) : String :=
  String.ofList ((pieces bs).map fun piece => piece.getD '\uFFFD')

end Utf8

end DeviceLab.Text

/-!
## Texts of bytes

A shell and the programs around it know bytes and not characters.  A text of bytes is a text in which
every character stands for one byte, so that lengths, patterns and separators count bytes.

* `Octets.ofText`: the bytes of a text.
* `Octets.toBytes`, `Octets.ofBytes`: a text of bytes as a sequence of bytes.
* `Octets.toText`: the text that the bytes tell.
-/

namespace DeviceLab.Text.Octets

/-- The character that stands for a byte. -/
def char (b : UInt8) : Char := Char.ofNat b.toNat

def ofBytes (bytes : Bytes) : String := String.ofList (bytes.map char)

def toBytes (octets : String) : Bytes := octets.toList.map fun c => c.toNat.toUInt8

/-- Whether every character of a text is written as one byte. -/
def isPlain (text : String) : Bool := text.toList.all fun c => c.toNat < 128

def ofText (text : String) : String :=
  if isPlain text then text else ofBytes (Utf8.encode text)

/-- The text that bytes tell; parts of them that tell none have become U+FFFD. -/
def toText (octets : String) : String :=
  if isPlain octets then octets else Utf8.decodeLossy (toBytes octets)

end DeviceLab.Text.Octets
