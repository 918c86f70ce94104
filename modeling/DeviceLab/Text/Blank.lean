/-!
# Blanks, words and lines

White space is the Unicode property of that name, and a line ends at a line feed, with or without a
carriage return before it.

* `trim`: a text without the blanks at its ends.
* `lines`: a text cut at its line ends; the last line needs none.
* `splitAtBlank?`: the first word and what follows the blank after it.
-/

namespace DeviceLab.Text

/-- The characters with the Unicode property White_Space. -/
def isBlank (c : Char) : Bool :=
  let n := c.toNat
  (0x9 ≤ n && n ≤ 0xd) || n == 0x20 || n == 0x85 || n == 0xa0 || n == 0x1680 ||
    (0x2000 ≤ n && n ≤ 0x200a) || n == 0x2028 || n == 0x2029 || n == 0x202f || n == 0x205f ||
    n == 0x3000

/-- Drops the blanks at the start. -/
def trimStart (cs : List Char) : List Char := cs.dropWhile isBlank

/-- Drops the blanks at the end. -/
def trimEnd (cs : List Char) : List Char := (cs.reverse.dropWhile isBlank).reverse

/-- Drops the blanks at both ends. -/
def trim (cs : List Char) : List Char := trimEnd (trimStart cs)

/-- Drops the blanks at both ends of a string. -/
def trimmed (s : String) : String := String.ofList (trim s.toList)

/-- Cuts at each line feed, which goes with a carriage return right before it.  What follows the
last line feed is a line only when it is not empty. -/
def lines : List Char → List (List Char)
  | [] => []
  | '\n' :: rest => [] :: lines rest
  | '\r' :: '\n' :: rest => [] :: lines rest
  | c :: rest =>
    match lines rest with
    | [] => [[c]]
    | line :: more => (c :: line) :: more

def linesOf (s : String) : List String := (lines s.toList).map String.ofList

/-- The part before the first blank and the part after it, if there is a blank. -/
def splitAtBlank? : List Char → Option (List Char × List Char)
  | [] => none
  | c :: rest =>
    if isBlank c then some ([], rest)
    else (splitAtBlank? rest).map fun (word, more) => (c :: word, more)

/-- Whether one list of characters starts another. -/
def startsWith : List Char → List Char → Bool
  | [], _ => true
  | _ :: _, [] => false
  | c :: cs, d :: ds => c == d && startsWith cs ds

/-- Whether a text contains another as a run of consecutive characters. -/
def contains (needle : List Char) : List Char → Bool
  | [] => needle.isEmpty
  | c :: cs => startsWith needle (c :: cs) || contains needle cs

/-- Whether the second string contains the first. -/
def occursIn (needle text : String) : Bool := contains needle.toList text.toList

end DeviceLab.Text
