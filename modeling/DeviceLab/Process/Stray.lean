import DeviceLab.Decimal.Powers
import DeviceLab.Decimal.Numeral
import DeviceLab.Text.Blank

/-!
# Stray processes

A process listing has one process per line: its number, blanks, and its command.
-/

namespace DeviceLab.Stray

open Text

/-- The process that a line of a listing tells, if its number has at most 32 bits. -/
def processOf? (line : List Char) : Option (Nat × List Char) := do
  let (number, command) ← splitAtBlank? (trim line)
  let pid ← Decimal.natural? (Decimal.twoTo 32) number
  return (pid, trim command)

/-- The processes in a listing whose command contains a pattern, in the order of the listing. -/
def matchingPids (listing pattern : String) : List (Nat × String) :=
  (lines listing.toList).filterMap fun line =>
    (processOf? line).bind fun (pid, command) =>
      if contains pattern.toList command then some (pid, String.ofList command) else none

end DeviceLab.Stray
