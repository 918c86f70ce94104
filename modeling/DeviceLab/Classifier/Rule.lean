import DeviceLab.Decimal.Powers
import DeviceLab.Regex.Search
import DeviceLab.Severity

/-!
# Rules for lines of output

A rule looks for a text or a pattern in a line and says what a line with it counts for.

* `RuleSpec`: a rule as it is written in a configuration.
* `Rule.ofSpec`: the rule of a specification; a pattern has to be one, and a rule that adds the
  number in its first group has to have a group.
* `Rule.check`: what a line counts for.
* `RuleSet.check`: what a line counts for by a table of rules.
-/

namespace DeviceLab

open Text

/-- What a line adds to the counts of passed and failed tests. -/
inductive Tally where
  | none
  | pass
  | fail
  /-- The number in the first group is added to the passed tests. -/
  | addPasses
  /-- The number in the first group is added to the failed tests. -/
  | addFails
  /-- The suite asks to be run again. -/
  | rerun
  deriving DecidableEq, Repr

namespace Tally

def all : List Tally := [.none, .pass, .fail, .addPasses, .addFails, .rerun]

/-- The name of a tally. -/
def name : Tally → String
  | .none => "none"
  | .pass => "pass"
  | .fail => "fail"
  | .addPasses => "add_passes"
  | .addFails => "add_fails"
  | .rerun => "rerun"

def ofName? (name : String) : Option Tally := all.find? fun t => t.name == name

/-- Whether the tally needs a number from the line. -/
def needsCapture (t : Tally) : Bool := t == .addPasses || t == .addFails

end Tally

/-- A rule as it is written in a configuration. -/
structure RuleSpec where
  pattern : String
  /-- Whether the pattern is a regular expression rather than a text to look for. -/
  regex : Bool := false
  tally : Tally := .none
  severity : Severity := .success
  deriving DecidableEq, Repr

/-- Why a rule cannot be made. -/
inductive RuleError where
  | invalidPattern (pattern : String)
  | missingCapture (pattern : String)
  deriving DecidableEq, Repr

/-- What a rule looks for. -/
inductive LineTest where
  | text (needle : String)
  | pattern (matcher : Regex.Matcher)

/-- A rule that is ready for use. -/
structure Rule where
  test : LineTest
  tally : Tally
  severity : Severity

/-- What a line with a match counts for. -/
structure RuleHit where
  tally : Tally
  severity : Severity
  /-- The number in the first group, for the tallies that add one. -/
  count : Nat
  deriving DecidableEq, Repr

/-- The greatest count; greater ones are clamped to it. -/
def maxCount : Nat := Decimal.twoTo 64 - 1

namespace Rule

/-- A rule that looks for a text. -/
def substring (needle : String) (tally : Tally) (severity : Severity) : Rule :=
  ⟨.text needle, tally, severity⟩

/-- A rule that looks for a pattern. -/
def pattern (pattern : String) (tally : Tally) (severity : Severity) : Except RuleError Rule :=
  match Regex.Matcher.ofPattern? pattern with
  | none => .error (.invalidPattern pattern)
  | some matcher =>
    if tally.needsCapture && matcher.groups == 0 then .error (.missingCapture pattern)
    else .ok ⟨.pattern matcher, tally, severity⟩

def ofSpec (spec : RuleSpec) : Except RuleError Rule :=
  if spec.regex then pattern spec.pattern spec.tally spec.severity
  else if spec.tally.needsCapture then .error (.missingCapture spec.pattern)
  else .ok (substring spec.pattern spec.tally spec.severity)

/-- The number in a captured text, blanks at its ends put aside; zero when it is none below
`2^64`. -/
def countOf (text : List Char) : Nat := (Decimal.natural? (maxCount + 1) (trim text)).getD 0

/-- What a line counts for, when the rule applies to it. -/
def check (rule : Rule) (line : List Char) : Option RuleHit :=
  match rule.test with
  | .text needle =>
    if contains needle.toList line then some ⟨rule.tally, rule.severity, 0⟩ else none
  | .pattern matcher =>
    (matcher.search line).map fun slots =>
      let count :=
        if rule.tally.needsCapture then
          ((Regex.Matcher.capture? line slots 1).map countOf).getD 0
        else 0
      ⟨rule.tally, rule.severity, count⟩

end Rule

end DeviceLab

/-!
## Rule tables

A table is a list of rules of which the first one that applies to a line counts.  Each category of
suites has a built-in table: rules for the totals its tool prints, and rules for the errors that
every tool prints.
-/

namespace DeviceLab

/-- Rules in the order in which they are tried. -/
structure RuleSet where
  rules : List Rule

namespace RuleSet

/-- A table without rules. -/
def empty : RuleSet := ⟨[]⟩

/-- The table with a rule behind the others. -/
def push (table : RuleSet) (rule : Rule) : RuleSet := ⟨table.rules ++ [rule]⟩

/-- The table with rules in front of the others. -/
def prepend (table : RuleSet) (rules : List Rule) : RuleSet := ⟨rules ++ table.rules⟩

/-- The first rule that applies to a line decides what it counts for. -/
def check (table : RuleSet) (line : List Char) : Option RuleHit :=
  table.rules.findSome? fun rule => rule.check line

/-- A pattern rule of a built-in table, whose patterns are all well formed. -/
def counting (pattern : String) (tally : Tally) : List Rule :=
  match Rule.pattern pattern tally .success with
  | .ok rule => [rule]
  | .error _ => []

/-- Rules for a tool that prints totals: patterns for passed, failed and known problems. -/
def summaryRules (passed failed : String) (known : Option String) : List Rule :=
  counting passed .addPasses ++ counting failed .addFails ++
    (known.map fun pattern => counting pattern .none).getD [] ++
    [.substring "TEST-UNEXPECTED-" .none .warning]

/-- Rules for a tool that prints one line for each test. -/
def genericRules : List Rule :=
  [.substring "TEST-UNEXPECTED-" .fail .warning,
   .substring "TEST-PASS" .pass .success,
   .substring "TEST-KNOWN-FAIL" .none .success]

/-- Rules for errors that any tool prints. -/
def sharedErrorRules : List Rule :=
  [.substring "PROCESS-CRASH" .none .failure,
   .substring "###!!! ABORT" .none .failure,
   .substring "Traceback (most recent call last)" .none .failure]

/-- The rules for the totals of a category. -/
def categoryRules (category : String) : List Rule :=
  match category with
  | "mochitest" | "robocop" =>
    summaryRules "INFO Passed:\\s+(\\d+)" "INFO Failed:\\s+(\\d+)" (some "INFO Todo:\\s+(\\d+)")
  | "reftest" | "crashtest" | "jsreftest" =>
    summaryRules "REFTEST INFO \\| Successful: (\\d+)" "REFTEST INFO \\| Unexpected: (\\d+)"
      (some "REFTEST INFO \\| Known problems: (\\d+)")
  | "xpcshell" =>
    summaryRules "INFO \\| Passed: (\\d+)" "INFO \\| Failed: (\\d+)" none
  | "marionette" | "gaiatest" =>
    .substring "Error installing gecko!" .rerun .success ::
      summaryRules "passed:\\s+(\\d+)" "failed:\\s+(\\d+)" (some "todo:\\s+(\\d+)")
  | _ => genericRules

/-- The built-in table of a category; a category without one of its own has the generic table. -/
def builtin (category : String) : RuleSet := ⟨categoryRules category ++ sharedErrorRules⟩

end RuleSet

end DeviceLab
