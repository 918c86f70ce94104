import DeviceLab.Classifier.Rule

/-!
# Classifying output

The lines of a suite's output are counted by a rule table, and the counts are judged together with
the exit code of the process.

* `Scanner`: the counts so far; it takes lines or pieces of text as they come.
* `Scanner.finish`: the judgement, once the exit code is known.
* `classify`: all of it for a whole text.
* `Classifier`: the tables of all categories.
-/

namespace DeviceLab

open Text

/-- How exit codes are judged. -/
structure ExitPolicy where
  /-- The exit code of a tool whose tests ran and some of them failed. -/
  testsFailedCode : Int := 10
  /-- For any other exit code that is not expected. -/
  harnessFailure : Severity := .failure
  /-- For a process that left no exit code. -/
  crash : Severity := .failure
  deriving DecidableEq, Repr, Inhabited

/-- The judgement on one run of a suite. -/
structure Classification where
  severity : Severity
  passed : Nat
  failed : Nat
  /-- Absent when the process was killed. -/
  exitCode : Option Int
  /-- No rule applied to any line. -/
  ambiguous : Bool
  /-- The output asked for another run. -/
  rerunRequested : Bool
  deriving DecidableEq, Repr, Inhabited

/-- A sum of counts, clamped to the greatest one. -/
def addCounts (a b : Nat) : Nat := min (a + b) maxCount

/-- The counts over the lines seen so far. -/
structure Scanner where
  table : RuleSet
  passed : Nat := 0
  failed : Nat := 0
  /-- The number of lines to which a rule applied. -/
  recognised : Nat := 0
  scanned : Severity := .success
  rerunRequested : Bool := false

namespace Scanner

/-- The counts before the first line. -/
def start (table : RuleSet) : Scanner := { table }

/-- Counts a line to which a rule applied. -/
def count (s : Scanner) (hit : RuleHit) : Scanner :=
  let s := { s with recognised := s.recognised + 1, scanned := s.scanned.join hit.severity }
  match hit.tally with
  | .none => s
  | .pass => { s with passed := addCounts s.passed 1 }
  | .fail => { s with failed := addCounts s.failed 1 }
  | .addPasses => { s with passed := addCounts s.passed hit.count }
  | .addFails => { s with failed := addCounts s.failed hit.count }
  | .rerun => { s with rerunRequested := true }

/-- Counts one line. -/
def scanLine (s : Scanner) (line : List Char) : Scanner :=
  match s.table.check line with
  | some hit => s.count hit
  | none => s

/-- Counts the lines of a text. -/
def scanText (s : Scanner) (text : String) : Scanner :=
  (lines text.toList).foldl scanLine s

/-- The severity that an exit code has with the counts so far. -/
def exitSeverity (s : Scanner) (exitCode : Option Int) (policy : ExitPolicy) : Severity :=
  match exitCode with
  | none => policy.crash
  | some code =>
    if code = 0 ∧ s.failed = 0 ∧ 0 < s.passed then .success
    else if code = policy.testsFailedCode ∧ 0 < s.failed then .warning
    else policy.harnessFailure

/-- The judgement on the lines and the exit code; output without any recognised line is at least a
failure. -/
def finish (s : Scanner) (exitCode : Option Int) (policy : ExitPolicy) : Classification :=
  let ambiguous := s.recognised == 0
  let severity := s.scanned.join (s.exitSeverity exitCode policy)
  { severity := if ambiguous then severity.join .failure else severity
    passed := s.passed
    failed := s.failed
    exitCode
    ambiguous
    rerunRequested := s.rerunRequested }

end Scanner

/-- The judgement on a whole output. -/
def classify (text : String) (exitCode : Option Int) (table : RuleSet) (policy : ExitPolicy) :
    Classification :=
  ((Scanner.start table).scanText text).finish exitCode policy

/-- The judgement in one line of a build log. -/
def Classification.summaryLine (c : Classification) (suite : String) : String :=
  let exit := match c.exitCode with
    | some code => s!" (exit {code})"
    | none => " (killed)"
  s!"{suite}: passed {c.passed}, failed {c.failed}" ++ exit ++
    (if c.ambiguous then " [no recognised output]" else "") ++
    s!" => {c.severity.ciStatus.label}"

/-!
### The tables of all categories

A classifier holds the tables that differ from the built-in ones, by category, and one policy for
exit codes.  Rules added to a category go in front of those it has.
-/

/-- The tables of categories with rules of their own, and the policy for exit codes. -/
structure Classifier where
  tables : List (String × RuleSet) := []
  policy : ExitPolicy := {}

namespace Classifier

def tableFor (c : Classifier) (category : String) : RuleSet :=
  ((c.tables.find? fun entry => entry.1 == category).map (·.2)).getD (.builtin category)

/-- The tables with one of them replaced. -/
def setTable (category : String) (table : RuleSet) (tables : List (String × RuleSet)) :
    List (String × RuleSet) :=
  (category, table) :: tables.filter fun entry => entry.1 != category

/-- Puts rules in front of those of a category.  When one of them cannot be made, nothing
changes. -/
def extendCategory (c : Classifier) (category : String) (specs : List RuleSpec) :
    Except RuleError Classifier := do
  let rules ← specs.mapM Rule.ofSpec
  return { c with tables := setTable category ((c.tableFor category).prepend rules) c.tables }

/-- The judgement on the output of a suite of a category. -/
def classify (c : Classifier) (category text : String) (exitCode : Option Int) : Classification :=
  DeviceLab.classify text exitCode (c.tableFor category) c.policy

end Classifier

end DeviceLab
