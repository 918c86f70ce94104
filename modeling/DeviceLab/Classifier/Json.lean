import DeviceLab.Decimal.Powers
import DeviceLab.Classifier.Scan
import DeviceLab.Json.Decode

/-!
# Verdicts and rules as JSON

The documents of severities, tallies, rule specifications, exit policies and classifications, and
the table of a configuration that holds an exit policy together with rules by category.
-/

namespace DeviceLab

open Json

namespace Severity

def toJson (s : Severity) : Value := .string s.name

def decode : Decoder Severity := variant ofName?

/-- A severity from its name, in a document that was put aside. -/
def decodeAside : Decoder Severity := variantAside ofName?

end Severity

namespace CiStatus

def toJson (s : CiStatus) : Value := .string s.label

def decode : Decoder CiStatus := variant ofLabel?

end CiStatus

namespace Tally

def toJson (t : Tally) : Value := .string t.name

def decode : Decoder Tally := variant ofName?

end Tally

/-- What a line counts for, as an object. -/
def RuleHit.toJson (h : RuleHit) : Value :=
  .object [("tally", h.tally.toJson), ("severity", h.severity.toJson), ("count", .nat h.count)]

/-- The exit codes that a process can have: whole numbers of 32 bits. -/
def decodeExitCode : Decoder Int := whole (-Decimal.twoTo 31) (Decimal.twoTo 31 - 1)

/-- Counts of tests. -/
def decodeCount : Decoder Nat := natural (Decimal.twoTo 64)

namespace RuleSpec

/-- A specification with all its fields. -/
def toJson (spec : RuleSpec) : Value :=
  .object [("pattern", .string spec.pattern), ("regex", .bool spec.regex),
    ("tally", spec.tally.toJson), ("severity", spec.severity.toJson)]

/-- Only the pattern has to be there. -/
def decode : Decoder RuleSpec :=
  Record.decoder <|
    RuleSpec.mk <$> .required "pattern" text
      <*> .withDefault "regex" flag false
      <*> .withDefault "tally" Tally.decode .none
      <*> .withDefault "severity" Severity.decode .success

end RuleSpec

namespace ExitPolicy

def fields (p : ExitPolicy) : List (String × Value) :=
  [("tests_failed_code", .int p.testsFailedCode), ("harness_failure", p.harnessFailure.toJson),
    ("crash", p.crash.toJson)]

def toJson (p : ExitPolicy) : Value := .object p.fields

/-- A policy whose severities are read in a given way.  A field that is missing has the value of the
usual policy. -/
def decodeWith (severity : Decoder Severity) : Decoder ExitPolicy :=
  let usual : ExitPolicy := {}
  Record.decoder <|
    ExitPolicy.mk <$> .withDefault "tests_failed_code" decodeExitCode usual.testsFailedCode
      <*> .withDefault "harness_failure" severity usual.harnessFailure
      <*> .withDefault "crash" severity usual.crash

def decode : Decoder ExitPolicy := decodeWith Severity.decode

end ExitPolicy

namespace Classification

/-- A classification with all its fields. -/
def toJson (c : Classification) : Value :=
  .object [("severity", c.severity.toJson), ("passed", .nat c.passed), ("failed", .nat c.failed),
    ("exit_code", .ofOption .int c.exitCode), ("ambiguous", .bool c.ambiguous),
    ("rerun_requested", .bool c.rerunRequested)]

/-- All fields have to be there, except that a missing exit code is none. -/
def decode : Decoder Classification :=
  Record.decoder <|
    Classification.mk <$> .required "severity" Severity.decode
      <*> .required "passed" decodeCount
      <*> .required "failed" decodeCount
      <*> .nullable "exit_code" decodeExitCode
      <*> .required "ambiguous" flag
      <*> .required "rerun_requested" flag

end Classification

/-- The part of a configuration that says how output is judged. -/
structure ClassifierSettings where
  policy : ExitPolicy := {}
  /-- Rules by category, in the order of the categories' names. -/
  rules : List (String × List RuleSpec) := []
  deriving DecidableEq, Repr, Inhabited

namespace ClassifierSettings

/-- The policy's fields and the rules in one object. -/
def toJson (s : ClassifierSettings) : Value :=
  .object (s.policy.fields ++
    [("rules", .object (s.rules.map fun (category, specs) =>
      (category, .array (specs.map RuleSpec.toJson))))])

/-- The nesting that a value may have whose type is not known when it is read. -/
def loadDepth : Nat := 127

/-- Reads the fields in the order of the text: rules at once, and all others as values that may
turn out to belong to the policy. -/
def readFields (rules : Option (List (String × List RuleSpec)))
    (others : List (Option String × Document)) : List (Option String × Document) →
    Except Fault (Option (List (String × List RuleSpec)) × List (Option String × Document))
  | [] => .ok (rules, others)
  | (none, _) :: _ => .error .malformed
  | (some name, value) :: rest =>
    if name = "rules" then
      if rules.isSome then .error .unfit
      else do readFields (some (← dictionary (list RuleSpec.decode) value)) others rest
    else do
      value.load loadDepth
      readFields rules (others ++ [(some name, value)]) rest

/-- The rules are read as they come and the policy at the end. -/
def decode : Decoder ClassifierSettings
  | .object fields ending => do
    let (rules, others) ← readFields none [] fields
    match ending.fault? with
    | some fault => throw fault
    | none =>
      match ExitPolicy.decodeWith Severity.decodeAside (.object others .closed) with
      | .ok policy => return ⟨policy, rules.getD []⟩
      | .error _ => throw .unfit
  | .array _ _ => .error .unfit
  | d => .error d.mismatch

/-- The first category with a rule that cannot be made, and why. -/
def build (s : ClassifierSettings) : Except (String × RuleError) Classifier :=
  s.rules.foldlM (fun classifier (category, specs) =>
    match classifier.extendCategory category specs with
    | .ok extended => .ok extended
    | .error e => .error (category, e)) { policy := s.policy }

end ClassifierSettings

end DeviceLab
