/-!
# Verdicts

A verdict is one of four severities, from best to worst.  Verdicts are merged by taking the worst
one; the merge of none is the best severity.  Each severity has a status in the vocabulary of the
build system, with a label and an exit code.
-/

namespace DeviceLab

/-- How bad something is, from best to worst. -/
inductive Severity where
  | success
  | warning
  | failure
  | fatal
  deriving DecidableEq, Repr, Inhabited

/-- The status of a build. -/
inductive CiStatus where
  | success
  | warnings
  | failure
  | exception
  deriving DecidableEq, Repr

namespace CiStatus

def all : List CiStatus := [.success, .warnings, .failure, .exception]

/-- The name of the status in a build log. -/
def label : CiStatus → String
  | .success => "SUCCESS"
  | .warnings => "WARNINGS"
  | .failure => "FAILURE"
  | .exception => "EXCEPTION"

/-- The exit code that tells the status. -/
def exitCode : CiStatus → Nat
  | .success => 0
  | .warnings => 1
  | .failure => 2
  | .exception => 4

def ofLabel? (label : String) : Option CiStatus := all.find? fun s => s.label == label

end CiStatus

namespace Severity

/-- Every severity, from best to worst. -/
def all : List Severity := [.success, .warning, .failure, .fatal]

/-- The place of a severity in the order from best to worst. -/
def rank : Severity → Nat
  | .success => 0
  | .warning => 1
  | .failure => 2
  | .fatal => 3

def compare (a b : Severity) : Ordering := Ord.compare a.rank b.rank

instance : LE Severity := ⟨fun a b => a.rank ≤ b.rank⟩

instance (a b : Severity) : Decidable (a ≤ b) := inferInstanceAs (Decidable (a.rank ≤ b.rank))

/-- The worse of two severities. -/
def join (a b : Severity) : Severity := if a ≤ b then b else a

/-- The worst of any number of severities. -/
def aggregate (verdicts : List Severity) : Severity := verdicts.foldl join .success

/-- The name of a severity. -/
def name : Severity → String
  | .success => "success"
  | .warning => "warning"
  | .failure => "failure"
  | .fatal => "fatal"

def ofName? (name : String) : Option Severity := all.find? fun s => s.name == name

/-- The build status of a severity. -/
def ciStatus : Severity → CiStatus
  | .success => .success
  | .warning => .warnings
  | .failure => .failure
  | .fatal => .exception

end Severity

end DeviceLab
