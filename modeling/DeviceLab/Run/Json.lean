import DeviceLab.Run.Report

/-!
# Runs in JSON
-/

namespace DeviceLab

open Json

def Phase.namesJson (phases : List Phase) : Value := .strings (phases.map Phase.name)

/-- The phase of a run and those before it, as the fields of an object. -/
def Lifecycle.progress (l : Lifecycle) : List (String × Value) :=
  [("state", .string l.phase.name), ("failed", .bool l.isFailed),
    ("failed_from", .ofOption (.string ·.name) l.failedFrom),
    ("history", Phase.namesJson l.history)]

/-- What is known about a device, as the fields of an object. -/
def Device.progress (d : Device) : List (String × Value) :=
  let id (p : Option ProcessId) : Value := .ofOption (fun p => .string (ProcessId.text p)) p
  [("health", .string d.health.name), ("process", id d.process), ("logcat", id d.logcat),
    ("launches", .nat d.launchedPids.length),
    ("status_report", .ofOption .string d.statusReport)]

/-- A report as the fields of an object, without what differs from run to run. -/
def RunReport.lastingFields (r : RunReport) : List (String × Value) :=
  [("summary", r.summary.lastingJson), ("history", Phase.namesJson r.history),
    ("failed_from", .ofOption (.string ·.name) r.summary.failedFrom),
    ("verdict", r.summary.verdict.toJson), ("exit_code", .int r.summary.exitCode),
    ("summary_path", .ofOption .string r.summaryPath),
    ("logs_dir", .ofOption .string r.logsDir)]

end DeviceLab
