import DeviceLab.Config.Json
import DeviceLab.Summary.Json

/-!
# Kinds of documents

The documents that the library reads and writes, by the names of their kinds.  `Documents.normalise`
reads a document of a kind and writes it again: fields in their order, with every default.
-/

namespace DeviceLab.Documents

open Json

/-- Reads a text as a value of some type and writes it again. -/
def normaliseAs (decode : Decoder α) (toJson : α → Value) (text : String) : Except Fault String :=
  (decodeText decode text).map fun a => (toJson a).pretty

/-- What a document of a kind becomes when it is read and written again. -/
def kinds : List (String × (String → Except Fault String)) :=
  [("Severity", normaliseAs Severity.decode Severity.toJson),
    ("CiStatus", normaliseAs CiStatus.decode CiStatus.toJson),
    ("Tally", normaliseAs Tally.decode Tally.toJson),
    ("RuleSpec", normaliseAs RuleSpec.decode RuleSpec.toJson),
    ("ExitPolicy", normaliseAs ExitPolicy.decode ExitPolicy.toJson),
    ("Classification", normaliseAs Classification.decode Classification.toJson),
    ("ClassifierSettings", normaliseAs ClassifierSettings.decode ClassifierSettings.toJson),
    ("FailureKind", normaliseAs FailureKind.decode (.string ·.name)),
    ("SuiteStatus", normaliseAs SuiteStatus.decode (.string ·.name)),
    ("SuiteState", normaliseAs SuiteState.decode (.string ·.name)),
    ("HealthState", normaliseAs HealthState.decode (.string ·.name)),
    ("LifecycleState", normaliseAs Phase.decode (.string ·.name)),
    ("SuiteSummary", normaliseAs SuiteSummary.decode SuiteSummary.toJson),
    ("PhaseOutcome", normaliseAs PhaseOutcome.decode PhaseOutcome.toJson),
    ("DeviceSummary", normaliseAs DeviceSummary.decode DeviceSummary.toJson),
    ("DeviceConfig", normaliseAs DeviceSlot.decode DeviceSlot.toJson),
    ("CategoryConfig", normaliseAs Category.decode Category.toJson),
    ("PackageConfig", normaliseAs Package.decode Package.toJson),
    ("PathsConfig", normaliseAs Paths.decode Paths.toJson),
    ("EmulatorConfig", normaliseAs EmulatorSettings.decode EmulatorSettings.toJson),
    ("RunSummary", normaliseAs RunSummary.decode RunSummary.toJson)]

/-- A document of a kind, read and written again; there is nothing for a kind that is not known. -/
def normalise (kind text : String) : Option (Except Fault String) :=
  (lookup kind kinds).map fun read => read text

end DeviceLab.Documents
