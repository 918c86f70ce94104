import DeviceLab.Classifier.Json
import DeviceLab.Config.Timing
import DeviceLab.Text.Path

/-!
# Configuration

What a run needs to know: where things are, how emulators are started, which devices and suites
there are, which suites to run and in which order, and how output is judged.

* `Config` and its parts.
* `Config.boundDevices`: the devices of the selected suites, in the same order.
* `Config.categoryDir`, `Config.workPath`: paths below the work directory.
-/

namespace DeviceLab

open Decimal

/-- Where things are. -/
structure Paths where
  /-- The directory below which tests are unpacked. -/
  workDir : String
  /-- The directory for logs and summaries. -/
  uploadDir : String
  /-- The artifact under test. -/
  installerPath : String
  xreDir : Option String
  modulesDir : Option String
  symbolsPath : Option String
  minidumpStackwalk : Option String
  /-- The name of the installed package, unless a file tells it. -/
  packageName : Option String
  packageNameFile : Option String
  remoteWebserver : String
  deviceIp : String
  consoleHost : String
  deriving DecidableEq, Repr, Inhabited

namespace Paths

/-- The address at which a device reaches the host. -/
def usualWebserver : String := "10.0.2.2"

/-- The address of the host itself. -/
def localhost : String := "127.0.0.1"

end Paths

/-- How emulators are started, checked and given packages.  The commands are templates. -/
structure EmulatorSettings where
  command : List String := ["emulator", "-avd", "\x7bname\x7d", "-port", "\x7bconsole_port\x7d",
    "-qemu", "-m", "1024", "-enable-kvm"]
  /-- A part of the names of processes that an emulator may leave behind. -/
  processName : Option String := none
  installCommand : List String :=
    ["adb", "-s", "\x7bdevice_id\x7d", "install", "-r", "\x7bpackage\x7d"]
  /-- Nothing when devices are not checked by a command. -/
  healthCommand : List String := ["adb", "-s", "\x7bdevice_id\x7d", "shell", "ps"]
  /-- Nothing when device logs are not captured. -/
  logcatCommand : List String := ["adb", "-s", "\x7bdevice_id\x7d", "logcat", "-v", "time",
    "Trace:S", "StrictMode:S", "ExchangeService:S"]
  deviceAgentPort1 : Nat := 20701
  deviceAgentPort2 : Nat := 20700
  /-- Whether an agent that does not answer fails the start. -/
  requireAgentHealth : Bool := false
  env : List (String × String) := []
  deriving DecidableEq, Repr, Inhabited

/-- A device slot with its ports on the host. -/
structure DeviceSlot where
  name : String
  consolePort : Nat
  agentPort1 : Nat
  agentPort2 : Nat
  httpPort : Nat
  sslPort : Nat
  /-- The serial of the device, unless it follows from the console port. -/
  serial : Option String
  deriving DecidableEq, Repr, Inhabited

namespace DeviceSlot

def deviceId (d : DeviceSlot) : String := d.serial.getD s!"emulator-{d.consolePort}"

/-- The ports by their fields. -/
def ports (d : DeviceSlot) : List (String × Nat) :=
  [("console_port", d.consolePort), ("agent_port1", d.agentPort1), ("agent_port2", d.agentPort2),
    ("http_port", d.httpPort), ("ssl_port", d.sslPort)]

end DeviceSlot

/-- What the suites of a category have in common. -/
structure Category where
  testDir : String
  runScript : String
  interpreter : List String
  /-- Templates of options. -/
  options : List String
  env : List (String × String)
  deriving DecidableEq, Repr, Inhabited

/-- The interpreter of a category that names none. -/
def Category.usualInterpreter : List String := ["python", "-u"]

/-- A suite of a category. -/
structure SuiteSpec where
  category : String
  extraArgs : List String
  env : List (String × String)
  /-- The packages that the suite cannot do without. -/
  requires : List String
  /-- A text in the output that asks for another run. -/
  rerunOn : Option String
  maxRuns : Option Nat
  timeoutSecs : Option Binary64
  idleTimeoutSecs : Option Binary64
  deriving DecidableEq, Repr, Inhabited

/-- The number of runs that a suite may have when it asks for more. -/
def SuiteSpec.runLimit (s : SuiteSpec) : Nat :=
  s.maxRuns.getD (if s.category = "marionette" then 5 else 1)

/-- A package that is installed besides the artifact under test. -/
structure Package where
  path : String
  /-- Whether every device gets it, not only those of suites that require it. -/
  always : Bool
  deriving DecidableEq, Repr, Inhabited

/-- A whole configuration.  Tables are in the order of their names. -/
structure Config where
  paths : Paths
  emulator : EmulatorSettings
  devices : List DeviceSlot
  categories : List (String × Category)
  suites : List (String × SuiteSpec)
  /-- The suites to run, in the order of the devices. -/
  selected : List String
  packages : List (String × Package)
  timing : TimingSettings
  classifier : ClassifierSettings
  deriving DecidableEq, Repr

namespace Config

open Json

def suite? (c : Config) (name : String) : Option SuiteSpec := lookup name c.suites

def category? (c : Config) (name : String) : Option Category := lookup name c.categories

def package? (c : Config) (name : String) : Option Package := lookup name c.packages

/-- The devices of the selected suites, in the same order. -/
def boundDevices (c : Config) : List DeviceSlot := c.devices.take c.selected.length

/-- A path below the work directory, unless it is absolute. -/
def workPath (c : Config) (path : String) : String := Path.join c.paths.workDir path

def categoryDir (c : Config) (category : Category) : String := c.workPath category.testDir

end Config

end DeviceLab
