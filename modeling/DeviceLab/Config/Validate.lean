import DeviceLab.Config.Json
import DeviceLab.Host.IoError
import DeviceLab.Host.Basic

/-!
# Valid configurations

* `ConfigError`: what can be wrong with a configuration, and its text.
* `Config.validate`: the first thing that is wrong.
* `Config.parse`: the valid configuration of a text.
* `Config.selectSuites`: other suites to run; they stay selected also when they are refused.
-/

namespace DeviceLab

open Json

/-- Why there is no valid configuration. -/
inductive ConfigError where
  | io (path : String) (cause : IoError)
  /-- The text is malformed or tells something other than a configuration. -/
  | parse
  | noDevices
  | duplicateDevice (name : String)
  | portConflict (port : Nat) (first second : String)
  | zeroPort (device field : String)
  | noSuites
  | unknownSuite (name : String)
  | duplicateSuite (name : String)
  | unknownCategory (suite category : String)
  | unknownPackage (suite package : String)
  | tooManySuites (suites devices : Nat)
  | invalidValue (value : InvalidValue)
  | invalidRule (category : String) (cause : RuleError)
  deriving DecidableEq, Repr

def RuleError.message : RuleError → String
  | .invalidPattern pattern => s!"invalid pattern '{pattern}'"
  | .missingCapture pattern =>
    s!"pattern '{pattern}' must have a capture group to count tests"

/-- The text of a configuration error. -/
def ConfigError.message : ConfigError → String
  | .io path cause => s!"failed to read config file {path}: {cause.message}"
  | .parse => "failed to parse TOML"
  | .noDevices => "no devices configured"
  | .duplicateDevice name => s!"duplicate device name: '{name}'"
  | .portConflict port first second => s!"port {port} is assigned to both {first} and {second}"
  | .zeroPort device field => s!"device '{device}': {field} cannot be 0"
  | .noSuites => "no test suites selected"
  | .unknownSuite name => s!"suite '{name}' is selected but not defined"
  | .duplicateSuite name => s!"suite '{name}' selected more than once"
  | .unknownCategory suite category => s!"suite '{suite}' uses undefined category '{category}'"
  | .unknownPackage suite package => s!"suite '{suite}' requires undefined package '{package}'"
  | .tooManySuites suites devices =>
    s!"{suites} suites selected but only {devices} devices configured"
  | .invalidValue value => s!"invalid value for '{value.field}': {value.reason}"
  | .invalidRule category cause =>
    s!"invalid classifier rule for category '{category}': {cause.message}"

namespace Config

/-- A field with a value that is not allowed. -/
def invalid (field reason : String) : ConfigError := .invalidValue ⟨field, reason⟩

/-- Ports taken so far, by their owners. -/
abbrev PortOwners := List (Nat × String)

/-- Takes the ports of one device; none is zero, and none is taken already. -/
def claimPorts (device : String) (owners : PortOwners) :
    List (String × Nat) → Except ConfigError PortOwners
  | [] => .ok owners
  | (field, port) :: rest =>
    if port = 0 then .error (.zeroPort device field)
    else
      let owner := device ++ "." ++ field
      match owners.find? fun entry => entry.1 == port with
      | some (_, first) => .error (.portConflict port first owner)
      | none => claimPorts device ((port, owner) :: owners) rest

/-- Checks devices one after the other, given the names and ports of those before. -/
def checkDevices (names : List String) (owners : PortOwners) :
    List DeviceSlot → Except ConfigError Unit
  | [] => .ok ()
  | device :: rest =>
    if device.name.isEmpty then .error (invalid "device.name" "cannot be empty")
    else if names.contains device.name then .error (.duplicateDevice device.name)
    else do
      let owners ← claimPorts device.name owners device.ports
      checkDevices (device.name :: names) owners rest

/-- There are devices, their names differ, and so do their ports. -/
def validateDevices (c : Config) : Except ConfigError Unit :=
  if c.devices.isEmpty then .error .noDevices else checkDevices [] [] c.devices

def checkLimit (suite field : String) (limit : Option Decimal.Binary64) :
    Except ConfigError Unit :=
  if limit.all (·.isFinitePos) then .ok ()
  else .error (invalid s!"suite.{suite}.{field}" "must be a positive number of seconds")

/-- Checks a selected suite. -/
def checkSuite (c : Config) (name : String) : Except ConfigError Unit :=
  match c.suite? name with
  | none => .error (.unknownSuite name)
  | some suite => do
    if (c.category? suite.category).isNone then throw (.unknownCategory name suite.category)
    match suite.requires.find? fun package => (c.package? package).isNone with
    | some package => throw (.unknownPackage name package)
    | none => pure ()
    if suite.maxRuns = some 0 then
      throw (invalid s!"suite.{name}.max_runs" "must be at least 1")
    checkLimit name "timeout_secs" suite.timeoutSecs
    checkLimit name "idle_timeout_secs" suite.idleTimeoutSecs

/-- Checks selected suites one after the other, given those before. -/
def checkSuites (c : Config) (seen : List String) : List String → Except ConfigError Unit
  | [] => .ok ()
  | name :: rest =>
    if seen.contains name then .error (.duplicateSuite name)
    else do
      checkSuite c name
      checkSuites c (name :: seen) rest

/-- Some suites are selected, each is in order, and there is a device for each. -/
def validateSuites (c : Config) : Except ConfigError Unit :=
  if c.selected.isEmpty then .error .noSuites
  else do
    checkSuites c [] c.selected
    if c.devices.length < c.selected.length then
      throw (.tooManySuites c.selected.length c.devices.length)

/-- The commands that must not be empty. -/
def validateCommands (c : Config) : Except ConfigError Unit := do
  if c.emulator.command.isEmpty then throw (invalid "emulator.command" "cannot be empty")
  if c.emulator.installCommand.isEmpty then
    throw (invalid "emulator.install_command" "cannot be empty")
  match c.categories.find? fun entry => entry.2.runScript.isEmpty with
  | some (name, _) => throw (invalid s!"category.{name}.run_script" "cannot be empty")
  | none => pure ()

def buildClassifier (c : Config) : Except ConfigError Classifier :=
  match c.classifier.build with
  | .ok classifier => .ok classifier
  | .error (category, cause) => .error (.invalidRule category cause)

/-- The first thing that is wrong with a configuration. -/
def validate (c : Config) : Except ConfigError Unit := do
  c.validateDevices
  c.validateSuites
  c.validateCommands
  match c.timing.validate with
  | .ok () => pure ()
  | .error value => throw (.invalidValue value)
  discard c.buildClassifier

/-- The valid configuration of a text in TOML. -/
def parse (text : String) : Except ConfigError Config :=
  match decodeToml decode text with
  | none => .error .parse
  | some c => do
    c.validate
    return c

/-- The configuration with other suites selected, and whether it is valid. -/
def selectSuites (c : Config) (suites : List String) : Config × Except ConfigError Unit :=
  let c := { c with selected := suites }
  (c, c.validate)

end Config

end DeviceLab

/-!
## Loading a configuration

`Config.load` reads a configuration from a file of a host.
-/

namespace DeviceLab

/-- The configuration in a file. -/
def Config.load (host : Host σ) (path : String) : StateM σ (Except ConfigError Config) := do
  match ← (host.readText path).run with
  | .ok text => return Config.parse text
  | .error cause => return .error (.io path cause)

end DeviceLab
