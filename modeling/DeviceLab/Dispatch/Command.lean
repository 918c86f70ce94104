import DeviceLab.Context
import DeviceLab.Process.Launch

/-!
# Suite commands

The command of a suite is made from its category's interpreter, script and options, and its own
arguments.  The same configuration, context and device always give the same command.

* `buildCommand`: the command, given the values of the templates.
* `Dispatcher.commandFor`: the command of a suite of the configuration on a device.
-/

namespace DeviceLab

open Json

/-- A command that is ready to be launched. -/
structure SuiteCommand where
  argv : List String
  cwd : String
  env : List (String × String)
  deriving DecidableEq, Repr

namespace SuiteCommand

def launchSpec (command : SuiteCommand) (label : String) : LaunchSpec :=
  { label, argv := command.argv, cwd := some command.cwd, env := command.env }

/-- The command line as a shell would take it. -/
def shown (command : SuiteCommand) : String := (command.launchSpec "").commandLine

end SuiteCommand

/-- Why a suite has no command. -/
inductive CommandError where
  | unknownSuite (suite : String)
  | unknownCategory (suite category : String)
  | unresolved (suite : String) (cause : UnresolvedPlaceholder)
  deriving DecidableEq, Repr

def CommandError.message : CommandError → String
  | .unknownSuite suite => s!"unknown suite '{suite}'"
  | .unknownCategory suite category => s!"suite '{suite}' uses unknown category '{category}'"
  | .unresolved suite cause => s!"suite '{suite}': {cause.message}"

/-- Variables with others put over them. -/
def overlay (base upper : List (String × String)) : List (String × String) :=
  upper.foldl (fun env (name, value) => enter name value env) base

/-- The command of a suite: interpreter, script, options with their values, and the suite's own
arguments as they are.  A variable of the suite goes before one of the category, and that before a
common one. -/
def buildCommand (suiteName : String) (suite : SuiteSpec) (category : Category) (dir : String)
    (values : Values) (baseEnv : List (String × String)) : Except CommandError SuiteCommand :=
  match Template.renderAll category.options values with
  | .error cause => .error (.unresolved suiteName cause)
  | .ok options => .ok
    { argv := category.interpreter ++ [Path.join dir category.runScript] ++ options ++
        suite.extraArgs
      cwd := dir
      env := overlay (overlay baseEnv category.env) suite.env }

/-- What commands are made from. -/
structure Dispatcher where
  config : Config
  context : RunContext

namespace Dispatcher

/-- The values of the run together with those of a device. -/
def valuesFor (d : Dispatcher) (device : DeviceSlot) : Values :=
  [("device_port", toString device.agentPort1), ("http_port", toString device.httpPort),
    ("ssl_port", toString device.sslPort), ("console_port", toString device.consolePort),
    ("device_id", device.deviceId)].foldl
    (fun values (name, value) => enter name value values) d.context.values

/-- A suite with its category. -/
def suite (d : Dispatcher) (name : String) : Except CommandError (SuiteSpec × Category) :=
  match d.config.suite? name with
  | none => .error (.unknownSuite name)
  | some suite =>
    match d.config.category? suite.category with
    | none => .error (.unknownCategory name suite.category)
    | some category => .ok (suite, category)

/-- The command of a suite on a device. -/
def commandFor (d : Dispatcher) (name : String) (device : DeviceSlot) :
    Except CommandError SuiteCommand := do
  let (suite, category) ← d.suite name
  buildCommand name suite category (d.config.categoryDir category) (d.valuesFor device)
    d.context.childEnv

end Dispatcher

end DeviceLab
