import DeviceLab.Decimal.Powers
import DeviceLab.Config.Basic
import DeviceLab.Toml.Reader

/-!
# Configurations as documents

The documents of a configuration and its parts, as they are read from JSON or TOML and as they are
written.
-/

namespace DeviceLab

open Json

def decodePort : Decoder Nat := natural (Decimal.twoTo 16)

/-- Texts under names. -/
def decodeTexts : Decoder (List (String × String)) := dictionary text

namespace Paths

/-- The paths with all their fields. -/
def toJson (p : Paths) : Value :=
  let optional := Value.ofOption Value.string
  .object [("work_dir", .string p.workDir), ("upload_dir", .string p.uploadDir),
    ("installer_path", .string p.installerPath), ("xre_dir", optional p.xreDir),
    ("modules_dir", optional p.modulesDir), ("symbols_path", optional p.symbolsPath),
    ("minidump_stackwalk", optional p.minidumpStackwalk),
    ("package_name", optional p.packageName),
    ("package_name_file", optional p.packageNameFile),
    ("remote_webserver", .string p.remoteWebserver), ("device_ip", .string p.deviceIp),
    ("console_host", .string p.consoleHost)]

/-- The first three paths have to be there. -/
def decode : Decoder Paths :=
  Record.decoder <|
    Paths.mk <$> .required "work_dir" text
      <*> .required "upload_dir" text
      <*> .required "installer_path" text
      <*> .nullableWithDefault "xre_dir" text
      <*> .nullableWithDefault "modules_dir" text
      <*> .nullableWithDefault "symbols_path" text
      <*> .nullableWithDefault "minidump_stackwalk" text
      <*> .nullableWithDefault "package_name" text
      <*> .nullableWithDefault "package_name_file" text
      <*> .withDefault "remote_webserver" text usualWebserver
      <*> .withDefault "device_ip" text localhost
      <*> .withDefault "console_host" text localhost

end Paths

namespace EmulatorSettings

/-- The settings with all their fields. -/
def toJson (e : EmulatorSettings) : Value :=
  .object [("command", .strings e.command), ("process_name", .ofOption .string e.processName),
    ("install_command", .strings e.installCommand),
    ("health_command", .strings e.healthCommand), ("logcat_command", .strings e.logcatCommand),
    ("device_agent_port1", .nat e.deviceAgentPort1),
    ("device_agent_port2", .nat e.deviceAgentPort2),
    ("require_agent_health", .bool e.requireAgentHealth), ("env", .texts e.env)]

/-- A field that is missing has its usual value. -/
def decode : Decoder EmulatorSettings :=
  let usual : EmulatorSettings := {}
  Record.decoder <|
    EmulatorSettings.mk <$> .withDefault "command" (list text) usual.command
      <*> .withDefault "process_name" (optional text) usual.processName
      <*> .withDefault "install_command" (list text) usual.installCommand
      <*> .withDefault "health_command" (list text) usual.healthCommand
      <*> .withDefault "logcat_command" (list text) usual.logcatCommand
      <*> .withDefault "device_agent_port1" decodePort usual.deviceAgentPort1
      <*> .withDefault "device_agent_port2" decodePort usual.deviceAgentPort2
      <*> .withDefault "require_agent_health" flag usual.requireAgentHealth
      <*> .withDefault "env" decodeTexts usual.env

end EmulatorSettings

namespace DeviceSlot

/-- The slot with all its fields. -/
def toJson (d : DeviceSlot) : Value :=
  .object [("name", .string d.name), ("console_port", .nat d.consolePort),
    ("agent_port1", .nat d.agentPort1), ("agent_port2", .nat d.agentPort2),
    ("http_port", .nat d.httpPort), ("ssl_port", .nat d.sslPort),
    ("device_id", .ofOption .string d.serial)]

/-- Only the serial may be missing. -/
def decode : Decoder DeviceSlot :=
  Record.decoder <|
    DeviceSlot.mk <$> .required "name" text
      <*> .required "console_port" decodePort
      <*> .required "agent_port1" decodePort
      <*> .required "agent_port2" decodePort
      <*> .required "http_port" decodePort
      <*> .required "ssl_port" decodePort
      <*> .nullableWithDefault "device_id" text

end DeviceSlot

namespace Category

/-- The category with all its fields. -/
def toJson (c : Category) : Value :=
  .object [("test_dir", .string c.testDir), ("run_script", .string c.runScript),
    ("interpreter", .strings c.interpreter), ("options", .strings c.options), ("env", .texts c.env)]

/-- Directory and script have to be there. -/
def decode : Decoder Category :=
  Record.decoder <|
    Category.mk <$> .required "test_dir" text
      <*> .required "run_script" text
      <*> .withDefault "interpreter" (list text) usualInterpreter
      <*> .withDefault "options" (list text) []
      <*> .withDefault "env" decodeTexts []

end Category

namespace SuiteSpec

/-- The suite with all its fields. -/
def toJson (s : SuiteSpec) : Value :=
  .object [("category", .string s.category), ("extra_args", .strings s.extraArgs),
    ("env", .texts s.env), ("requires", .strings s.requires),
    ("rerun_on", .ofOption .string s.rerunOn), ("max_runs", .ofOption .nat s.maxRuns),
    ("timeout_secs", .ofOption .real s.timeoutSecs),
    ("idle_timeout_secs", .ofOption .real s.idleTimeoutSecs)]

/-- Only the category has to be there. -/
def decode : Decoder SuiteSpec :=
  Record.decoder <|
    SuiteSpec.mk <$> .required "category" text
      <*> .withDefault "extra_args" (list text) []
      <*> .withDefault "env" decodeTexts []
      <*> .withDefault "requires" (list text) []
      <*> .nullableWithDefault "rerun_on" text
      <*> .nullableWithDefault "max_runs" (natural (Decimal.twoTo 32))
      <*> .nullableWithDefault "timeout_secs" number
      <*> .nullableWithDefault "idle_timeout_secs" number

end SuiteSpec

namespace Package

def toJson (p : Package) : Value :=
  .object [("path", .string p.path), ("always", .bool p.always)]

/-- The path has to be there. -/
def decode : Decoder Package :=
  Record.decoder <|
    Package.mk <$> .required "path" text
      <*> .withDefault "always" flag false

end Package

namespace Config

/-- Values under names. -/
def table (toJson : α → Value) (entries : List (String × α)) : Value :=
  .object (entries.map fun (name, a) => (name, toJson a))

/-- The configuration with all its fields. -/
def toJson (c : Config) : Value :=
  .object [("paths", c.paths.toJson), ("emulator", c.emulator.toJson),
    ("device", .array (c.devices.map DeviceSlot.toJson)),
    ("category", table Category.toJson c.categories),
    ("suite", table SuiteSpec.toJson c.suites), ("test_suites", .strings c.selected),
    ("package", table Package.toJson c.packages), ("timing", c.timing.toJson),
    ("classifier", c.classifier.toJson)]

/-- Only the paths have to be there. -/
def decode : Decoder Config :=
  Record.decoder <|
    Config.mk <$> .required "paths" Paths.decode
      <*> .withDefault "emulator" EmulatorSettings.decode {}
      <*> .withDefault "device" (list DeviceSlot.decode) []
      <*> .withDefault "category" (dictionary Category.decode) []
      <*> .withDefault "suite" (dictionary SuiteSpec.decode) []
      <*> .withDefault "test_suites" (list text) []
      <*> .withDefault "package" (dictionary Package.decode) []
      <*> .withDefault "timing" TimingSettings.decode {}
      <*> .withDefault "classifier" ClassifierSettings.decode {}

end Config

/-- The value that a text in TOML tells, unless the text is malformed or tells something else. -/
def decodeToml (decode : Decoder α) (text : String) : Option α := do
  (decode (← Toml.document? text)).toOption

end DeviceLab
