import DeviceLab.Classifier.Json
import DeviceLab.Config.Json
import DeviceLab.Process.Launch
import DeviceLab.Summary.Json

/-!
# Processes, commands and suite runs in JSON

How a process ended and what to launch, the context of a run, and how far a suite has come.
-/

namespace DeviceLab

open Json

/-! ### Processes -/

/-- The outcome with what it means. -/
def ExitOutcome.toJson (o : ExitOutcome) : Value :=
  .object [("code", .ofOption .int o.code), ("success", .bool o.success),
    ("display", .string o.text)]

/-- An outcome by its code, or by the name of a signal. -/
def ExitOutcome.decode : Decoder ExitOutcome := fun d => do
  let found ← Record.decoder (Prod.mk <$> .nullableWithDefault "signal" Json.text
    <*> .withDefault "code" (optional decodeExitCode) none) d
  match found with
  | (some name, _) => return .signaled name
  | (none, some code) => return .exited code
  | (none, none) => throw .unfit

/-- What to launch. -/
def LaunchSpec.decode : Decoder LaunchSpec :=
  Record.decoder <|
    LaunchSpec.mk <$> .required "label" text
      <*> .required "argv" (list text)
      <*> .nullableWithDefault "cwd" text
      <*> .withDefault "env" decodeTexts []
      <*> .nullableWithDefault "stray" text

/-! ### Contexts, commands and suite runs -/

/-- The context with the values that templates may name. -/
def RunContext.toJson (ctx : RunContext) : Value :=
  .object [("work_dir", .string ctx.workDir), ("upload_dir", .string ctx.uploadDir),
    ("installer_path", .string ctx.installerPath),
    ("package_name", .ofOption .string ctx.packageName),
    ("symbols_path", .ofOption .string ctx.symbolsPath),
    ("utility_path", .ofOption .string ctx.utilityPath),
    ("xre_path", .ofOption .string ctx.xrePath),
    ("modules_dir", .ofOption .string ctx.modulesDir), ("certs_path", .string ctx.certsPath),
    ("remote_webserver", .string ctx.remoteWebserver), ("device_ip", .string ctx.deviceIp),
    ("console_host", .string ctx.consoleHost), ("child_env", .texts ctx.childEnv),
    ("placeholders", .texts ctx.values)]

/-- The command, and what is launched for it under a label. -/
def SuiteCommand.toJson (c : SuiteCommand) (label : String) : Value :=
  let spec := c.launchSpec label
  .object [("argv", .strings c.argv), ("cwd", .string c.cwd), ("env", .texts c.env),
    ("display", .string c.shown),
    ("spec", .object [("label", .string spec.label), ("argv", .bool (spec.argv == c.argv)),
      ("cwd", .ofOption .string spec.cwd), ("env", .bool (spec.env == c.env)),
      ("stray", .ofOption .string spec.strayPattern)])]

/-- How far a run has come, as the fields of an object. -/
def SuiteRun.progress (r : SuiteRun) : List (String × Value) :=
  [("state", .string r.state.name), ("outcome", .ofOption ExitOutcome.toJson r.outcome),
    ("exit_code", .ofOption .int r.exitCode),
    ("timeout_reason", .ofOption .string r.timeoutReason),
    ("classification", .ofOption Classification.toJson r.classification),
    ("log", .string r.logFileName)]

end DeviceLab
