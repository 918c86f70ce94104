import DeviceLab.Config.Validate
import DeviceLab.Context
import DeviceLab.Device.Basic
import DeviceLab.Dispatch.Command
import DeviceLab.Json.Decode

/-!
# Errors for other programs

Every error as an object: its kind under `error`, and then its text, or what tells more than a text.
What a library or the system says about an error is left out, and an error that wraps another one
shows that one under `source`.
-/

namespace DeviceLab

open Json

def failure (kind message : String) : Value :=
  .object [("error", .string kind), ("message", .string message)]

/-- An error by its kind alone. -/
def bareFailure (kind : String) : Value := .object [("error", .string kind)]

/-- An error by its kind and what tells more. -/
def detailed (kind : String) (fields : List (String × Value)) : Value :=
  .object (("error", .string kind) :: fields)

/-- What is wrong with a text that is to be a value. -/
def Json.Fault.toJson (fault : Json.Fault) : Value :=
  detailed "Json" [("category", .string <| match fault with
    | .malformed => "Syntax"
    | .unfinished => "Eof"
    | .unfit => "Data")]

/-- The error as an object. -/
def RuleError.toJson (e : RuleError) : Value :=
  match e with
  | .invalidPattern pattern => detailed "InvalidPattern" [("pattern", .string pattern)]
  | .missingCapture _ => failure "MissingCapture" e.message

/-- The kind of an error that is told by its text. -/
def ConfigError.kind : ConfigError → String
  | .io _ _ => "Io"
  | .parse => "Parse"
  | .noDevices => "NoDevices"
  | .duplicateDevice _ => "DuplicateDevice"
  | .portConflict _ _ _ => "PortConflict"
  | .zeroPort _ _ => "ZeroPort"
  | .noSuites => "NoSuites"
  | .unknownSuite _ => "UnknownSuite"
  | .duplicateSuite _ => "DuplicateSuite"
  | .unknownCategory _ _ => "UnknownCategory"
  | .unknownPackage _ _ => "UnknownPackage"
  | .tooManySuites _ _ => "TooManySuites"
  | .invalidValue _ => "InvalidValue"
  | .invalidRule _ _ => "InvalidRule"

/-- The error as an object. -/
def ConfigError.toJson (e : ConfigError) : Value :=
  match e with
  | .io _ _ | .parse => bareFailure e.kind
  | .invalidRule category cause =>
    detailed e.kind [("category", .string category), ("source", cause.toJson)]
  | _ => failure e.kind e.message

/-- The error as an object. -/
def ContextError.toJson (e : ContextError) : Value :=
  match e with
  | .packageName _ _ => bareFailure "PackageName"
  | .emptyPackageName _ => failure "EmptyPackageName" e.message

/-- The error as an object. -/
def UnresolvedPlaceholder.toJson (e : UnresolvedPlaceholder) : Value :=
  detailed "UnresolvedPlaceholder"
    [("name", .string e.name), ("template", .string e.template), ("message", .string e.message)]

/-- The error as an object. -/
def CommandError.toJson (e : CommandError) : Value :=
  match e with
  | .unknownSuite _ => failure "UnknownSuite" e.message
  | .unknownCategory _ _ => failure "UnknownCategory" e.message
  | .unresolved _ _ => failure "Unresolved" e.message

/-- The error as an object. -/
def LaunchError.toJson (e : LaunchError) : Value :=
  match e with
  | .emptyCommand _ => failure "EmptyCommand" e.message
  | .spawn label program _ =>
    detailed "Spawn" [("label", .string label), ("program", .string program)]
  | .capture label _ => detailed "Capture" [("label", .string label)]

/-- The error as an object. -/
def SupervisorError.toJson (e : SupervisorError) : Value :=
  match e with
  | .launch cause => detailed "Launch" [("source", cause.toJson)]
  | .unknownProcess _ => failure "UnknownProcess" e.message
  | .io _ => bareFailure "Io"

def ConnectError.toJson (e : ConnectError) : Value :=
  detailed "Connect" [("target", .string e.target), ("attempts", .nat e.attempts)]

/-- The error as an object. -/
def ConsoleError.toJson (e : ConsoleError) : Value :=
  match e with
  | .connect cause => cause.toJson
  | .unexpectedReply expected got =>
    detailed "Protocol"
      [("expected", .string expected), ("got", .string got), ("message", .string e.message)]

/-- The error as an object. -/
def AgentError.toJson (e : AgentError) : Value :=
  match e with
  | .connect cause => cause.toJson
  | .noPrompt _ attempts got =>
    detailed "NoPrompt"
      [("attempts", .nat attempts), ("got", .string got), ("message", .string e.message)]

/-- The error as an object, which also tells whether another try could mend it. -/
def DeviceError.toJson (e : DeviceError) : Value :=
  let fatal := ("fatal", Value.bool e.isFatal)
  let plain (kind : String) := detailed kind [("message", .string e.message), fatal]
  match e with
  | .launch cause => detailed "Launch" [("source", cause.toJson), fatal]
  | .command _ _ => plain "Command"
  | .redirect device cause =>
    detailed "Redirect" [("device", .string device), ("source", cause.toJson), fatal]
  | .agent device cause =>
    detailed "Agent" [("device", .string device), ("source", cause.toJson), fatal]
  | .exited _ _ => plain "Exited"
  | .notLaunched _ => plain "NotLaunched"
  | .supervisor cause => detailed "Supervisor" [("source", cause.toJson), fatal]

/-- The error as an object. -/
def InstallError.toJson (e : InstallError) : Value :=
  match e with
  | .missingArtifact _ _ => failure "MissingArtifact" e.message
  | .failed _ _ _ _ => failure "Failed" e.message
  | .timedOut _ _ => failure "TimedOut" e.message
  | .command _ _ => failure "Command" e.message
  | .supervisor cause => detailed "Supervisor" [("source", cause.toJson)]

end DeviceLab
