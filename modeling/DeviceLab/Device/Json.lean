import DeviceLab.Device.Scripted
import DeviceLab.Summary.Json

/-!
# Faults in JSON

The steps that can be made to fail, and the faults, by which scripted devices are told what to do.
-/

namespace DeviceLab

open Json

/-- A step by its name. -/
def FaultPoint.decode : Decoder FaultPoint := fun d => do
  match ← text d with
  | "Acquire" => return .acquire
  | "Launch" => return .launch
  | "Redirect" => return .redirect
  | "Health" => return .health
  | "Install" => return .install
  | _ => throw .unfit

/-- The fault as an object. -/
def DeviceFault.toJson (f : DeviceFault) : Value :=
  .object [("message", .string f.message), ("device", .ofOption .string f.device),
    ("package", .ofOption .string f.package), ("fail_count", .ofOption .nat f.failCount),
    ("fatal", .bool f.fatal)]

/-- A fault, which only needs its text. -/
def DeviceFault.decode : Decoder DeviceFault :=
  Record.decoder <|
    DeviceFault.mk <$> .required "message" text
      <*> .nullableWithDefault "device" text
      <*> .nullableWithDefault "package" text
      <*> .nullableWithDefault "fail_count" decodeNat32
      <*> ((·.getD false) <$> .nullableWithDefault "fatal" flag)

/-- A fault with the step that it concerns. -/
def FaultScript.decodeEntry : Decoder (FaultPoint × DeviceFault) := fun d => do
  let point ← Record.decoder (.required "point" FaultPoint.decode) d
  return (point, ← DeviceFault.decode d)

end DeviceLab
