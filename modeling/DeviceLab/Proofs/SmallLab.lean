import DeviceLab.Device.Scripted
import DeviceLab.Proofs.Triple
import DeviceLab.Run.Controller
import Mathlib.Control.Monad.Basic

/-! # A small lab

A host with a few files, on which emulators run until they are ended and suites pass at once, and a
configuration of two devices and two suites.  Its runs are short enough to be computed in a proof.

* `RunPlan.ofConfig_valid`: only accepted configurations get a plan.
* `Finishes.of_run`, `Sums.of_run`: what the computation of a run shows.
* `Sample.host`, `Sample.setup`: the host, and the setup of a configuration that has a plan. -/

namespace DeviceLab

/-- A plan is made of an accepted configuration. -/
theorem RunPlan.ofConfig_valid {σ : Type} {host : Host σ} (c : Config) :
    Leads (fun _ => True) (RunPlan.ofConfig host c) fun result _ =>
      ∀ plan, result = .ok plan → plan.config = c ∧ c.validate = .ok () := by
  unfold RunPlan.ofConfig
  split
  · exact .pure fun _ _ _ h => nomatch h
  · next hvalid =>
      refine .bind (Q := fun _ _ => True) (fun _ _ => trivial) fun context => ?_
      cases context with
      | error cause => exact .pure fun _ _ _ h => nomatch h
      | ok context =>
          dsimp only
          split
          · exact .pure fun _ _ _ h => nomatch h
          · exact .pure fun _ _ _ h => nomatch h
          · refine .pure fun _ _ plan h => ?_
            cases h
            exact ⟨rfl, hvalid⟩

namespace Run

variable {σ β : Type}

/-- A computation has a result, and the check is true of the result and of where it ends. -/
def endsIn {α ε ρ : Type} (check : α → ρ → Bool) : Except ε α × ρ → Bool
  | (.ok a, r) => check a r
  | (.error _, _) => false

/-- What the computation of a run shows. -/
theorem Finishes.of_run (s : Setup σ β) (system : σ) (memory : β)
    (check : RunReport → Run σ β → Bool) (passes : Nat)
    (h : endsIn check ((startWithin s passes).run (.fresh s.plan system memory)) = true) :
    ∃ report final, Finishes s system memory report final ∧ check report final = true := by
  unfold endsIn at h
  split at h
  · next report final hrun => exact ⟨report, final, ⟨passes, hrun⟩, h⟩
  · cases h

/-- What the computation of a run up to its summary shows. -/
theorem Sums.of_run (s : Setup σ β) (system : σ) (memory : β)
    (check : RunSummary → Run σ β → Bool) (passes : Nat)
    (h : endsIn check ((sumUpWithin s passes).run (.fresh s.plan system memory)) = true) :
    ∃ summary r, Sums s system memory summary r ∧ check summary r = true := by
  unfold endsIn at h
  split at h
  · next summary r hrun => exact ⟨summary, r, ⟨passes, hrun⟩, h⟩
  · cases h

end Run

namespace Sample

open Text

/-- Files by their paths, the latest contents first, and the number of the next file for output. -/
structure Disk where
  files : List (String × Bytes) := []
  next : Nat := 0

/-- What a file contains. -/
def Disk.read (disk : Disk) (path : String) : Option Bytes :=
  (disk.files.find? fun entry => entry.1 == path).map (·.2)

/-- A file with other contents. -/
def Disk.write (disk : Disk) (path : String) (bytes : Bytes) : Disk :=
  { disk with files := (path, bytes) :: disk.files }

/-- The contents of a file that must be there. -/
def fetch (path : String) : Attempt Disk Bytes := do
  match (← get).read path with
  | some bytes => return bytes
  | none => throw .notFound

/-- A host on which the emulators run until they are ended, and the suites pass at once. -/
def host : Host Disk where
  now := pure ⟨0⟩
  timestamp := pure default
  pause _ _ := pure ()
  cancelRequested := pure false
  requestCancel := pure ()
  createCapture _ := modifyGet fun disk =>
    let path := s!"/tmp/{disk.next}"
    (path, { disk.write path [] with next := disk.next + 1 })
  spawn spec capture := modifyGet fun disk =>
    if spec.argv = Scripted.sleeper then (1, disk.write capture (Utf8.encode capture))
    else (2, disk.write capture (Utf8.encode "TEST-PASS"))
  tryWait pid := pure (if pid = 1 then none else some (.exited 0))
  wait _ := pure (.signaled "SIGKILL")
  signalGroup _ _ := pure true
  signalProcess _ _ := pure true
  ownPid := pure 3
  listProcesses := pure []
  readFile := fetch
  fileSize path := List.length <$> fetch path
  pathExists path := modifyGet fun disk => ((disk.read path).isSome, disk)
  writeFile path bytes := modify fun disk => disk.write path bytes
  copyFile source target := do
    let bytes ← fetch source
    modify fun disk => disk.write target bytes
  removeFile path := modify fun disk =>
    { disk with files := disk.files.filter fun entry => entry.1 != path }
  createDirectories _ := pure ()
  connect _ _ _ := pure ()
  askRedirects _ _ := pure (.ok "OK")
  askStatus _ := pure (.ok "")
  awaitPrompt _ := pure none

/-- A suite without wishes. -/
def suite : SuiteSpec := ⟨"cpp", [], [], [], none, none, none, none⟩

/-- Two devices and two suites, of which one is selected. -/
def config : Config where
  paths :=
    { workDir := "/work", uploadDir := "/upload", installerPath := "app.apk", xreDir := none
      modulesDir := none, symbolsPath := none, minidumpStackwalk := none, packageName := some "app"
      packageNameFile := none, remoteWebserver := Paths.usualWebserver
      deviceIp := Paths.localhost, consoleHost := Paths.localhost }
  emulator := {}
  devices := [⟨"a", 5554, 5556, 5557, 5558, 5559, none⟩, ⟨"b", 5564, 5566, 5567, 5568, 5569, none⟩]
  categories := [("cpp", ⟨"cpp", "run.py", Category.usualInterpreter, [], []⟩)]
  suites := [("again", { suite with rerunOn := some "PASS", maxRuns := some 2 }), ("unit", suite)]
  selected := ["unit"]
  packages := []
  timing := { startupDelay := .ofNat 0 }
  classifier := {}

/-- Both suites are selected. -/
def both : Config := { config with selected := ["again", "unit"] }

/-- The plan of a configuration, if there is one. -/
def plan? (c : Config) : Option RunPlan := ((RunPlan.ofConfig host c).run ({} : Disk)).1.toOption

/-- A configuration is carried out with scripted devices. -/
def setup {c : Config} (h : (plan? c).isSome) : Setup Disk FaultScript :=
  ⟨host, Scripted.backend host, (plan? c).get h⟩

/-- What there is a plan for is valid. -/
theorem setup_config {c : Config} (h : (plan? c).isSome) :
    (setup h).plan.config = c ∧ c.validate = .ok () := by
  have hplan := Option.some_get h
  change ((plan? c).get h).config = c ∧ _
  generalize (plan? c).get h = plan at hplan
  have hresult : ((RunPlan.ofConfig host c).run ({} : Disk)).1 = .ok plan := by
    unfold plan? at hplan
    revert hplan
    cases ((RunPlan.ofConfig host c).run ({} : Disk)).1 with
    | error cause => exact fun h => nomatch h
    | ok plan => exact fun h => congrArg Except.ok (Option.some.inj h).symm
  exact RunPlan.ofConfig_valid c ({} : Disk) trivial plan hresult

theorem setup_valid {c : Config} (h : (plan? c).isSome) :
    (setup h).plan.config.validate = .ok () := by
  obtain ⟨hconfig, hvalid⟩ := setup_config h
  rw [hconfig]
  exact hvalid

/-- The ports of a device cannot be redirected the first time. -/
def redirectFailsOnce : FaultScript :=
  FaultScript.inject {} .redirect { message := "KO", failCount := some 1 }

theorem planned : (plan? config).isSome := by decide +kernel

theorem planned_both : (plan? both).isSome := by decide +kernel

/-- When both suites are selected, one passes, and the other asks for more attempts than it may
have. -/
theorem finishes_both : ∃ report final, Run.Finishes (setup planned_both) {} {} report final ∧
    Phase.suitesRunning ∈ report.history ∧
    (report.summary.suites.map fun x => (x.suite, x.attempts, x.failureKind)) =
      [("unit", 1, none), ("again", 2, some .rerunExhausted)] := by
  obtain ⟨report, final, h, hcheck⟩ := Run.Finishes.of_run (setup planned_both) {} {}
    (fun report _ => report.history.contains .suitesRunning &&
      (report.summary.suites.map fun x => (x.suite, x.attempts, x.failureKind)) ==
        [("unit", 1, none), ("again", 2, some .rerunExhausted)]) 5 (by decide +kernel)
  rw [Bool.and_eq_true, List.contains_iff_mem, beq_iff_eq] at hcheck
  exact ⟨report, final, h, hcheck⟩

end Sample

end DeviceLab
