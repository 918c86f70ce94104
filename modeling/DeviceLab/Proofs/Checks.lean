import Mathlib.Data.List.Nodup
import DeviceLab.Config.Validate

/-! # What the checks of a configuration let pass

A check passes or stops with an error.  `Grants` says both at once: what is in order when it passes,
and what the error tells when it does not.  There is one such statement for each check, in the order
of the checks, and `Config.validate_grants` puts them together.

The loops over devices, ports and suites hand on what they have seen so far.  Their statements split
the list of the configuration into the part that was seen and the part that is left, so that an
error about two entries can say that the configuration has both of them.

* `Config.WellFormed`: what a configuration has to be.
* `Config.Fault`: what an error tells about a configuration. -/

namespace DeviceLab

open Decimal

/-! ### Conditions -/

namespace Decimal.Binary64

/-- Finite and not negative. -/
def Nonneg (x : Binary64) : Prop := ∃ size, x.scaled? = some size ∧ 0 ≤ size

/-- Finite and positive. -/
def Pos (x : Binary64) : Prop := ∃ size, x.scaled? = some size ∧ 0 < size

/-- Finite, and at most another finite number. -/
def AtMost (x y : Binary64) : Prop := ∃ a b, x.scaled? = some a ∧ y.scaled? = some b ∧ a ≤ b

theorem isFiniteNonneg_iff {x : Binary64} : x.isFiniteNonneg = true ↔ x.Nonneg := by
  simp [isFiniteNonneg, Nonneg, Option.any_eq_true]

theorem isFinitePos_iff {x : Binary64} : x.isFinitePos = true ↔ x.Pos := by
  simp [isFinitePos, Pos, Option.any_eq_true]

theorem isZero_iff {x : Binary64} : x.isZero = true ↔ x.scaled? = some 0 := beq_iff_eq

theorem finiteGt_iff {x y : Binary64} : x.finiteGt y = true ↔
    ∃ a b, x.scaled? = some a ∧ y.scaled? = some b ∧ b < a := by
  unfold finiteGt
  split
  · next a b ha hb => simp [ha, hb]
  · next hnone =>
      refine iff_of_false Bool.false_ne_true ?_
      rintro ⟨a, b, ha, hb, -⟩
      exact hnone a b ha hb

theorem Pos.nonneg {x : Binary64} (h : x.Pos) : x.Nonneg := by
  obtain ⟨size, hsize, hpos⟩ := h
  exact ⟨size, hsize, Int.le_of_lt hpos⟩

/-- What is not negative is positive unless it is zero. -/
theorem Nonneg.pos {x : Binary64} (h : x.Nonneg) (hzero : x.scaled? ≠ some 0) : x.Pos := by
  obtain ⟨size, hsize, hnonneg⟩ := h
  have hne : size ≠ 0 := fun h => hzero (h ▸ hsize)
  exact ⟨size, hsize, by omega⟩

end Decimal.Binary64

/-- The number of groups of a rule, if its pattern is well formed. -/
def RuleSpec.groups? (spec : RuleSpec) : Option Nat :=
  if spec.regex then (Regex.Matcher.ofPattern? spec.pattern).map (·.groups) else some 0

/-- The pattern is well formed, and if the rule needs a number there is a group to read it from. -/
def RuleSpec.WellFormed (spec : RuleSpec) : Prop :=
  ∃ groups, spec.groups? = some groups ∧ (spec.tally.needsCapture = true → 0 < groups)

/-- Each number makes sense, and silence is not to last longer than the suite. -/
structure TimingSettings.WellFormed (t : TimingSettings) : Prop where
  attempts : ∀ number ∈ [t.redirectAttempts, t.agentAttempts, t.startupAttempts], number ≠ 0
  durations : ∀ secs ∈ [t.redirectFirstDelay, t.redirectDelay, t.agentDelay, t.startupDelay,
    t.pollInterval, t.heartbeatInterval, t.terminateGrace, t.connectTimeout, t.readTimeout,
    t.installTimeout, t.suiteTimeout, t.suiteIdleTimeout], secs.Nonneg
  mandatory : ∀ secs ∈ [t.pollInterval, t.connectTimeout, t.readTimeout, t.installTimeout,
    t.suiteTimeout], secs.Pos
  idle : t.suiteIdleTimeout.AtMost t.suiteTimeout

namespace DeviceSlot

/-- The five ports of a device. -/
def portNumbers (d : DeviceSlot) : List Nat :=
  [d.consolePort, d.agentPort1, d.agentPort2, d.httpPort, d.sslPort]

/-- Ports by their fields, as ports of a device. -/
def owned (device : String) (ports : List (String × Nat)) : List (Nat × String) :=
  ports.map fun (field, port) => (port, device ++ "." ++ field)

/-- The ports of a device with their owners. -/
def claims (d : DeviceSlot) : List (Nat × String) := owned d.name d.ports

theorem map_claims (devices : List DeviceSlot) :
    (devices.flatMap claims).map Prod.fst = devices.flatMap portNumbers :=
  List.map_flatMap

end DeviceSlot

namespace Config

variable {c : Config} {name : String}

/-- What a suite refers to is there, and its numbers make sense. -/
structure SuiteInOrder (c : Config) (suite : SuiteSpec) : Prop where
  category : ∃ category, c.category? suite.category = some category
  packages : ∀ name ∈ suite.requires, ∃ package, c.package? name = some package
  maxRuns : suite.maxRuns ≠ some 0
  timeout : ∀ secs ∈ suite.timeoutSecs, secs.Pos
  idleTimeout : ∀ secs ∈ suite.idleTimeoutSecs, secs.Pos

/-- Devices that are told apart by their names and by each of their ports. -/
structure DevicesInOrder (devices : List DeviceSlot) : Prop where
  named : ∀ device ∈ devices, device.name ≠ ""
  names : (devices.map DeviceSlot.name).Nodup
  ports : ∀ port ∈ devices.flatMap DeviceSlot.portNumbers, port ≠ 0
  portsDiffer : (devices.flatMap DeviceSlot.portNumbers).Nodup

/-- The selected suites are defined and in order, and none of them is selected twice. -/
structure SuitesInOrder (c : Config) (names : List String) : Prop where
  nodup : names.Nodup
  suites : ∀ name ∈ names, ∃ suite, c.suite? name = some suite ∧ c.SuiteInOrder suite

/-- What is to be run is told. -/
structure CommandsInOrder (c : Config) : Prop where
  command : c.emulator.command ≠ []
  installCommand : c.emulator.installCommand ≠ []
  runScripts : ∀ entry ∈ c.categories, entry.2.runScript ≠ ""

/-- What a configuration has to be. -/
structure WellFormed (c : Config) : Prop where
  someDevice : c.devices ≠ []
  devices : DevicesInOrder c.devices
  someSuite : c.selected ≠ []
  suites : c.SuitesInOrder c.selected
  enough : c.selected.length ≤ c.devices.length
  commands : c.CommandsInOrder
  timing : c.timing.WellFormed
  rules : ∀ entry ∈ c.classifier.rules, ∀ spec ∈ entry.2, spec.WellFormed

end Config

/-! ### What errors tell -/

/-- What an error tells about a rule. -/
inductive RuleSpec.Fault (spec : RuleSpec) : RuleError → Prop where
  | pattern : spec.groups? = none → Fault spec (.invalidPattern spec.pattern)
  | group : spec.tally.needsCapture = true → spec.groups? = some 0 →
      Fault spec (.missingCapture spec.pattern)

/-- What an error tells about the numbers of the timing table. -/
inductive TimingSettings.Fault (t : TimingSettings) : InvalidValue → Prop where
  | attempts {field : String} : (field, 0) ∈ t.attempts →
      Fault t ⟨"timing." ++ field, "must be at least 1"⟩
  | duration {field : String} {secs : Binary64} : (field, secs) ∈ t.durations → ¬secs.Nonneg →
      Fault t ⟨"timing." ++ field, s!"must be a non-negative number of seconds, got {secs.text}"⟩
  | mandatory {field : String} {secs : Binary64} : (field, secs) ∈ t.mandatory →
      secs.scaled? = some 0 → Fault t ⟨"timing." ++ field, "must be greater than zero"⟩
  | idle {idle overall : Int} : t.suiteIdleTimeout.scaled? = some idle →
      t.suiteTimeout.scaled? = some overall → overall < idle →
      Fault t ⟨"timing.suite_idle_timeout_secs",
        s!"must not exceed suite_timeout_secs ({t.suiteTimeout.text})"⟩

/-- The limits that a suite gives itself, by their fields. -/
def SuiteSpec.limits (s : SuiteSpec) : List (String × Option Binary64) :=
  [("timeout_secs", s.timeoutSecs), ("idle_timeout_secs", s.idleTimeoutSecs)]

namespace Config

/-- What an error tells about the suite of a name. -/
inductive SuiteFault (c : Config) (name : String) : ConfigError → Prop where
  | unknown : c.suite? name = none → SuiteFault c name (.unknownSuite name)
  | category {suite : SuiteSpec} : c.suite? name = some suite →
      c.category? suite.category = none → SuiteFault c name (.unknownCategory name suite.category)
  | package {suite : SuiteSpec} {package : String} : c.suite? name = some suite →
      package ∈ suite.requires → c.package? package = none →
      SuiteFault c name (.unknownPackage name package)
  | maxRuns {suite : SuiteSpec} : c.suite? name = some suite → suite.maxRuns = some 0 →
      SuiteFault c name (invalid s!"suite.{name}.max_runs" "must be at least 1")
  | limit {suite : SuiteSpec} {field : String} {secs : Binary64} : c.suite? name = some suite →
      (field, some secs) ∈ suite.limits → ¬secs.Pos →
      SuiteFault c name
        (invalid s!"suite.{name}.{field}" "must be a positive number of seconds")

/-- The ports of all devices with their owners. -/
def claims (c : Config) : List (Nat × String) := c.devices.flatMap DeviceSlot.claims

/-- What an error tells about a configuration. -/
inductive Fault (c : Config) : ConfigError → Prop where
  | noDevices : c.devices = [] → Fault c .noDevices
  | deviceName {device : DeviceSlot} : device ∈ c.devices → device.name = "" →
      Fault c (invalid "device.name" "cannot be empty")
  | duplicateDevice {name : String} : [name, name].Sublist (c.devices.map DeviceSlot.name) →
      Fault c (.duplicateDevice name)
  | zeroPort {device : DeviceSlot} {field : String} : device ∈ c.devices →
      (field, 0) ∈ device.ports → Fault c (.zeroPort device.name field)
  | portConflict {port : Nat} {first second : String} :
      [(port, first), (port, second)].Sublist c.claims → Fault c (.portConflict port first second)
  | noSuites : c.selected = [] → Fault c .noSuites
  | duplicateSuite {name : String} : [name, name].Sublist c.selected →
      Fault c (.duplicateSuite name)
  | suite {name : String} {e : ConfigError} : name ∈ c.selected → c.SuiteFault name e → Fault c e
  | tooManySuites : c.devices.length < c.selected.length →
      Fault c (.tooManySuites c.selected.length c.devices.length)
  | command : c.emulator.command = [] → Fault c (invalid "emulator.command" "cannot be empty")
  | installCommand : c.emulator.installCommand = [] →
      Fault c (invalid "emulator.install_command" "cannot be empty")
  | runScript {name : String} {category : Category} : (name, category) ∈ c.categories →
      category.runScript = "" →
      Fault c (invalid s!"category.{name}.run_script" "cannot be empty")
  | timing {value : InvalidValue} : c.timing.Fault value → Fault c (.invalidValue value)
  | rule {category : String} {specs : List RuleSpec} {spec : RuleSpec} {cause : RuleError} :
      (category, specs) ∈ c.classifier.rules → spec ∈ specs → spec.Fault cause →
      Fault c (.invalidRule category cause)

end Config

/-! ### Checks -/

/-- A check whose outcome tells what is in order, or else what is not. -/
def Grants {ε α : Type} (result : Except ε α) (good : α → Prop) (fault : ε → Prop) : Prop :=
  match result with
  | .ok a => good a
  | .error e => fault e

namespace Grants

variable {ε α β : Type} {result : Except ε α} {good good' : α → Prop} {fault fault' : ε → Prop}

theorem mono (h : Grants result good fault) (hgood : ∀ a, good a → good' a)
    (hfault : ∀ e, fault e → fault' e) : Grants result good' fault' := by
  cases result with
  | ok a => exact hgood a h
  | error e => exact hfault e h

theorem imp (h : Grants result good fault) (hgood : ∀ a, good a → good' a) :
    Grants result good' fault := h.mono hgood fun _ => id

theorem bind {f : α → Except ε β} {next : β → Prop} (h : Grants result good fault)
    (hf : ∀ a, good a → Grants (f a) next fault) : Grants (result >>= f) next fault := by
  cases result with
  | ok a => exact hf a h
  | error e => exact h

/-- A check of a condition. -/
theorem ite {condition : Prop} [Decidable condition] {e : ε} {result : Except ε α}
    (he : condition → fault e) (h : ¬condition → Grants result good fault) :
    Grants (if condition then .error e else result) good fault := by
  split
  · next hcondition => exact he hcondition
  · next hcondition => exact h hcondition

theorem require {good : Prop} {holds : Bool} {e : ε} (he : holds = false → fault e)
    (h : holds = true → good) : Grants (TimingSettings.require holds e) (fun _ => good) fault := by
  cases holds with
  | false => exact he rfl
  | true => exact h rfl

theorem forM {check : α → Except ε Unit} {l : List α}
    (h : ∀ a ∈ l, Grants (check a) (fun _ => good a) fault) :
    Grants (l.forM check) (fun _ => ∀ a ∈ l, good a) fault := by
  induction l with
  | nil => exact List.forall_mem_nil _
  | cons a l ih =>
      rw [List.forall_mem_cons] at h
      refine .bind h.1 fun _ ha => (ih h.2).imp fun _ hl => ?_
      exact List.forall_mem_cons.2 ⟨ha, hl⟩

theorem mapM {f : α → Except ε β} {l : List α}
    (h : ∀ a ∈ l, Grants (f a) (fun _ => good a) fault) :
    Grants (l.mapM f) (fun _ => ∀ a ∈ l, good a) fault := by
  induction l with
  | nil => exact List.forall_mem_nil _
  | cons a l ih =>
      rw [List.forall_mem_cons] at h
      rw [List.mapM_cons]
      refine .bind h.1 fun _ ha => .bind (ih h.2) fun _ hl => ?_
      exact List.forall_mem_cons.2 ⟨ha, hl⟩

theorem foldlM {step : β → α → Except ε β} {l : List α}
    (h : ∀ a ∈ l, ∀ b, Grants (step b a) (fun _ => good a) fault) (b : β) :
    Grants (l.foldlM step b) (fun _ => ∀ a ∈ l, good a) fault := by
  induction l generalizing b with
  | nil => exact List.forall_mem_nil _
  | cons a l ih =>
      rw [List.forall_mem_cons] at h
      rw [List.foldlM_cons]
      refine .bind (h.1 b) fun b ha => (ih h.2 b).imp fun _ hl => ?_
      exact List.forall_mem_cons.2 ⟨ha, hl⟩

/-- A check passes exactly what is in order when its errors tell of nothing that is. -/
theorem ok_iff {good : Prop} {result : Except ε Unit} (h : Grants result (fun _ => good) fault)
    (hfault : ∀ e, fault e → ¬good) : result = .ok () ↔ good := by
  cases result with
  | ok a => exact iff_of_true rfl h
  | error e => exact iff_of_false (fun h => nomatch h) (hfault e h)

theorem of_ok {a : α} (h : Grants result good fault) (hresult : result = .ok a) : good a := by
  subst hresult
  exact h

theorem of_error {e : ε} (h : Grants result good fault) (hresult : result = .error e) :
    fault e := by
  subst hresult
  exact h

end Grants

/-! ### Rules -/

theorem Rule.ofSpec_grants (spec : RuleSpec) :
    Grants (Rule.ofSpec spec) (fun _ => spec.WellFormed) spec.Fault := by
  unfold Rule.ofSpec Rule.pattern
  split
  · next hregex =>
      cases hmatcher : Regex.Matcher.ofPattern? spec.pattern with
      | none => exact .pattern (by simp [RuleSpec.groups?, hregex, hmatcher])
      | some matcher =>
          have hgroups : spec.groups? = some matcher.groups := by
            simp [RuleSpec.groups?, hregex, hmatcher]
          refine .ite (fun hmissing => ?_) fun hpresent => ⟨_, hgroups, fun hneeds => ?_⟩
          · obtain ⟨hneeds, hzero⟩ := Bool.and_eq_true_iff.1 hmissing
            exact .group hneeds (hgroups.trans (congrArg some (eq_of_beq hzero)))
          · simpa [hneeds, Nat.pos_iff_ne_zero] using hpresent
  · next hregex =>
      have hgroups : spec.groups? = some 0 := by simp [RuleSpec.groups?, hregex]
      exact .ite (fun hneeds => .group hneeds hgroups)
        fun hplain => ⟨0, hgroups, fun hneeds => absurd hneeds hplain⟩

theorem RuleSpec.Fault.not_wellFormed {spec : RuleSpec} {cause : RuleError}
    (h : spec.Fault cause) : ¬spec.WellFormed := by
  rintro ⟨groups, hgroups, hcapture⟩
  cases h with
  | pattern hnone =>
      rw [hnone] at hgroups
      cases hgroups
  | group hneeds hzero =>
      rw [hzero] at hgroups
      cases hgroups
      exact Nat.lt_irrefl 0 (hcapture hneeds)

theorem Classifier.extendCategory_grants (classifier : Classifier) (category : String)
    (specs : List RuleSpec) :
    Grants (classifier.extendCategory category specs) (fun _ => ∀ spec ∈ specs, spec.WellFormed)
      (fun cause => ∃ spec ∈ specs, spec.Fault cause) :=
  .bind (.mapM fun spec hspec => (Rule.ofSpec_grants spec).mono (fun _ => id)
    fun _ hfault => ⟨spec, hspec, hfault⟩) fun _ => id

/-! ### Times -/

namespace TimingSettings

variable {t : TimingSettings}

/-- What the four loops of checks let pass. -/
theorem wellFormed_of_checked (hattempts : ∀ entry ∈ t.attempts, entry.2 ≠ 0)
    (hdurations : ∀ entry ∈ t.durations, entry.2.Nonneg)
    (hmandatory : ∀ entry ∈ t.mandatory, entry.2.scaled? ≠ some 0)
    (hidle : t.suiteIdleTimeout.finiteGt t.suiteTimeout = false) : t.WellFormed := by
  have hnumbers : ∀ number ∈ t.attempts.map Prod.snd, number ≠ 0 := List.forall_mem_map.2 hattempts
  have hall : ∀ secs ∈ t.durations.map Prod.snd, secs.Nonneg := List.forall_mem_map.2 hdurations
  constructor
  case attempts => exact hnumbers
  case durations => exact hall
  case mandatory =>
    simp only [durations, mandatory, List.map_cons, List.forall_mem_cons] at hall hmandatory ⊢
    obtain ⟨-, -, -, -, h5, -, -, h8, h9, h10, h11, -⟩ := hall
    obtain ⟨hpoll, hconnect, hread, hinstall, hsuite, -⟩ := hmandatory
    exact ⟨h5.pos hpoll, h8.pos hconnect, h9.pos hread, h10.pos hinstall, h11.pos hsuite,
      List.forall_mem_nil _⟩
  case idle =>
    obtain ⟨idle, hidleSize, -⟩ := hall t.suiteIdleTimeout (by simp [durations])
    obtain ⟨overall, hoverallSize, -⟩ := hall t.suiteTimeout (by simp [durations])
    refine ⟨idle, overall, hidleSize, hoverallSize, Int.not_lt.1 fun hlt => ?_⟩
    rw [Binary64.finiteGt_iff.2 ⟨idle, overall, hidleSize, hoverallSize, hlt⟩] at hidle
    cases hidle

theorem validate_grants (t : TimingSettings) :
    Grants t.validate (fun _ => t.WellFormed) t.Fault := by
  have hattempts (entry : String × Nat) (hmem : entry ∈ t.attempts) :
      Grants (require (entry.2 != 0) (invalid entry.1 "must be at least 1"))
        (fun _ => entry.2 ≠ 0) t.Fault := by
    refine .require (fun hzero => .attempts ?_) fun hpos => by simpa using hpos
    have hzero : entry.2 = 0 := by simpa using hzero
    exact hzero ▸ hmem
  have hdurations (entry : String × Binary64) (hmem : entry ∈ t.durations) :
      Grants (require entry.2.isFiniteNonneg (invalid entry.1
          s!"must be a non-negative number of seconds, got {entry.2.text}"))
        (fun _ => entry.2.Nonneg) t.Fault := by
    refine .require (fun hnegative => .duration hmem fun hnonneg => ?_)
      Binary64.isFiniteNonneg_iff.1
    rw [Binary64.isFiniteNonneg_iff.2 hnonneg] at hnegative
    cases hnegative
  have hmandatory (entry : String × Binary64) (hmem : entry ∈ t.mandatory) :
      Grants (require (!entry.2.isZero) (invalid entry.1 "must be greater than zero"))
        (fun _ => entry.2.scaled? ≠ some 0) t.Fault := by
    refine .require (fun hzero => .mandatory hmem (Binary64.isZero_iff.1 (by simpa using hzero)))
      fun hpos hzero => ?_
    rw [Binary64.isZero_iff.2 hzero] at hpos
    cases hpos
  refine .bind (.forM hattempts) fun _ hattempts => .bind (.forM hdurations) fun _ hdurations =>
    .bind (.forM hmandatory) fun _ hmandatory => .require (fun hlonger => ?_) fun hidle => ?_
  · obtain ⟨idle, overall, hidle, hoverall, hlt⟩ :=
      Binary64.finiteGt_iff.1 (by simpa using hlonger)
    exact .idle hidle hoverall hlt
  · exact wellFormed_of_checked hattempts hdurations hmandatory (by simpa using hidle)

theorem Fault.not_wellFormed {value : InvalidValue} (h : t.Fault value) : ¬t.WellFormed := by
  intro hvalid
  cases h with
  | attempts hmem => exact hvalid.attempts 0 (List.mem_map_of_mem (f := Prod.snd) hmem) rfl
  | duration hmem hnegative =>
      exact hnegative (hvalid.durations _ (List.mem_map_of_mem (f := Prod.snd) hmem))
  | mandatory hmem hzero =>
      obtain ⟨size, hsize, hpos⟩ :=
        hvalid.mandatory _ (List.mem_map_of_mem (f := Prod.snd) hmem)
      rw [hzero] at hsize
      cases hsize
      exact Int.lt_irrefl 0 hpos
  | idle hidle hoverall hlt =>
      obtain ⟨a, b, ha, hb, hle⟩ := hvalid.idle
      rw [hidle] at ha
      rw [hoverall] at hb
      cases ha
      cases hb
      exact Int.not_le.2 hlt hle

theorem validate_ok_iff : t.validate = .ok () ↔ t.WellFormed :=
  t.validate_grants.ok_iff fun _ => Fault.not_wellFormed

end TimingSettings

/-! ### Devices -/

namespace Config

variable {c : Config}

/-- What has been seen before comes twice. -/
theorem pair_sublist {α : Type} {earlier : List α} {a b : α} (h : a ∈ earlier) (rest : List α) :
    [a, b].Sublist (earlier ++ [b] ++ rest) :=
  ((List.singleton_sublist.2 h).append (.refl [b])).trans (List.sublist_append_left ..)

/-- Ports that can be taken together. -/
def Free (claims : List (Nat × String)) : Prop :=
  (∀ claim ∈ claims, claim.1 ≠ 0) ∧ (claims.map Prod.fst).Nodup

theorem Free.concat {claims : List (Nat × String)} {port : Nat} (h : Free claims)
    (hport : port ≠ 0) (hfresh : ∀ claim ∈ claims, claim.1 ≠ port) (owner : String) :
    Free (claims ++ [(port, owner)]) := by
  refine ⟨List.forall_mem_append.2 ⟨h.1, List.forall_mem_singleton.2 hport⟩, ?_⟩
  have hnew : port ∉ claims.map Prod.fst := fun hmem => by
    obtain ⟨claim, hclaim, heq⟩ := List.mem_map.1 hmem
    exact hfresh claim hclaim heq
  rw [List.map_append, List.map_singleton, ← List.concat_eq_append]
  exact h.2.concat hnew

theorem claimPorts_grants {device : String} {ports : List (String × Nat)}
    {before : List (Nat × String)} {fault : ConfigError → Prop}
    (hzero : ∀ field, (field, 0) ∈ ports → fault (.zeroPort device field))
    (hconflict : ∀ port first second,
      [(port, first), (port, second)].Sublist (before ++ DeviceSlot.owned device ports) →
        fault (.portConflict port first second))
    (hbefore : Free before) :
    Grants (claimPorts device before.reverse ports)
      (fun owners => owners = (before ++ DeviceSlot.owned device ports).reverse ∧
        Free (before ++ DeviceSlot.owned device ports)) fault := by
  induction ports generalizing before with
  | nil => exact ⟨by simp [DeviceSlot.owned], by simpa [DeviceSlot.owned] using hbefore⟩
  | cons entry rest ih =>
      obtain ⟨field, port⟩ := entry
      generalize howner : device ++ "." ++ field = owner
      have howned : before ++ DeviceSlot.owned device ((field, port) :: rest) =
          before ++ [(port, owner)] ++ DeviceSlot.owned device rest := by
        simp [DeviceSlot.owned, howner]
      rw [howned] at hconflict ⊢
      unfold claimPorts
      refine .ite (fun h => hzero field (h ▸ List.mem_cons_self ..)) fun hport => ?_
      rw [howner]
      dsimp only
      cases hfind : before.reverse.find? fun entry => entry.1 == port with
      | some claim =>
          obtain ⟨taken, first⟩ := claim
          have hsame : taken = port := by simpa using List.find?_some hfind
          subst hsame
          have hmem : (taken, first) ∈ before :=
            List.mem_reverse.1 (List.mem_of_find?_eq_some hfind)
          exact hconflict taken first owner (pair_sublist hmem _)
      | none =>
          have hfresh : ∀ claim ∈ before, claim.1 ≠ port := fun claim hclaim heq =>
            List.find?_eq_none.1 hfind claim (List.mem_reverse.2 hclaim) (beq_iff_eq.2 heq)
          have hnext := ih (fun field h => hzero field (List.mem_cons_of_mem _ h)) hconflict
            (hbefore.concat hport hfresh owner)
          rw [List.reverse_concat] at hnext
          exact hnext

theorem free_claims_iff {devices : List DeviceSlot} :
    Free (devices.flatMap DeviceSlot.claims) ↔
      (∀ port ∈ devices.flatMap DeviceSlot.portNumbers, port ≠ 0) ∧
        (devices.flatMap DeviceSlot.portNumbers).Nodup := by
  rw [← DeviceSlot.map_claims, List.forall_mem_map]
  rfl

theorem checkDevices_grants {earlier devices : List DeviceSlot}
    (hdevices : c.devices = earlier ++ devices) (hearlier : DevicesInOrder earlier) :
    Grants (checkDevices (earlier.map DeviceSlot.name).reverse
        (earlier.flatMap DeviceSlot.claims).reverse devices)
      (fun _ => DevicesInOrder c.devices) c.Fault := by
  induction devices generalizing earlier with
  | nil =>
      rw [hdevices, List.append_nil]
      exact hearlier
  | cons device rest ih =>
      have hmem : device ∈ c.devices := by simp [hdevices]
      have hsplit : c.devices = earlier ++ [device] ++ rest := by simp [hdevices]
      have hnames : (earlier ++ [device]).map DeviceSlot.name =
        earlier.map DeviceSlot.name ++ [device.name] := List.map_append
      have hclaims : (earlier ++ [device]).flatMap DeviceSlot.claims =
          earlier.flatMap DeviceSlot.claims ++ device.claims := by simp
      unfold checkDevices
      refine .ite (fun hempty => .deviceName hmem (String.isEmpty_iff.1 hempty)) fun hnamed => ?_
      refine .ite (fun hseen => .duplicateDevice ?_) fun hfresh => ?_
      · have hbefore : device.name ∈ earlier.map DeviceSlot.name := by simpa using hseen
        rw [hsplit, List.map_append, hnames]
        exact pair_sublist hbefore _
      refine .bind (claimPorts_grants (fun field hzero => .zeroPort hmem hzero)
        (fun port first second hsub => .portConflict ?_)
        (free_claims_iff.2 ⟨hearlier.ports, hearlier.portsDiffer⟩)) fun owners howners => ?_
      · rw [claims, hsplit, List.flatMap_append, hclaims]
        exact hsub.trans (List.sublist_append_left ..)
      · obtain ⟨rfl, hfree⟩ := howners
        change Free (earlier.flatMap DeviceSlot.claims ++ device.claims) at hfree
        rw [← hclaims] at hfree
        have hname : device.name ≠ "" := fun h => hnamed (String.isEmpty_iff.2 h)
        have hnew : device.name ∉ earlier.map DeviceSlot.name := by simpa using hfresh
        have hnext := ih hsplit {
          named := List.forall_mem_append.2
            ⟨hearlier.named, List.forall_mem_singleton.2 hname⟩
          names := by
            rw [hnames, ← List.concat_eq_append]
            exact hearlier.names.concat hnew
          ports := (free_claims_iff.1 hfree).1
          portsDiffer := (free_claims_iff.1 hfree).2 }
        rw [hnames, List.reverse_concat, hclaims] at hnext
        exact hnext

theorem validateDevices_grants (c : Config) :
    Grants c.validateDevices (fun _ => c.devices ≠ [] ∧ DevicesInOrder c.devices) c.Fault := by
  have hnone : DevicesInOrder [] :=
    ⟨List.forall_mem_nil _, List.nodup_nil, List.forall_mem_nil _, List.nodup_nil⟩
  refine .ite (fun hempty => .noDevices (List.isEmpty_iff.1 hempty)) fun hsome => ?_
  refine (checkDevices_grants (List.nil_append _).symm hnone).imp fun _ hdevices => ⟨?_, hdevices⟩
  exact fun h => hsome (List.isEmpty_iff.2 h)

/-! ### Suites -/

theorem checkLimit_grants {name field : String} {limit : Option Binary64}
    {fault : ConfigError → Prop} (hfault : ∀ secs, limit = some secs → ¬secs.Pos →
      fault (invalid s!"suite.{name}.{field}" "must be a positive number of seconds")) :
    Grants (checkLimit name field limit) (fun _ => ∀ secs ∈ limit, secs.Pos) fault := by
  unfold checkLimit
  cases limit with
  | none => exact fun _ h => nomatch h
  | some secs =>
      rw [Option.all_some]
      split
      · next hpos =>
          rintro _ ⟨⟩
          exact Binary64.isFinitePos_iff.1 hpos
      · next hneg => exact hfault secs rfl (mt Binary64.isFinitePos_iff.2 hneg)

theorem checkSuite_grants (c : Config) (name : String) :
    Grants (c.checkSuite name) (fun _ => ∃ suite, c.suite? name = some suite ∧ c.SuiteInOrder suite)
      (c.SuiteFault name) := by
  unfold checkSuite
  cases hsuite : c.suite? name with
  | none => exact .unknown hsuite
  | some suite =>
      dsimp only
      split
      · next hcategory => exact .category hsuite (Option.isNone_iff_eq_none.1 hcategory)
      next hcategory =>
      split
      · next package hpackage =>
          have hnone : c.package? package = none := by simpa using List.find?_some hpackage
          exact .package hsuite (List.mem_of_find?_eq_some hpackage) hnone
      next hpackages =>
      split
      · next hruns => exact .maxRuns hsuite hruns
      next hruns =>
      have hlimit {field : String} {limit : Option Binary64}
          (hmem : (field, limit) ∈ suite.limits) :
          Grants (checkLimit name field limit) (fun _ => ∀ secs ∈ limit, secs.Pos)
            (c.SuiteFault name) :=
        checkLimit_grants fun secs hsecs => .limit hsuite (hsecs ▸ hmem)
      refine .bind (hlimit (by simp [SuiteSpec.limits])) fun _ htimeout =>
        .imp (hlimit (by simp [SuiteSpec.limits])) fun _ hidle => ⟨suite, rfl, ?_⟩
      constructor
      case category =>
        exact Option.ne_none_iff_exists'.1 (mt Option.isNone_iff_eq_none.2 hcategory)
      case packages =>
        intro name hname
        have hdefined := List.find?_eq_none.1 hpackages name hname
        exact Option.ne_none_iff_exists'.1 (mt Option.isNone_iff_eq_none.2 hdefined)
      case maxRuns => exact hruns
      case timeout => exact htimeout
      case idleTimeout => exact hidle

theorem SuiteFault.not_inOrder {e : ConfigError} (h : c.SuiteFault name e) :
    ¬∃ suite, c.suite? name = some suite ∧ c.SuiteInOrder suite := by
  rintro ⟨suite, hsuite, hvalid⟩
  have hsame {other : SuiteSpec} (hother : c.suite? name = some other) : other = suite :=
    Option.some.inj (hother.symm.trans hsuite)
  cases h with
  | unknown hnone =>
      rw [hsuite] at hnone
      cases hnone
  | category hother hnone =>
      obtain ⟨category, hcategory⟩ := hvalid.category
      rw [← hsame hother, hnone] at hcategory
      cases hcategory
  | package hother hpackage hnone =>
      rw [hsame hother] at hpackage
      obtain ⟨package, hdefined⟩ := hvalid.packages _ hpackage
      rw [hnone] at hdefined
      cases hdefined
  | maxRuns hother hruns => exact hvalid.maxRuns (hsame hother ▸ hruns)
  | limit hother hlimit hnegative =>
      rw [hsame hother] at hlimit
      simp only [SuiteSpec.limits, List.mem_cons, Prod.mk.injEq, List.not_mem_nil, or_false]
        at hlimit
      rcases hlimit with ⟨-, hlimit⟩ | ⟨-, hlimit⟩
      · exact hnegative (hvalid.timeout _ hlimit.symm)
      · exact hnegative (hvalid.idleTimeout _ hlimit.symm)

theorem checkSuite_ok_iff : c.checkSuite name = .ok () ↔
    ∃ suite, c.suite? name = some suite ∧ c.SuiteInOrder suite :=
  (checkSuite_grants c name).ok_iff fun _ => SuiteFault.not_inOrder

theorem checkSuites_grants {earlier names : List String} (hselected : c.selected = earlier ++ names)
    (hearlier : c.SuitesInOrder earlier) :
    Grants (c.checkSuites earlier.reverse names) (fun _ => c.SuitesInOrder c.selected) c.Fault := by
  induction names generalizing earlier with
  | nil =>
      rw [hselected, List.append_nil]
      exact hearlier
  | cons name rest ih =>
      have hmem : name ∈ c.selected := by simp [hselected]
      have hsplit : c.selected = earlier ++ [name] ++ rest := by simp [hselected]
      unfold checkSuites
      refine .ite (fun hseen => .duplicateSuite ?_) fun hfresh => ?_
      · rw [hsplit]
        exact pair_sublist (by simpa using hseen) rest
      refine .bind ((checkSuite_grants c name).mono (fun _ => id) fun _ => .suite hmem)
        fun _ hsuite => ?_
      have hnew : name ∉ earlier := by simpa using hfresh
      have hnext := ih hsplit {
        nodup := by
          rw [← List.concat_eq_append]
          exact hearlier.nodup.concat hnew
        suites := List.forall_mem_append.2 ⟨hearlier.suites, List.forall_mem_singleton.2 hsuite⟩ }
      rw [List.reverse_concat] at hnext
      exact hnext

theorem validateSuites_grants (c : Config) :
    Grants c.validateSuites (fun _ => c.selected ≠ [] ∧ c.SuitesInOrder c.selected ∧
      c.selected.length ≤ c.devices.length) c.Fault := by
  have hnone : c.SuitesInOrder [] := ⟨List.nodup_nil, List.forall_mem_nil _⟩
  refine .ite (fun hempty => .noSuites (List.isEmpty_iff.1 hempty)) fun hsome => ?_
  refine .bind (checkSuites_grants (List.nil_append _).symm hnone) fun _ hsuites => ?_
  refine .ite .tooManySuites fun henough => ?_
  exact ⟨fun h => hsome (List.isEmpty_iff.2 h), hsuites, Nat.le_of_not_lt henough⟩

/-! ### Commands, rules and the whole configuration -/

theorem validateCommands_grants (c : Config) :
    Grants c.validateCommands (fun _ => c.CommandsInOrder) c.Fault := by
  unfold validateCommands
  refine .ite (fun hempty => .command (List.isEmpty_iff.1 hempty)) fun hcommand => ?_
  refine .ite (fun hempty => .installCommand (List.isEmpty_iff.1 hempty)) fun hinstall => ?_
  cases hfind : c.categories.find? fun entry => entry.2.runScript.isEmpty with
  | some entry =>
      have hempty : entry.2.runScript = "" :=
        String.isEmpty_iff.1 (by simpa using List.find?_some hfind)
      exact .runScript (List.mem_of_find?_eq_some hfind) hempty
  | none =>
      constructor
      case command => exact fun h => hcommand (List.isEmpty_iff.2 h)
      case installCommand => exact fun h => hinstall (List.isEmpty_iff.2 h)
      case runScripts =>
        intro entry hentry hempty
        exact List.find?_eq_none.1 hfind entry hentry (String.isEmpty_iff.2 hempty)

theorem buildClassifier_grants (c : Config) :
    Grants c.buildClassifier
      (fun _ => ∀ entry ∈ c.classifier.rules, ∀ spec ∈ entry.2, spec.WellFormed) c.Fault := by
  have hbuild : Grants c.classifier.build
      (fun _ => ∀ entry ∈ c.classifier.rules, ∀ spec ∈ entry.2, spec.WellFormed)
      fun e => c.Fault (.invalidRule e.1 e.2) := by
    refine .foldlM (fun (category, specs) hmem classifier => ?_) _
    have hextend := classifier.extendCategory_grants category specs
    dsimp only
    cases hresult : classifier.extendCategory category specs with
    | ok extended => exact hextend.of_ok hresult
    | error cause =>
        obtain ⟨spec, hspec, hfault⟩ := hextend.of_error hresult
        exact .rule hmem hspec hfault
  unfold buildClassifier
  cases hresult : c.classifier.build with
  | ok classifier => exact hbuild.of_ok hresult
  | error e => exact hbuild.of_error hresult

theorem validate_grants (c : Config) : Grants c.validate (fun _ => c.WellFormed) c.Fault := by
  unfold validate
  refine .bind c.validateDevices_grants fun _ hdevices =>
    .bind c.validateSuites_grants fun _ hsuites =>
    .bind c.validateCommands_grants fun _ hcommands => ?_
  have htiming := c.timing.validate_grants
  cases hresult : c.timing.validate with
  | error value => exact .timing (htiming.of_error hresult)
  | ok _ =>
      refine .bind c.buildClassifier_grants fun _ hrules => ?_
      exact ⟨hdevices.1, hdevices.2, hsuites.1, hsuites.2.1, hsuites.2.2, hcommands,
        htiming.of_ok hresult, hrules⟩

end Config

end DeviceLab
