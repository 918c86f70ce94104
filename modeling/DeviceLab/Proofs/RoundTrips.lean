import DeviceLab.Documents
import DeviceLab.Proofs.Records
import DeviceLab.Proofs.Timestamps

/-! # Documents that are read as they were written

The records of summaries, classifications and configurations are read from the texts that are
written for them (`documents_round_trip`).  A record of numbers is in its range when every number
fits its field and every table of entries is in the order of its names (`RunSummary.InRange`,
`ClassifierSettings.InRange` and so on); the other records have no such condition.  Constants are
found by their names (`Severity.ofName?_name` and so on), and a record is told by its fields, in
the order in which its decoder takes them.

The settings of the classifier are the exception: the fields of the policy stand among those of the
settings, so that all fields but the rules are set aside first (`readFields_others`) and the policy
is decoded from what was set aside. -/

namespace DeviceLab

open Json Decimal

/-! ### Named constants -/

theorem Severity.ofName?_name (s : Severity) : ofName? s.name = some s := by cases s <;> decide

theorem CiStatus.ofLabel?_label (s : CiStatus) : ofLabel? s.label = some s := by cases s <;> decide

theorem Tally.ofName?_name (t : Tally) : ofName? t.name = some t := by cases t <;> decide

theorem FailureKind.ofName?_name (k : FailureKind) : ofName? k.name = some k := by
  cases k <;> decide

theorem SuiteStatus.ofName?_name (s : SuiteStatus) : ofName? s.name = some s := by
  cases s <;> decide

theorem HealthState.ofName?_name (s : HealthState) : ofName? s.name = some s := by
  cases s <;> decide

theorem Phase.ofName?_name (p : Phase) : ofName? p.name = some p := by cases p <;> decide

theorem Severity.tells (s : Severity) : Tells decode s.toJson s := .variant s.ofName?_name

theorem CiStatus.tells (s : CiStatus) : Tells decode s.toJson s := .variant s.ofLabel?_label

theorem Tally.tells (t : Tally) : Tells decode t.toJson t := .variant t.ofName?_name

theorem FailureKind.tells (k : FailureKind) : Tells decode (.string k.name) k :=
  .variant k.ofName?_name

theorem SuiteStatus.tells (s : SuiteStatus) : Tells decode (.string s.name) s :=
  .variant s.ofName?_name

theorem HealthState.tells (s : HealthState) : Tells decode (.string s.name) s :=
  .variant s.ofName?_name

theorem Phase.tells (p : Phase) : Tells decode (.string p.name) p := .variant p.ofName?_name

/-! ### Fields -/

@[simp]
theorem lookup_present {f : α → Value} (name other : String) (o : Option α) :
    lookup name (present other f o) = if other = name then o.map f else none := by
  cases o with
  | none => exact (ite_self _).symm
  | some a => exact lookup_cons ..

theorem keys_present {f : α → Value} (name : String) (o : Option α) :
    ((present name f o).map Prod.fst).Sublist [name] := by
  cases o with
  | none => exact List.nil_sublist _
  | some a => exact List.Sublist.refl _

theorem keys_append {fields others : List (String × Value)} {names more : List String}
    (h : (fields.map Prod.fst).Sublist names) (hothers : (others.map Prod.fst).Sublist more) :
    ((fields ++ others).map Prod.fst).Sublist (names ++ more) := by
  rw [List.map_append]
  exact h.append hothers

theorem tells_strings (items : List String) : Tells (list text) (.strings items) items :=
  .list fun item _ => .text item

theorem tells_optionalText (o : Option String) : Tells (optional text) (.ofOption .string o) o :=
  .ofOption (fun a _ => .text a) fun _ => nofun

theorem tells_texts {entries : List (String × String)} (h : Ordered entries) :
    Tells decodeTexts (.texts entries) entries :=
  .dictionary h fun entry _ => .text entry.2

/-- A port number has 16 bits. -/
theorem tells_port {n : Nat} (h : n < twoTo 16) : Tells decodePort (.nat n) n :=
  .natural h (by decide)

theorem tells_nat32 {n : Nat} (h : n < twoTo 32) : Tells decodeNat32 (.nat n) n :=
  .natural h (by decide)

theorem tells_count {n : Nat} (h : n < twoTo 64) : Tells decodeCount (.nat n) n :=
  .natural h (Nat.le_refl _)

/-- A whole number of 32 bits with a sign. -/
def IsInt32 (n : Int) : Prop := -(twoTo 31 : Int) ≤ n ∧ n < twoTo 31

theorem tells_exitCode {n : Int} (h : IsInt32 n) : Tells decodeExitCode (.int n) n := by
  have h31 : twoTo 31 ≤ twoTo 63 := by decide
  have h64 : twoTo 31 ≤ twoTo 64 := by decide
  obtain ⟨hlow, hhigh⟩ := h
  exact .whole ⟨hlow, by omega⟩ ⟨by omega, by omega⟩

open Record (Reads)

theorem Json.Document.ofFields_append (fields others : List (String × Value)) :
    Document.ofFields (fields ++ others) =
      Document.ofFields fields ++ Document.ofFields others := by
  induction fields with
  | nil => rfl
  | cons field fields ih => rw [List.cons_append, ofFields, ofFields, ih, List.cons_append]

/-! ### Rules and classifications -/

theorem RuleSpec.tells (r : RuleSpec) : Tells decode r.toJson r :=
  ((((Reads.map RuleSpec.mk (.given rfl (.text r.pattern))).seq
    (.given rfl (.flag r.regex))).seq
    (.given rfl r.tally.tells)).seq
    (.given rfl r.severity.tells)).tells (by decide) (.refl _)

namespace ExitPolicy

/-- The exit code has 32 bits. -/
def InRange (p : ExitPolicy) : Prop := IsInt32 p.testsFailedCode

theorem InRange.tellsWith {p : ExitPolicy} (h : p.InRange) {severity : Decoder Severity}
    (hseverity : ∀ s : Severity, Tells severity s.toJson s) :
    Tells (decodeWith severity) p.toJson p :=
  (((Reads.map ExitPolicy.mk (.given rfl (tells_exitCode h))).seq
    (.given rfl (hseverity p.harnessFailure))).seq
    (.given rfl (hseverity p.crash))).tells (by decide) (.refl _)

theorem InRange.tells {p : ExitPolicy} (h : p.InRange) : Tells decode p.toJson p :=
  h.tellsWith Severity.tells

end ExitPolicy

namespace Classification

/-- The counts have 64 bits and the exit code has 32. -/
structure InRange (c : Classification) : Prop where
  passed : c.passed < twoTo 64
  failed : c.failed < twoTo 64
  exitCode : ∀ code, c.exitCode = some code → IsInt32 code

theorem InRange.tells {c : Classification} (h : c.InRange) : Tells decode c.toJson c :=
  ((((((Reads.map Classification.mk (.given rfl c.severity.tells)).seq
    (.given rfl (tells_count h.passed))).seq
    (.given rfl (tells_count h.failed))).seq
    (.given rfl (.ofOption (fun code hcode => tells_exitCode (h.exitCode code hcode))
      fun _ => nofun))).seq
    (.given rfl (.flag c.ambiguous))).seq
    (.given rfl (.flag c.rerunRequested))).tells (by decide) (.refl _)

end Classification

namespace ClassifierSettings

/-- The policy is in its range, and the categories are in order. -/
structure InRange (s : ClassifierSettings) : Prop where
  policy : s.policy.InRange
  rules : Ordered s.rules

/-- Fields of other names are kept in their order. -/
theorem readFields_others {fields : List (String × Value)}
    (h : ∀ field ∈ fields, field.1 ≠ "rules" ∧ (Document.ofValue field.2).load loadDepth = .ok ())
    (rules : Option (List (String × List RuleSpec)))
    (others rest : List (Option String × Document)) :
    readFields rules others (Document.ofFields fields ++ rest) =
      readFields rules (others ++ Document.ofFields fields) rest := by
  induction fields generalizing others with
  | nil => rw [Document.ofFields, List.append_nil, List.nil_append]
  | cons field fields ih =>
      obtain ⟨name, v⟩ := field
      obtain ⟨⟨hname, hload⟩, hfields⟩ := List.forall_mem_cons.1 h
      rw [Document.ofFields, List.cons_append, readFields, if_neg hname, hload]
      change readFields rules (others ++ [(some name, Document.ofValue v)]) _ = _
      rw [ih hfields, List.append_assoc, List.singleton_append]

theorem InRange.tells {s : ClassifierSettings} (h : s.InRange) : Tells decode s.toJson s := by
  have hrules : Tells (dictionary (list RuleSpec.decode))
      (.object (s.rules.map fun entry =>
        (entry.1, Value.array (entry.2.map RuleSpec.toJson)))) s.rules :=
    .dictionary (f := fun specs => .array (specs.map RuleSpec.toJson)) h.rules fun entry _ =>
      .list fun spec _ => spec.tells
  have hpolicy : Tells (ExitPolicy.decodeWith Severity.decodeAside) s.policy.toJson s.policy :=
    h.policy.tellsWith fun severity => .variantAside severity.ofName?_name
  have hothers : ∀ field ∈ s.policy.fields,
      field.1 ≠ "rules" ∧ (Document.ofValue field.2).load loadDepth = .ok () := by
    simp only [ExitPolicy.fields, List.forall_mem_cons]
    exact ⟨⟨by decide, rfl⟩, ⟨by decide, rfl⟩, ⟨by decide, rfl⟩,
      fun _ h => absurd h List.not_mem_nil⟩
  refine ⟨.object fun field hfield => ?_, ?_⟩
  · rcases List.mem_append.1 hfield with hmem | hmem
    · cases hpolicy.plain with
      | object hfields => exact hfields field hmem
    · rw [List.mem_singleton.1 hmem]
      exact hrules.plain
  · have hfound : readFields none [] (Document.ofFields (s.policy.fields ++
        [("rules", .object (s.rules.map fun entry =>
          (entry.1, .array (entry.2.map RuleSpec.toJson))))])) =
        .ok (some s.rules, Document.ofFields s.policy.fields) := by
      rw [Document.ofFields_append, readFields_others hothers, List.nil_append, Document.ofFields,
        readFields, if_pos rfl, hrules.reads]
      rfl
    have hreads : ExitPolicy.decodeWith Severity.decodeAside
        (.object (Document.ofFields s.policy.fields) .closed) = .ok s.policy := hpolicy.reads
    rw [toJson, Document.ofValue, decode, hfound]
    simp only [bind, Except.bind, Ending.fault?, hreads]
    rfl

end ClassifierSettings

/-! ### Parts of a configuration -/

namespace DeviceSlot

/-- The port numbers have 16 bits. -/
structure InRange (d : DeviceSlot) : Prop where
  consolePort : d.consolePort < twoTo 16
  agentPort1 : d.agentPort1 < twoTo 16
  agentPort2 : d.agentPort2 < twoTo 16
  httpPort : d.httpPort < twoTo 16
  sslPort : d.sslPort < twoTo 16

theorem InRange.tells {d : DeviceSlot} (h : d.InRange) : Tells decode d.toJson d :=
  (((((((Reads.map DeviceSlot.mk (.given rfl (.text d.name))).seq
    (.given rfl (tells_port h.consolePort))).seq
    (.given rfl (tells_port h.agentPort1))).seq
    (.given rfl (tells_port h.agentPort2))).seq
    (.given rfl (tells_port h.httpPort))).seq
    (.given rfl (tells_port h.sslPort))).seq
    (.given rfl (tells_optionalText d.serial))).tells (by decide) (.refl _)

end DeviceSlot

theorem Category.tells {c : Category} (h : Ordered c.env) : Tells decode c.toJson c :=
  (((((Reads.map Category.mk (.given rfl (.text c.testDir))).seq
    (.given rfl (.text c.runScript))).seq
    (.given rfl (tells_strings c.interpreter))).seq
    (.given rfl (tells_strings c.options))).seq
    (.given rfl (tells_texts h))).tells (by decide) (.refl _)

theorem Package.tells (p : Package) : Tells decode p.toJson p :=
  ((Reads.map Package.mk (.given rfl (.text p.path))).seq
    (.given rfl (.flag p.always))).tells (by decide) (.refl _)

theorem Paths.tells (p : Paths) : Tells decode p.toJson p :=
  ((((((((((((Reads.map Paths.mk (.given rfl (.text p.workDir))).seq
    (.given rfl (.text p.uploadDir))).seq
    (.given rfl (.text p.installerPath))).seq
    (.given rfl (tells_optionalText p.xreDir))).seq
    (.given rfl (tells_optionalText p.modulesDir))).seq
    (.given rfl (tells_optionalText p.symbolsPath))).seq
    (.given rfl (tells_optionalText p.minidumpStackwalk))).seq
    (.given rfl (tells_optionalText p.packageName))).seq
    (.given rfl (tells_optionalText p.packageNameFile))).seq
    (.given rfl (.text p.remoteWebserver))).seq
    (.given rfl (.text p.deviceIp))).seq
    (.given rfl (.text p.consoleHost))).tells (by decide) (.refl _)

namespace EmulatorSettings

/-- The port numbers have 16 bits, and the names of the environment are in order. -/
structure InRange (e : EmulatorSettings) : Prop where
  deviceAgentPort1 : e.deviceAgentPort1 < twoTo 16
  deviceAgentPort2 : e.deviceAgentPort2 < twoTo 16
  env : Ordered e.env

theorem InRange.tells {e : EmulatorSettings} (h : e.InRange) : Tells decode e.toJson e :=
  (((((((((Reads.map EmulatorSettings.mk (.given rfl (tells_strings e.command))).seq
    (.given rfl (tells_optionalText e.processName))).seq
    (.given rfl (tells_strings e.installCommand))).seq
    (.given rfl (tells_strings e.healthCommand))).seq
    (.given rfl (tells_strings e.logcatCommand))).seq
    (.given rfl (tells_port h.deviceAgentPort1))).seq
    (.given rfl (tells_port h.deviceAgentPort2))).seq
    (.given rfl (.flag e.requireAgentHealth))).seq
    (.given rfl (tells_texts h.env))).tells (by decide) (.refl _)

end EmulatorSettings

/-! ### Summaries -/

theorem Timestamp.InRange.tells {t : Timestamp} (h : t.InRange) :
    Tells decode (.string t.text) t := by
  refine ⟨.string t.text, ?_⟩
  rw [decode, (Tells.text t.text).reads]
  simp only [bind, Except.bind, h.ofText?_text, Option.elim]

theorem PhaseOutcome.tells (p : PhaseOutcome) : Tells decode p.toJson p :=
  ((((Reads.map PhaseOutcome.mk (.given rfl p.phase.tells)).seq
    (.given rfl p.severity.tells)).seq
    (.present (by simp) (fun kind _ => kind.tells) fun _ => nofun)).seq
    (.given (by simp) (.text p.message))).tells (by decide)
      (keys_append (keys_append (.refl _) (keys_present ..)) (.refl _))

namespace DeviceSummary

/-- The port number has 16 bits, and the numbers of processes have 32. -/
structure InRange (d : DeviceSummary) : Prop where
  consolePort : d.consolePort < twoTo 16
  launchedPids : ∀ pid ∈ d.launchedPids, pid < twoTo 32

theorem InRange.tells {d : DeviceSummary} (h : d.InRange) : Tells decode d.toJson d :=
  (((((Reads.map DeviceSummary.mk (.given rfl (.text d.name))).seq
    (.given rfl (.text d.deviceId))).seq
    (.given rfl (tells_port h.consolePort))).seq
    (.given rfl d.health.tells)).seq
    (.given rfl (.list fun pid hpid => tells_nat32 (h.launchedPids pid hpid)))).tells (by decide)
      (.refl _)

end DeviceSummary

namespace SuiteSummary

/-- The number of attempts has 32 bits, the length of time 64, and the judgement is in its range. -/
structure InRange (s : SuiteSummary) : Prop where
  attempts : s.attempts < twoTo 32
  classification : ∀ c : Classification, s.classification = some c → c.InRange
  durationMs : s.durationMs < twoTo 64

theorem InRange.tells {s : SuiteSummary} (h : s.InRange) : Tells decode s.toJson s :=
  (((((((((((Reads.map SuiteSummary.mk (.given (by simp) (.text s.suite))).seq
    (.given (by simp) (.text s.category))).seq
    (.given (by simp) (.text s.device))).seq
    (.given (by simp) s.status.tells)).seq
    (.given (by simp) s.verdict.tells)).seq
    (.given (by simp) (tells_nat32 h.attempts))).seq
    (.present (by simp) (fun c hc => (h.classification c hc).tells) fun _ => nofun)).seq
    (.present (by simp) (fun kind _ => kind.tells) fun _ => nofun)).seq
    (.present (by simp) (fun message _ => .text message) fun _ => nofun)).seq
    (.present (by simp) (fun path _ => .text path) fun _ => nofun)).seq
    (.given (by simp) (tells_count h.durationMs))).tells (by decide)
      (keys_append (keys_append (keys_append (keys_append (keys_append (.refl _) (keys_present ..))
        (keys_present ..)) (keys_present ..)) (keys_present ..)) (.refl _))

end SuiteSummary

namespace RunSummary

/-- All numbers are in the range of their fields, and the time is one of the years from 0 to 9999.
-/
structure InRange (s : RunSummary) : Prop where
  schemaVersion : s.schemaVersion < twoTo 32
  createdAt : s.createdAt.InRange
  exitCode : IsInt32 s.exitCode
  suites : ∀ suite ∈ s.suites, suite.InRange
  devices : ∀ device ∈ s.devices, device.InRange
  testsPassed : s.testsPassed < twoTo 64
  testsFailed : s.testsFailed < twoTo 64
  suitesBlocked : s.suitesBlocked < twoTo 64
  durationMs : s.durationMs < twoTo 64

theorem InRange.tells {s : RunSummary} (h : s.InRange) : Tells decode s.toJson s :=
  ((((((((((((((((Reads.map RunSummary.mk (.given (by simp) (tells_nat32 h.schemaVersion))).seq
    (.given (by simp) (.text s.schemaId))).seq
    (.given (by simp) h.createdAt.tells)).seq
    (.given (by simp) s.verdict.tells)).seq
    (.given (by simp) s.ciStatus.tells)).seq
    (.given (by simp) (tells_exitCode h.exitCode))).seq
    (.given (by simp) s.finalState.tells)).seq
    (.present (by simp) (fun phase _ => phase.tells) fun _ => nofun)).seq
    (.given (by simp) (.list fun phase _ => phase.tells))).seq
    (.given (by simp) (.list fun suite hsuite => (h.suites suite hsuite).tells))).seq
    (.given (by simp) (.list fun device hdevice => (h.devices device hdevice).tells))).seq
    (.given (by simp) (tells_count h.testsPassed))).seq
    (.given (by simp) (tells_count h.testsFailed))).seq
    (.given (by simp) (tells_count h.suitesBlocked))).seq
    (.given (by simp) (tells_count h.durationMs))).seq
    (.given (by simp) (.text s.humanSummary))).tells (by decide)
      (@keys_append _ _ _ ["phases", "suites", "devices", "tests_passed", "tests_failed",
        "suites_blocked", "duration_ms", "human_summary"] (keys_append (.refl _) (keys_present ..))
        (.refl _))

end RunSummary

/-- Every record is read by its `decode` from the text that `pretty` writes for it: the parts of a
summary, those of a configuration and the settings of the classifier. -/
theorem documents_round_trip :
    (∀ s : RunSummary, s.InRange → RunSummary.ofText s.text = .ok s) ∧
    (∀ s : SuiteSummary, s.InRange → decodeText SuiteSummary.decode s.toJson.pretty = .ok s) ∧
    (∀ p : PhaseOutcome, decodeText PhaseOutcome.decode p.toJson.pretty = .ok p) ∧
    (∀ d : DeviceSummary, d.InRange → decodeText DeviceSummary.decode d.toJson.pretty = .ok d) ∧
    (∀ c : Classification, c.InRange → decodeText Classification.decode c.toJson.pretty = .ok c) ∧
    (∀ p : ExitPolicy, p.InRange → decodeText ExitPolicy.decode p.toJson.pretty = .ok p) ∧
    (∀ r : RuleSpec, decodeText RuleSpec.decode r.toJson.pretty = .ok r) ∧
    (∀ s : ClassifierSettings, s.InRange →
      decodeText ClassifierSettings.decode s.toJson.pretty = .ok s) ∧
    (∀ d : DeviceSlot, d.InRange → decodeText DeviceSlot.decode d.toJson.pretty = .ok d) ∧
    (∀ c : Category, Ordered c.env → decodeText Category.decode c.toJson.pretty = .ok c) ∧
    (∀ p : Package, decodeText Package.decode p.toJson.pretty = .ok p) ∧
    (∀ p : Paths, decodeText Paths.decode p.toJson.pretty = .ok p) ∧
    ∀ e : EmulatorSettings, e.InRange →
      decodeText EmulatorSettings.decode e.toJson.pretty = .ok e :=
  ⟨fun _ h => h.tells.decodeText, fun _ h => h.tells.decodeText, fun p => p.tells.decodeText,
    fun _ h => h.tells.decodeText, fun _ h => h.tells.decodeText, fun _ h => h.tells.decodeText,
    fun r => r.tells.decodeText, fun _ h => h.tells.decodeText, fun _ h => h.tells.decodeText,
    fun _ h => (Category.tells h).decodeText, fun p => p.tells.decodeText,
    fun p => p.tells.decodeText, fun _ h => h.tells.decodeText⟩

/-- A summary with the greatest counts, the earliest time and every optional field. -/
def RunSummary.extreme : RunSummary where
  schemaVersion := twoTo 32 - 1
  schemaId := "π \"quoted\"\n"
  createdAt := ⟨-62167219200, 120000000⟩
  verdict := .fatal
  ciStatus := .failure
  exitCode := -1
  finalState := .failed
  failedFrom := some .devicesStarting
  phases := [⟨.devicesStarting, .fatal, some .cancelled, ""⟩,
    ⟨.devicesStopped, .success, none, "\x01"⟩]
  suites := [{
    suite := "mochitest", category := "", device := "a", status := .classified
    verdict := .failure, attempts := twoTo 32 - 1
    classification := some
      ⟨.failure, twoTo 64 - 1, twoTo 64 - 1, some (-(twoTo 31 : Int)), true, false⟩
    failureKind := none, message := some "", logPath := some "/tmp/é", durationMs := twoTo 64 - 1 }]
  devices := [⟨"a", "emulator-5554", 65535, .unhealthy, [0, twoTo 32 - 1]⟩]
  testsPassed := twoTo 64 - 1
  testsFailed := twoTo 64 - 1
  suitesBlocked := 0
  durationMs := twoTo 64 - 1
  humanSummary := "FAILURE: 0/1 suites clean"

theorem documents_round_trip_extreme :
    RunSummary.extreme.InRange ∧
      RunSummary.ofText RunSummary.extreme.text = .ok RunSummary.extreme := by
  have hsuite : ∀ suite ∈ RunSummary.extreme.suites, suite.InRange := by
    intro suite hsuite
    rw [List.mem_singleton.1 hsuite]
    refine ⟨by decide, fun c hc => ?_, by decide⟩
    cases hc
    exact ⟨by decide, by decide, fun code hcode => by cases hcode; exact ⟨by decide, by decide⟩⟩
  have hdevice : ∀ device ∈ RunSummary.extreme.devices, device.InRange := by
    intro device hdevice
    rw [List.mem_singleton.1 hdevice]
    exact ⟨by decide, by decide⟩
  have hrange : RunSummary.extreme.InRange :=
    ⟨by decide, ⟨by decide, by decide, by decide⟩, ⟨by decide, by decide⟩, hsuite, hdevice,
      by decide, by decide, by decide, by decide⟩
  exact ⟨hrange, documents_round_trip.1 _ hrange⟩

end DeviceLab
