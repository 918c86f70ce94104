import DeviceLab.Proofs.Commands
import DeviceLab.Proofs.Rendering

/-! # What a command is made of

The command of a suite is put together from lists and tables: the arguments of the category, its
options with their values, and the suite's own arguments, which are taken as they are.  Tables are
put over each other, so that of two entries with one name the upper one counts
(`lookup_overlay`); what is not there is not entered, so that a name has no value rather than an
empty one (`RunContext.lookup_entered`).

* `SuiteCommand.Composed`: what there is in a command.
* `buildCommand_eq_error_iff`: the name for which there is no command.
* `Dispatcher.meaning`, `Dispatcher.lookup_valuesFor`: what the names in options stand for.
* `command_composed`: the statement for every suite on every device. -/

namespace DeviceLab

open Json (lookup enter Ordered)

/-! ### Tables over each other -/

/-- The upper one of two tables counts. -/
theorem lookup_overlay {upper : List (String × String)} (h : (upper.map Prod.fst).Nodup)
    (base : List (String × String)) (name : String) :
    lookup name (overlay base upper) = (lookup name upper).or (lookup name base) := by
  induction upper generalizing base with
  | nil => rfl
  | cons entry rest ih =>
      obtain ⟨first, value⟩ := entry
      rw [List.map_cons, List.nodup_cons] at h
      have hnext : overlay base ((first, value) :: rest) =
          overlay (enter first value base) rest := rfl
      rw [hnext, ih h.2, Json.lookup_cons]
      by_cases heq : first = name
      · subst heq
        rw [if_pos rfl, Json.lookup_enter_self, Json.lookup_eq_none h.1]
        rfl
      · rw [if_neg heq, Json.lookup_enter_of_ne (Ne.symm heq)]

/-- What is not there is not entered. -/
theorem RunContext.lookup_entered {entries : List (String × Option String)}
    (h : (entries.map Prod.fst).Nodup) (base : Values) (name : String) :
    lookup name (entries.foldl (fun found (name, value) => enterSome name value found) base) =
      (lookup name entries).join.or (lookup name base) := by
  induction entries generalizing base with
  | nil => rfl
  | cons entry rest ih =>
      obtain ⟨first, value⟩ := entry
      rw [List.map_cons, List.nodup_cons] at h
      rw [List.foldl_cons, ih h.2, Json.lookup_cons]
      by_cases heq : first = name
      · subst heq
        rw [if_pos rfl, Json.lookup_eq_none h.1]
        cases value with
        | none => rfl
        | some value => exact Json.lookup_enter_self ..
      · rw [if_neg heq]
        cases value with
        | none => rfl
        | some value => exact congrArg _ (Json.lookup_enter_of_ne (Ne.symm heq) ..)

/-! ### Commands -/

/-- What there is in the command of a suite: the interpreter, the script in `dir`, the options with
their `values` in their order, and the suite's own arguments as they are.  A variable has the value
that `suite` gives it, or else `category`, or else `baseEnv`. -/
structure SuiteCommand.Composed (suite : SuiteSpec) (category : Category) (dir : String)
    (values : Values) (baseEnv : List (String × String)) (command : SuiteCommand) : Prop where
  argv : ∃ options,
    List.Forall₂ (fun option text => Template.render option values = .ok text)
      category.options options ∧
    command.argv =
      category.interpreter ++ [Path.join dir category.runScript] ++ options ++ suite.extraArgs
  cwd : command.cwd = dir
  env : (category.env.map Prod.fst).Nodup → (suite.env.map Prod.fst).Nodup → ∀ name,
    lookup name command.env =
      (lookup name suite.env).or ((lookup name category.env).or (lookup name baseEnv))

section

variable {name : String} {suite : SuiteSpec} {category : Category} {dir : String} {values : Values}
  {baseEnv : List (String × String)}

theorem buildCommand_composed {command : SuiteCommand}
    (h : buildCommand name suite category dir values baseEnv = .ok command) :
    command.Composed suite category dir values baseEnv := by
  unfold buildCommand at h
  split at h
  · cases h
  · next options hoptions =>
      cases h
      refine ⟨⟨options, Template.renderAll_eq_ok_iff.1 hoptions, rfl⟩, rfl,
        fun hcategory hsuite key => ?_⟩
      rw [lookup_overlay hsuite, lookup_overlay hcategory]

theorem exists_buildCommand_iff :
    (∃ command, buildCommand name suite category dir values baseEnv = .ok command) ↔
      ∀ option ∈ category.options, ∀ placeholder ∈ Template.placeholders option,
        (lookup placeholder values).isSome := by
  rw [← Template.exists_renderAll_iff, buildCommand]
  cases Template.renderAll category.options values with
  | ok options => exact iff_of_true ⟨_, rfl⟩ ⟨_, rfl⟩
  | error cause => exact ⟨nofun, nofun⟩

/-- The error tells the first name without a value in the first option that has one. -/
theorem buildCommand_eq_error_iff {error : CommandError} :
    buildCommand name suite category dir values baseEnv = .error error ↔
      ∃ before option after missing, category.options = before ++ option :: after ∧
        (∀ earlier ∈ before, ∀ placeholder ∈ Template.placeholders earlier,
          (lookup placeholder values).isSome) ∧
        Template.missing? values (Template.placeholders option) = some missing ∧
        error = .unresolved name ⟨missing, option⟩ := by
  have hcause : buildCommand name suite category dir values baseEnv = .error error ↔
      ∃ cause, Template.renderAll category.options values = .error cause ∧
        error = .unresolved name cause := by
    unfold buildCommand
    cases Template.renderAll category.options values with
    | ok options => simp
    | error cause => simp [eq_comm]
  rw [hcause]
  constructor
  · rintro ⟨⟨missing, option⟩, hresult, rfl⟩
    obtain ⟨before, after, hsplit, hbefore, hmissing⟩ := Template.renderAll_eq_error_iff.1 hresult
    exact ⟨before, option, after, missing, hsplit, hbefore, hmissing, rfl⟩
  · rintro ⟨before, option, after, missing, hsplit, hbefore, hmissing, rfl⟩
    exact ⟨⟨missing, option⟩,
      Template.renderAll_eq_error_iff.2 ⟨before, after, hsplit, hbefore, hmissing⟩, rfl⟩

end

/-! ### Values -/

namespace Dispatcher

/-- What a name in an option stands for when the suite runs on a device: the ports and the serial
are those of the device, and everything else is the same for the whole run. -/
def meaning (d : Dispatcher) (device : DeviceSlot) : String → Option String
  | "device_port" => some (toString device.agentPort1)
  | "http_port" => some (toString device.httpPort)
  | "ssl_port" => some (toString device.sslPort)
  | "console_port" => some (toString device.consolePort)
  | "device_id" => some device.deviceId
  | "app" => d.context.packageName
  | "remote_webserver" => some d.context.remoteWebserver
  | "xre_path" => d.context.xrePath
  | "utility_path" => d.context.utilityPath
  | "device_ip" => some d.context.deviceIp
  | "certs_path" => some d.context.certsPath
  | "symbols_path" => d.context.symbolsPath
  | "modules_dir" => d.context.modulesDir
  | "installer_path" => some d.context.installerPath
  | _ => none

/-- The values that are those of a device. -/
def slotEntries (device : DeviceSlot) : List (String × String) :=
  [("device_port", toString device.agentPort1), ("http_port", toString device.httpPort),
    ("ssl_port", toString device.sslPort), ("console_port", toString device.consolePort),
    ("device_id", device.deviceId)]

/-- The values that are the same for the whole run, as far as they are there. -/
def runEntries (ctx : RunContext) : List (String × Option String) :=
  [("app", ctx.packageName), ("remote_webserver", some ctx.remoteWebserver),
    ("xre_path", ctx.xrePath), ("utility_path", ctx.utilityPath),
    ("device_ip", some ctx.deviceIp), ("certs_path", some ctx.certsPath),
    ("symbols_path", ctx.symbolsPath), ("modules_dir", ctx.modulesDir),
    ("installer_path", some ctx.installerPath)]

/-- A name stands for what the device says, or else for what the run says. -/
theorem lookup_valuesFor_eq (d : Dispatcher) (device : DeviceSlot) (name : String) :
    lookup name (d.valuesFor device) =
      (lookup name (slotEntries device)).or (lookup name (runEntries d.context)).join := by
  have hslot : ((slotEntries device).map Prod.fst).Nodup := by
    show ["device_port", "http_port", "ssl_port", "console_port", "device_id"].Nodup
    decide
  have hrun : ((runEntries d.context).map Prod.fst).Nodup := by
    show ["app", "remote_webserver", "xre_path", "utility_path", "device_ip", "certs_path",
      "symbols_path", "modules_dir", "installer_path"].Nodup
    decide
  calc lookup name (d.valuesFor device)
      = lookup name (overlay d.context.values (slotEntries device)) := rfl
    _ = (lookup name (slotEntries device)).or (lookup name d.context.values) :=
        lookup_overlay hslot _ name
    _ = _ := congrArg _ ((RunContext.lookup_entered hrun [] name).trans (Option.or_none))

theorem lookup_valuesFor (d : Dispatcher) (device : DeviceSlot) (name : String) :
    lookup name (d.valuesFor device) = d.meaning device name := by
  rw [lookup_valuesFor_eq]
  unfold meaning
  split
  case h_15 =>
    -- a name that is in neither of the tables
    have hslot : lookup name (slotEntries device) = none :=
      Json.lookup_eq_none (by simp_all [slotEntries])
    have hrun : lookup name (runEntries d.context) = none :=
      Json.lookup_eq_none (by simp_all [runEntries])
    rw [hslot, hrun]
    rfl
  all_goals rfl

end Dispatcher

/-! ### Configurations that are read -/

open Json.Record in
theorem Category.decode_ordered {d : Json.Document} {category : Category}
    (h : Category.decode d = .ok category) : Ordered category.env := by
  refine Yields.decoder (P := fun category : Category => Ordered category.env)
    (.seq (P := Ordered) (.skip (.skip (.skip (.first ?_))))
      (.withDefault (fun _ _ => Json.dictionary_ordered) Json.ordered_nil)) h
  intro _ _ _ _ env henv
  exact henv

open Json.Record in
theorem SuiteSpec.decode_ordered {d : Json.Document} {suite : SuiteSpec}
    (h : SuiteSpec.decode d = .ok suite) : Ordered suite.env := by
  refine Yields.decoder (P := fun suite : SuiteSpec => Ordered suite.env)
    (.skip (.skip (.skip (.skip (.skip (.seq (P := Ordered) (.skip (.first ?_))
      (.withDefault (fun _ _ => Json.dictionary_ordered) Json.ordered_nil))))))) h
  intro _ _ env henv _ _ _ _ _
  exact henv

open Json.Record in
/-- In a configuration that is read no variable stands twice in a table. -/
theorem Config.decode_variables {d : Json.Document} {c : Config} (h : Config.decode d = .ok c) :
    (∀ entry ∈ c.categories, (entry.2.env.map Prod.fst).Nodup) ∧
      ∀ entry ∈ c.suites, (entry.2.env.map Prod.fst).Nodup := by
  have hcategories := Yields.dictionary Category.decode
    (P := fun category => (category.env.map Prod.fst).Nodup)
    fun _ _ hread => (Category.decode_ordered hread).nodup
  have hsuites := Yields.dictionary SuiteSpec.decode
    (P := fun suite => (suite.env.map Prod.fst).Nodup)
    fun _ _ hread => (SuiteSpec.decode_ordered hread).nodup
  constructor
  · refine Yields.decoder
      (P := fun c : Config => ∀ entry ∈ c.categories, (entry.2.env.map Prod.fst).Nodup)
      (.skip (.skip (.skip (.skip (.skip (.seq (.skip (.skip (.first ?_)))
        (hcategories _))))))) h
    exact fun _ _ _ _ hall _ _ _ _ _ => hall
  · refine Yields.decoder
      (P := fun c : Config => ∀ entry ∈ c.suites, (entry.2.env.map Prod.fst).Nodup)
      (.skip (.skip (.skip (.skip (.seq (.skip (.skip (.skip (.first ?_))))
        (hsuites _)))))) h
    exact fun _ _ _ _ _ hall _ _ _ _ => hall

/-! ### Suites on devices -/

/-- `buildCommand` succeeds exactly when every placeholder in the options of `category` has a value
in `values`; the command is then `Composed` of its parts in their order, and otherwise the error
tells the first placeholder `missing` and its option.  On a device, `valuesFor` gives its ports and
its serial, or what is the same for the whole run (`meaning`); what the configuration does not say
has no value.  In a configuration that is read no variable stands twice in a table, so it is clear
which value counts. -/
theorem command_composed :
    (∀ name suite category dir values baseEnv,
      ((∃ command, buildCommand name suite category dir values baseEnv = .ok command) ↔
        ∀ option ∈ category.options, ∀ placeholder ∈ Template.placeholders option,
          (lookup placeholder values).isSome) ∧
      (∀ command, buildCommand name suite category dir values baseEnv = .ok command →
        command.Composed suite category dir values baseEnv) ∧
      ∀ error, buildCommand name suite category dir values baseEnv = .error error ↔
        ∃ before option after missing, category.options = before ++ option :: after ∧
          (∀ earlier ∈ before, ∀ placeholder ∈ Template.placeholders earlier,
            (lookup placeholder values).isSome) ∧
          Template.missing? values (Template.placeholders option) = some missing ∧
          error = .unresolved name ⟨missing, option⟩) ∧
    (∀ (d : Dispatcher) name device suite category, d.suite name = .ok (suite, category) →
      d.commandFor name device = buildCommand name suite category (d.config.categoryDir category)
        (d.valuesFor device) d.context.childEnv) ∧
    (∀ (d : Dispatcher) device placeholder,
      lookup placeholder (d.valuesFor device) = d.meaning device placeholder) ∧
    (∀ (c : Config) package device,
      let values := (⟨c, .ofConfig c package⟩ : Dispatcher).valuesFor device
      lookup "app" values = package ∧ lookup "symbols_path" values = c.paths.symbolsPath ∧
        lookup "modules_dir" values = c.paths.modulesDir.map c.workPath ∧
        lookup "xre_path" values =
          c.paths.xreDir.map (fun dir => Path.join (c.workPath dir) "xre") ∧
        lookup "utility_path" values =
          c.paths.xreDir.map fun dir => Path.join (c.workPath dir) "bin") ∧
    ∀ document c, Config.decode document = .ok c →
      (∀ entry ∈ c.categories, (entry.2.env.map Prod.fst).Nodup) ∧
        ∀ entry ∈ c.suites, (entry.2.env.map Prod.fst).Nodup := by
  refine ⟨fun name suite category dir values baseEnv => ⟨exists_buildCommand_iff,
      fun command h => buildCommand_composed h, fun error => buildCommand_eq_error_iff⟩,
    fun d name device suite category h => Dispatcher.commandFor_eq h device,
    Dispatcher.lookup_valuesFor, fun c package device => ?_,
    fun document c h => Config.decode_variables h⟩
  simp only [Dispatcher.lookup_valuesFor]
  exact ⟨rfl, rfl, rfl, rfl, rfl⟩

end DeviceLab
