import DeviceLab.CommandLine.Program
import DeviceLab.Proofs.Entries
import DeviceLab.Proofs.Slots
import DeviceLab.Proofs.Supervision

/-! # The commands of an accepted configuration

Whatever is looked up to launch a suite is there in an accepted configuration: a device, the suite
with its category, its packages, and a command that is not empty.  The same commands are shown by
the program, each with the device of its suite.

* `Config.Launchable`, `Config.launchable`: what there is for the suite at a place.
* `Lab.launch_nonempty`, `EmulatorControl.backend_nonempty`: a command that is not empty is never
  refused as empty, and no command of an emulator is empty.
* `CommandLine.shown`, `CommandLine.performCommands_shows`: what is shown. -/

namespace DeviceLab

/-! ### Commands of an accepted configuration -/

/-- There is a command and it is not empty, or a name in its options has no value. -/
theorem buildCommand_cases (name : String) (suite : SuiteSpec) (category : Category) (dir : String)
    (values : Values) (env : List (String × String)) :
    (∃ command, buildCommand name suite category dir values env = .ok command ∧
        command.argv ≠ []) ∨
      ∃ cause, buildCommand name suite category dir values env = .error (.unresolved name cause) := by
  unfold buildCommand
  split
  · next cause _ => exact .inr ⟨cause, rfl⟩
  · exact .inl ⟨_, rfl, by simp⟩

theorem Dispatcher.commandFor_eq {d : Dispatcher} {name : String} {suite : SuiteSpec}
    {category : Category} (h : d.suite name = .ok (suite, category)) (device : DeviceSlot) :
    d.commandFor name device = buildCommand name suite category (d.config.categoryDir category)
      (d.valuesFor device) d.context.childEnv := by
  rw [commandFor, h]
  rfl

namespace Config

variable {c : Config} {index : Nat} {name : String}

/-- What there is for the suite at a place: a device, the suite with its category, and its packages;
the only reason not to have a command is a name without a value, and a command is not empty. -/
structure Launchable (c : Config) (index : Nat) (name : String) : Prop where
  device : ∃ device, c.boundDevices[index]? = some device
  suite : ∃ suite category, c.suite? name = some suite ∧
    (∀ ctx, (⟨c, ctx⟩ : Dispatcher).suite name = .ok (suite, category)) ∧
    ∀ package ∈ suite.requires, package ∈ c.packages.map Prod.fst
  command : ∀ ctx device,
    (∃ command, (⟨c, ctx⟩ : Dispatcher).commandFor name device = .ok command ∧
        command.argv ≠ []) ∨
      ∃ cause, (⟨c, ctx⟩ : Dispatcher).commandFor name device = .error (.unresolved name cause)

/-- There are as many bound devices as suites. -/
theorem length_boundDevices (hv : c.validate = .ok ()) :
    c.boundDevices.length = c.selected.length := by
  rw [boundDevices, List.length_take, Nat.min_eq_left (validate_ok_iff.1 hv).enough]

/-- An accepted configuration has all that the suite at a place needs. -/
theorem launchable (hv : c.validate = .ok ()) (hname : c.selected[index]? = some name) :
    c.Launchable index name := by
  obtain ⟨suite, hsuite, horder⟩ :=
    (validate_ok_iff.1 hv).suites.suites name (List.mem_of_getElem? hname)
  obtain ⟨category, hcategory⟩ := horder.category
  have hfound : ∀ ctx, (⟨c, ctx⟩ : Dispatcher).suite name = .ok (suite, category) := by
    intro ctx
    rw [Dispatcher.suite, hsuite]
    dsimp only
    rw [hcategory]
  refine ⟨?_, ⟨suite, category, hsuite, hfound, fun package hpackage => ?_⟩, fun ctx device => ?_⟩
  · obtain ⟨hlt, -⟩ := List.getElem?_eq_some_iff.1 hname
    rw [← length_boundDevices hv] at hlt
    exact ⟨_, List.getElem?_eq_getElem hlt⟩
  · obtain ⟨found, hlookup⟩ := horder.packages package hpackage
    exact Json.mem_keys_of_lookup hlookup
  · rw [Dispatcher.commandFor_eq (hfound ctx)]
    exact buildCommand_cases ..

end Config

/-! ### Launches of commands that are not empty -/

namespace Lab

variable {σ : Type} {host : Host σ}

/-- An empty command is the only one that is refused as empty. -/
theorem launch_nonempty {spec : LaunchSpec} (hspec : spec.argv ≠ []) :
    Ends (fun _ => True) (launch host spec) (fun _ _ => True)
      fun cause _ => ∀ label, cause ≠ .emptyCommand label := by
  unfold launch
  split
  · next hempty => exact absurd hempty hspec
  refine .bind (Q := fun _ _ => True) (.get fun _ h => h) fun lab =>
    .bind (Q := fun _ _ => True) (.modifyGet fun _ h => h) fun capture => ?_
  split
  · exact .throw fun _ _ _ => nofun
  · refine .bind (Q := fun _ _ => True) (.modifyGet fun _ h => h) fun spawned => ?_
    split
    · exact .bind (Q := fun _ _ => True) (.discard (.modifyGet fun _ h => h)) fun _ =>
        .throw fun _ _ _ => nofun
    · exact fun _ _ => trivial

/-- A short command that is not empty is not refused as empty. -/
theorem runToCompletion_nonempty {spec : LaunchSpec} (hspec : spec.argv ≠ []) (limit : Duration) :
    Ends (fun _ => True) (runToCompletion host spec limit) (fun _ _ => True)
      fun cause _ => ∀ label, cause ≠ .launch (.emptyCommand label) := by
  refine .of_eq fun lab _ => ?_
  have hlaunch := ((launch_spec host spec lab).and (launch_nonempty hspec)).conseq
    (P := (· = lab)) (fun _ h => ⟨h, trivial⟩) (fun _ _ h => h.1) fun _ _ h => h.2
  refine .bind (.adapt (hlaunch.weaken (fun _ _ h => h) fun cause _ h label heq => ?_))
    fun id => .of_eq fun launched hlaunched => ?_
  · exact h label (SupervisorError.launch.inj heq)
  have hio : ∀ {cause : SupervisorError}, (∃ e, cause = .io e) →
      ∀ label, cause ≠ .launch (.emptyCommand label) := by
    rintro _ ⟨e, rfl⟩ label h
    cases h
  obtain ⟨p, hp⟩ := Option.isSome_iff_exists.1 hlaunched.isSome
  refine .bind (Q := fun _ => Tended host (· = id) launched (Supervisor.Holds · id p.pid))
    (.lift ((sys_tends .now).conseq (fun _ h => by rw [h]; exact .refl ⟨p, hp, rfl⟩)
      fun _ _ h => h)) fun now => ?_
  refine .bind (Q := fun _ => Tended host (· = id) launched (Supervisor.Holds · id p.pid))
    ((waitFor_tends (P := (· = id)) rfl now limit _).weaken (fun _ _ h => ⟨h.1, h.2.holds⟩)
      fun _ _ h => hio h.1)
    fun r => .bind (readOutput_tends.weaken (fun _ _ h => h) fun _ _ h => hio h.1) fun output => ?_
  exact .bind ((release_spec (P := (· = id)) rfl).weaken (Q := fun _ _ => True)
    (fun _ _ _ => trivial) fun _ _ h => hio h.1) fun _ => .pure fun _ h => h

end Lab

namespace EmulatorControl

variable {σ : Type} {host : Host σ} {e : EmulatorControl}

/-- A command that is filled in has as many parts as before. -/
theorem length_of_renderAll {templates argv : List String} {values : Values}
    (h : Template.renderAll templates values = .ok argv) : argv.length = templates.length :=
  (Json.mapM_eq_ok_iff.1 h).length_eq.symm

theorem ne_nil_of_renderAll {templates argv : List String} {values : Values}
    (htemplates : templates ≠ []) (h : Template.renderAll templates values = .ok argv) :
    argv ≠ [] := by
  rw [← List.length_pos_iff, length_of_renderAll h]
  exact List.length_pos_iff.2 htemplates

/-- A step with a device is not refused for an empty command. -/
def NotEmpty (cause : DeviceError) : Prop := ∀ label, cause ≠ .launch (.emptyCommand label)

/-- A command that is filled in is not empty. -/
theorem command_nonempty {templates : List String} (h : templates ≠ []) :
    Ends (fun _ => True) (command templates : DeviceStep σ Unit DeviceError (List String))
      (fun argv _ => argv ≠ []) fun cause _ => NotEmpty cause := by
  refine .bind (Q := fun _ _ => True) (.get fun _ h => h) fun t => ?_
  dsimp only
  split
  · next argv hargv => exact .pure fun _ _ => ne_nil_of_renderAll h hargv
  · exact .throw fun _ _ _ => nofun

/-- What is known of the failures of an operation of the lab is known of them in a step. -/
theorem onLab_error {ε α β : Type} {operation : ExceptT ε (StateM (Lab σ)) α} {E : ε → Prop}
    (h : Ends (fun _ => True) operation (fun _ _ => True) fun cause _ => E cause) :
    Leads (fun _ => True) (Station.onLab operation.run)
      fun result (_ : Station σ β) => ∀ cause, result = .error cause → E cause := by
  refine .modifyGet fun t _ cause hcause => ?_
  have hspec := h t.lab trivial
  rwa [show (operation.run.run t.lab).1 = .error cause from hcause] at hspec

theorem launchFor_nonempty {spec : LaunchSpec} (h : spec.argv ≠ []) :
    Ends (fun _ => True) (launchFor host spec) (fun _ _ => True) fun cause _ => NotEmpty cause := by
  refine .bind (.lift (onLab_error (Lab.launch_nonempty h))) fun result => ?_
  cases result with
  | ok id => exact .pure fun _ _ => trivial
  | error cause =>
      exact .throw fun _ h label heq => h cause rfl label (DeviceError.launch.inj heq)

/-- No step of a backend is refused for an empty command. -/
structure NeverEmpty (b : Backend σ Unit) : Prop where
  launch : Ends (fun _ => True) b.launch (fun _ _ => True) fun cause _ => NotEmpty cause
  startLogCapture :
    Ends (fun _ => True) b.startLogCapture (fun _ _ => True) fun cause _ => NotEmpty cause
  install : ∀ package path, Ends (fun _ => True) (b.install package path) (fun _ _ => True)
    fun cause _ => ∀ label, cause ≠ .supervisor (.launch (.emptyCommand label))

theorem install_nonempty (h : e.settings.installCommand ≠ []) (package path : String) :
    Ends (fun _ => True) ((backend host e).install package path) (fun _ _ => True)
      fun cause _ => ∀ label, cause ≠ .supervisor (.launch (.emptyCommand label)) := by
  refine .bind (Q := fun _ _ => True) (.get fun _ h => h) fun t =>
    .bind (Q := fun _ _ => True) (.modifyGet fun _ h => h) fun found => .ite (fun _ => ?_) fun _ =>
      .bind (Q := fun _ _ => True) (.throw fun _ _ _ => nofun) fun _ => ?_
  all_goals
    dsimp only
    split
    · exact .throw fun _ _ _ => nofun
    · next argv hargv =>
        refine .bind (Q := fun _ _ => True) (.modifyGet fun _ h => h) fun _ =>
          .bind (.lift (onLab_error (Lab.runToCompletion_nonempty
            (ne_nil_of_renderAll h hargv) _))) fun result => ?_
        cases result with
        | error cause =>
            exact .throw fun _ h label heq => h cause rfl label (InstallError.supervisor.inj heq)
        | ok done =>
            exact .ite (fun _ => .throw fun _ _ _ => nofun) fun _ =>
              .ite (fun _ => .throw fun _ _ _ => nofun) fun _ => .pure fun _ _ => trivial

/-- With a command and an install command that are not empty, no step is refused for an empty one.
-/
theorem backend_nonempty (hcommand : e.settings.command ≠ [])
    (hinstall : e.settings.installCommand ≠ []) : NeverEmpty (backend host e) where
  launch := by
    refine .bind (command_nonempty hcommand) fun argv => .of_eq fun t hargv => ?_
    refine .bind (Q := fun _ _ => True) (.get fun _ _ => trivial) fun t =>
      .bind (launchFor_nonempty hargv) fun id => ?_
    refine .bind (Q := fun _ _ => True) ?_ fun p => .modify fun _ h => h
    refine .bind (Q := fun _ _ => True) (.modifyGet fun _ h => h) fun result => ?_
    cases result with
    | ok p => exact .pure fun _ h => h
    | error cause => exact .throw fun _ _ _ => nofun
  startLogCapture := by
    refine .ite (fun _ => .pure fun _ h => h) fun hsome => ?_
    refine .bind (command_nonempty fun hnil => hsome (by rw [hnil]; rfl)) fun argv =>
      .of_eq fun t hargv => ?_
    exact .bind (Q := fun _ _ => True) (.get fun _ _ => trivial) fun t =>
      .bind (launchFor_nonempty hargv) fun id => .modify fun _ h => h
  install := install_nonempty hinstall

end EmulatorControl

/-! ### What is shown -/

namespace CommandLine

/-- The part of the output that shows the command of a suite on a device, if there is one. -/
def commandText (d : Dispatcher) (suite : String) (device : DeviceSlot) : String :=
  match d.commandFor suite device with
  | .ok command => s!"# {suite} on {device.name} (cwd {command.cwd})\n{command.shown}\n"
  | .error _ => ""

/-- The line that tells why there is no command. -/
def complaint (d : Dispatcher) (suite : String) (device : DeviceSlot) : String :=
  match d.commandFor suite device with
  | .ok _ => ""
  | .error e => s!"{suite}: {e.message}\n"

/-- The commands of all suites on their devices, as they are shown after something else. -/
def shownAfter (d : Dispatcher) (o : Outcome) (pairs : List (String × DeviceSlot)) : Outcome where
  code := bif pairs.all fun p => (d.commandFor p.1 p.2).isOk then o.code else Outcome.exceptionCode
  output := o.output ++ String.join (pairs.map fun p => commandText d p.1 p.2)
  errors := o.errors ++ String.join (pairs.map fun p => complaint d p.1 p.2)

/-- The commands of all selected suites. -/
def shown (d : Dispatcher) : Outcome :=
  shownAfter d {} (d.config.selected.zip d.config.boundDevices)

theorem foldl_showCommand (d : Dispatcher) (pairs : List (String × DeviceSlot)) (o : Outcome) :
    pairs.foldl (fun o (suite, device) => showCommand d o suite device) o = shownAfter d o pairs := by
  induction pairs generalizing o with
  | nil => simp [shownAfter]
  | cons pair rest ih =>
      obtain ⟨suite, device⟩ := pair
      rw [List.foldl_cons, ih]
      cases h : d.commandFor suite device with
      | ok command =>
          have hok : (Except.ok command : Except CommandError SuiteCommand).isOk = true := rfl
          simp [showCommand, shownAfter, commandText, complaint, h, hok, String.append_assoc]
      | error e =>
          have hok : (Except.error e : Except CommandError SuiteCommand).isOk = false := rfl
          simp [showCommand, shownAfter, commandText, complaint, h, hok, String.append_assoc]

/-- What is shown are the commands of the configuration that was loaded. -/
theorem performCommands_shows {σ : Type} {host : Host σ} {path : String} {suites : List String}
    {c : Config} {ctx : RunContext} {timing : Timing} {start between final : σ}
    (hload : (loadConfig host path suites).run.run start = (.ok c, between))
    (hresolve : (resolveContext host c).run.run between = (.ok ctx, final))
    (htiming : c.timing.toTiming = .ok timing) :
    (performCommands host path suites).run.run start = (.ok (shown ⟨c, ctx⟩), final) := by
  have h : Ends (· = start) (performCommands host path suites)
      (fun o system => o = shown ⟨c, ctx⟩ ∧ system = final) fun _ _ => False := by
    refine .bind (Q := fun c' system => c' = c ∧ system = between) (fun system h => ?_)
      fun c' => .of_eq fun system h => ?_
    · rw [h, hload]
      exact ⟨rfl, rfl⟩
    obtain ⟨rfl, rfl⟩ := h
    refine .bind (Q := fun ctx' system => ctx' = ctx ∧ system = final) (fun system h => ?_)
      fun ctx' => .of_eq fun system h => ?_
    · rw [h, hresolve]
      exact ⟨rfl, rfl⟩
    obtain ⟨rfl, rfl⟩ := h
    rw [htiming]
    refine .bind (Q := fun _ system' => system' = system) (.discard fun _ h => h)
      fun _ => .pure fun system h => ?_
    exact ⟨foldl_showCommand ⟨c', ctx'⟩ _ _, h⟩
  have hrun := h start rfl
  revert hrun
  rcases (performCommands host path suites).run.run start with ⟨result, system⟩
  cases result with
  | ok o =>
      rintro ⟨rfl, rfl⟩
      rfl
  | error e => exact False.elim
end CommandLine

end DeviceLab
