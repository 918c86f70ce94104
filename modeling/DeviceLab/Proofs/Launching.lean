import DeviceLab.Proofs.Commands
import DeviceLab.Proofs.RunInvariants
import DeviceLab.Proofs.Verdict

/-! # What is launched is what is shown

A run pairs the selected suites with its devices by their places, and makes the command of a suite
when it launches an attempt.  The devices stand in their slots from their acquisition on, so the
command is the one that is made for the suite and its device beforehand, at every attempt; and a
launch fails only for reasons that the configuration does not know.

* `Move.AsShown`: what a run launches, or fails to, agrees with what commands are made for.
* `Run.Manned`: the devices stand in their slots, and all moves so far agree.
* `launchSuite_manned`, `startWithin_shown`: an attempt agrees, and so do all of a run.
* `Config.launched_command_eq_shown`: what an accepted configuration promises. -/

namespace DeviceLab

/-! ### Moves -/

/-- What a run does to launch a suite agrees with `d.commandFor`: the suite has a device at its
place, what is launched is its command on that device, and if nothing is launched there is no
command, or there is one and it was not refused as empty. -/
def Move.AsShown (d : Dispatcher) (journal : List Event) : Move → Prop
  | .launched name _ id => ∃ device command,
      (name, device) ∈ d.config.selected.zip d.config.boundDevices ∧
        d.commandFor name device = .ok command ∧
          .launched id (command.launchSpec s!"{name}@{device.name}") ∈ journal
  | .refused name _ (.command cause) => ∃ device,
      (name, device) ∈ d.config.selected.zip d.config.boundDevices ∧
        d.commandFor name device = .error cause
  | .refused name _ (.launch cause) => ∃ device command,
      (name, device) ∈ d.config.selected.zip d.config.boundDevices ∧
        d.commandFor name device = .ok command ∧ ∀ label, cause ≠ .emptyCommand label
  | .refused name _ (.duration _) => ∃ device command,
      (name, device) ∈ d.config.selected.zip d.config.boundDevices ∧
        d.commandFor name device = .ok command
  | _ => True

theorem Move.Plain.asShown {m : Move} (h : m.Plain) (d : Dispatcher) (journal : List Event) :
    m.AsShown d journal := by
  cases m with
  | launched | refused => exact h.elim
  | _ => trivial

/-- It still agrees when more has happened. -/
theorem Move.AsShown.grows {d : Dispatcher} {σ : Type} {lab lab' : Lab σ} {m : Move}
    (h : m.AsShown d lab.journal) (hgrows : Lab.Grows lab lab') : m.AsShown d lab'.journal := by
  cases m with
  | launched name attempt id =>
      obtain ⟨device, command, hmem, hcommand, hevent⟩ := h
      exact ⟨device, command, hmem, hcommand, hgrows.mem hevent⟩
  | refused name attempt cause => cases cause <;> exact h
  | _ => trivial

namespace Run

variable {σ β α : Type} {s : Setup σ β} {slots : List DeviceSlot} {r : Run σ β}

/-- All launches so far agree with what commands are made for. -/
def Shown (s : Setup σ β) (r : Run σ β) : Prop :=
  ∀ m ∈ r.moves.toList, m.AsShown s.plan.dispatcher r.lab.journal

theorem Shown.grows (h : Shown s r) {lab : Lab σ} (hgrows : Lab.Grows r.lab lab) :
    Shown s { r with lab } :=
  fun m hm => (h m hm).grows hgrows

theorem Shown.push (h : Shown s r) {m : Move}
    (hm : m.AsShown s.plan.dispatcher r.lab.journal) :
    Shown s { r with moves := r.moves.push m } := by
  intro other hother
  rw [Array.toList_push, List.mem_append, List.mem_singleton] at hother
  exact hother.elim (h other) fun heq => heq ▸ hm

/-- The devices stand in their slots, and all launches so far agree. -/
structure Manned (s : Setup σ β) (slots : List DeviceSlot) (r : Run σ β) : Prop where
  devices : r.devices.map Device.slot = slots
  shown : Shown s r

theorem Manned.lasting : Lasting s.host (Manned s slots) where
  lab _ _ h hlab := ⟨h.devices, h.shown.grows hlab.evolves.grows⟩
  move _ _ h hm := ⟨h.devices, h.shown.push (hm.asShown _ _)⟩
  notes _ _ _ _ _ _ h := ⟨h.devices, h.shown⟩

theorem Shown.lasting : Lasting s.host (Shown s) where
  lab _ _ h hlab := h.grows hlab.evolves.grows
  move _ _ h hm := h.push (hm.asShown _ _)
  notes _ _ _ _ _ _ h := h

/-! ### Steps of the backend -/

/-- What a step leaves of a station: the slot, and what has happened before. -/
abbrev Stays (host : Host σ) (slot : DeviceSlot) (start : Lab σ) (t : Station σ β) : Prop :=
  t.device.slot = slot ∧ Lab.Evolves host start t.lab

theorem stays_sound (host : Host σ) (slot : DeviceSlot) (start : Lab σ) :
    Station.Sound host (Stays (β := β) host slot start) where
  lab _ _ h hlab := ⟨h.1, h.2.trans hlab⟩
  device _ _ h hslot := ⟨hslot.trans h.1, h.2⟩
  memory _ _ h := h

theorem perform_manned {kind : CallKind} {package : Option String} {ending : α → CallResult}
    {step : StateM (Station σ β) α}
    (hstep : ∀ slot start, Preserves (Stays s.host slot start) step) (index : Nat) :
    Preserves (Manned s slots) (perform kind package ending step index) := by
  refine .modifyGet fun r hr => ?_
  cases hdevice : r.devices[index]? with
  | none => exact hr
  | some device =>
      have hstays := hstep device.slot r.lab ⟨device, r.memory, r.lab⟩ ⟨rfl, .refl⟩
      rw [StateT.run] at hstays
      obtain ⟨hlt, hget⟩ := List.getElem?_eq_some_iff.1 hdevice
      refine ⟨?_, (hr.shown.grows hstays.2.grows).push trivial⟩
      simp only [List.map_set, hstays.1]
      rw [← hget, ← List.getElem_map Device.slot (h := by simpa using hlt), List.set_getElem_self]
      exact hr.devices

theorem acquireOne_manned {acquired : List DeviceSlot} (hb : s.backend.Supplied s.host)
    (index : Nat) (slot : DeviceSlot) :
    Ends (Manned s acquired) (acquireOne s index slot)
      (fun _ => Manned s (acquired ++ [slot])) fun _ => Shown s := by
  refine .of_eq fun r hr => ?_
  refine .bind (Q := fun run r' => run = r ∧ r' = r) (.get fun _ h => ⟨h, h⟩) fun run => ?_
  refine .of_eq fun r' hr' => ?_
  obtain ⟨rfl, rfl⟩ := hr'
  dsimp only
  have hstays := Preserves.attempt (hb.upholds (stays_sound s.host slot r'.lab)).acquire
    ⟨{ index, slot }, r'.memory, r'.lab⟩ ⟨rfl, .refl⟩
  rw [StateT.run] at hstays
  generalize s.backend.acquire.run _ = outcome at hstays ⊢
  obtain ⟨result, station⟩ := outcome
  -- the call is written down whatever the backend answers
  refine .bind (.set (Q := fun _ r₁ => r₁ = _) fun _ _ => rfl) fun _ => ?_
  have hshown := hr.shown.grows hstays.2.grows
  cases result with
  | ok _ =>
      refine .modify fun r₁ hr₁ => ?_
      subst hr₁
      refine ⟨?_, hshown.push trivial⟩
      rw [List.map_append, hr.devices, List.map_singleton, hstays.1]
  | error e =>
      refine .throw fun r₁ hr₁ => ?_
      subst hr₁
      exact hshown.push trivial

/-- When the devices have been acquired they stand in the slots of the selected suites. -/
theorem acquireDevices_manned (hb : s.backend.Supplied s.host) :
    Ends (Manned s []) (acquireDevices s) (fun _ => Manned s s.plan.config.boundDevices)
      fun _ => Shown s := by
  have hfrom : ∀ (slots acquired : List DeviceSlot) (index : Nat),
      Ends (Manned s acquired) (acquireFrom s index slots) (fun _ => Manned s (acquired ++ slots))
        fun _ => Shown s := by
    intro slots
    induction slots with
    | nil => exact fun acquired index => .pure fun _ h => by rwa [List.append_nil]
    | cons slot rest ih =>
        intro acquired index
        rw [List.append_cons acquired slot rest]
        exact .bind (acquireOne_manned hb index slot) fun _ => ih _ _
  exact hfrom _ [] 0

/-! ### Launches -/

section Suites

variable (hv : s.plan.config.validate = .ok ()) {name : String} {index : Nat}
  (hname : s.plan.config.selected[index]? = some name)

include hv hname

/-- The device at the place of a suite is the one that the suite is paired with. -/
theorem Manned.device (h : Manned s s.plan.config.boundDevices r) :
    ∃ device, r.devices[index]? = some device ∧
      (name, device.slot) ∈ s.plan.config.selected.zip s.plan.config.boundDevices := by
  obtain ⟨slot, hslot⟩ := (Config.launchable hv hname).device
  obtain ⟨device, hdevice, rfl⟩ : ∃ device, r.devices[index]? = some device ∧ device.slot = slot := by
    rw [← h.devices, List.getElem?_map] at hslot
    exact Option.map_eq_some_iff.1 hslot
  exact ⟨device, hdevice, List.mem_of_getElem? (List.getElem?_zip_eq_some.2 ⟨hname, hslot⟩)⟩

omit hv hname in
/-- A launch is written down by the supervisor, or fails for a reason of the system. -/
theorem onLab_launch_manned {spec : LaunchSpec} (hspec : spec.argv ≠ []) :
    Leads (Manned s slots) (onLab (Lab.launch s.host spec).run) fun result r =>
      Manned s slots r ∧ match result with
        | .ok id => .launched id spec ∈ r.lab.journal
        | .error cause => ∀ label, cause ≠ .emptyCommand label := by
  refine .modifyGet fun r hr => ?_
  have hlaunch := ((Lab.launch_spec s.host spec r.lab).and
    (Lab.launch_nonempty hspec)) r.lab ⟨rfl, trivial⟩
  revert hlaunch
  rw [StateT.run]
  rcases (Lab.launch s.host spec).run r.lab with ⟨result, lab⟩
  cases result with
  | ok id =>
      rintro ⟨h, -⟩
      refine ⟨Manned.lasting.lab r lab hr (.single (.launched h)), ?_⟩
      obtain ⟨capture, between, pid, after, -, -, -, rfl⟩ := h
      exact List.mem_append_right _ (List.mem_singleton.2 rfl)
  | error cause =>
      rintro ⟨h, hcause⟩
      exact ⟨Manned.lasting.lab r lab hr (.single (.unlaunched h)), hcause⟩

/-- What is launched is the command that is made for the suite and its device; if nothing is, the
refusal agrees with that too. -/
theorem launchSuite_manned (attempt : Nat) :
    Ends (Manned s s.plan.config.boundDevices) (launchSuite s name index attempt)
      (fun _ => Manned s s.plan.config.boundDevices) fun cause r =>
        (Move.refused name attempt cause).AsShown s.plan.dispatcher r.lab.journal ∧
          Manned s s.plan.config.boundDevices r := by
  have hfits := Config.launchable hv hname
  obtain ⟨suite, category, -, hsuite, -⟩ := hfits.suite
  have hsuite : s.plan.dispatcher.suite name = .ok (suite, category) := hsuite _
  refine .of_eq fun r hr => ?_
  obtain ⟨device, hdevice, hpair⟩ := hr.device hv hname
  unfold launchSuite
  refine .bind (Q := fun run r' => run = r ∧ r' = r) (.get fun _ h => ⟨h, h⟩) fun run => ?_
  refine .of_eq fun r' hr' => ?_
  obtain ⟨rfl, rfl⟩ := hr'
  rw [hdevice]
  dsimp only
  rw [hsuite]
  refine .bind (Q := fun found r₁ => found = (suite, category) ∧ r₁ = r')
    (.adapt fun _ h => ⟨rfl, h⟩) fun found => .of_eq fun r₁ hr₁ => ?_
  obtain ⟨rfl, rfl⟩ := hr₁
  rcases hfits.command s.plan.context device.slot with ⟨command, hcommand, hargv⟩ | ⟨cause, hcause⟩
  · have hcommand : s.plan.dispatcher.commandFor name device.slot = .ok command := hcommand
    rw [hcommand]
    refine .bind (Q := fun found r => found = command ∧ r = r₁) (.adapt fun _ h => ⟨rfl, h⟩)
      fun found => .of_eq fun r hr' => ?_
    obtain ⟨rfl, rfl⟩ := hr'
    refine .bind (.lift ((onLab_launch_manned hargv).conseq
      (fun _ h => (h ▸ hr : Manned s s.plan.config.boundDevices _)) fun _ _ h => h))
      fun launched => ?_
    cases launched with
    | error cause => exact .throw fun _ h => ⟨⟨_, _, hpair, hcommand, h.2⟩, h.1⟩
    | ok id =>
        refine .bind (Q := fun _ => Manned s s.plan.config.boundDevices) (.modify fun r h =>
          ⟨h.1.devices, h.1.shown.push ⟨_, _, hpair, hcommand, h.2⟩⟩) fun _ => ?_
        dsimp only
        split
        · exact .throw fun _ h => ⟨⟨_, _, hpair, hcommand⟩, h⟩
        · exact .bind (.lift (now_lasts Manned.lasting)) fun now =>
            .bind (Q := fun _ => Manned s s.plan.config.boundDevices)
              (.modify fun r h => Manned.lasting.notes r _ _ _ _ _ h) fun _ =>
                .pure fun _ h => h
  · have hcause : s.plan.dispatcher.commandFor name device.slot = _ := hcause
    rw [hcause]
    refine .bind (Q := fun _ _ => False) (.adapt fun r' h => ?_) fun _ => .absurd
    rw [h]
    exact ⟨⟨_, hpair, hcause⟩, hr⟩

theorem trigger_manned (attempt : Nat) :
    Upholds (Manned s s.plan.config.boundDevices) (trigger s name index attempt) := by
  refine Ends.tryCatch (launchSuite_manned hv hname attempt) fun cause => ?_
  exact .bind (Q := fun _ => Manned s s.plan.config.boundDevices)
    (.modify fun r h => ⟨h.2.devices, h.2.shown.push h.1⟩) fun _ => .throw fun _ h => h

end Suites

/-! ### The whole run -/

theorem performPlain_manned {kind : CallKind} {step : StateM (Station σ β) Unit}
    (hstep : ∀ slot start, Preserves (Stays s.host slot start) step) (index : Nat) :
    Preserves (Manned s slots) (performPlain kind step index) :=
  .discard (perform_manned hstep index)

theorem performStep_manned {kind : CallKind} {step : DeviceStep σ β DeviceError Unit}
    (hstep : ∀ slot start, Upholds (Stays s.host slot start) step) (index : Nat) :
    Upholds (Manned s slots) (performStep kind step index) := by
  refine .bind (.lift (perform_manned (fun slot start => .attempt (hstep slot start)) index))
    fun outcome => ?_
  split
  · exact .throw
  · exact .pure

theorem startDevices_manned (hb : s.backend.Supplied s.host) :
    Upholds (Manned s slots) (startDevices s) := by
  have hup (slot : DeviceSlot) (start : Lab σ) := hb.upholds (stays_sound s.host slot start)
  refine startDevices_lasts Manned.lasting (startAttempt_upholds
    (performStep_manned fun slot start => (hup slot start).launch)
    (performStep_manned fun slot start => (hup slot start).redirect)
    (performStep_manned fun slot start => (hup slot start).checkHealth)) ?_
  exact .bind .get fun _ =>
    .forM (performPlain_manned fun slot start => (hup slot start).abortStart)

/-- In every run of an accepted configuration, however it ends, all launches of suites agree with
what commands are made for. -/
theorem startWithin_shown (hv : s.plan.config.validate = .ok ())
    (hb : s.backend.Supplied s.host) (passes : Nat) :
    Ends (Manned s []) (startWithin s passes) (fun _ => Shown s) fun _ => Shown s := by
  have hup (slot : DeviceSlot) (start : Lab σ) := hb.upholds (stays_sound s.host slot start)
  have hinstall : ∀ index package path, Preserves (Manned s s.plan.config.boundDevices)
      (installOne s index package path) := by
    refine fun index package path => .bind (perform_manned
      (fun slot start => .attempt ((hup slot start).install package path)) index) fun outcome => ?_
    split <;> exact .pure
  have hteardown : ∀ index, Preserves (Shown s)
      (performPlain .teardown s.backend.teardown index) := fun index r hr =>
    (performPlain_manned (fun slot start => (hup slot start).teardown) index r ⟨rfl, hr⟩).shown
  have hshown : ∀ {slots} (r : Run σ β), Manned s slots r → Shown s r := fun _ h => h.shown
  have hexecute := execute_lasts Manned.lasting Manned.lasting Manned.lasting hshown hshown
    hshown (acquireDevices_manned hb)
    (Ends.weaken (startDevices_manned hb) (fun _ _ h => h) fun _ _ h => h.shown)
    (fun index => perform_manned (fun slot start => .attempt (hup slot start).startLogCapture) index)
    hinstall
    (fun index => performPlain_manned (fun slot start => (hup slot start).collectDiagnostics) index)
    (fun name index attempt hname => trigger_manned hv hname attempt) passes
  exact startWithin_logged (fun r lab h hgrows => h.grows hgrows) (now_lasts Manned.lasting)
    (carryOut_lasts Shown.lasting hexecute hteardown)

end Run

namespace Config

open CommandLine

/-- **What is launched is what is shown.**  An accepted configuration `c` has as many
`boundDevices` as selected suites, and each of these is `Launchable`; no command of an emulator is
empty.  In every run, on every host, whatever is launched for a suite is its command on the device
that it is paired with, and if nothing is launched that is not because the command is empty, or
missing for a reason other than the one shown (`Move.AsShown`).  `performCommands` shows the
commands of all these pairs. -/
theorem launched_command_eq_shown {c : Config} (hv : c.validate = .ok ()) :
    c.boundDevices.length = c.selected.length ∧
      (∀ index name, c.selected[index]? = some name → c.Launchable index name) ∧
      (∀ (σ : Type) (host : Host σ) (ctx : RunContext) (timing : Timing),
        EmulatorControl.NeverEmpty ((EmulatorControl.ofConfig c ctx timing).backend host)) ∧
      (∀ (σ β : Type) (s : Setup σ β), s.plan.config = c → s.backend.Supplied s.host →
        ∀ (passes : Nat) (system : σ) (memory : β),
          let final := ((Run.startWithin s passes).run.run (.fresh s.plan system memory)).2
          ∀ m ∈ final.moves.toList, m.AsShown s.plan.dispatcher final.lab.journal) ∧
      ∀ (σ : Type) (host : Host σ) (path : String) (suites : List String) (ctx : RunContext)
        (timing : Timing) (start between final : σ),
        (loadConfig host path suites).run.run start = (.ok c, between) →
        (resolveContext host c).run.run between = (.ok ctx, final) →
        c.timing.toTiming = .ok timing →
        (performCommands host path suites).run.run start = (.ok (shown ⟨c, ctx⟩), final) := by
  have hcommands := (validate_ok_iff.1 hv).commands
  refine ⟨length_boundDevices hv, fun _ _ => launchable hv, fun σ host ctx timing => ?_, ?_,
    fun _ _ _ _ _ _ _ _ _ hload hresolve htiming => performCommands_shows hload hresolve htiming⟩
  · exact EmulatorControl.backend_nonempty hcommands.command hcommands.installCommand
  · rintro σ β s rfl hb passes system memory
    exact (Run.startWithin_shown hv hb passes).leads _ ⟨rfl, fun m hm => nomatch hm⟩

open Run in
/-- In the small lab a suite is launched a second time, with the command that is shown for it. -/
theorem launched_command_eq_shown_both : Sample.both.validate = .ok () ∧
    Sample.both.boundDevices.length = Sample.both.selected.length ∧
    Sample.both.Launchable 0 "again" ∧ ∃ report final,
      Finishes (Sample.setup Sample.planned_both) {} {} report final ∧
      launches "again" final.moves.toList = 2 ∧ ∀ m ∈ final.moves.toList,
        m.AsShown (Sample.setup Sample.planned_both).plan.dispatcher final.lab.journal := by
  obtain ⟨hconfig, hvalid⟩ := Sample.setup_config Sample.planned_both
  obtain ⟨hlength, hlaunchable, -, hruns, -⟩ := launched_command_eq_shown hvalid
  obtain ⟨report, final, h, hentered, hsuites⟩ := Sample.finishes_both
  have hlaunches : launches "again" final.moves.toList = 2 := by
    have hrow : ("again", 2, some .rerunExhausted) ∈
        report.summary.suites.map fun x => (x.suite, x.attempts, x.failureKind) := by
      rw [hsuites]
      exact .tail _ (.head _)
    obtain ⟨x, hx, heq⟩ := List.mem_map.1 hrow
    obtain ⟨hsuite, hattempts, -⟩ : x.suite = "again" ∧ x.attempts = 2 ∧ _ := by
      simpa only [Prod.mk.injEq] using heq
    have hfaithful := h.faithful (Sample.setup_valid Sample.planned_both) hentered x hx
    rw [← hsuite, ← hfaithful.1, hattempts]
  obtain ⟨passes, hfinal⟩ := h
  have hmoves := hruns _ _ (Sample.setup Sample.planned_both) hconfig .scripted passes {} {}
  refine ⟨hvalid, hlength, hlaunchable 0 "again" rfl, report, final, ⟨passes, hfinal⟩, hlaunches,
    ?_⟩
  rwa [show (startWithin (Sample.setup Sample.planned_both) passes).run.run _ = _ from hfinal]
    at hmoves

end Config

end DeviceLab
