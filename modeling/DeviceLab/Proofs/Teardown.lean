import DeviceLab.Proofs.BackendSteps
import DeviceLab.Proofs.Summing

/-! # Teardown

Every device that was acquired is torn down exactly once, and nothing is asked of the backend after
that.  This holds for every backend; that the devices are then known to be stopped is a matter of
the backends there are.

* `Backend.Supplied.keeps`, `Backend.Supplied.stops`: none of the steps of the backends there are
  changes which device it works on, and teardown leaves it stopped.
* `Run.Finishes.teardown_once`: the statement for every run that ends with a report. -/

namespace DeviceLab

variable {σ β α ε : Type} {host : Host σ} {k : DeviceSlot}

open Station

/-! ### The slot of a device -/

namespace Station

/-- The station works on the device of a slot. -/
def At (k : DeviceSlot) (t : Station σ β) : Prop := t.device.slot = k

theorem At.sound : Sound host (At k : Station σ β → Prop) where
  lab _ _ ht _ := ht
  device _ _ ht h := h.trans ht
  memory _ _ ht := ht

theorem slot_of_preserves {x : StateM (Station σ β) α} (h : ∀ k, Preserves (At k) x)
    (t : Station σ β) : (x.run t).2.device.slot = t.device.slot :=
  h _ t rfl

theorem slot_of_upholds {x : DeviceStep σ β ε α} (h : ∀ k, Upholds (At k) x) (t : Station σ β) :
    (x.run.run t).2.device.slot = t.device.slot :=
  slot_of_preserves (fun k => .attempt (h k)) t

end Station

/-! ### The backends that there are -/

/-- The last thing that the teardown of a scripted device does is to note that it is stopped. -/
theorem Scripted.teardown_stops :
    Leads (fun _ => True) (Scripted.backend host).teardown
      fun _ t => t.device.health = .stopped := by
  have hend : Leads (fun _ => True) (setHealth .stopped : StateM (Station σ FaultScript) Unit)
      fun _ t => t.device.health = .stopped :=
    .modify fun _ _ => rfl
  refine .bind (Q := fun _ _ => True) (.get fun _ h => h) fun t => ?_
  cases t.device.process with
  | none => exact hend
  | some id => exact .bind (Q := fun _ _ => True) (fun _ _ => trivial) fun _ => hend

theorem EmulatorControl.teardown_stops {e : EmulatorControl} :
    Leads (fun _ => True) (EmulatorControl.backend host e).teardown
      fun _ t => t.device.health = .stopped :=
  .bind (Q := fun _ _ => True) (fun _ _ => trivial) fun _ =>
    .bind (Q := fun _ _ => True) (fun _ _ => trivial) fun _ =>
      .bind (Q := fun _ t => t.device.health = .stopped) (.modify fun _ _ => rfl) fun _ =>
        .modifyGet fun _ h => h

namespace Backend

variable {b : Backend σ β}

/-- No step of a backend that there is changes which device it works on. -/
theorem Supplied.keeps (h : Supplied host b) : b.Keeps Device.slot where
  acquire := slot_of_upholds fun _ => (h.upholds At.sound).acquire
  launch := slot_of_upholds fun _ => (h.upholds At.sound).launch
  redirect := slot_of_upholds fun _ => (h.upholds At.sound).redirect
  abortStart := slot_of_preserves fun _ => (h.upholds At.sound).abortStart
  checkHealth := slot_of_upholds fun _ => (h.upholds At.sound).checkHealth
  startLogCapture := slot_of_upholds fun _ => (h.upholds At.sound).startLogCapture
  install package path := slot_of_upholds fun _ => (h.upholds At.sound).install package path
  collectDiagnostics := slot_of_preserves fun _ => (h.upholds At.sound).collectDiagnostics
  teardown := slot_of_preserves fun _ => (h.upholds At.sound).teardown

/-- Teardown leaves a device stopped. -/
theorem Supplied.stops (h : Supplied host b) (t : Station σ β) :
    (b.teardown.run t).2.device.health = .stopped := by
  induction h with
  | scripted => exact Scripted.teardown_stops t trivial
  | emulators e => exact EmulatorControl.teardown_stops t trivial
  | cancelling point h ih => exact ih _

end Backend

namespace Run

variable {s : Setup σ β} {system : σ} {memory : β} {report : RunReport} {final : Run σ β}

/-- With a backend that there is, a device is known to stand for its slot and to be stopped. -/
theorem Finished.devices_stopped (h : Finished s Device.slot (·.health = .stopped) report final) :
    report.summary.devices.map (fun d => (d.name, d.deviceId, d.consolePort, d.health)) =
      (s.plan.config.boundDevices.take final.devices.length).map
        fun slot => (slot.name, slot.deviceId, slot.consolePort, .stopped) := by
  have hslots : final.devices.map Device.slot =
      s.plan.config.boundDevices.take final.devices.length := by
    rw [h.ended.kept, List.mapIdx_eq_zipIdx_map]
    exact List.zipIdx_map_fst ..
  rw [h.summary.devices, ← hslots, List.map_map, List.map_map]
  refine List.map_congr_left fun d hd => ?_
  simp only [Function.comp_apply, DeviceSummary.ofDevice, Device.name, Device.deviceId,
    h.ended.devices d hd]

/-- In a run of a valid configuration that ends with `report`, the devices whose acquisition
succeeded are the first `n`, each of them is torn down once and in order, and these are the last
calls to the backend.  The report lists these devices and no other ones; with a backend that is
`Supplied`, it tells them by the names of their slots, all stopped. -/
theorem Finishes.teardown_once (hv : s.plan.config.validate = .ok ())
    (h : Finishes s system memory report final) :
    ∃ n before after, final.calls = before ++ after ∧
      (∀ c ∈ before, c.kind ≠ .teardown) ∧ (∀ c ∈ after, c.kind = .teardown) ∧
      acquired before = List.range n ∧ after.map BackendCall.index = List.range n ∧
      report.summary.devices.length = n ∧
      (s.backend.Supplied s.host →
        report.summary.devices.map (fun d => (d.name, d.deviceId, d.consolePort, d.health)) =
          (s.plan.config.boundDevices.take n).map
            fun slot => (slot.name, slot.deviceId, slot.consolePort, .stopped)) := by
  have hvalid := Config.validate_suites hv
  have hfinished := h.finished (P := fun _ => True) s.backend.keeps_nothing hvalid fun _ => trivial
  obtain ⟨before, after, hcalls, hbefore, hafter, hacquired, hindices⟩ := hfinished.ended.calls
  refine ⟨final.devices.length, before, after, hcalls, hbefore, hafter, hacquired, hindices, ?_,
    fun hb => ?_⟩
  · rw [hfinished.summary.devices, List.length_map]
  · exact (h.finished hb.keeps hvalid hb.stops).devices_stopped

/-- The device of the small lab is started at the second attempt only. -/
theorem teardown_once_after_retry : ∃ report final,
    Finishes (Sample.setup Sample.planned) {} Sample.redirectFailsOnce report final ∧
    report.summary.devices.length = 1 ∧
    ∃ n before after, final.calls = before ++ after ∧
      (∀ c ∈ before, c.kind ≠ .teardown) ∧ (∀ c ∈ after, c.kind = .teardown) ∧
      acquired before = List.range n ∧ after.map BackendCall.index = List.range n ∧
      report.summary.devices.length = n ∧
      (Backend.Supplied Sample.host (Sample.setup Sample.planned).backend →
        report.summary.devices.map (fun d => (d.name, d.deviceId, d.consolePort, d.health)) =
          ((Sample.setup Sample.planned).plan.config.boundDevices.take n).map
            fun slot => (slot.name, slot.deviceId, slot.consolePort, .stopped)) := by
  obtain ⟨report, final, h, hlength⟩ := Finishes.of_run (Sample.setup Sample.planned) {}
    Sample.redirectFailsOnce (fun report _ => report.summary.devices.length == 1) 3 (by decide +kernel)
  exact ⟨report, final, h, by simpa using hlength, h.teardown_once (Sample.setup_valid Sample.planned)⟩

end Run

end DeviceLab
