import DeviceLab.Proofs.Booting
import DeviceLab.Proofs.Leftovers
import DeviceLab.Proofs.RunInvariants

/-! # One emulator for each device

An emulator belongs to the device for which it was launched until it has been seen to exit.  While a
run starts its devices it may launch a part of them, fail, and begin anew; what an attempt has
launched is ended before the next one, so that a device never has two.

* `Visit.Succeeds`: an end of a half-started emulator that did not fail.
* `Tracks`: the handle of a device is that of its last emulator, which is held.
* `Attested`, `Chronicle`: what is known of a step by those before it, and of all steps of a run.
* `Tenancy`: what holds at any time of a run; `Tenancy.called` carries it through a step.
* `Resting`, `Launching`, `Aborting`: where a run stands that is starting its devices. -/

namespace DeviceLab

variable {σ β α ε : Type} {host : Host σ}

open Lab

/-! ### The log -/

/-- If the step was to end the emulator of the device, that did not fail. -/
def Visit.Succeeds (host : Host σ) (v : Visit σ) : Prop :=
  v.kind = .abortStart → ∀ id, v.before.device.process = some id →
    ∃ lab o, (terminate host id).run.run lab = (.ok o, v.after.lab)

/-- No such step failed. -/
def VisitLog.Succeeds (host : Host σ) (log : VisitLog σ) : Prop :=
  ∀ entry ∈ log, entry.2.Succeeds host

/-- The handle of a device, if it has one, is that of its last emulator, which is held. -/
def Tracks (log : VisitLog σ) (t : Station σ Unit) : Prop :=
  ∀ id, t.device.process = some id →
    (log.emulators t.device.index).getLast? = some id ∧ (t.lab.supervisor.proc? id).isSome

namespace VisitLog

variable {log : VisitLog σ} {v : Visit σ} {n index : Nat} {id : ProcessId}

theorem emulators_launch (hkind : v.kind = .launch) (hindex : v.before.device.index = index) :
    emulators (log ++ [(n, v)]) index = log.emulators index ++ v.started := by
  simp [emulators, hkind, hindex]

theorem emulators_other (h : v.kind ≠ .launch ∨ v.before.device.index ≠ index) :
    emulators (log ++ [(n, v)]) index = log.emulators index := by
  have hskip : (v.kind == .launch && v.before.device.index == index) = false := by
    simpa [Decidable.or_iff_not_imp_left] using h
  simp [emulators, hskip]

theorem mem_emulators : id ∈ log.emulators index ↔
    ∃ entry ∈ log, entry.2.kind = .launch ∧ entry.2.before.device.index = index ∧
      id ∈ entry.2.started := by
  simp [emulators, and_assoc]

theorem Succeeds.past (h : Succeeds host (log ++ [(n, v)])) : log.Succeeds host :=
  fun entry hentry => h entry (List.mem_append_left _ hentry)

theorem Succeeds.last (h : Succeeds host (log ++ [(n, v)])) : v.Succeeds host :=
  h (n, v) (List.mem_append_right _ (List.mem_singleton_self _))

end VisitLog

theorem Visit.given_of_started {v : Visit σ} {id : ProcessId} (h : id ∈ v.started) :
    Lab.Given v.after.lab.journal id := by
  obtain ⟨event, hevent, hid⟩ := List.mem_filterMap.1 h
  cases event with
  | launched other spec =>
      cases hid
      exact ⟨spec, List.mem_of_mem_drop hevent⟩
  | _ => cases hid

/-- What is known of a step by the steps before it. -/
structure Attested (host : Host σ) (start : Lab σ) (past : VisitLog σ) (n : Nat) (v : Visit σ) :
    Prop where
  since : Evolves host start v.before.lab
  evolves : Evolves host v.before.lab v.after.lab
  before : Tracks past v.before
  after : Tracks (past ++ [(n, v)]) v.after
  /-- A launch starts one process at most, with a new handle. -/
  started : v.kind = .launch → v.started.length ≤ 1 ∧
    ∀ id ∈ v.started, ¬Lab.Given v.before.lab.journal id
  /-- An end either fails, or leaves the lab that it leads to. -/
  ended : v.kind = .abortStart → ∀ id, v.before.device.process = some id →
    ∃ lab, Retains host v.before.lab lab ∧ lab.journal = v.before.lab.journal ∧
      ∀ o lab', (terminate host id).run.run lab = (.ok o, lab') → v.after.lab = lab'
  /-- At a launch all emulators of earlier attempts, and all of the same device, have exited. -/
  settled : v.kind = .launch → past.Succeeds host →
    ∀ entry ∈ past, entry.2.kind = .launch →
      (entry.1 < n ∨ entry.2.before.device.index = v.before.device.index) →
        ∀ id ∈ entry.2.started, Lab.Exited v.before.lab.journal id

/-- So much is known of every step. -/
def Chronicle (host : Host σ) (start : Lab σ) (log : VisitLog σ) : Prop :=
  ∀ past n v rest, log = past ++ (n, v) :: rest → Attested host start past n v

theorem Chronicle.nil {start : Lab σ} : Chronicle host start [] := by
  intro past n v rest h
  cases past <;> cases h

theorem Chronicle.snoc {start : Lab σ} {log : VisitLog σ} {n : Nat} {v : Visit σ}
    (h : Chronicle host start log) (hv : Attested host start log n v) :
    Chronicle host start (log ++ [(n, v)]) := by
  intro past m w rest heq
  rcases List.eq_nil_or_concat rest with rfl | ⟨rest, last, rfl⟩
  · obtain ⟨rfl, hlast⟩ := List.append_inj' heq rfl
    cases hlast
    exact hv
  · have hsplit : log ++ [(n, v)] = (past ++ (m, w) :: rest) ++ [last] := by
      rw [heq, List.concat_eq_append, List.append_assoc, List.cons_append]
    obtain ⟨rfl, -⟩ := List.append_inj' hsplit rfl
    exact h past m w rest rfl

/-- A launch starts the new emulator of the device, or nothing. -/
theorem Boots.started {v : Visit σ} (h : Boots host v.before v.after) (hbefore : Orderly v.before.lab)
    (hnone : v.before.device.process = none) :
    v.started = [] ∧ v.after.device.process = none ∨
      ∃ id, v.started = [id] ∧ v.after.device.process = some id ∧
        ¬Lab.Given v.before.lab.journal id ∧ InUse v.after.lab.journal id := by
  rcases h.process with ⟨hprocess, hjournal⟩ | ⟨id, spec, hnew, hprocess, hjournal⟩
  · refine .inl ⟨?_, hprocess.trans hnone⟩
    rw [Visit.started, hjournal, List.drop_length, List.filterMap_nil]
  · refine .inr ⟨id, ?_, hprocess, hnew, ⟨spec, ?_⟩, fun hreleased => hnew ?_⟩
    · rw [Visit.started, hjournal, List.drop_left]
      rfl
    · rw [hjournal]
      exact List.mem_append_right _ (List.mem_singleton_self _)
    · rw [hjournal] at hreleased
      refine hbefore.released id ((List.mem_append.1 hreleased).resolve_right fun hlast => ?_)
      cases List.mem_singleton.1 hlast

/-- What is known of the steps of a log is known of each. -/
theorem Chronicle.attested {start : Lab σ} {log : VisitLog σ} (h : Chronicle host start log)
    {entry : Nat × Visit σ} (hentry : entry ∈ log) :
    ∃ past, Attested host start past entry.1 entry.2 := by
  obtain ⟨past, rest, heq⟩ := List.append_of_mem hentry
  exact ⟨past, h past entry.1 entry.2 rest heq⟩

namespace Run

/-! ### At any time -/

/-- The steps of a run have been written down, and enough is known of each. -/
structure Chronicled (host : Host σ) (start : Lab σ) (r : Run σ (β × List (Visit σ))) : Prop where
  tallied : Tallied r
  chronicle : Chronicle host start r.log
  latest : ∀ entry ∈ r.log, Grows entry.2.after.lab r.lab

/-- What holds of a run whose steps are written down, since a lab. -/
structure Tenancy (host : Host σ) (start : Lab σ) (r : Run σ (β × List (Visit σ))) : Prop
    extends Chronicled host start r where
  since : Evolves host start r.lab
  places : ∀ (i : Nat) (d : Device), r.devices[i]? = some d → d.index = i
  tracked : ∀ (i : Nat) (d : Device), r.devices[i]? = some d → Tracks r.log ⟨d, (), r.lab⟩
  /-- A companion is no emulator. -/
  companion : ∀ (i : Nat) (d : Device) (id : ProcessId), r.devices[i]? = some d →
    d.logcat = some id → Lab.Given r.lab.journal id ∧ ∀ index, id ∉ r.log.emulators index
  /-- An emulator has exited, or is the one that its device has. -/
  accounted : r.log.Succeeds host → ∀ index, ∀ id ∈ r.log.emulators index,
    Lab.Exited r.lab.journal id ∨ ∃ d, r.devices[index]? = some d ∧ d.process = some id

/-- A step with a device has been taken and written down. -/
structure Called (index : Nat) (v : Visit σ) (r r' : Run σ (β × List (Visit σ))) : Prop where
  device : r.devices[index]? = some v.before.device
  before : v.before.lab = r.lab
  devices : r'.devices = r.devices.set index v.after.device
  after : r'.lab = v.after.lab
  memory : r'.memory.2 = r.memory.2 ++ [v]
  moves : ∃ call, r'.moves = r.moves.push (.called call) ∧ v.mark = call.mark

/-- Nothing else of a run matters. -/
theorem Tenancy.congr {start : Lab σ} {r r' : Run σ (β × List (Visit σ))} (h : Tenancy host start r)
    (hlab : r'.lab = r.lab) (hdevices : r'.devices = r.devices) (hlog : r'.log = r.log)
    (htallied : Tallied r') : Tenancy host start r' := by
  obtain ⟨⟨-, hchronicle, hlatest⟩, hsince, hplaces, htracked, hcompanion, haccounted⟩ := h
  rw [← hlab] at hsince hlatest htracked hcompanion haccounted
  rw [← hdevices] at hplaces htracked hcompanion haccounted
  rw [← hlog] at hchronicle hlatest htracked hcompanion haccounted
  exact ⟨⟨htallied, hchronicle, hlatest⟩, hsince, hplaces, htracked, hcompanion, haccounted⟩

/-- A move that is no call changes nothing. -/
theorem Tenancy.push {start : Lab σ} {r : Run σ (β × List (Visit σ))} (h : Tenancy host start r)
    {move : Move} (hmove : move.call? = none) :
    Tenancy host start { r with moves := r.moves.push move } :=
  h.congr rfl rfl (log_push hmove) (h.tallied.push hmove)

section Called

variable {start : Lab σ} {r r' : Run σ (β × List (Visit σ))} {index : Nat} {v : Visit σ}

theorem Called.log (h : Called index v r r') (ht : Tallied r) : r'.log = r.log ++ [(r.attempt, v)] := by
  obtain ⟨call, hmoves, -⟩ := h.moves
  exact ht.log_visit h.memory hmoves

theorem Called.attempt (h : Called index v r r') : r'.attempt = r.attempt := by
  obtain ⟨call, hmoves, -⟩ := h.moves
  exact attempt_called hmoves

/-- After a step the device stands where it stood, and all others are as they were. -/
theorem Called.device? (h : Called index v r r') {i : Nat} {d : Device}
    (hd : r'.devices[i]? = some d) : i = index ∧ d = v.after.device ∨
      i ≠ index ∧ r.devices[i]? = some d := by
  rw [h.devices, List.getElem?_set] at hd
  split at hd
  · next heq =>
      subst heq
      split at hd
      · exact .inl ⟨rfl, (Option.some.inj hd).symm⟩
      · cases hd
  · next hne => exact .inr ⟨fun heq => hne heq.symm, hd⟩

theorem Called.device_self (h : Called index v r r') :
    r'.devices[index]? = some v.after.device := by
  rw [h.devices, List.getElem?_set_self]
  exact (List.getElem?_eq_some_iff.1 h.device).1

theorem Called.device_other (h : Called index v r r') {i : Nat} (hi : i ≠ index) :
    r'.devices[i]? = r.devices[i]? := by
  rw [h.devices, List.getElem?_set_ne hi.symm]

theorem Called.evolves (h : Called index v r r') (hk : Keeps host v.before v.after) :
    Evolves host r.lab r'.lab := by
  rw [← h.before, h.after]
  exact hk.evolves

/-- Before a step the handle of the device is that of its last emulator. -/
theorem Tenancy.tracked_before (h : Tenancy host start r) (hc : Called index v r r') :
    Tracks r.log v.before := by
  have htracks := h.tracked index _ hc.device
  rw [← hc.before] at htracks
  exact htracks

theorem Tenancy.given (h : Tenancy host start r) {id : ProcessId} (hid : id ∈ r.log.emulators index) :
    Lab.Given r.lab.journal id := by
  obtain ⟨entry, hentry, -, -, hstarted⟩ := VisitLog.mem_emulators.1 hid
  exact (h.latest entry hentry).given (Visit.given_of_started hstarted)

/-- A companion of a device is not the emulator of any. -/
theorem Tenancy.logcat_ne (h : Tenancy host start r) (hc : Called index v r r') {i : Nat} {d : Device}
    (hd : r.devices[i]? = some d) {id : ProcessId} (hid : d.process = some id) :
    v.before.device.logcat ≠ some id := fun hlogcat =>
  (h.companion index _ id hc.device hlogcat).2 d.index
    (List.mem_of_getLast? (h.tracked i d hd id hid).1)

/-- Only the device of a step can have a new emulator after it. -/
theorem Tenancy.emulators_other (h : Tenancy host start r) (hc : Called index v r r') {i : Nat}
    (hi : i ≠ index) : r'.log.emulators i = r.log.emulators i := by
  have hindex : v.before.device.index = index := h.places index _ hc.device
  rw [hc.log h.tallied, VisitLog.emulators_other (.inr (hindex ▸ hi.symm))]

/-- Whatever a step launches has a new handle. -/
theorem Tenancy.old_of_given (h : Tenancy host start r) (hc : Called index v r r')
    (hv : Attested host start r.log r.attempt v) {i : Nat} {id : ProcessId}
    (hid : id ∈ r'.log.emulators i) (hgiven : Lab.Given r.lab.journal id) :
    id ∈ r.log.emulators i := by
  rw [hc.log h.tallied] at hid
  by_cases hlaunch : v.kind = .launch ∧ v.before.device.index = i
  · rw [VisitLog.emulators_launch hlaunch.1 hlaunch.2] at hid
    rcases List.mem_append.1 hid with hid | hid
    · exact hid
    · refine absurd hgiven ?_
      rw [← hc.before]
      exact (hv.started hlaunch.1).2 id hid
  · rwa [VisitLog.emulators_other (Decidable.not_and_iff_or_not.1 hlaunch)] at hid

/-- After a step a companion is still no emulator. -/
theorem Tenancy.companion_called (h : Tenancy host start r) (hc : Called index v r r')
    (hk : Keeps host v.before v.after) (hv : Attested host start r.log r.attempt v)
    (hcompanion : v.kind = .launch → v.after.device.logcat = v.before.device.logcat) {i : Nat}
    {d : Device} {id : ProcessId} (hd : r'.devices[i]? = some d) (hid : d.logcat = some id) :
    Lab.Given r'.lab.journal id ∧ ∀ index, id ∉ r'.log.emulators index := by
  have hold : ∀ i (d : Device), r.devices[i]? = some d → d.logcat = some id →
      Lab.Given r'.lab.journal id ∧ ∀ index, id ∉ r'.log.emulators index := fun i d hd hid => by
    obtain ⟨hgiven, hnone⟩ := h.companion i d id hd hid
    exact ⟨(hc.evolves hk).grows.given hgiven,
      fun j hmem => hnone j (h.old_of_given hc hv hmem hgiven)⟩
  rcases hc.device? hd with ⟨rfl, rfl⟩ | ⟨-, hd⟩
  · by_cases hkind : v.kind = .launch
    · exact hold i _ hc.device (hcompanion hkind ▸ hid)
    rcases hk.logcat id hid with hlogcat | ⟨hunused, hgiven⟩
    · exact hold i _ hc.device hlogcat
    · rw [hc.after]
      refine ⟨hgiven, fun j hmem => hunused ?_⟩
      rw [hc.log h.tallied, VisitLog.emulators_other (.inl hkind)] at hmem
      rw [hc.before]
      exact h.given hmem
  · exact hold i d hd hid

variable (hstart : Orderly start)

include hstart

/-- What is held before a step, and is no companion, is held after it. -/
theorem Tenancy.held (h : Tenancy host start r) (hc : Called index v r r')
    (hk : Keeps host v.before v.after) {i : Nat} {d : Device} (hd : r.devices[i]? = some d)
    {id : ProcessId} (hid : d.process = some id) : (r'.lab.supervisor.proc? id).isSome := by
  have horder : Orderly v.before.lab := by
    rw [hc.before]
    exact h.since.orderly hstart
  have hbefore : (v.before.lab.supervisor.proc? id).isSome := by
    rw [hc.before]
    exact (h.tracked i d hd id hid).2
  rw [hc.after, (hk.evolves.orderly horder).held]
  exact hk.inUse id (h.logcat_ne hc hd hid) ((horder.held id).1 hbefore)

/-- After a step the handle of each device is that of its last emulator. -/
theorem Tenancy.tracked_called (h : Tenancy host start r) (hc : Called index v r r')
    (hk : Keeps host v.before v.after) (hv : Attested host start r.log r.attempt v) {i : Nat}
    {d : Device} (hd : r'.devices[i]? = some d) : Tracks r'.log ⟨d, (), r'.lab⟩ := by
  rcases hc.device? hd with ⟨rfl, rfl⟩ | ⟨hi, hd⟩
  · rw [hc.log h.tallied, hc.after]
    exact hv.after
  · intro id hid
    have htracks := h.tracked i d hd id hid
    refine ⟨?_, h.held hstart hc hk hd hid⟩
    rw [h.places i d hd] at htracks ⊢
    rw [h.emulators_other hc hi]
    exact htracks.1

/-- A step that keeps the handles in order, and of which enough is known, leaves a run as it is. -/
theorem Tenancy.called (h : Tenancy host start r) (hc : Called index v r r')
    (hk : Keeps host v.before v.after) (hv : Attested host start r.log r.attempt v)
    (hcompanion : v.kind = .launch → v.after.device.logcat = v.before.device.logcat)
    (haccounted : r'.log.Succeeds host → ∀ id ∈ r'.log.emulators index,
      Lab.Exited r'.lab.journal id ∨ v.after.device.process = some id) : Tenancy host start r' := by
  have hlog := hc.log h.tallied
  have hevolves := hc.evolves hk
  obtain ⟨call, hmoves, hmark⟩ := hc.moves
  refine
    { since := h.since.trans hevolves
      tallied := h.tallied.visit hc.memory hmoves hmark
      chronicle := hlog ▸ h.chronicle.snoc hv
      latest := fun entry hentry => ?_
      places := fun i d hd => ?_
      tracked := fun i d hd => h.tracked_called hstart hc hk hv hd
      companion := fun i d id hd hid => h.companion_called hc hk hv hcompanion hd hid
      accounted := fun hsuccess i id hid => ?_ }
  · rw [hlog] at hentry
    rcases List.mem_append.1 hentry with hentry | hentry
    · exact (h.latest entry hentry).trans hevolves.grows
    · cases List.mem_singleton.1 hentry
      rw [hc.after]
      exact .refl
  · rcases hc.device? hd with ⟨rfl, rfl⟩ | ⟨-, hd⟩
    · rw [hk.index]
      exact h.places i _ hc.device
    · exact h.places i d hd
  · by_cases hi : i = index
    · subst hi
      exact (haccounted hsuccess id hid).imp_right fun hprocess =>
        ⟨v.after.device, hc.device_self, hprocess⟩
    · rw [h.emulators_other hc hi] at hid
      rw [hc.device_other hi]
      exact (h.accounted (hlog ▸ hsuccess).past i id hid).imp_left hevolves.grows.exited

/-- What stays in use during a step is not launched by it, so that the last emulator is the same. -/
theorem Tenancy.minded (h : Tenancy host start r) (hc : Called index v r r')
    (hlaunch : v.kind ≠ .launch) (habort : v.kind ≠ .abortStart) (hm : Minds host v.before v.after) :
    Tenancy host start r' := by
  have hevolves : Grows r.lab r'.lab := by
    rw [← hc.before, hc.after]
    exact hm.evolves.grows
  refine h.called hstart hc hm.toKeeps ⟨?_, hm.evolves, h.tracked_before hc, fun id hid => ?_,
    fun hkind => absurd hkind hlaunch, fun hkind => absurd hkind habort,
    fun hkind => absurd hkind hlaunch⟩ (fun hkind => absurd hkind hlaunch) fun hsuccess id hid => ?_
  · rw [hc.before]
    exact h.since
  · rw [hm.process] at hid
    rw [hm.index, VisitLog.emulators_other (.inl hlaunch), ← hc.after]
    exact ⟨(h.tracked_before hc id hid).1, h.held hstart hc hm.toKeeps hc.device hid⟩
  · rw [hc.log h.tallied, VisitLog.emulators_other (.inl hlaunch)] at hid
    refine (h.accounted (hc.log h.tallied ▸ hsuccess).past index id hid).imp hevolves.exited ?_
    rintro ⟨d, hd, hprocess⟩
    cases hc.device.symm.trans hd
    exact hm.process.trans hprocess

/-- A half-started emulator is taken from its device, and has exited if that did not fail. -/
theorem Tenancy.quit (h : Tenancy host start r) (hc : Called index v r r')
    (hkind : v.kind = .abortStart) (hq : Quits host v.before v.after) : Tenancy host start r' := by
  have hlaunch : v.kind ≠ .launch := by rw [hkind]; exact nofun
  have hbefore : Evolves host start v.before.lab := by
    rw [hc.before]
    exact h.since
  have hafter : Evolves host start r'.lab := by
    rw [hc.after]
    exact hbefore.trans hq.keeps.evolves
  refine h.called hstart hc hq.keeps ⟨hbefore, hq.keeps.evolves, h.tracked_before hc, fun id hid => ?_,
    fun hkind => absurd hkind hlaunch, fun _ => hq.ended,
    fun hkind => absurd hkind hlaunch⟩ (fun hkind => absurd hkind hlaunch) fun hsuccess id hid => ?_
  · rw [hq.process] at hid
    cases hid
  · rw [hc.log h.tallied] at hsuccess hid
    rw [VisitLog.emulators_other (.inl hlaunch)] at hid
    refine .inl ?_
    rcases h.accounted hsuccess.past index id hid with hexited | ⟨d, hd, hprocess⟩
    · exact (hc.evolves hq.keeps).grows.exited hexited
    · cases hc.device.symm.trans hd
      obtain ⟨lab, o, hrun⟩ := hsuccess.last hkind id hprocess
      rw [← hc.after] at hrun
      obtain ⟨pid, hended⟩ := ended_of_terminate hrun
      exact ⟨o, (hafter.orderly hstart).ended id pid o hended⟩

end Called

/-! ### Starting the devices -/

section Phases

variable {start : Lab σ} {r r' : Run σ (β × List (Visit σ))} {index : Nat} {v : Visit σ}

/-- No device has an emulator. -/
structure Resting (host : Host σ) (start : Lab σ) (r : Run σ (β × List (Visit σ))) : Prop where
  tenancy : Tenancy host start r
  idle : ∀ (i : Nat) (d : Device), r.devices[i]? = some d → d.process = none

/-- The devices from an index on have no emulators yet, and those of earlier attempts have exited.
-/
structure Launching (host : Host σ) (start : Lab σ) (index : Nat) (r : Run σ (β × List (Visit σ))) :
    Prop where
  tenancy : Tenancy host start r
  idle : ∀ (i : Nat) (d : Device), index ≤ i → r.devices[i]? = some d → d.process = none
  earlier : r.log.Succeeds host → ∀ entry ∈ r.log, entry.2.kind = .launch → entry.1 < r.attempt →
    ∀ id ∈ entry.2.started, Lab.Exited r.lab.journal id

/-- Of so many devices those up to an index have no emulators any more. -/
structure Aborting (host : Host σ) (start : Lab σ) (count index : Nat)
    (r : Run σ (β × List (Visit σ))) : Prop where
  tenancy : Tenancy host start r
  length : r.devices.length = count
  idle : ∀ (i : Nat) (d : Device), i < index → r.devices[i]? = some d → d.process = none

/-- The next device has no emulator, so all that it had have exited. -/
theorem Launching.exited (h : Launching host start index r) (hsuccess : r.log.Succeeds host)
    {id : ProcessId} (hid : id ∈ r.log.emulators index) : Lab.Exited r.lab.journal id := by
  refine (h.tenancy.accounted hsuccess index id hid).resolve_right ?_
  rintro ⟨d, hd, hprocess⟩
  rw [h.idle index d (Nat.le_refl _) hd] at hprocess
  cases hprocess

variable (hstart : Orderly start)

include hstart

theorem Launching.started (h : Launching host start index r) (hc : Called index v r r')
    (hb : Boots host v.before v.after) :
    v.started = [] ∧ v.after.device.process = none ∨
      ∃ id, v.started = [id] ∧ v.after.device.process = some id ∧
        ¬Lab.Given v.before.lab.journal id ∧ InUse v.after.lab.journal id := by
  have horder : Orderly v.before.lab := by
    rw [hc.before]
    exact h.tenancy.since.orderly hstart
  exact hb.started horder (h.idle index _ (Nat.le_refl _) hc.device)

/-- Enough is known of a launch for the next device. -/
theorem Launching.attested (h : Launching host start index r) (hc : Called index v r r')
    (hkind : v.kind = .launch) (hb : Boots host v.before v.after) :
    Attested host start r.log r.attempt v := by
  have hindex : v.before.device.index = index := h.tenancy.places index _ hc.device
  have hbefore : Evolves host start v.before.lab := by
    rw [hc.before]
    exact h.tenancy.since
  have hstarted := h.started hstart hc hb
  refine ⟨hbefore, hb.keeps.evolves, h.tenancy.tracked_before hc, fun id hid => ?_, fun _ => ?_,
    fun habort => ?_, fun _ hsuccess entry hentry hlaunch hwhen id hid => ?_⟩
  · rw [hb.index, VisitLog.emulators_launch hkind rfl]
    rcases hstarted with ⟨-, hprocess⟩ | ⟨new, hnew, hprocess, -, hinUse⟩
    · rw [hprocess] at hid
      cases hid
    · cases hprocess.symm.trans hid
      rw [hnew, List.getLast?_concat]
      exact ⟨rfl, ((Evolves.orderly (hbefore.trans hb.keeps.evolves) hstart).held id).2 hinUse⟩
  · rcases hstarted with ⟨hnothing, -⟩ | ⟨new, hnew, -, hunused, -⟩
    · rw [hnothing]
      exact ⟨Nat.zero_le _, nofun⟩
    · rw [hnew]
      exact ⟨Nat.le_refl _, fun id hid => List.mem_singleton.1 hid ▸ hunused⟩
  · rw [hkind] at habort
    cases habort
  · rw [hc.before]
    rcases hwhen with hwhen | hwhen
    · exact h.earlier hsuccess entry hentry hlaunch hwhen id hid
    · exact h.exited hsuccess (VisitLog.mem_emulators.2
        ⟨entry, hentry, hlaunch, hwhen.trans hindex, hid⟩)

/-- A launch for the next device leaves those after it without emulators. -/
theorem Launching.booted (h : Launching host start index r) (hc : Called index v r r')
    (hkind : v.kind = .launch) (hb : Boots host v.before v.after) :
    Launching host start (index + 1) r' := by
  have hindex : v.before.device.index = index := h.tenancy.places index _ hc.device
  have hgrows : Grows r.lab r'.lab := (hc.evolves hb.keeps).grows
  have hlog := hc.log h.tenancy.tallied
  refine ⟨h.tenancy.called hstart hc hb.keeps (h.attested hstart hc hkind hb) (fun _ => hb.logcat)
    fun hsuccess id hid => ?_, fun i d hi hd => ?_, fun hsuccess entry hentry hlaunch hwhen id hid => ?_⟩
  · rw [hlog] at hsuccess hid
    rw [VisitLog.emulators_launch hkind hindex] at hid
    rcases List.mem_append.1 hid with hid | hid
    · exact .inl (hgrows.exited (h.exited hsuccess.past hid))
    · rcases h.started hstart hc hb with ⟨hnothing, -⟩ | ⟨new, hnew, hprocess, -, -⟩
      · rw [hnothing] at hid
        cases hid
      · rw [hnew, List.mem_singleton] at hid
        exact .inr (hid ▸ hprocess)
  · rw [hc.device_other (Nat.ne_of_gt hi)] at hd
    exact h.idle i d (Nat.le_of_succ_le hi) hd
  · rw [hlog] at hsuccess hentry
    rw [hc.attempt] at hwhen
    rcases List.mem_append.1 hentry with hentry | hentry
    · exact hgrows.exited (h.earlier hsuccess.past entry hentry hlaunch hwhen id hid)
    · cases List.mem_singleton.1 hentry
      exact absurd hwhen (Nat.lt_irrefl _)

/-- The end of the next device leaves it and those before it without emulators. -/
theorem Aborting.quit {count : Nat} (h : Aborting host start count index r)
    (hc : Called index v r r') (hkind : v.kind = .abortStart) (hq : Quits host v.before v.after) :
    Aborting host start count (index + 1) r' := by
  refine ⟨h.tenancy.quit hstart hc hkind hq, ?_, fun i d hi hd => ?_⟩
  · rw [hc.devices, List.length_set, h.length]
  rcases hc.device? hd with ⟨rfl, rfl⟩ | ⟨hne, hd⟩
  · exact hq.process
  · exact h.idle i d (Nat.lt_of_le_of_ne (Nat.le_of_lt_succ hi) hne) hd

omit hstart in
/-- When that has been done for all of them, no device has an emulator. -/
theorem Aborting.resting {count : Nat} (h : Aborting host start count count r) :
    Resting host start r :=
  ⟨h.tenancy, fun i d hd => h.idle i d (h.length ▸ (List.getElem?_eq_some_iff.1 hd).1) hd⟩

omit hstart in
/-- When no device has an emulator, all that there were have exited, and an attempt may begin. -/
theorem Resting.attempted (h : Resting host start r) (attempt : Nat) :
    Launching host start 0 { r with moves := r.moves.push (.attempted attempt) } := by
  refine ⟨h.tenancy.push rfl, fun i d _ => h.idle i d, fun hsuccess entry hentry hlaunch _ id hid => ?_⟩
  rw [log_push rfl] at hsuccess hentry
  refine (h.tenancy.accounted hsuccess _ id
    (VisitLog.mem_emulators.2 ⟨entry, hentry, hlaunch, rfl, hid⟩)).resolve_right ?_
  rintro ⟨d, hd, hprocess⟩
  rw [h.idle _ d hd] at hprocess
  cases hprocess

end Phases

/-! ### Whatever else a run does -/

section Lasting

variable {start : Lab σ} (hstart : Orderly start)

include hstart

/-- Whatever gives nothing up leaves the handles as they are. -/
theorem Tenancy.retained {r : Run σ (β × List (Visit σ))} (h : Tenancy host start r) {lab : Lab σ}
    (hlab : Retains host r.lab lab) : Tenancy host start { r with lab } where
  since := h.since.trans hlab.evolves
  tallied := h.tallied
  chronicle := h.chronicle
  latest entry hentry := (h.latest entry hentry).trans hlab.evolves.grows
  places := h.places
  tracked i d hd id hid := by
    obtain ⟨hlast, hheld⟩ := h.tracked i d hd id hid
    have horder : Orderly r.lab := h.since.orderly hstart
    exact ⟨hlast, ((hlab.evolves.orderly horder).held id).2 (hlab.inUse ((horder.held id).1 hheld))⟩
  companion i d id hd hid := (h.companion i d id hd hid).imp_left hlab.evolves.grows.given
  accounted hsuccess index id hid :=
    (h.accounted hsuccess index id hid).imp_left hlab.evolves.grows.exited

theorem Tenancy.lasting :
    Lasting host (Tenancy host start : Run σ (β × List (Visit σ)) → Prop) where
  lab _ _ h hlab := h.retained hstart hlab
  move _ m h hm := h.push (by cases m <;> first | rfl | exact hm.elim)
  notes _ _ _ _ _ _ h := h.congr rfl rfl rfl h.tallied

theorem Resting.lasting :
    Lasting host (Resting host start : Run σ (β × List (Visit σ)) → Prop) where
  lab _ _ h hlab := ⟨h.tenancy.retained hstart hlab, h.idle⟩
  move r m h hm := ⟨(Tenancy.lasting hstart).move r m h.tenancy hm, h.idle⟩
  notes r _ _ _ _ _ h := ⟨(Tenancy.lasting hstart).notes r _ _ _ _ _ h.tenancy, h.idle⟩

end Lasting

end Run

end DeviceLab
