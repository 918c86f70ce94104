import DeviceLab.Proofs.EmulatorHandles
import Mathlib.Data.List.Pairwise

/-! # The emulators of a device, one after another

What each step does to the handles of a device is put together to what a whole run does.  The
devices rest until they are started; an attempt launches emulators for them in their order, and
when it fails all are ended before the next one begins.  So at any time a device has one emulator
at most that has not been seen to exit, and its handle is that of the last one.

* `perform_called`: a step that is taken and written down.
* `acquireDevices_rests`, `startDevices_tenancy`, `startWithin_chronicled`: the parts of a run, and the
  whole of it.
* `Chronicle.succession`, `Chronicle.succeeds`: what the log tells, and when no end fails.
* `one_emulator_each`: the statement for every run. -/

namespace DeviceLab

variable {σ β α ε : Type} {host : Host σ}

open Lab

/-! ### What the log tells -/

/-- A process has been launched and not been seen to exit. -/
def Lab.Unended (journal : List Event) (id : ProcessId) : Prop :=
  Lab.Given journal id ∧ ¬Lab.Exited journal id

section Log

variable {start lab : Lab σ} {log : VisitLog σ}

/-- What every entry of a row has to do with those before it. -/
theorem pairwise_of_split {R : α → α → Prop} {l : List α}
    (h : ∀ past x rest, l = past ++ x :: rest → ∀ y ∈ past, R y x) : l.Pairwise R := by
  induction l with
  | nil => exact .nil
  | cons a l ih =>
      refine .cons (fun x hx => ?_) (ih fun past x rest heq y hy => ?_)
      · obtain ⟨past, rest, rfl⟩ := List.append_of_mem hx
        exact h (a :: past) x rest rfl a (List.mem_cons_self ..)
      · exact h (a :: past) x rest (congrArg (a :: ·) heq) y (List.mem_cons_of_mem a hy)

/-- Of two emulators of a device the first one had exited when there was no second one yet. -/
theorem Chronicle.succession (h : Chronicle host start log) (hsuccess : log.Succeeds host)
    (hlatest : ∀ entry ∈ log, Grows entry.2.after.lab lab) (index : Nat) :
    (log.emulators index).Pairwise fun id other =>
      ∃ early, early <+: lab.journal ∧ Lab.Exited early id ∧ ¬Lab.Given early other := by
  refine List.pairwise_flatMap.2 ⟨fun entry hentry => ?_, List.pairwise_filter.2 ?_⟩
  · obtain ⟨hmem, hof⟩ := List.mem_filter.1 hentry
    obtain ⟨hkind, -⟩ : entry.2.kind = .launch ∧ entry.2.before.device.index = index := by
      simpa using hof
    obtain ⟨past, hattested⟩ := h.attested hmem
    match hstarted : entry.2.started, (hattested.started hkind).1 with
    | [], _ => exact .nil
    | [id], _ => exact List.pairwise_singleton ..
  · refine pairwise_of_split fun past ⟨n, v⟩ rest heq entry hentry hfirst hsecond id hid other hother => ?_
    obtain ⟨hkind, hindex⟩ : entry.2.kind = .launch ∧ entry.2.before.device.index = index := by
      simpa using hfirst
    obtain ⟨hkind', hindex'⟩ : v.kind = .launch ∧ v.before.device.index = index := by
      simpa using hsecond
    have hattested := h past n v rest heq
    have hgrows : Grows v.before.lab lab := hattested.evolves.grows.trans
      (hlatest (n, v) (heq ▸ List.mem_append_right _ (List.mem_cons_self ..)))
    refine ⟨v.before.lab.journal, hgrows.elim fun new hnew => ⟨new, hnew.symm⟩, ?_,
      (hattested.started hkind').2 other hother⟩
    exact hattested.settled hkind' (fun entry hmem => hsuccess entry (heq ▸ List.mem_append_left _ hmem))
      entry hentry hkind (.inr (hindex.trans hindex'.symm)) id hid

/-- Of the emulators of a device one at most has not exited, at any time. -/
theorem Chronicle.one_unended (h : Chronicle host start log) (hsuccess : log.Succeeds host)
    (hlatest : ∀ entry ∈ log, Grows entry.2.after.lab lab) {past : List Event}
    (hpast : past <+: lab.journal) {index : Nat} {id other : ProcessId}
    (hid : id ∈ log.emulators index) (hother : other ∈ log.emulators index)
    (hunended : Unended past id) (hunended' : Unended past other) : id = other := by
  -- the one that had exited first cannot be among those that have not
  have hfirst : ∀ a b, (∃ early, early <+: lab.journal ∧ Lab.Exited early a ∧ ¬Lab.Given early b) →
      Unended past a → Unended past b → False := by
    rintro a b ⟨early, hearly, ⟨o, hexited⟩, hnew⟩ ha hb
    rcases List.prefix_or_prefix_of_prefix hearly hpast with hle | hle
    · exact ha.2 ⟨o, hle.subset hexited⟩
    · exact hnew (hb.1.imp fun spec hspec => hle.subset hspec)
  by_contra hne
  have hpairwise := (h.succession hsuccess hlatest index).imp
    (S := fun a b => Unended past a → Unended past b → False) fun hab => hfirst _ _ hab
  have hsymm : Std.Symm fun a b => Unended past a → Unended past b → False :=
    { symm := fun _ _ hab ha hb => hab hb ha }
  exact hpairwise.forall hid hother hne hunended hunended'

/-- On a system on which children can be waited for, no end of an emulator fails. -/
theorem Chronicle.succeeds {children : σ → Nat → Prop} (h : Chronicle host start log)
    (hreaps : host.Reaps children) (hanswers : host.Answers children) (hstart : Orderly start)
    (hbonded : Bonded children start) : log.Succeeds host := by
  intro entry hentry hkind id hid
  obtain ⟨past, hattested⟩ := h.attested hentry
  obtain ⟨lab, hretains, hjournal, hleads⟩ := hattested.ended hkind id hid
  have hbefore : Orderly entry.2.before.lab := Evolves.orderly hattested.since hstart
  have horder : Orderly lab := Evolves.orderly hretains.evolves hbefore
  have hchildren : Bonded children lab := Evolves.bonded hretains.evolves hreaps hbefore
    (Evolves.bonded hattested.since hreaps hstart hbonded)
  obtain ⟨p, hp⟩ : ∃ p, lab.supervisor.proc? id = some p := by
    refine Option.isSome_iff_exists.1 ((horder.held id).2 ?_)
    rw [hjournal]
    exact (hbefore.held id).1 (hattested.before id hid).2
  have hspec : Ends (· = lab) (terminate host id) (fun _ _ => True) fun _ _ => False :=
    (terminate_tends (P := fun _ => True) trivial).conseq (fun _ h => by
      rw [h]
      exact .refl ⟨p, hp, rfl⟩) (fun _ _ _ => trivial)
      fun _ _ h => h.2.2.absurd hreaps hanswers horder hchildren
  have hrun := hspec lab rfl
  rcases hterminate : (terminate host id).run.run lab with ⟨result, lab'⟩
  rw [hterminate] at hrun
  cases result with
  | ok o => exact ⟨lab, o, hterminate.trans (by rw [hleads o lab' hterminate])⟩
  | error e => exact hrun.elim

end Log

namespace Run

variable {s : Setup σ β} {start : Lab σ}

/-- A run whose steps are written down. -/
abbrev Watched (σ β : Type) := Run σ (β × List (Visit σ))

/-! ### Steps -/

section Steps

variable {r : Watched σ β} {kind : CallKind} {package : Option String} {ending : α → CallResult}
  {step : StateM (Station σ β) α} {R : Station σ Unit → Station σ Unit → Prop}

/-- A step with a device that there is is taken and written down. -/
theorem perform_called
    (hstep : ∀ t, Orderly t.lab → Leads (fun u => Unaltered host t u.bare) step fun _ u => R t u.bare)
    (hr : Orderly r.lab) (hplaces : ∀ (i : Nat) (d : Device), r.devices[i]? = some d → d.index = i)
    (index : Nat) :
    Leads (· = r) (perform kind package ending (Backend.observe kind step) index :
        StateM (Watched σ β) (Option α)) fun _ r' =>
      r' = r ∧ r.devices[index]? = none ∨
        ∃ v, v.kind = kind ∧ Called index v r r' ∧ R v.before v.after := by
  refine .modifyGet fun r' h => ?_
  subst h
  cases hdevice : r'.devices[index]? with
  | none => exact .inl ⟨rfl, rfl⟩
  | some device =>
      let t : Station σ β := ⟨device, r'.memory.1, r'.lab⟩
      have hled := hstep t.bare hr t .refl
      exact .inr ⟨⟨kind, t.bare, (step.run t).2.bare⟩, rfl, ⟨hdevice, rfl, rfl, rfl, rfl, _, rfl,
        congrArg (Prod.mk kind) (hplaces index device hdevice)⟩, hled⟩

variable (hstart : Orderly start)

include hstart

/-- A step that minds the handles leaves a run as it is. -/
theorem perform_tenancy (kind : CallKind)
    (hstep : ∀ t, Orderly t.lab →
      Leads (fun u => Unaltered host t u.bare) step fun _ u => Minds host t u.bare)
    (hlaunch : kind ≠ .launch) (habort : kind ≠ .abortStart) (index : Nat) :
    Preserves (Tenancy host start : Watched σ β → Prop)
      (perform kind package ending (Backend.observe kind step) index) := by
  refine Leads.of_eq fun r h => (perform_called hstep (h.since.orderly hstart) h.places index).weaken
    fun _ r' hr' => ?_
  rcases hr' with ⟨rfl, -⟩ | ⟨v, rfl, hc, hminds⟩
  · exact h
  · exact h.minded hstart hc hlaunch habort hminds

theorem perform_aborting
    (hstep : ∀ t, Orderly t.lab →
      Leads (fun u => Unaltered host t u.bare) step fun _ u => Quits host t u.bare) (count index : Nat) :
    Leads (Aborting host start count index : Watched σ β → Prop)
      (perform .abortStart package ending (Backend.observe .abortStart step) index)
      fun _ => Aborting host start count (index + 1) := by
  refine Leads.of_eq fun r h => (perform_called hstep (h.tenancy.since.orderly hstart)
    h.tenancy.places index).weaken fun _ r' hr' => ?_
  rcases hr' with ⟨rfl, hnone⟩ | ⟨v, hkind, hc, hquits⟩
  · refine ⟨h.tenancy, h.length,
      fun i d hi hd => h.idle i d (Nat.lt_of_le_of_ne (Nat.le_of_lt_succ hi) ?_) hd⟩
    rintro rfl
    rw [hnone] at hd
    cases hd
  · exact h.quit hstart hc hkind hquits

theorem perform_launching
    (hstep : ∀ t, Orderly t.lab →
      Leads (fun u => Unaltered host t u.bare) step fun _ u => Boots host t u.bare) (index : Nat) :
    Leads (Launching host start index : Watched σ β → Prop)
      (perform .launch package ending (Backend.observe .launch step) index)
      fun _ => Launching host start (index + 1) := by
  refine Leads.of_eq fun r h => (perform_called hstep (h.tenancy.since.orderly hstart)
    h.tenancy.places index).weaken fun _ r' hr' => ?_
  rcases hr' with ⟨rfl, -⟩ | ⟨v, hkind, hc, hboots⟩
  · exact ⟨h.tenancy, fun i d hi => h.idle i d (Nat.le_of_succ_le hi), h.earlier⟩
  · exact h.booted hstart hc hkind hboots

end Steps

/-! ### Starting the devices -/

section Devices

variable (hb : s.backend.Supplied s.host) (hstart : Orderly start)

include hstart

/-- A step that does as most steps do leaves a run as it is. -/
theorem performStep_tenancy {kind : CallKind} {step : DeviceStep σ β DeviceError Unit}
    (hstep : ∀ t, Orderly t.lab → Upholds (fun u => Minds s.host t u.bare) step)
    (hlaunch : kind ≠ .launch) (habort : kind ≠ .abortStart) (index : Nat) :
    Upholds (Tenancy s.host start : Watched σ β → Prop)
      (performStep kind (Backend.observe kind step.run) index) := by
  refine .bind (.lift (perform_tenancy hstart kind (fun t ht => (Preserves.attempt (hstep t ht)).conseq
    (fun _ h => h.minds) fun _ _ h => h) hlaunch habort index)) fun outcome => ?_
  split
  · exact .throw
  · exact .pure

include hb

theorem startAttempt_tenancy :
    Ends (Launching s.host start 0) (startAttempt s.observed) (fun _ => Tenancy s.host start)
      fun _ => Tenancy s.host start := by
  have hheeded (t : Station σ Unit) (ht : Orderly t.lab) := hb.heeds (Minds.mindful (β := β) ht)
  have hlaunch : ∀ index, Ends (Launching s.host start index)
      (performStep .launch s.observed.backend.launch index)
      (fun _ => Launching s.host start (index + 1)) fun _ => Tenancy s.host start := by
    intro index
    refine .bind (.lift (perform_launching hstart (fun t ht => (hb.handles ht).launch) index))
      fun outcome => ?_
    split
    · exact .throw fun _ h => h.tenancy
    · exact .pure fun _ h => h
  have hall : ∀ count index, Ends (Launching s.host start index)
      ((List.range' index count).forM (performStep .launch s.observed.backend.launch))
      (fun _ => Tenancy s.host start) fun _ => Tenancy s.host start := by
    intro count
    induction count with
    | zero => exact fun index => .pure fun _ h => h.tenancy
    | succ count ih => exact fun index => .bind (hlaunch index) fun _ => ih (index + 1)
  refine .bind (Q := fun _ => Launching s.host start 0) (.get fun _ h => h) fun r => ?_
  refine .bind (Q := fun _ => Tenancy s.host start) ?_ fun _ => Upholds.bind
    (.forM (performStep_tenancy hstart (fun t ht => (hheeded t ht).redirect) nofun nofun)) fun _ =>
      .forM (performStep_tenancy hstart (fun t ht => (hheeded t ht).checkHealth) nofun nofun)
  rw [indices, List.range_eq_range']
  exact hall _ 0

/-- When all devices have been ended no one has an emulator. -/
theorem abortAttempt_rests :
    Leads (Tenancy s.host start) (abortAttempt s.observed) fun _ => Resting s.host start := by
  have hall : ∀ total count index, index + count = total →
      Leads (Aborting s.host start total index)
        ((List.range' index count).forM (performPlain .abortStart s.observed.backend.abortStart))
        fun _ => Resting s.host start := by
    intro total count
    induction count with
    | zero =>
        rintro index rfl
        exact .pure fun _ h => h.resting
    | succ count ih =>
        exact fun index htotal => .bind (.discard (perform_aborting hstart
          (fun t ht => (hb.handles ht).abortStart) total index)) fun _ => ih (index + 1) (by omega)
  refine .bind (Q := fun run r => r = run ∧ Tenancy s.host start r) (.get fun _ h => ⟨rfl, h⟩)
    fun run => ?_
  rw [indices, List.range_eq_range']
  exact (hall _ run.devices.length 0 (Nat.zero_add _)).conseq
    (fun r h => ⟨h.2, by rw [h.1], nofun⟩) fun _ _ h => h

/-- An attempt begins when no device has an emulator, and so does the next one. -/
theorem startDevices_tenancy :
    Ends (Resting s.host start) (startDevices s.observed) (fun _ => Tenancy s.host start)
      fun _ => Tenancy s.host start := by
  refine startDevices_ends (F := Resting s.host start) (fun attempt => startOnce_leads
    (fun r h => h.attempted attempt) ?_ (abortAttempt_rests hb hstart))
    (fun _ _ h _ _ => h.tenancy) fun attempt =>
      Ends.weaken (sleep_lasts (Resting.lasting hstart) _) (fun cancelled r h => ?_)
        fun _ _ h => h.tenancy
  · exact (startAttempt_tenancy hb hstart).weaken
      (fun _ r h => (Tenancy.lasting hstart).notes r _ _ _ _ _ h) fun _ _ h => h
  · cases cancelled with
    | true => exact h.tenancy
    | false => exact h

end Devices

/-! ### Acquiring the devices -/

section Acquiring

variable {r : Watched σ β} {devices : List Device} {d : Device}

/-- A new device has no handles. -/
theorem Resting.append (h : Resting host start r) (slot : DeviceSlot) :
    Resting host start { r with devices := r.devices ++ [{ index := r.devices.length, slot }] } := by
  have hnew : ∀ (i : Nat) (d : Device),
      (r.devices ++ [{ index := r.devices.length, slot }])[i]? = some d →
        r.devices[i]? = some d ∨ d = { index := i, slot } := by
    intro i d hd
    rw [List.getElem?_append] at hd
    split at hd
    · exact .inl hd
    · obtain ⟨hi, rfl⟩ := List.getElem?_eq_some_iff.1 hd
      have hi : i = r.devices.length := by simp at hi; omega
      exact .inr (by simp [hi])
  refine ⟨⟨⟨h.tenancy.tallied, h.tenancy.chronicle, h.tenancy.latest⟩, h.tenancy.since,
    fun i d hd => ?_, fun i d hd => ?_, fun i d id hd hid => ?_,
    fun hsuccess i id hid => .inl ?_⟩, fun i d hd => ?_⟩
  · rcases hnew i d hd with hd | rfl
    · exact h.tenancy.places i d hd
    · rfl
  · rcases hnew i d hd with hd | rfl
    · exact h.tenancy.tracked i d hd
    · exact nofun
  · rcases hnew i d hd with hd | rfl
    · exact h.tenancy.companion i d id hd hid
    · cases hid
  · refine (h.tenancy.accounted hsuccess i id hid).resolve_right ?_
    rintro ⟨d, hd, hprocess⟩
    rw [h.idle i d hd] at hprocess
    cases hprocess
  · rcases hnew i d hd with hd | rfl
    · exact h.idle i d hd
    · rfl

/-- A device that has no emulator may be left out again. -/
theorem Resting.init (h : Resting host start { r with devices := devices ++ [d] }) :
    Resting host start { r with devices } := by
  have hold : ∀ (i : Nat) (d' : Device), devices[i]? = some d' → (devices ++ [d])[i]? = some d' := by
    intro i d' hd'
    rw [List.getElem?_append_left (List.getElem?_eq_some_iff.1 hd').1]
    exact hd'
  refine ⟨⟨⟨h.tenancy.tallied, h.tenancy.chronicle, h.tenancy.latest⟩, h.tenancy.since,
    fun i d' hd => h.tenancy.places i d' (hold i d' hd),
    fun i d' hd => h.tenancy.tracked i d' (hold i d' hd),
    fun i d' id hd => h.tenancy.companion i d' id (hold i d' hd), fun hsuccess i id hid => .inl ?_⟩,
    fun i d' hd => h.idle i d' (hold i d' hd)⟩
  refine (h.tenancy.accounted hsuccess i id hid).resolve_right ?_
  rintro ⟨d', hd, hprocess⟩
  rw [h.idle i d' hd] at hprocess
  cases hprocess

variable (hb : s.backend.Supplied s.host) (hstart : Orderly start)

include hb hstart

theorem acquireOne_rests (index : Nat) (slot : DeviceSlot) :
    Ends (fun r => Resting s.host start r ∧ r.devices.length = index)
      (acquireOne s.observed index slot)
      (fun _ r => Resting s.host start r ∧ r.devices.length = index + 1)
      fun _ => Tenancy s.host start := by
  refine .of_eq fun r hr => ?_
  obtain ⟨hrest, rfl⟩ := hr
  refine .bind (Q := fun run r' => run = r ∧ r' = r) (.get fun _ h => ⟨h, h⟩) fun run => ?_
  refine .of_eq fun r' hr' => ?_
  obtain ⟨rfl, rfl⟩ := hr'
  let t : Station σ β := ⟨{ index := r'.devices.length, slot }, r'.memory.1, r'.lab⟩
  have hminds : Minds s.host t.bare (s.backend.acquire.run t).2.bare :=
    Preserves.attempt (hb.heeds (Minds.mindful (hrest.tenancy.since.orderly hstart))).acquire t
      Unaltered.refl.minds
  obtain ⟨result, u, hu⟩ : ∃ result u, s.backend.acquire.run t = (result, u) := ⟨_, _, rfl⟩
  have hrun : s.observed.backend.acquire.run
      ⟨{ index := r'.devices.length, slot }, r'.memory, r'.lab⟩ =
        (result, ⟨u.device, (u.memory, r'.memory.2 ++ [⟨.acquire, t.bare, u.bare⟩]), u.lab⟩) :=
    Backend.observe_run hu
  rw [hu] at hminds
  dsimp only
  rw [hrun]
  -- the device stands at the end of the row while its step is taken
  let call : BackendCall :=
    { kind := .acquire, index := r'.devices.length, device := slot.name, result := .ofDevice result }
  let after : Watched σ β := { r' with
    memory := (u.memory, r'.memory.2 ++ [⟨.acquire, t.bare, u.bare⟩]), lab := u.lab
    moves := r'.moves.push (.called call) }
  have hcalled : Called r'.devices.length ⟨.acquire, t.bare, u.bare⟩
      { r' with devices := r'.devices ++ [t.device] }
      { after with devices := r'.devices ++ [u.device] } :=
    ⟨by simp [t]; rfl, rfl, by simp; rfl, rfl, rfl, call, rfl, rfl⟩
  have hdone : Resting s.host start { after with devices := r'.devices ++ [u.device] } := by
    have hbefore := hrest.append slot
    refine ⟨hbefore.tenancy.minded hstart hcalled nofun nofun hminds, fun i d hd => ?_⟩
    rcases hcalled.device? hd with ⟨-, rfl⟩ | ⟨-, hd⟩
    · exact hminds.process
    · exact hbefore.idle i d hd
  refine .bind (Q := fun _ r => r = after) (.set fun _ _ => rfl) fun _ => ?_
  cases result with
  | ok _ =>
      refine .modify fun r h => ?_
      subst h
      exact ⟨hdone, by simp [after]⟩
  | error e =>
      refine .throw fun r h => ?_
      subst h
      exact hdone.init.tenancy

theorem acquireDevices_rests :
    Ends (fun r => Resting s.host start r ∧ r.devices.length = 0) (acquireDevices s.observed)
      (fun _ => Resting s.host start) fun _ => Tenancy s.host start := by
  have hfrom : ∀ (slots : List DeviceSlot) (index : Nat),
      Ends (fun r => Resting s.host start r ∧ r.devices.length = index)
        (acquireFrom s.observed index slots) (fun _ => Resting s.host start)
        fun _ => Tenancy s.host start := by
    intro slots
    induction slots with
    | nil => exact fun index => .pure fun _ h => h.1
    | cons slot rest ih =>
        exact fun index => .bind (acquireOne_rests hb hstart index slot) fun _ => ih _
  exact hfrom _ 0

end Acquiring

/-! ### The whole run -/

section Whole

variable (hb : s.backend.Supplied s.host) (hstart : Orderly start)

include hb hstart

/-- A run that has not begun has no devices. -/
abbrev Unmanned (host : Host σ) (start : Lab σ) (r : Watched σ β) : Prop :=
  Resting host start r ∧ r.devices.length = 0

omit hb in
theorem Unmanned.lasting : Lasting host (Unmanned host start : Watched σ β → Prop) where
  lab _ _ h hlab := ⟨(Resting.lasting hstart).lab _ _ h.1 hlab, h.2⟩
  move r m h hm := ⟨(Resting.lasting hstart).move r m h.1 hm, h.2⟩
  notes r _ _ _ _ _ h := ⟨(Resting.lasting hstart).notes r _ _ _ _ _ h.1, h.2⟩

theorem carryOut_tenancy (passes : Nat) :
    Ends (Unmanned s.host start) (carryOut s.observed passes) (fun _ => Tenancy s.host start)
      fun _ => Tenancy s.host start := by
  have hlasting : Lasting s.host (Tenancy s.host start : Run σ (β × List (Visit σ)) → Prop) :=
    Tenancy.lasting hstart
  have hminds {α : Type} {step : StateM (Station σ β) α}
      (hstep : ∀ t, Orderly t.lab → Preserves (fun u => Minds s.host t u.bare) step)
      (t : Station σ Unit) (ht : Orderly t.lab) :
      Leads (fun u => Unaltered s.host t u.bare) step fun _ u => Minds s.host t u.bare :=
    (hstep t ht).conseq (fun _ h => h.minds) fun _ _ h => h
  have hheeded (t : Station σ Unit) (ht : Orderly t.lab) := hb.heeds (Minds.mindful (β := β) ht)
  have hinstall : ∀ index package path, Preserves (Tenancy s.host start)
      (installOne s.observed index package path) := by
    refine fun index package path => .bind (perform_tenancy hstart .install
      (hminds fun t ht => .attempt ((hheeded t ht).install package path)) nofun nofun index)
      fun outcome => ?_
    split <;> exact .pure
  have hexecute := execute_lasts (s := s.observed) (K := Tenancy s.host start)
    (Unmanned.lasting hstart) (Resting.lasting hstart) hlasting (fun _ h => h.1.tenancy)
    (fun _ h => h.tenancy) (fun _ h => h) (acquireDevices_rests hb hstart)
    (startDevices_tenancy hb hstart)
    (perform_tenancy hstart .startLogCapture (fun t ht => (hb.handles ht).startLogCapture) nofun nofun)
    hinstall
    (fun index => .discard (perform_tenancy hstart .collectDiagnostics
      (hminds fun t ht => (hheeded t ht).collectDiagnostics) nofun nofun index))
    (fun name index attempt hname => trigger_lasts hlasting (fun _ _ h hm => h.push hm) hname attempt)
    passes
  exact carryOut_lasts hlasting hexecute fun index => .discard
    (perform_tenancy hstart .teardown (fun t ht => (hb.handles ht).teardown) nofun nofun index)

/-- When a run is summed up, and at its end, enough is known of all its steps. -/
theorem sumUpWithin_tenancy (passes : Nat) :
    Ends (Unmanned s.host start) (sumUpWithin s.observed passes) (fun _ => Tenancy s.host start)
      fun _ _ => True := by
  have hlasting : Lasting s.host (Tenancy s.host start : Run σ (β × List (Visit σ)) → Prop) :=
    Tenancy.lasting hstart
  refine .bind (Q := fun _ => Unmanned s.host start) (.lift (now_lasts (Unmanned.lasting hstart)))
    fun started => .bind (Q := fun _ => Tenancy s.host start)
      (.tryCatch (carryOut_tenancy hb hstart passes) fun cause => fun _ _ => trivial) fun _ => ?_
  exact .lift (Preserves.bind .get fun _ => .bind (now_lasts hlasting) fun _ =>
    .bind (onLab_detached hlasting.lab fun _ => sys_retains .timestamp) fun _ => .pure)

theorem startWithin_chronicled (passes : Nat) :
    Ends (Unmanned s.host start) (startWithin s.observed passes) (fun _ => Chronicled s.host start)
      fun _ => Chronicled s.host start :=
  startWithin_logged
    (fun _ _ h hgrows => ⟨h.tallied, h.chronicle, fun entry hentry =>
      (h.latest entry hentry).trans hgrows⟩)
    (now_lasts (Unmanned.lasting hstart))
    ((carryOut_tenancy hb hstart passes).weaken (fun _ _ h => h.toChronicled) fun _ _ h => h.toChronicled)

end Whole

/-- A run that has not begun is in order. -/
theorem Unmanned.of_fresh {plan : RunPlan} {system : σ} {memory : β} :
    Unmanned host (fresh plan system (memory, ([] : List (Visit σ)))).lab
      (fresh plan system (memory, [])) := by
  have hlog : (fresh plan system (memory, ([] : List (Visit σ)))).log = [] := rfl
  have hdevices : ∀ (i : Nat) (d : Device),
      (fresh plan system (memory, ([] : List (Visit σ)))).devices[i]? ≠ some d := fun i d h => by
    change ([] : List Device)[i]? = some d at h
    rw [List.getElem?_nil] at h
    cases h
  refine ⟨⟨⟨⟨rfl, hlog ▸ .nil, fun entry hentry => ?_⟩, .refl, fun i d hd => absurd hd (hdevices i d),
    fun i d hd => absurd hd (hdevices i d), fun i d id hd => absurd hd (hdevices i d),
    fun _ index id hid => ?_⟩, fun i d hd => absurd hd (hdevices i d)⟩, rfl⟩
  · rw [hlog] at hentry
    cases hentry
  · rw [hlog] at hid
    cases hid

/-- With its steps written down in `log` a run is the same, and all of them are.  If no
half-started emulator is ended in vain (`Succeeds`), then at any time one emulator of a device at
most is `Unended`, and when one is launched, all emulators of earlier attempts, and all of the same
device, have exited.  Before and after each step, and when the run is summed up, the handle of a
device is that of the last emulator that was launched for it, and the supervisor holds it
(`Tracks`); only after that all processes are given up.  On a system on which children can be
waited for (`Reaps`, `Answers`), none is ended in vain. -/
theorem one_emulator_each (hb : s.backend.Supplied s.host) (passes : Nat) (system : σ) (memory : β) :
    let run := (startWithin s.observed passes).run.run (.fresh s.plan system (memory, []))
    let log := run.2.log
    (startWithin s passes).run.run (.fresh s.plan system memory) = (run.1, run.2.seen Prod.fst) ∧
      log.map (fun entry => entry.2.mark) = run.2.calls.map BackendCall.mark ∧
      (log.Succeeds s.host →
        (∀ past, past <+: run.2.lab.journal → ∀ index, ∀ id ∈ log.emulators index,
          ∀ other ∈ log.emulators index, Unended past id → Unended past other → id = other) ∧
        ∀ past n (v : Visit σ) rest, log = past ++ (n, v) :: rest → v.kind = .launch →
          ∀ entry ∈ past, entry.2.kind = .launch →
            (entry.1 < n ∨ entry.2.before.device.index = v.before.device.index) →
              ∀ id ∈ entry.2.started, Lab.Exited v.before.lab.journal id) ∧
      (∀ past n (v : Visit σ) rest, log = past ++ (n, v) :: rest →
        Tracks past v.before ∧ Tracks (past ++ [(n, v)]) v.after) ∧
      (∀ summary before, Sums s.observed system (memory, []) summary before →
        ∀ d ∈ before.devices, Tracks before.log ⟨d, (), before.lab⟩) ∧
      ∀ children, s.host.Reaps children → s.host.Answers children → log.Succeeds s.host := by
  intro run log
  have hstart : Orderly (fresh s.plan system (memory, ([] : List (Visit σ)))).lab := .of_fresh rfl rfl
  have hfinal : Chronicled s.host _ run.2 :=
    (startWithin_chronicled hb hstart passes).leads _ Unmanned.of_fresh
  refine ⟨startWithin_echoes s.backend.observed_mirrors passes
    (fresh s.plan system (memory, [])), ?_, fun hsuccess => ⟨fun past hpast index id hid other hother =>
      hfinal.chronicle.one_unended hsuccess hfinal.latest hpast hid hother,
      fun past n v rest heq hkind => ?_⟩, fun past n v rest heq => ?_, fun summary before hsums d hd => ?_,
    fun children hreaps hanswers => hfinal.chronicle.succeeds hreaps hanswers hstart (.of_fresh rfl)⟩
  · rw [← hfinal.tallied, ← hfinal.tallied.log_snd, List.map_map]
    rfl
  · exact (hfinal.chronicle past n v rest heq).settled hkind fun entry hentry =>
      hsuccess entry (heq ▸ List.mem_append_left _ hentry)
  · have hattested := hfinal.chronicle past n v rest heq
    exact ⟨hattested.before, hattested.after⟩
  · obtain ⟨passes, hrun⟩ := hsums
    have htenancy := sumUpWithin_tenancy hb hstart passes _ Unmanned.of_fresh
    rw [show (sumUpWithin s.observed passes).run.run
      (fresh s.plan system (memory, [])) = (.ok summary, before) from hrun] at htenancy
    obtain ⟨i, hi⟩ := List.getElem?_of_mem hd
    exact htenancy.tracked i d hi

/-- On the small system the first start fails after the launch, so that the device gets a second
emulator in a second attempt, when the first one has exited. -/
theorem one_emulator_each_after_retry : ∃ report final,
    Finishes Sample.reusingPidsSetup.observed {} (Sample.redirectFailsOnce, []) report final ∧
    ((final.log.filter fun entry => entry.2.kind == .launch).map Prod.fst = [1, 2] ∧
      final.log.emulators 0 = [⟨1⟩, ⟨2⟩]) ∧
    Backend.Supplied Sample.reusingPidsSetup.host Sample.reusingPidsSetup.backend ∧
    ∀ past, past <+: final.lab.journal → Unended past ⟨1⟩ → ¬Unended past ⟨2⟩ := by
  obtain ⟨report, final, ⟨passes, hfinal⟩, hcheck⟩ := Finishes.of_run Sample.reusingPidsSetup.observed {}
    (Sample.redirectFailsOnce, []) (fun _ final =>
      (final.log.filter fun entry => entry.2.kind == .launch).map Prod.fst == [1, 2] &&
        final.log.emulators 0 == [⟨1⟩, ⟨2⟩]) 3 (by decide +kernel)
  simp only [Bool.and_eq_true, beq_iff_eq] at hcheck
  obtain ⟨-, -, hone, -, -, hsucceeds⟩ :=
    one_emulator_each (s := Sample.reusingPidsSetup) .scripted passes {} Sample.redirectFailsOnce
  have hran := hfinal
  rw [show Sample.reusingPidsSetup.observed.plan = Sample.reusingPidsSetup.plan by
    rw [Setup.observed]] at hran
  rw [show StateT.run (startWithin Sample.reusingPidsSetup.observed passes).run _ = _ from hran]
    at hone hsucceeds
  refine ⟨report, final, ⟨passes, hfinal⟩, hcheck, .scripted, fun past hpast h h' => ?_⟩
  have heq := (hone (hsucceeds _ Sample.reusingPids_reaps Sample.reusingPids_answers)).1 past hpast 0 ⟨1⟩
    (by rw [hcheck.2]; decide) ⟨2⟩ (by rw [hcheck.2]; decide) h h'
  cases heq

end Run

end DeviceLab
