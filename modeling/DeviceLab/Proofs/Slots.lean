import DeviceLab.Device.Emulator
import DeviceLab.Proofs.Admission
import DeviceLab.Proofs.Captures
import DeviceLab.Proofs.Entries
import DeviceLab.Proofs.Strings

/-! # Devices that are told apart

The commands for a device name it by its serial, and its log is saved to a file that is named after
the serial.  Serials that follow from console ports differ, because the ports do.  Serials that are
given are not checked at all, so two devices may share one.

* `DeviceSlot.Apart`: two devices do not share a serial.
* `DeviceSlot.logFile`: the file to which the log of a device is saved.
* `Config.slots_apart_iff`: when the devices of an accepted configuration do not get into each
  other's way. -/

namespace DeviceLab

/-! ### The last name of a path -/

namespace Path

open String

/-- What follows the last slash of a text, which is all of it if there is none. -/
def afterSlash : List Char → List Char
  | [] => []
  | c :: rest => if '/' ∈ c :: rest then afterSlash rest else c :: rest

theorem afterSlash_plain {text : List Char} (h : '/' ∉ text) : afterSlash text = text := by
  cases text with
  | nil => rfl
  | cons c rest => exact if_neg h

theorem afterSlash_append {text plain : List Char} (h : '/' ∉ plain) :
    afterSlash (text ++ plain) = afterSlash text ++ plain := by
  induction text with
  | nil => exact afterSlash_plain h
  | cons c rest ih =>
      have hmem : '/' ∈ c :: (rest ++ plain) ↔ '/' ∈ c :: rest := by
        rw [← List.cons_append, List.mem_append, or_iff_left h]
      rw [List.cons_append, afterSlash, afterSlash]
      by_cases hslash : '/' ∈ c :: rest
      · rw [if_pos hslash, if_pos (hmem.2 hslash), ih]
      · rw [if_neg hslash, if_neg fun h => hslash (hmem.1 h), List.cons_append]

theorem slash_not_mem_afterSlash (text : List Char) : '/' ∉ afterSlash text := by
  induction text with
  | nil => exact List.not_mem_nil
  | cons c rest ih =>
      rw [afterSlash]
      split
      · exact ih
      · assumption

/-- What follows the last slash is the last of the parts between slashes. -/
theorem splitOnP_slash (text : List Char) :
    ∃ before, text.splitOnP (· == '/') = before ++ [afterSlash text] ∧
      ('/' ∈ text → before ≠ []) := by
  induction text with
  | nil => exact ⟨[], rfl, fun h => nomatch h⟩
  | cons c rest ih =>
      by_cases hslash : '/' ∈ c :: rest
      · obtain ⟨before, hbefore, hsome⟩ := ih
        rw [List.splitOnP_cons_eq_if_modifyHead, hbefore, afterSlash, if_pos hslash]
        by_cases hc : c = '/'
        · rw [if_pos (beq_iff_eq.2 hc)]
          exact ⟨[] :: before, rfl, fun _ => List.cons_ne_nil _ _⟩
        · rw [if_neg (mt beq_iff_eq.1 hc)]
          have hrest := (List.mem_cons.1 hslash).resolve_left (Ne.symm hc)
          obtain ⟨first, others, rfl⟩ := List.exists_cons_of_ne_nil (hsome hrest)
          exact ⟨(c :: first) :: others, rfl, fun _ => List.cons_ne_nil _ _⟩
      · have hplain : ∀ x ∈ c :: rest, (x == '/') = false :=
          fun x hx => beq_false_of_ne fun heq => hslash (heq ▸ hx)
        rw [List.splitOnP_eq_singleton hplain, afterSlash, if_neg hslash]
        exact ⟨[], rfl, fun h => absurd h hslash⟩

/-- The last name of a path that ends in a name is what follows its last slash. -/
theorem parts_getLastD {path : String} (hempty : afterSlash path.toList ≠ [])
    (hpoint : afterSlash path.toList ≠ ['.']) :
    (parts path).getLastD "" = ofList (afterSlash path.toList) := by
  obtain ⟨before, hbefore, -⟩ := splitOnP_slash path.toList
  have hnames : ofList (afterSlash path.toList) ≠ "" := fun h =>
    hempty (String.ofList_inj.1 h)
  have hparts : ofList (afterSlash path.toList) ≠ "." := fun h =>
    hpoint (String.ofList_inj.1 h)
  have hcut : path.splitOn "/" = (path.toList.splitOnP (· == '/')).map ofList :=
    splitOn_char '/' path
  simp [parts, names, hcut, hbefore, List.filter_append, hnames, hparts]

end Path

/-! ### Serials and logs -/

namespace DeviceSlot

open EmulatorControl

/-- The serials of two devices, given or not, are not the same. -/
def Apart (d e : DeviceSlot) : Prop :=
  match d.serial, e.serial with
  | none, none => True
  | some given, none => given ≠ s!"emulator-{e.consolePort}"
  | none, some given => given ≠ s!"emulator-{d.consolePort}"
  | some given, some other => given ≠ other

instance (d e : DeviceSlot) : Decidable (Apart d e) := by
  unfold Apart
  split <;> infer_instance

/-- A number is told by its digits. -/
theorem decimal_injective {m n : Nat} (h : toString m = toString n) : m = n := by
  have hdigits : Nat.toDigits 10 m = Nat.toDigits 10 n := String.ofList_inj.1 h
  calc
    m = Nat.ofDigitChars 10 (Nat.toDigits 10 m) 0 := Nat.ofDigitChars_ten_toDigits.symm
    _ = Nat.ofDigitChars 10 (Nat.toDigits 10 n) 0 := by rw [hdigits]
    _ = n := Nat.ofDigitChars_ten_toDigits

/-- Serials that follow from different console ports differ. -/
theorem serial_injective {port other : Nat} (h : s!"emulator-{port}" = s!"emulator-{other}") :
    port = other :=
  decimal_injective ((String.append_right_inj "emulator-").1 h)

/-- Devices with different console ports share a serial only if one of them is given it. -/
theorem deviceId_ne_iff {d e : DeviceSlot} (hports : d.consolePort ≠ e.consolePort) :
    d.deviceId ≠ e.deviceId ↔ d.Apart e := by
  unfold Apart deviceId
  cases d.serial with
  | none =>
      cases e.serial with
      | none => exact iff_of_true (fun h => hports (serial_injective h)) trivial
      | some given => exact ne_comm
  | some given => cases e.serial <;> exact Iff.rfl

/-- The name under which the log of a device is saved. -/
def logName (d : DeviceSlot) : String := fileName s!"logcat-{d.deviceId}.log"

/-- The file to which the log of a device is saved. -/
def logFile (dir : String) (d : DeviceSlot) : String := Path.join dir d.logName

theorem saveLog_eq {σ : Type} (host : Host σ) (e : EmulatorControl) (id : ProcessId) :
    saveLog host e id = (do
      endProcess host id "logcat"
      let device := (← get).device
      match ← Station.onLab (Lab.preserve host id e.uploadDir device.slot.logName).run with
      | .ok _ => Station.note .info "logcat saved"
      | .error _ => Station.note .warn "failed to save logcat"
      discard <| Station.onLab (Lab.release host id).run) := rfl

/-- What the name of a saved log keeps of the serial. -/
def logStem (d : DeviceSlot) : String :=
  String.ofList (Path.afterSlash ("logcat-" ++ d.deviceId).toList)

theorem logName_eq (d : DeviceSlot) : d.logName = d.logStem ++ ".log" := by
  have hmark : '/' ∉ ".log".toList := by decide
  have hlist : (s!"logcat-{d.deviceId}.log").toList =
      ("logcat-" ++ d.deviceId).toList ++ ".log".toList := String.toList_append
  have hafter := @Path.afterSlash_append ("logcat-" ++ d.deviceId).toList _ hmark
  rw [← hlist] at hafter
  have hlength : (Path.afterSlash (s!"logcat-{d.deviceId}.log").toList).length ≥ 4 := by
    rw [hafter, List.length_append]
    exact Nat.le_add_left ..
  have hlast := @Path.parts_getLastD s!"logcat-{d.deviceId}.log"
    (fun h => absurd (h ▸ hlength) (by decide)) (fun h => absurd (h ▸ hlength) (by decide))
  exact hlast.trans (by rw [hafter, String.ofList_append, String.ofList_toList]; rfl)

theorem logStem_plain {d : DeviceSlot} (h : '/' ∉ d.deviceId.toList) :
    d.logStem = "logcat-" ++ d.deviceId := by
  have hplain : '/' ∉ ("logcat-" ++ d.deviceId).toList := by
    rw [String.toList_append, List.mem_append, not_or]
    exact ⟨by decide, h⟩
  rw [logStem, Path.afterSlash_plain hplain, String.ofList_toList]

theorem slash_not_mem_logName (d : DeviceSlot) : '/' ∉ d.logName.toList := by
  rw [logName_eq, logStem, String.toList_append, String.toList_ofList, List.mem_append, not_or]
  exact ⟨Path.slash_not_mem_afterSlash _, by decide⟩

/-- Two logs are saved to one file exactly if their names keep the same of the serials. -/
theorem logFile_inj {dir : String} {d e : DeviceSlot} :
    logFile dir d = logFile dir e ↔ d.logStem = e.logStem := by
  constructor
  · intro h
    have hname := Path.join_injective (slash_not_mem_logName d) (slash_not_mem_logName e) h
    rw [logName_eq, logName_eq] at hname
    exact (String.append_left_inj _).1 hname
  · intro h
    rw [logFile, logFile, logName_eq, logName_eq, h]

end DeviceSlot

/-! ### Commands for a device -/

namespace EmulatorControl

/-- The template of a device's serial. -/
def serialTemplate : String := "\x7bdevice_id\x7d"

theorem pieces_serialTemplate :
    Template.pieces serialTemplate.toList = [.name "device_id".toList] := by
  have hname : Template.name? "device_id\x7d".toList = some ("device_id".toList, []) := by decide
  have hlist : serialTemplate.toList = '\x7b' :: "device_id\x7d".toList := rfl
  rw [hlist, Template.pieces, if_pos rfl]
  split
  · next name after h =>
      rw [hname, Option.some.injEq, Prod.mk.injEq] at h
      obtain ⟨rfl, rfl⟩ := h
      exact congrArg _ Template.pieces.eq_1
  · next h => cases hname.symm.trans h

/-- The values of a command for the device; when a package is installed, its path is one of them. -/
def commandValues (d : Device) : Option String → Values
  | none => values d
  | some path => Json.enter "package" path (values d)

theorem lookup_commandValues (d : Device) (package : Option String) :
    Json.lookup "device_id" (commandValues d package) = some d.deviceId := by
  cases package with
  | none => rfl
  | some path => exact Json.lookup_enter_of_ne (by decide) path (values d)

theorem render_serial {values : Values} {serial : String}
    (h : Json.lookup "device_id" values = some serial) :
    Template.render serialTemplate values = .ok serial := by
  have hfill : Template.fill values [.name "device_id".toList] = .ok serial.toList := by
    rw [Template.fill, String.ofList_toList, h]
    exact congrArg Except.ok (List.append_nil _)
  rw [Template.render, pieces_serialTemplate, hfill]
  exact congrArg Except.ok String.ofList_toList

/-- Functions that make the same of a list make the same of each of its entries. -/
theorem mapM_ok_agree {ε α β : Type} {f g : α → Except ε β} {l : List α} {found : List β}
    (hf : l.mapM f = .ok found) (hg : l.mapM g = .ok found) : ∀ a ∈ l, f a = g a := by
  rw [Json.mapM_eq_ok_iff] at hf hg
  induction hf with
  | nil => exact List.forall_mem_nil _
  | cons hfa _ ih =>
      obtain ⟨hga, hgl⟩ := List.forall₂_cons.1 hg
      exact List.forall_mem_cons.2 ⟨hfa.trans hga.symm, ih hgl⟩

/-- A command in which the serial is an argument tells the serial. -/
theorem serial_of_renderAll {templates argv : List String} {values others : Values}
    {serial other : String} (hnamed : serialTemplate ∈ templates)
    (hserial : Json.lookup "device_id" values = some serial)
    (hother : Json.lookup "device_id" others = some other)
    (hargv : Template.renderAll templates values = .ok argv)
    (hsame : Template.renderAll templates others = .ok argv) : serial = other := by
  have htexts := mapM_ok_agree hargv hsame serialTemplate hnamed
  rw [render_serial hserial, render_serial hother] at htexts
  exact Except.ok.inj htexts

end EmulatorControl

/-! ### The devices of a configuration -/

namespace Config

open EmulatorControl

variable {c : Config}

theorem consolePorts_differ (hv : c.validate = .ok ()) :
    c.boundDevices.Pairwise fun d e => d.consolePort ≠ e.consolePort := by
  have hports := (List.nodup_flatMap.1 (validate_ok_iff.1 hv).devices.portsDiffer).2
  refine (hports.sublist (List.take_sublist ..)).imp fun {d e} hdisjoint heq => ?_
  exact hdisjoint (a := d.consolePort) List.mem_cons_self (heq ▸ List.mem_cons_self)

/-- In an accepted configuration the bound devices have different serials exactly if they are
`Apart`: no serial that is given to one of them is given to another one or follows from its console
port. Their logs are saved to different files exactly if the `logStem`s of their serials differ;
for serials without a slash that comes to the same.  While serials differ, no command in which
`serialTemplate` is an argument is a command for two of the devices. -/
theorem slots_apart_iff (hv : c.validate = .ok ()) (uploadDir : String) :
    (c.boundDevices.Pairwise (fun d e => d.deviceId ≠ e.deviceId) ↔
        c.boundDevices.Pairwise DeviceSlot.Apart) ∧
      (c.boundDevices.Pairwise (fun d e => d.logFile uploadDir ≠ e.logFile uploadDir) ↔
        c.boundDevices.Pairwise fun d e => d.logStem ≠ e.logStem) ∧
      (c.boundDevices.Pairwise (fun d e => d.logStem ≠ e.logStem) →
        c.boundDevices.Pairwise DeviceSlot.Apart) ∧
      ((∀ d ∈ c.boundDevices, '/' ∉ d.deviceId.toList) →
        c.boundDevices.Pairwise DeviceSlot.Apart →
          c.boundDevices.Pairwise fun d e => d.logStem ≠ e.logStem) ∧
      (c.boundDevices.Pairwise DeviceSlot.Apart → ∀ templates, serialTemplate ∈ templates →
        c.boundDevices.Pairwise fun d e => ∀ x y : Device, x.slot = d → y.slot = e →
          ∀ package argv, Template.renderAll templates (commandValues x package) = .ok argv →
            Template.renderAll templates (commandValues y package) ≠ .ok argv) := by
  have hids : c.boundDevices.Pairwise (fun d e => d.deviceId ≠ e.deviceId) ↔
      c.boundDevices.Pairwise DeviceSlot.Apart :=
    ⟨fun h => ((consolePorts_differ hv).and h).imp fun h => (DeviceSlot.deviceId_ne_iff h.1).1 h.2,
      fun h => ((consolePorts_differ hv).and h).imp fun h => (DeviceSlot.deviceId_ne_iff h.1).2 h.2⟩
  refine ⟨hids, ?_, fun h => hids.1 (h.imp fun hne => mt (fun heq => ?_) hne), fun hplain h => ?_,
    fun h templates hnamed => (hids.2 h).imp ?_⟩
  · simp only [ne_eq, DeviceSlot.logFile_inj]
  · exact congrArg (fun id => String.ofList (Path.afterSlash ("logcat-" ++ id).toList)) heq
  · refine (hids.2 h).imp_of_mem fun {d e} hd he hne heq => hne ?_
    rw [DeviceSlot.logStem_plain (hplain d hd), DeviceSlot.logStem_plain (hplain e he)] at heq
    exact (String.append_right_inj _).1 heq
  · rintro d e hne x y rfl rfl package argv hargv hsame
    exact hne (serial_of_renderAll hnamed (lookup_commandValues x package)
      (lookup_commandValues y package) hargv hsame)

/-- In the small lab both devices have serials and logs of their own. -/
theorem slots_apart_both : Sample.both.validate = .ok () ∧
    Sample.both.boundDevices.Pairwise (fun d e => d.deviceId ≠ e.deviceId) ∧
    Sample.both.boundDevices.Pairwise fun d e => d.logFile "/upload" ≠ e.logFile "/upload" := by
  have hvalid := (Sample.setup_config Sample.planned_both).2
  obtain ⟨hids, hlogs, -, hstems, -⟩ := slots_apart_iff hvalid "/upload"
  have hapart : Sample.both.boundDevices.Pairwise DeviceSlot.Apart := by decide
  exact ⟨hvalid, hids.2 hapart, hlogs.2 (hstems (by decide) hapart)⟩

/-- The first device of the small lab. -/
def first : DeviceSlot := ⟨"a", 5554, 5556, 5557, 5558, 5559, none⟩

/-- A device that is given the serial of the first one. -/
def second : DeviceSlot := ⟨"b", 5564, 5566, 5567, 5568, 5569, some "emulator-5554"⟩

/-- The small lab with two devices that share a serial. -/
def shared : Config := { Sample.both with devices := [first, second] }

theorem planned_shared : (Sample.plan? shared).isSome := by decide +kernel

theorem slots_shared : shared.validate = .ok () ∧
    ¬shared.boundDevices.Pairwise (fun d e => d.deviceId ≠ e.deviceId) ∧
    ¬shared.boundDevices.Pairwise (fun d e => d.logFile "/upload" ≠ e.logFile "/upload") := by
  have hbound : shared.boundDevices = [first, second] := rfl
  have hids : first.deviceId = second.deviceId := by decide +kernel
  have hlogs : first.logFile "/upload" = second.logFile "/upload" := by
    rw [DeviceSlot.logFile_inj, DeviceSlot.logStem, DeviceSlot.logStem, hids]
  rw [hbound, List.pairwise_pair, List.pairwise_pair]
  exact ⟨(Sample.setup_config planned_shared).2, fun h => h hids, fun h => h hlogs⟩

end Config

end DeviceLab
