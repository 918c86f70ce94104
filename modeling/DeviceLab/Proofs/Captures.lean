import DeviceLab.Proofs.Summing
import DeviceLab.Proofs.Supervision

/-! # The output that a run keeps

When a run has gone wrong, the output of all processes that the supervisor still holds is copied to
files below the upload directory.  `Sums.output_kept_iff` says when nothing is lost by that: exactly
if the files are told apart by their names.

* `Host.Copies`: what is relied on about the files of a host.
* `keepEach_spec`: what becomes of the files while output is copied.
* `linkLogs_of_mem`, `linkLogs_of_not_mem`: what becomes of the records of suites.
* `OutputKept`, `Discernible`: the two sides of the statement. -/

namespace DeviceLab

open Text

/-- What copying does to the contents of files.  It is only known for paths that are apart, that is,
of which no two lead to the same file. -/
structure Host.Copies {σ : Type} (host : Host σ) (content : σ → String → Option Bytes)
    (apart : String → Prop) : Prop where
  directories : ∀ dir path system,
    content ((host.createDirectories dir).run.run system).2 path = content system path
  target : ∀ source target system, apart source → apart target → source ≠ target →
    ((host.copyFile source target).run.run system).1 = .ok () →
    content ((host.copyFile source target).run.run system).2 target = content system source
  others : ∀ source target other system, apart target → apart other → other ≠ target →
    content ((host.copyFile source target).run.run system).2 other = content system other

/-- In one directory, different plain names are different paths. -/
theorem Path.join_injective {dir a b : String} (ha : '/' ∉ a.toList) (hb : '/' ∉ b.toList)
    (h : Path.join dir a = Path.join dir b) : a = b := by
  have hplain : ∀ name : String, '/' ∉ name.toList → Path.isAbsolute name = false := by
    intro name hname
    unfold Path.isAbsolute
    cases hlist : name.toList with
    | nil => rfl
    | cons c rest =>
        have hc : c ≠ '/' := fun heq => hname (by rw [hlist, heq]; exact List.mem_cons_self ..)
        simpa using hc
  unfold Path.join at h
  rw [hplain a ha, hplain b hb, Bool.false_or] at h
  split at h
  · exact h
  · apply String.toList_inj.1
    have hlists := congrArg String.toList h
    split at hlists
    · simpa using hlists
    · simpa using hlists

variable {σ β : Type} {s : Setup σ β} {content : σ → String → Option Bytes}
  {apart : String → Prop} {r r' : Run σ β} {id : ProcessId}

namespace Run

/-! ### Copying -/

/-- What copying the output of a process to a file has changed. -/
structure CopiedTo (content : σ → String → Option Bytes) (apart : String → Prop) (file : String)
    (lab lab' : Lab σ) : Prop where
  supervisor : lab'.supervisor = lab.supervisor
  others : apart file → ∀ path, apart path → path ≠ file →
    content lab'.system path = content lab.system path

theorem preserve_spec (hfiles : s.host.Copies content apart) (id : ProcessId) (dir name : String)
    (lab : Lab σ) :
    Ends (· = lab) (Lab.preserve s.host id dir name)
      (fun file lab' => file = Path.join dir name ∧ CopiedTo content apart file lab lab' ∧
        ∃ p, lab.supervisor.proc? id = some p ∧ (apart p.capture → apart file → p.capture ≠ file →
          content lab'.system file = content lab.system p.capture))
      fun _ => CopiedTo content apart (Path.join dir name) lab := by
  refine .bind (Q := fun p lab' => lab' = lab ∧ lab.supervisor.proc? id = some p) ?_ fun p => ?_
  · refine .bind (Q := fun t lab' => t = lab ∧ lab' = lab) (.get fun _ h => ⟨h, h⟩) fun t => ?_
    split
    · next p hp => exact .pure fun lab' h => ⟨h.2, h.1 ▸ hp⟩
    · exact .throw fun lab' h => h.2 ▸ ⟨rfl, fun _ _ _ _ => rfl⟩
  refine .of_eq fun lab' h => ?_
  obtain ⟨rfl, hp⟩ := h
  have hmade := fun path => hfiles.directories dir path lab'.system
  refine .bind ((Lab.attempt_spec _ lab').weaken (fun _ _ h => h) fun _ lab'' h => ?_)
    fun _ => .of_eq fun lab'' h => ?_
  · obtain ⟨cause, system, hrun, -, rfl⟩ := h
    rw [hrun] at hmade
    exact ⟨rfl, fun _ path _ _ => hmade path⟩
  obtain ⟨system, hrun, rfl⟩ := h
  rw [hrun] at hmade
  have hothers := fun other => hfiles.others p.capture (Path.join dir name) other system
  refine .bind ((Lab.attempt_spec (s.host.copyFile p.capture (Path.join dir name))
    { lab' with system }).weaken (fun _ _ h => h) fun _ lab'' h => ?_) fun _ => ?_
  · obtain ⟨cause, after, hcopy, -, rfl⟩ := h
    rw [hcopy] at hothers
    exact ⟨rfl, fun hfile path hpath hne => (hothers path hfile hpath hne).trans (hmade path)⟩
  refine .bind (.modify fun lab'' h => ?_) fun _ => .pure fun _ h => h
  obtain ⟨after, hcopy, rfl⟩ := h
  have htarget := hfiles.target p.capture (Path.join dir name) system
  rw [hcopy] at hothers htarget
  refine ⟨rfl, ⟨rfl, fun hfile path hpath hne => ?_⟩, p, hp, fun hcapture hfile hne => ?_⟩
  · exact (hothers path hfile hpath hne).trans (hmade path)
  · exact (htarget hcapture hfile hne rfl).trans (hmade p.capture)

/-- The paths from and to which output is copied are apart, and none of the first is one of the
others. -/
structure Separate (s : Setup σ β) (apart : String → Prop) (ids : List ProcessId)
    (r : Run σ β) : Prop where
  captures : ∀ entry ∈ r.lab.supervisor.procs, apart entry.2.capture
  files : ∀ id ∈ ids, apart (outputFile s r id)
  elsewhere : ∀ entry ∈ r.lab.supervisor.procs, ∀ id ∈ ids,
    entry.2.capture ≠ outputFile s r id

/-- What copying the output of some processes has changed; `kept` are the copies made. -/
structure Copied (s : Setup σ β) (content : σ → String → Option Bytes) (apart : String → Prop)
    (ids : List ProcessId) (before after : Run σ β) (kept : List (ProcessId × String)) :
    Prop where
  supervisor : after.lab.supervisor = before.lab.supervisor
  logNames : after.logNames = before.logNames
  others : ∀ path, apart path → (∀ id ∈ ids, path ≠ outputFile s before id) →
    content after.lab.system path = content before.lab.system path
  made : (kept.map Prod.fst).Sublist ids
  files : ∀ entry ∈ kept, entry.2 = outputFile s before entry.1
  copied : kept.map Prod.fst = ids →
    (∀ id ∈ ids, ∀ other ∈ ids, outputFile s before id = outputFile s before other → id = other) →
    ∀ id ∈ ids, ∀ p, before.lab.supervisor.proc? id = some p →
      content after.lab.system (outputFile s before id) = content before.lab.system p.capture

theorem proc?_mem {sup : Supervisor} {p : Supervised} (h : sup.proc? id = some p) :
    ∃ entry ∈ sup.procs, entry.2 = p := by
  obtain ⟨entry, hentry, rfl⟩ := Option.map_eq_some_iff.1 h
  exact ⟨entry, List.mem_of_find?_eq_some hentry, rfl⟩

theorem onLab_spec {α : Type} {operation : StateM (Lab σ) α} {Q : α → Lab σ → Prop}
    (h : Leads (· = r.lab) operation Q) :
    Leads (· = r) (onLab operation) fun a r' => ∃ lab, r' = { r with lab } ∧ Q a lab :=
  .modifyGet fun r' hr => ⟨(operation r'.lab).2, by rw [hr], h r'.lab (by rw [hr])⟩

/-- One more copy succeeds. -/
theorem Copied.cons {lab : Lab σ} {rest : List ProcessId} {kept : List (ProcessId × String)}
    {p : Supervised} (hsep : Separate s apart (id :: rest) r)
    (hnext : outputFile s { r with lab } = outputFile s r)
    (hcopied : CopiedTo content apart (outputFile s r id) r.lab lab)
    (hp : r.lab.supervisor.proc? id = some p)
    (hcontent : content lab.system (outputFile s r id) = content r.lab.system p.capture)
    (h : Copied s content apart rest { r with lab } r' kept) :
    Copied s content apart (id :: rest) r r' ((id, outputFile s r id) :: kept) := by
  have hapart := hsep.files id (List.mem_cons_self ..)
  refine ⟨h.supervisor.trans hcopied.supervisor, h.logNames, fun path hpath hne => ?_,
    h.made.cons_cons id, fun entry hentry => ?_, fun hall hinj other hother q hq => ?_⟩
  · refine (h.others path hpath fun other hother => ?_).trans
      (hcopied.others hapart path hpath (hne id (List.mem_cons_self ..)))
    rw [hnext]
    exact hne other (List.mem_cons_of_mem _ hother)
  · rcases List.mem_cons.1 hentry with rfl | hentry
    · rfl
    · rw [h.files entry hentry, hnext]
  obtain ⟨entry, hentry, rfl⟩ := proc?_mem hq
  rw [List.map_cons, List.cons.injEq] at hall
  by_cases hrest : other ∈ rest
  · have hlater := h.copied hall.2
    rw [hnext, hcopied.supervisor] at hlater
    have hcontent := hlater (fun a ha b hb => hinj a (List.mem_cons_of_mem _ ha) b
      (List.mem_cons_of_mem _ hb)) other hrest entry.2 hq
    exact hcontent.trans (hcopied.others hapart _ (hsep.captures entry hentry)
      (hsep.elsewhere entry hentry id (List.mem_cons_self ..)))
  · -- the file of this process is not written again
    obtain rfl : other = id := (List.mem_cons.1 hother).resolve_right hrest
    rw [hp, Option.some.injEq] at hq
    rw [← hq, ← hcontent]
    refine h.others _ hapart fun another hanother heq => hrest ?_
    rw [hnext] at heq
    rw [hinj other (List.mem_cons_self ..) another (List.mem_cons_of_mem _ hanother) heq]
    exact hanother

/-- One more copy fails. -/
theorem Copied.skip {lab : Lab σ} {rest : List ProcessId} {kept : List (ProcessId × String)}
    (hsep : Separate s apart (id :: rest) r)
    (hnext : outputFile s { r with lab } = outputFile s r)
    (hcopied : CopiedTo content apart (outputFile s r id) r.lab lab)
    (h : Copied s content apart rest { r with lab } r' kept) :
    Copied s content apart (id :: rest) r r' kept := by
  have hapart := hsep.files id (List.mem_cons_self ..)
  refine ⟨h.supervisor.trans hcopied.supervisor, h.logNames, fun path hpath hne => ?_,
    h.made.cons id, fun entry hentry => ?_, fun hall => ?_⟩
  · refine (h.others path hpath fun other hother => ?_).trans
      (hcopied.others hapart path hpath (hne id (List.mem_cons_self ..)))
    rw [hnext]
    exact hne other (List.mem_cons_of_mem _ hother)
  · rw [h.files entry hentry, hnext]
  · have hlength := h.made.length_le
    rw [hall, List.length_cons] at hlength
    omega

theorem keepEach_spec (hfiles : s.host.Copies content apart) (ids : List ProcessId) (r : Run σ β)
    (hsep : Separate s apart ids r) :
    Leads (· = r) (keepEach s (logsDir s) ids) fun kept r' =>
      Copied s content apart ids r r' kept := by
  induction ids generalizing r with
  | nil =>
      refine .pure fun r' h => h ▸ ⟨rfl, rfl, fun _ _ _ => rfl, .slnil, by simp, ?_⟩
      exact fun _ _ id hid => nomatch hid
  | cons id rest ih =>
      refine .bind (Q := fun run r' => run = r ∧ r' = r) (.get fun _ h => ⟨h, h⟩) fun run => ?_
      refine .of_eq fun r' h => ?_
      obtain ⟨rfl, rfl⟩ := h
      -- what is copied next is named as before, since neither names nor processes change
      have hnext : ∀ lab, lab.supervisor = r'.lab.supervisor →
          outputFile s { r' with lab } = outputFile s r' := by
        intro lab hlab
        funext other
        unfold outputFile outputFileName
        rw [hlab]
      have hrest : ∀ lab, lab.supervisor = r'.lab.supervisor →
          Separate s apart rest { r' with lab } := by
        intro lab hlab
        refine ⟨?_, ?_, ?_⟩
        · rw [hlab]
          exact hsep.captures
        · rw [hnext lab hlab]
          exact fun other hother => hsep.files other (List.mem_cons_of_mem _ hother)
        · rw [hnext lab hlab, hlab]
          exact fun entry hentry other hother =>
            hsep.elsewhere entry hentry other (List.mem_cons_of_mem _ hother)
      refine .bind (onLab_spec (preserve_spec hfiles id _ _ r'.lab)) fun result => .of_eq fun r'' h => ?_
      obtain ⟨lab, rfl, h⟩ := h
      cases result with
      | ok file =>
          obtain ⟨rfl, hcopied, p, hp, hcontent⟩ := h
          have hlab := hcopied.supervisor
          obtain ⟨entry, hentry, rfl⟩ := proc?_mem hp
          refine .bind (ih _ (hrest lab hlab)) fun kept => .pure fun r'' h => ?_
          exact .cons hsep (hnext lab hlab) hcopied hp
            (hcontent (hsep.captures entry hentry) (hsep.files id (List.mem_cons_self ..))
              (hsep.elsewhere entry hentry id (List.mem_cons_self ..))) h
      | error cause =>
          exact (ih _ (hrest lab h.supervisor)).weaken fun kept r'' hrest =>
            .skip hsep (hnext lab h.supervisor) h hrest

/-! ### Linking -/

theorem linkLogs_cons (files : List (ProcessId × String)) (i : Nat) (id : ProcessId)
    (logs : List (Nat × ProcessId)) (suites : List SuiteSummary) :
    linkLogs files ((i, id) :: logs) suites =
      linkLogs files logs (suites.modify i fun x =>
        { x with logPath := (files.find? fun entry => entry.1 == id).map (·.2) }) :=
  rfl

theorem linkLogs_of_not_mem {files : List (ProcessId × String)} {logs : List (Nat × ProcessId)}
    {suites : List SuiteSummary} {i : Nat} (h : i ∉ logs.map Prod.fst) :
    (linkLogs files logs suites)[i]? = suites[i]? := by
  induction logs generalizing suites with
  | nil => rfl
  | cons entry rest ih =>
      obtain ⟨j, id⟩ := entry
      rw [List.map_cons, List.mem_cons, not_or] at h
      rw [linkLogs_cons, ih h.2, List.getElem?_modify_ne _ _ fun heq => h.1 heq.symm]

/-- A record whose suite's last attempt is known gets the file with the output of that attempt. -/
theorem linkLogs_of_mem {files : List (ProcessId × String)} {logs : List (Nat × ProcessId)}
    {suites : List SuiteSummary} {i : Nat} (hnodup : (logs.map Prod.fst).Nodup)
    (h : (i, id) ∈ logs) :
    (linkLogs files logs suites)[i]? = suites[i]?.map fun x =>
      { x with logPath := (files.find? fun entry => entry.1 == id).map (·.2) } := by
  induction logs generalizing suites with
  | nil => cases h
  | cons entry rest ih =>
      rw [List.map_cons, List.nodup_cons] at hnodup
      rcases List.mem_cons.1 h with rfl | h
      · rw [linkLogs_cons, linkLogs_of_not_mem hnodup.1, List.getElem?_modify_eq]
        rfl
      · have hne : entry.1 ≠ i := fun heq => hnodup.1 (heq ▸ List.mem_map_of_mem h)
        rw [linkLogs_cons, ih hnodup.2 h, List.getElem?_modify_ne _ _ hne]

/-- The file of a process is found if a copy of its output was made. -/
theorem Copied.find? {ids : List ProcessId} {files : List (ProcessId × String)}
    (h : Copied s content apart ids r r' files) (id : ProcessId) :
    (files.find? fun entry => entry.1 == id).map (·.2) =
      if id ∈ files.map Prod.fst then some (outputFile s r id) else none := by
  cases hfind : files.find? fun entry => entry.1 == id with
  | none =>
      rw [if_neg, Option.map_none]
      rintro hmem
      obtain ⟨entry, hentry, rfl⟩ := List.mem_map.1 hmem
      exact List.find?_eq_none.1 hfind entry hentry (beq_self_eq_true entry.1)
  | some entry =>
      have hentry := List.mem_of_find?_eq_some hfind
      have hid := List.find?_some hfind
      obtain rfl : entry.1 = id := beq_iff_eq.1 hid
      rw [if_pos (List.mem_map_of_mem hentry), Option.map_some, h.files entry hentry]

end Run

/-! ### The files of the small lab -/

namespace Sample

theorem Disk.read_write (disk : Disk) (path other : String) (bytes : Bytes) :
    (disk.write path bytes).read other = if path = other then some bytes else disk.read other := by
  unfold write read
  rw [List.find?_cons]
  by_cases h : path = other
  · simp [h]
  · rw [if_neg h, beq_false_of_ne h]

theorem fetch_spec (path : String) (disk : Disk) :
    Ends (· = disk) (fetch path) (fun bytes disk' => disk' = disk ∧ disk.read path = some bytes)
      fun _ disk' => disk' = disk := by
  refine .bind (Q := fun t disk' => t = disk ∧ disk' = disk) (.get fun _ h => ⟨h, h⟩) fun t => ?_
  split
  · next bytes hread => exact .pure fun disk' h => ⟨h.2, h.1 ▸ hread⟩
  · exact .throw fun disk' h => h.2

theorem copyFile_spec (source target : String) (disk : Disk) :
    Ends (· = disk) (host.copyFile source target)
      (fun _ disk' => ∃ bytes, disk.read source = some bytes ∧ disk' = disk.write target bytes)
      fun _ disk' => disk' = disk :=
  .bind (fetch_spec source disk) fun bytes => .modify fun disk' h => ⟨bytes, h.2, by rw [h.1]⟩

theorem host_copies : host.Copies Disk.read fun _ => True where
  directories _ _ _ := rfl
  target source target disk _ _ _ hcopied := by
    have hspec := copyFile_spec source target disk disk rfl
    rw [hcopied] at hspec
    obtain ⟨bytes, hread, hdisk⟩ := hspec
    rw [hdisk, Disk.read_write, if_pos rfl, hread]
  others source target other disk _ _ hne := by
    have hspec := copyFile_spec source target disk disk rfl
    revert hspec
    cases ((host.copyFile source target).run.run disk).1 with
    | error cause => exact fun hdisk => by rw [hdisk]
    | ok _ =>
        rintro ⟨bytes, -, hdisk⟩
        rw [hdisk, Disk.read_write, if_neg fun heq => hne heq.symm]

end Sample

namespace Run

/-! ### The statement -/

/-- All copies are made. -/
def AllCopied (s : Setup σ β) (r : Run σ β) : Prop :=
  ((keepEach s (logsDir s) r.lab.supervisor.ids).run r).1.map Prod.fst = r.lab.supervisor.ids

/-- No output is lost: each process that is held in `before` has a file of its own in the directory
for logs, with what its output was; and each record of a suite that was launched tells the file of
its last attempt. -/
structure OutputKept (s : Setup σ β) (content : σ → String → Option Bytes) (before after : Run σ β)
    (suites : List SuiteSummary) : Prop where
  own : ∀ id ∈ before.lab.supervisor.ids, ∀ other ∈ before.lab.supervisor.ids,
    outputFile s before id = outputFile s before other → id = other
  direct : ∀ id ∈ before.lab.supervisor.ids, '/' ∉ (before.outputFileName id).toList
  content : ∀ id p, before.lab.supervisor.proc? id = some p →
    content after.lab.system (outputFile s before id) = content before.lab.system p.capture
  linked : ∀ x ∈ suites, x.attempts ≠ 0 → ∃ id ∈ before.lab.supervisor.ids,
    .launched x.suite x.attempts id ∈ before.moves.toList ∧
      x.logPath = some (outputFile s before id)

/-- The processes that are held are told apart by plain names for their files, and the last attempts
of the recorded suites are among them. -/
structure Discernible (r : Run σ β) : Prop where
  names : ∀ id ∈ r.lab.supervisor.ids, ∀ other ∈ r.lab.supervisor.ids,
    r.outputFileName id = r.outputFileName other → id = other
  plain : ∀ id ∈ r.lab.supervisor.ids, '/' ∉ (r.outputFileName id).toList
  held : ∀ entry ∈ r.resultLogs, entry.2 ∈ r.lab.supervisor.ids

instance : Decidable (AllCopied s r) := inferInstanceAs (Decidable (_ = _))

instance [DecidablePred apart] (ids : List ProcessId) : Decidable (Separate s apart ids r) :=
  decidable_of_iff ((∀ entry ∈ r.lab.supervisor.procs, apart entry.2.capture) ∧
      (∀ id ∈ ids, apart (outputFile s r id)) ∧
      ∀ entry ∈ r.lab.supervisor.procs, ∀ id ∈ ids, entry.2.capture ≠ outputFile s r id)
    ⟨fun h => ⟨h.1, h.2.1, h.2.2⟩, fun h => ⟨h.captures, h.files, h.elsewhere⟩⟩

instance : Decidable (Discernible r) :=
  decidable_of_iff ((∀ id ∈ r.lab.supervisor.ids, ∀ other ∈ r.lab.supervisor.ids,
        r.outputFileName id = r.outputFileName other → id = other) ∧
      (∀ id ∈ r.lab.supervisor.ids, '/' ∉ (r.outputFileName id).toList) ∧
      ∀ entry ∈ r.resultLogs, entry.2 ∈ r.lab.supervisor.ids)
    ⟨fun h => ⟨h.1, h.2.1, h.2.2⟩, fun h => ⟨h.names, h.plain, h.held⟩⟩

/-- What is kept of a run that has gone wrong. -/
theorem keepOutput_of_ne_success {summary : RunSummary} (hbad : summary.verdict ≠ .success) :
    (keepOutput s summary).run r =
      let copies := (keepEach s (logsDir s) r.lab.supervisor.ids).run r
      let suites := linkLogs copies.1 r.resultLogs summary.suites
      ((some (logsDir s), { summary with suites }), copies.2) := by
  unfold keepOutput
  rw [if_neg hbad]
  rfl

/-- What becomes of the record of a suite that was launched. -/
theorem Copied.linked {files : List (ProcessId × String)} {suites : List SuiteSummary} {i : Nat}
    (h : Copied s content apart r.lab.supervisor.ids r r' files)
    (hall : files.map Prod.fst = r.lab.supervisor.ids) (hlinked : Linked r.results r.resultLogs r.moves.toList)
    (hsuites : suites.map SuiteSummary.bare = r.results.map SuiteSummary.bare)
    (hentry : (i, id) ∈ r.resultLogs) :
    ∃ x, (linkLogs files r.resultLogs suites)[i]? = some x ∧ x.attempts ≠ 0 ∧
      .launched x.suite x.attempts id ∈ r.moves.toList ∧
      x.logPath = if id ∈ r.lab.supervisor.ids then some (outputFile s r id) else none := by
  obtain ⟨y, hy, hattempts, hlaunched⟩ := hlinked.entry i id hentry
  have hbare := congrArg (·[i]?) hsuites
  simp only [List.getElem?_map, hy, Option.map_some, Option.map_eq_some_iff] at hbare
  obtain ⟨x, hx, hxy⟩ := hbare
  have hsuite : x.suite = y.suite := (congrArg SuiteSummary.suite hxy :)
  have hcount : x.attempts = y.attempts := (congrArg SuiteSummary.attempts hxy :)
  refine ⟨_, by rw [linkLogs_of_mem hlinked.nodup hentry, hx, Option.map_some], ?_, ?_, ?_⟩
  · rw [← hcount] at hattempts
    exact hattempts
  · rw [← hsuite, ← hcount] at hlaunched
    exact hlaunched
  · rw [h.find? id, hall]

theorem Copied.outputKept_iff {files : List (ProcessId × String)} {suites : List SuiteSummary}
    (h : Copied s content apart r.lab.supervisor.ids r r' files)
    (hall : files.map Prod.fst = r.lab.supervisor.ids) (hlinked : Linked r.results r.resultLogs r.moves.toList)
    (hsuites : suites.map SuiteSummary.bare = r.results.map SuiteSummary.bare) :
    OutputKept s content r r' (linkLogs files r.resultLogs suites) ↔ Discernible r := by
  constructor
  · intro hkept
    refine ⟨fun id hid other hother heq => ?_, hkept.direct, fun entry hentry => ?_⟩
    · exact hkept.own id hid other hother (congrArg (Path.join (logsDir s)) heq)
    · obtain ⟨x, hx, hattempts, -, hpath⟩ := h.linked hall hlinked hsuites hentry
      obtain ⟨id, -, -, hfile⟩ := hkept.linked x (List.mem_of_getElem? hx) hattempts
      rw [hpath] at hfile
      split at hfile
      · next hheld => exact hheld
      · cases hfile
  · intro hdiscernible
    have hown : ∀ id ∈ r.lab.supervisor.ids, ∀ other ∈ r.lab.supervisor.ids,
        outputFile s r id = outputFile s r other → id = other :=
      fun id hid other hother heq => hdiscernible.names id hid other hother
        (Path.join_injective (hdiscernible.plain id hid) (hdiscernible.plain other hother) heq)
    refine ⟨hown, hdiscernible.plain, fun id p hp => ?_, fun x hx hattempts => ?_⟩
    · refine h.copied hall hown id ?_ p hp
      obtain ⟨entry, hentry, -⟩ := Option.map_eq_some_iff.1 hp
      have hid := List.find?_some hentry
      exact beq_iff_eq.1 hid ▸ List.mem_map_of_mem (List.mem_of_find?_eq_some hentry)
    · obtain ⟨i, hi⟩ := List.mem_iff_getElem?.1 hx
      have hbare := congrArg (·[i]?) ((linkLogs_bare files r.resultLogs suites).trans hsuites)
      simp only [List.getElem?_map, hi, Option.map_some] at hbare
      obtain ⟨y, hy, hyx⟩ := Option.map_eq_some_iff.1 hbare.symm
      have hcount : y.attempts = x.attempts := (congrArg SuiteSummary.attempts hyx :)
      obtain ⟨id, hentry⟩ := hlinked.covers i y hy (by rw [hcount]; exact hattempts)
      obtain ⟨x', hx', -, hlaunched, hpath⟩ := h.linked hall hlinked hsuites hentry
      rw [hi, Option.some.injEq] at hx'
      subst hx'
      have hheld := hdiscernible.held _ hentry
      rw [if_pos hheld] at hpath
      exact ⟨id, hheld, hlaunched, hpath⟩

theorem Concluded.linked {c : Config} (h : Concluded c r) :
    Linked r.results r.resultLogs r.moves.toList := by
  cases h with
  | done machine verdict phases installed accounts => exact accounts.linked
  | failed p machine accounts =>
      obtain ⟨count, refused, hledger, -⟩ := accounts
      exact hledger.linked

/-- In a run of a valid configuration that has gone wrong (`hbad`), if all copies are made
(`hall`), no output is lost in `keepOutput` exactly if the processes of the run are `Discernible`:
they are told apart by the names of their files. -/
theorem Sums.output_kept_iff {system : σ} {memory : β} {summary kept : RunSummary}
    {dir : Option String} (hv : s.plan.config.validate = .ok ())
    (h : Sums s system memory summary r) (hbad : summary.verdict ≠ .success)
    (hkept : (keepOutput s summary).run r = ((dir, kept), r'))
    (hfiles : s.host.Copies content apart) (hsep : Separate s apart r.lab.supervisor.ids r)
    (hall : AllCopied s r) :
    OutputKept s content r r' kept.suites ↔ Discernible r := by
  have hsettled := h.settled (P := fun _ => True) s.backend.keeps_nothing
    (Config.validate_suites hv) fun _ => trivial
  have hcopied := keepEach_spec hfiles r.lab.supervisor.ids r hsep r rfl
  rw [keepOutput_of_ne_success hbad, Prod.mk.injEq, Prod.mk.injEq] at hkept
  obtain ⟨⟨-, rfl⟩, rfl⟩ := hkept
  exact hcopied.outputKept_iff hall hsettled.concluded.linked hsettled.summary.suites

/-- In the small lab everything is kept of a run in which a suite asks for too many attempts. -/
theorem output_kept_both : ∃ summary r dir kept r',
    Sums (Sample.setup Sample.planned_both) {} {} summary r ∧ summary.verdict ≠ .success ∧
    (keepOutput (Sample.setup Sample.planned_both) summary).run r = ((dir, kept), r') ∧
    OutputKept (Sample.setup Sample.planned_both) Sample.Disk.read r r' kept.suites := by
  obtain ⟨summary, r, h, hcheck⟩ := Sums.of_run (Sample.setup Sample.planned_both) {} {}
    (fun summary r => decide (summary.verdict ≠ .success ∧
      Separate (Sample.setup Sample.planned_both) (fun _ => True) r.lab.supervisor.ids r ∧
      AllCopied (Sample.setup Sample.planned_both) r ∧ Discernible r)) 5 (by decide +kernel)
  obtain ⟨hbad, hsep, hall, hdiscernible⟩ := of_decide_eq_true hcheck
  exact ⟨summary, r, _, _, _, h, hbad, rfl, (Sums.output_kept_iff
    (Sample.setup_valid Sample.planned_both) h hbad rfl Sample.host_copies hsep hall).2 hdiscernible⟩

/-- When the devices of the small lab are started a second time, the output of the first emulator is
lost. -/
theorem output_lost_after_retry : ∃ summary r dir kept r',
    Sums (Sample.setup Sample.planned_both) {} Sample.redirectFailsOnce summary r ∧
    summary.verdict ≠ .success ∧ AllCopied (Sample.setup Sample.planned_both) r ∧
    (keepOutput (Sample.setup Sample.planned_both) summary).run r = ((dir, kept), r') ∧
    ¬OutputKept (Sample.setup Sample.planned_both) Sample.Disk.read r r' kept.suites := by
  obtain ⟨summary, r, h, hcheck⟩ := Sums.of_run (Sample.setup Sample.planned_both) {}
    Sample.redirectFailsOnce
    (fun summary r => decide (summary.verdict ≠ .success ∧
      Separate (Sample.setup Sample.planned_both) (fun _ => True) r.lab.supervisor.ids r ∧
      AllCopied (Sample.setup Sample.planned_both) r ∧ ¬Discernible r)) 5 (by decide +kernel)
  obtain ⟨hbad, hsep, hall, hmixed⟩ := of_decide_eq_true hcheck
  have hkept := Sums.output_kept_iff (Sample.setup_valid Sample.planned_both) h hbad rfl
    Sample.host_copies hsep hall
  exact ⟨summary, r, _, _, _, h, hbad, hall, rfl, hkept.not.2 hmixed⟩

end Run

end DeviceLab
