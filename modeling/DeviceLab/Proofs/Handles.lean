import DeviceLab.Proofs.Custody

/-! # The discipline of handles

A handle is given out once, is good until it is given back, and then for nothing.  What a caller
has been told about the end of its process stays the answer as long as the handle is good, and it
is always what the system has told, never the text for an end that nobody has seen.

Given back means that the release was met: one that fails leaves the process held.  A short command
has a handle that its caller never learns of; if the command fails, its process may stay held under
it.  Therefore the handles in use are read off the journal (`InUse`), and for those that callers
have been given, off the replies.

* `Exchange.Gives`, `Exchange.TakesBack`, `Exchange.Refuses`, `Exchange.Tells`: what replies say.
* `Disciplined`: an exchange that keeps to the discipline after others.
* `Session.handles_valid_until_release`: every exchange does, whatever the system does in the
  meantime. -/

namespace DeviceLab

variable {σ : Type} {host : Host σ}

open Supervisor (Holds Live Ended)

namespace Lab

namespace Exchange

/-- A handle is given out. -/
def Gives (x : Exchange σ) (id : ProcessId) : Prop := x.reply = .ok (.handle id)

/-- A handle is given back. -/
def TakesBack (x : Exchange σ) (id : ProcessId) : Prop :=
  x.request = .release id ∧ x.reply = .ok .done

/-- A handle is not accepted. -/
def Refuses (x : Exchange σ) (id : ProcessId) : Prop := x.reply = .error (.unknownProcess id)

/-- A caller is told how the process of a handle has ended. -/
def Tells (x : Exchange σ) (id : ProcessId) (o : ExitOutcome) : Prop :=
  (x.request = .poll id ∧ x.reply = .ok (.state (some o))) ∨
    (x.request = .terminate id ∧ x.reply = .ok (.outcome o))

end Exchange

/-- An exchange keeps to the discipline, after all those before it. -/
structure Disciplined (host : Host σ) (start : Lab σ) (history : List (Exchange σ))
    (x : Exchange σ) : Prop where
  /-- No handle is given out twice. -/
  fresh : ∀ id, x.Gives id → ∀ y ∈ history, ¬y.Gives id
  /-- A launch that fails changes neither the processes nor the list of groups. -/
  unchanged : ∀ spec e, x.request = .launch spec → x.reply = .error e →
    x.after.supervisor = x.before.supervisor
  /-- A handle is accepted as long as it is in use, and only then. -/
  accepted : ∀ id, x.request.handle? = some id → (x.Refuses id ↔ ¬InUse x.before.journal id)
  /-- One that was given out is in use until it is given back. -/
  used : ∀ id, (∃ y ∈ history, y.Gives id) →
    (InUse x.before.journal id ↔ ∀ y ∈ history, ¬y.TakesBack id)
  /-- What was told of the end of a process is told again. -/
  again : ∀ id o, (∃ y ∈ history, y.Tells id o) → InUse x.before.journal id →
    (x.request = .poll id → x.reply = .ok (.state (some o))) ∧
      (x.request = .terminate id → x.reply = .ok (.outcome o))
  /-- Whatever is told is what was written down, and what the system has told. -/
  seen : ∀ id o, x.Tells id o →
    x.after.supervisor.outcome? id = some o ∧ Seen host start id o x.after

section Discipline

variable {start lab lab' : Lab σ} {request : Request} {reply : Except SupervisorError Answer}
  {history : List (Exchange σ)} {id : ProcessId} {pid : Nat} {o : ExitOutcome}

/-! ### What one request does -/

/-- A request about a handle is refused exactly if nothing is held under it. -/
theorem Served.refused_iff (h : Served host lab request reply lab')
    (hid : request.handle? = some id) :
    reply = .error (.unknownProcess id) ↔ lab.supervisor.proc? id = none := by
  cases h with
  | refused hid' hnone =>
      cases hid.symm.trans hid'
      exact ⟨fun _ => hnone, fun _ => rfl⟩
  | failed hid' hlive =>
      cases hid.symm.trans hid'
      exact ⟨nofun, fun h => absurd h hlive.holds.ne_none⟩
  | polled hheld =>
      cases hid
      exact ⟨nofun, fun h => absurd h hheld.ne_none⟩
  | read hheld =>
      cases hid
      exact ⟨nofun, fun h => absurd h hheld.ne_none⟩
  | unread hheld =>
      cases hid
      exact ⟨nofun, fun h => absurd h hheld.ne_none⟩
  | terminated htending hended =>
      cases hid
      exact ⟨nofun, fun h => absurd h (htending.holds.1 hended.holds).ne_none⟩
  | released htending hended =>
      cases hid
      exact ⟨nofun, fun h => absurd h (htending.holds.1 hended.holds).ne_none⟩
  | _ => cases hid

/-- A handle that is given out is the next one. -/
theorem Served.gives (h : Served host lab request reply lab') (hgives : reply = .ok (.handle id)) :
    ∃ spec, Launches host spec id lab lab' := by
  subst hgives
  cases h with
  | launched h => exact ⟨_, h⟩

/-- A launch that fails leaves the supervisor as it is. -/
theorem Served.unchanged {spec : LaunchSpec} {e : SupervisorError}
    (h : Served host lab request reply lab') (hrequest : request = .launch spec)
    (hreply : reply = .error e) : lab'.supervisor = lab.supervisor := by
  subst hrequest hreply
  cases h with
  | refused hid => cases hid
  | failed hid => cases hid
  | unlaunched h => exact h.supervisor

/-- A handle that was given out before is taken back by its release, and by nothing else. -/
theorem Served.released_iff (h : Served host lab request reply lab') (hlab : Orderly lab)
    (hgiven : Given lab.journal id) :
    .released id ∈ lab'.journal ↔
      .released id ∈ lab.journal ∨ (request = .release id ∧ reply = .ok .done) := by
  have hnew : ∀ {spec other launched}, Launches host spec other lab launched → id ≠ other := by
    rintro spec other launched h rfl
    exact h.not_given hlab hgiven
  cases h with
  | refused => exact ⟨.inl, fun h => h.resolve_right fun h => nomatch h.2⟩
  | failed _ _ h => exact (h.handles id).2.2.trans (or_iff_left fun h => nomatch h.2).symm
  | polled _ h => exact (h.handles id).2.2.trans (or_iff_left fun h => nomatch h.1).symm
  | read _ h => exact (h.handles id).2.2.trans (or_iff_left fun h => nomatch h.1).symm
  | unread _ h => exact (h.handles id).2.2.trans (or_iff_left fun h => nomatch h.1).symm
  | terminated h => exact (h.handles id).2.2.trans (or_iff_left fun h => nomatch h.1).symm
  | terminatedAll h => exact (h.handles id).2.2.trans (or_iff_left fun h => nomatch h.1).symm
  | launched h => exact (h.released_iff id).trans (or_iff_left fun h => nomatch h.1).symm
  | unlaunched h => cases h <;> exact (or_iff_left fun h => nomatch h.1).symm
  | @released other _ _ _ _ h _ hreleases =>
      rw [hreleases.released_iff, (h.handles id).2.2]
      simp [eq_comm]
  | completed hlaunches h hreleases =>
      rw [hreleases.released_iff, (h.handles id).2.2, hlaunches.released_iff]
      exact or_congr_right ⟨fun heq => absurd heq (hnew hlaunches), fun h => nomatch h.1⟩
  | unstarted h => cases h <;> exact (or_iff_left fun h => nomatch h.1).symm
  | uncompleted hlaunches h =>
      exact ((h.handles id).2.2.trans (hlaunches.released_iff id)).trans
        (or_iff_left fun h => nomatch h.1).symm
  | regrouped => exact (or_iff_left fun h => nomatch h.1).symm

/-- What is told of the end of a process is written down. -/
theorem Served.told (h : Served host lab request reply lab')
    (htells : (request = .poll id ∧ reply = .ok (.state (some o))) ∨
      (request = .terminate id ∧ reply = .ok (.outcome o))) :
    ∃ pid, lab'.supervisor.Ended id pid o := by
  rcases htells with ⟨rfl, rfl⟩ | ⟨rfl, rfl⟩
  · cases h with
    | polled _ _ htold => exact ⟨_, htold⟩
  · cases h with
    | terminated _ hended => exact ⟨_, hended⟩

/-- A look at a process that is known to have ended shows how. -/
theorem Served.poll_ended (h : Served host lab request reply lab') (hrequest : request = .poll id)
    (hended : lab.supervisor.Ended id pid o) : reply = .ok (.state (some o)) := by
  obtain ⟨a, rfl⟩ := h.met hended (.inl hrequest)
  subst hrequest
  cases h with
  | @polled _ _ r _ _ htending htold =>
      cases r with
      | none => exact absurd htold (htending.ended hended).not_live
      | some o' => rw [(htending.ended hended).unique htold]

/-- So does its termination. -/
theorem Served.terminate_ended (h : Served host lab request reply lab')
    (hrequest : request = .terminate id) (hended : lab.supervisor.Ended id pid o) :
    reply = .ok (.outcome o) := by
  obtain ⟨a, rfl⟩ := h.met hended (.inr (.inl hrequest))
  subst hrequest
  cases h with
  | terminated htending hended' => rw [(htending.ended hended).unique hended']

/-! ### What rows of requests do -/

/-- A handle that a caller has been given is in the journal. -/
theorem Session.given (h : Session host start history lab) {y : Exchange σ} (hy : y ∈ history)
    (hgives : y.Gives id) : Given lab.journal id := by
  obtain ⟨-, hserved, hafter⟩ := h.each y hy
  obtain ⟨spec, hlaunches⟩ := hserved.gives hgives
  exact Advances.given hafter ((hlaunches.given id).2 (.inl rfl))

/-- A handle that a caller has been given is taken back by a release that a caller has asked for. -/
theorem Session.released_iff (h : Session host start history lab) (hstart : Orderly start)
    (hgives : ∃ y ∈ history, y.Gives id) :
    .released id ∈ lab.journal ↔ ∃ y ∈ history, y.TakesBack id := by
  induction h with
  | start =>
      obtain ⟨y, hy, -⟩ := hgives
      cases hy
  | @served history lab h request ih =>
      have hlab := h.advances.orderly hstart
      have hserved := exchange_served host lab request
      have hmem : (∃ y ∈ history ++ [exchange host lab request], y.TakesBack id) ↔
          (∃ y ∈ history, y.TakesBack id) ∨ (exchange host lab request).TakesBack id := by
        simp only [List.mem_append, List.mem_singleton, or_and_right, exists_or, exists_eq_left]
      rw [hmem]
      by_cases hbefore : ∃ y ∈ history, y.Gives id
      · obtain ⟨y, hy, hgiven⟩ := hbefore
        rw [hserved.released_iff hlab (h.given hy hgiven), ih ⟨y, hy, hgiven⟩]
        rfl
      · -- the last request has launched the process, so that nobody can have given the handle back
        obtain ⟨y, hy, hgiven⟩ := hgives
        obtain hy | hy := List.mem_append.1 hy
        · exact absurd ⟨y, hy, hgiven⟩ hbefore
        cases List.mem_singleton.1 hy
        have hgiven : (exchange host lab request).reply = .ok (.handle id) := hgiven
        obtain ⟨spec, hlaunches⟩ := hserved.gives hgiven
        rw [hlaunches.released_iff]
        refine ⟨fun h => absurd (hlab.released id h) (hlaunches.not_given hlab), fun h => ?_⟩
        rcases h with ⟨y, hy, hrequest, hreply⟩ | ⟨hrequest, hreply⟩
        · obtain ⟨hbefore, hy, hafter⟩ := h.each y hy
          rw [hrequest, hreply] at hy
          cases hy with
          | released _ _ hreleases =>
              exact hafter.mem_journal ((hreleases.released_iff id).2 (.inr rfl))
        · rw [hgiven] at hreply
          cases hreply

/-- What a caller has been told of the end of a process is known as long as the handle is in use. -/
theorem Session.ended (h : Session host start history lab) (hstart : Orderly start)
    (htold : ∃ y ∈ history, y.Tells id o) (huse : InUse lab.journal id) :
    ∃ pid, lab.supervisor.Ended id pid o := by
  obtain ⟨y, hy, htold⟩ := htold
  obtain ⟨hbefore, hserved, hafter⟩ := h.each y hy
  obtain ⟨pid, hended⟩ := hserved.told htold
  have hy : Orderly y.after := hserved.advances.orderly (hbefore.orderly hstart)
  exact ⟨pid, (hafter.ended hy hended).resolve_right huse.2⟩

/-- From a lab in which nothing has happened, whatever is asked next after any `history` is
`Disciplined`. -/
theorem Session.handles_valid_until_release (hprocs : start.supervisor.procs = [])
    (hjournal : start.journal = []) (h : Session host start history lab) (request : Request) :
    Disciplined host start history (exchange host lab request) := by
  have hstart : Orderly start := .of_fresh hprocs hjournal
  have hlab : Orderly lab := h.advances.orderly hstart
  have hserved := exchange_served host lab request
  refine ⟨fun id hgives y hy hgiven => ?_, fun spec e hrequest hreply => ?_, fun id hid => ?_,
    fun id hgives => ?_, fun id o htold huse => ?_, fun id o htells => ?_⟩
  · obtain ⟨spec, hlaunches⟩ := hserved.gives hgives
    exact hlaunches.not_given hlab (h.given hy hgiven)
  · exact hserved.unchanged hrequest hreply
  · refine (hserved.refused_iff hid).trans ?_
    rw [← Option.not_isSome_iff_eq_none, hlab.held]
    exact Iff.rfl
  · obtain ⟨y, hy, hgiven⟩ := hgives
    refine (and_iff_right (h.given hy hgiven)).trans
      ((not_congr (h.released_iff hstart ⟨y, hy, hgiven⟩)).trans ?_)
    simp only [not_exists, not_and]
  · obtain ⟨pid, hended⟩ := h.ended hstart htold huse
    exact ⟨fun hrequest => hserved.poll_ended hrequest hended,
      fun hrequest => hserved.terminate_ended hrequest hended⟩
  · obtain ⟨pid, hended⟩ := hserved.told htells
    exact ⟨hended.outcome?, Advances.seen (h.advances.trans hserved.advances) hprocs hended⟩

/-- In the small system a program that ends at once is launched and terminated, and then looked at.
-/
theorem handles_valid_after_end : ∃ history lab,
    Session Sample.reusingPids { system := {} } history lab ∧
    (∃ x ∈ history, x.Gives ⟨1⟩) ∧ (∃ x ∈ history, x.Tells ⟨1⟩ (.exited 0)) ∧
    Disciplined Sample.reusingPids { system := {} } history
      (exchange Sample.reusingPids lab (.poll ⟨1⟩)) := by
  have h : Session Sample.reusingPids { system := {} } _ _ :=
    .served (.served .start (.launch { label := "program", argv := ["true"] })) (.terminate ⟨1⟩)
  refine ⟨_, _, h, ⟨_, List.mem_cons_self, rfl⟩, ⟨_, List.mem_cons_of_mem _ List.mem_cons_self,
    .inr ⟨rfl, rfl⟩⟩, h.handles_valid_until_release rfl rfl _⟩

end Discipline

end Lab

end DeviceLab
