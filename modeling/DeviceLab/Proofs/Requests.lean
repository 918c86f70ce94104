import DeviceLab.Proofs.Supervision

/-! # Requests to the supervisor

A supervisor is asked one thing after another, by callers that know its handles only.  Whatever the
host does in the meantime, one request can come out in a few ways (`Served`), and these are all that
the results about rows of requests rest on.

* `Request`, `Answer`, `serve`: what can be asked, and how it is answered.
* `serve_spec`: all that can come of one request.
* `Exchange`, `Session`: a request with the labs before and after it, and a row of them.
* `Advances`: what a row of requests does to a lab.
* `Seen`: on the way the system has told how a process ended. -/

namespace DeviceLab

variable {σ α : Type} {host : Host σ}

open Supervisor (Holds Live Ended)

/-! ### Asking -/

/-- What a supervisor is asked. -/
inductive Request where
  | launch (spec : LaunchSpec)
  | poll (id : ProcessId)
  | readOutput (id : ProcessId)
  | terminate (id : ProcessId)
  | terminateAll
  | release (id : ProcessId)
  | runToCompletion (spec : LaunchSpec) (limit : Duration)
  /-- The list of groups is to be kept in another one from now on. -/
  | useGroups (shared : List Nat)

/-- The handle that a request is about. -/
def Request.handle? : Request → Option ProcessId
  | .poll id | .readOutput id | .terminate id | .release id => some id
  | _ => none

/-- What is answered to a request that is met. -/
inductive Answer where
  | handle (id : ProcessId)
  | state (r : Option ExitOutcome)
  | output (text : String)
  | outcome (o : ExitOutcome)
  | completion (c : Lab.Completion)
  | done

namespace Lab

/-- Meets a request, or fails to. -/
def serve (host : Host σ) : Request → Supervising σ Answer
  | .launch spec => return .handle (← ExceptT.adapt SupervisorError.launch (launch host spec))
  | .poll id => return .state (← poll host id)
  | .readOutput id => return .output (← readOutput host id)
  | .terminate id => return .outcome (← terminate host id)
  | .terminateAll => do
    terminateAll host
    return .done
  | .release id => do
    release host id
    return .done
  | .runToCompletion spec limit => return .completion (← runToCompletion host spec limit)
  | .useGroups shared => do
    modifySupervisor fun s => s.useGroups shared
    return .done

/-! ### What can come of a request -/

/-- What can come of a request in a lab: the reply, and the lab after it. -/
inductive Served (host : Host σ) (lab : Lab σ) :
    Request → Except SupervisorError Answer → Lab σ → Prop where
  | refused {request : Request} {id : ProcessId} (hid : request.handle? = some id)
      (h : lab.supervisor.proc? id = none) :
      Served host lab request (.error (.unknownProcess id)) lab
  /-- The process could not be looked at. -/
  | failed {request : Request} {id : ProcessId} {pid : Nat} {cause : IoError} {lab' : Lab σ}
      (hid : request.handle? = some id) (hlive : lab.supervisor.Live id pid)
      (h : Tending host (· = id) lab lab') : Served host lab request (.error (.io cause)) lab'
  | polled {id : ProcessId} {pid : Nat} {r : Option ExitOutcome} {lab' : Lab σ}
      (hheld : lab.supervisor.Holds id pid) (h : Tending host (· = id) lab lab')
      (htold : Told lab'.supervisor id pid r)
      (hgroups : lab'.supervisor.groups = lab.supervisor.groups) :
      Served host lab (.poll id) (.ok (.state r)) lab'
  | read {id : ProcessId} {pid : Nat} {text : String} {lab' : Lab σ}
      (hheld : lab.supervisor.Holds id pid) (h : Tending host (fun _ => False) lab lab') :
      Served host lab (.readOutput id) (.ok (.output text)) lab'
  | unread {id : ProcessId} {pid : Nat} {cause : IoError} {lab' : Lab σ}
      (hheld : lab.supervisor.Holds id pid) (h : Tending host (fun _ => False) lab lab') :
      Served host lab (.readOutput id) (.error (.io cause)) lab'
  | terminated {id : ProcessId} {pid : Nat} {o : ExitOutcome} {lab' : Lab σ}
      (h : Tending host (· = id) lab lab') (hended : lab'.supervisor.Ended id pid o)
      (hgroup : pid ∉ lab'.supervisor.groups) :
      Served host lab (.terminate id) (.ok (.outcome o)) lab'
  | terminatedAll {lab' : Lab σ}
      (h : Tending host (fun id => ∃ pid, lab.supervisor.Live id pid) lab lab') :
      Served host lab .terminateAll (.ok .done) lab'
  | launched {spec : LaunchSpec} {id : ProcessId} {lab' : Lab σ}
      (h : Launches host spec id lab lab') :
      Served host lab (.launch spec) (.ok (.handle id)) lab'
  | unlaunched {spec : LaunchSpec} {cause : LaunchError} {lab' : Lab σ}
      (h : Unlaunched host lab lab') :
      Served host lab (.launch spec) (.error (.launch cause)) lab'
  | released {id : ProcessId} {pid : Nat} {o : ExitOutcome} {between lab' : Lab σ}
      (h : Tending host (· = id) lab between) (hended : between.supervisor.Ended id pid o)
      (hreleases : Releases host id between lab') :
      Served host lab (.release id) (.ok .done) lab'
  | completed {spec : LaunchSpec} {limit : Duration} {c : Completion} {id : ProcessId}
      {launched between lab' : Lab σ} (hlaunches : Launches host spec id lab launched)
      (h : Tending host (· = id) launched between) (hreleases : Releases host id between lab') :
      Served host lab (.runToCompletion spec limit) (.ok (.completion c)) lab'
  | unstarted {spec : LaunchSpec} {limit : Duration} {e : SupervisorError} {lab' : Lab σ}
      (h : Unlaunched host lab lab') :
      Served host lab (.runToCompletion spec limit) (.error e) lab'
  /-- A short command was launched, and is still held. -/
  | uncompleted {spec : LaunchSpec} {limit : Duration} {e : SupervisorError} {id : ProcessId}
      {launched lab' : Lab σ} (hlaunches : Launches host spec id lab launched)
      (h : Tending host (· = id) launched lab') :
      Served host lab (.runToCompletion spec limit) (.error e) lab'
  | regrouped {shared : List Nat} :
      Served host lab (.useGroups shared) (.ok .done)
        { lab with supervisor := lab.supervisor.useGroups shared }

section Serving

variable {lab lab' : Lab σ} {request : Request} {id : ProcessId} {e : SupervisorError}
  {Q : α → Lab σ → Prop} {E : SupervisorError → Lab σ → Prop}

/-- Either the process of a handle is held, or an operation on it is refused. -/
theorem handle_spec {P : ProcessId → Prop} {f : Supervised → Supervising σ α}
    (hrefused : lab.supervisor.proc? id = none → E (.unknownProcess id) lab)
    (hheld : ∀ pid, lab.supervisor.Holds id pid →
      Ends (Tended host P lab (Holds · id pid)) (proc id >>= f) Q E) :
    Ends (· = lab) (proc id >>= f) Q E := by
  cases hp : lab.supervisor.proc? id with
  | none =>
      refine (proc_unknown hp).weaken (fun _ _ h => h) fun e lab' h => ?_
      rw [h.1, h.2]
      exact hrefused hp
  | some p =>
      have hholds : lab.supervisor.Holds id p.pid := ⟨p, hp, rfl⟩
      exact (hheld p.pid hholds).conseq (fun _ h => by rw [h]; exact .refl hholds)
        (fun _ _ h => h) fun _ _ h => h

/-- A process that could not be looked at was alive before. -/
theorem Failed.served (h : Failed host (· = id) lab e lab') (hid : request.handle? = some id) :
    Served host lab request (.error e) lab' := by
  obtain ⟨⟨cause, rfl⟩, htending, lab₁, id', pid, rfl, htending₁, hlive, -⟩ := h
  exact .failed hid (htending₁.live hlive) htending

/-- A look at a process leaves the list of groups alone. -/
theorem poll_groups (groups : List Nat) :
    Leads (·.supervisor.groups = groups) (poll host id).run
      fun _ lab => lab.supervisor.groups = groups := by
  let Same (lab : Lab σ) : Prop := lab.supervisor.groups = groups
  have hproc : Ends Same (proc id) (fun _ => Same) fun _ => Same := by
    refine .bind (Q := fun _ => Same) (.get fun _ h => h) fun t => ?_
    split
    · exact .pure fun _ h => h
    · exact .throw fun _ h => h
  refine .attempt (P := Same) (.bind hproc fun p => ?_)
  split
  · exact .pure fun _ h => h
  refine .bind (Q := fun _ => Same) (.bind (Q := fun _ => Same) (.modifyGet fun _ h => h) fun r => ?_)
    fun r => ?_
  · cases r with
    | ok r => exact .pure fun _ h => h
    | error cause => exact .throw fun _ h => h
  · cases r with
    | none => exact .pure fun _ h => h
    | some o =>
        exact .bind (Q := fun _ => Same) (.bind (Q := fun _ => Same) (.modify fun _ h => h)
          fun _ => .modify fun _ h => h) fun _ => .pure fun _ h => h

theorem serve_spec (host : Host σ) (request : Request) (lab : Lab σ) :
    Ends (· = lab) (serve host request) (fun a => Served host lab request (.ok a))
      fun e => Served host lab request (.error e) := by
  cases request with
  | launch spec =>
      exact .bind (.adapt ((launch_spec host spec lab).weaken (fun _ _ h => h)
        fun _ _ h => .unlaunched h)) fun id => .pure fun _ h => .launched h
  | poll id =>
      have hgroups : Ends (·.supervisor.groups = lab.supervisor.groups) (poll host id)
          (fun _ lab' => lab'.supervisor.groups = lab.supervisor.groups)
          fun _ lab' => lab'.supervisor.groups = lab.supervisor.groups := .of_leads (poll_groups _)
      have hpoll : Ends (· = lab) (poll host id)
          (fun r lab' => ∃ pid, lab.supervisor.Holds id pid ∧
            Tended host (· = id) lab (Told · id pid r) lab')
          fun e => Served host lab (.poll id) (.error e) :=
        handle_spec (fun h => .refused rfl h) fun pid hheld =>
          (poll_tends (P := (· = id)) rfl).weaken (fun _ _ h => ⟨pid, hheld, h⟩)
            fun _ _ h => h.served rfl
      refine .bind ((hpoll.and hgroups).conseq (fun _ h => ⟨h, by rw [h]⟩) (fun _ _ h => h)
        fun _ _ h => h.1) fun r => .pure fun _ h => ?_
      obtain ⟨⟨pid, hheld, htending, htold⟩, hsame⟩ := h
      exact .polled hheld htending htold hsame
  | readOutput id =>
      refine .bind (Q := fun _ lab' => ∃ pid, lab.supervisor.Holds id pid ∧
        Tending host (fun _ => False) lab lab')
        (handle_spec (fun h => .refused rfl h) fun pid hheld => readOutput_tends.weaken
          (fun _ _ h => ⟨pid, hheld, h.1⟩) fun e lab' h => ?_)
        fun text => .pure fun _ h => h.elim fun _ h => .read h.1 h.2
      obtain ⟨⟨cause, rfl⟩, htending, -⟩ := h
      exact .unread hheld htending
  | terminate id =>
      refine .bind (Q := fun o lab' => ∃ pid, Tended host (· = id) lab
        (fun s => s.Ended id pid o ∧ pid ∉ s.groups) lab') (handle_spec (fun h => .refused rfl h)
          fun pid _ => (terminate_tends (P := (· = id)) rfl).weaken (fun _ _ h => ⟨pid, h⟩)
            fun _ _ h => h.served rfl)
        fun o => .pure fun _ h => h.elim fun _ h => .terminated h.1 h.2.1 h.2.2
  | terminateAll =>
      exact .bind (.lift terminateAll_tends) fun _ => .pure fun _ h => .terminatedAll h
  | release id =>
      refine .bind (Q := fun _ lab' => ∃ pid between o, Tending host (· = id) lab between ∧
        between.supervisor.Ended id pid o ∧ Releases host id between lab')
        (handle_spec (fun h => .refused rfl h) fun pid _ =>
          (release_spec (P := (· = id)) rfl).weaken (fun _ _ h => ⟨pid, h⟩)
            fun _ _ h => h.served rfl) fun _ => .pure fun _ h => ?_
      obtain ⟨pid, between, o, htending, hended, hreleases⟩ := h
      exact .released htending hended hreleases
  | runToCompletion spec limit =>
      refine .bind ((runToCompletion_spec host spec limit lab).weaken (fun _ _ h => h)
        fun e lab' h => ?_) fun c => .pure fun _ h => ?_
      · rcases h with h | ⟨id, launched, hlaunches, htending⟩
        · exact .unstarted h
        · exact .uncompleted hlaunches htending
      · obtain ⟨id, launched, between, hlaunches, htending, hreleases⟩ := h
        exact .completed hlaunches htending hreleases
  | useGroups shared =>
      refine .bind (Q := fun _ lab' =>
        lab' = { lab with supervisor := lab.supervisor.useGroups shared })
        (.modify fun _ h => by rw [h]) fun _ => .pure fun _ h => ?_
      rw [h]
      exact .regrouped

end Serving

/-! ### Rows of requests -/

/-- A request, with the lab in which it was made, the reply, and the lab after it. -/
structure Exchange (σ : Type) where
  before : Lab σ
  request : Request
  reply : Except SupervisorError Answer
  after : Lab σ

/-- A request is made. -/
def exchange (host : Host σ) (lab : Lab σ) (request : Request) : Exchange σ :=
  { before := lab
    request
    reply := ((serve host request).run.run lab).1
    after := ((serve host request).run.run lab).2 }

/-- Requests are made one after another, the next one whatever came of those before. -/
inductive Session (host : Host σ) (start : Lab σ) : List (Exchange σ) → Lab σ → Prop where
  | start : Session host start [] start
  | served {history : List (Exchange σ)} {lab : Lab σ} (h : Session host start history lab)
      (request : Request) : Session host start (history ++ [exchange host lab request])
        (exchange host lab request).after

/-- One change, or another list of groups. -/
inductive Advance (host : Host σ) : Lab σ → Lab σ → Prop where
  | changed {lab lab' : Lab σ} (h : Change host lab lab') : Advance host lab lab'
  | regrouped (lab : Lab σ) (shared : List Nat) :
      Advance host lab { lab with supervisor := lab.supervisor.useGroups shared }

/-- A row of these. -/
abbrev Advances (host : Host σ) : Lab σ → Lab σ → Prop := Relation.ReflTransGen (Advance host)

/-- On the way from one lab to another the system has told how the process of a handle ended. -/
def Seen (host : Host σ) (start : Lab σ) (id : ProcessId) (o : ExitOutcome) (lab : Lab σ) : Prop :=
  ∃ pid lab₁ lab₂, Advances host start lab₁ ∧ Exits host id pid o lab₁ lab₂ ∧ Advances host lab₂ lab

section Row

variable {start lab lab' : Lab σ} {request : Request} {history : List (Exchange σ)}
  {reply : Except SupervisorError Answer} {id : ProcessId} {pid : Nat} {o : ExitOutcome}

theorem exchange_served (host : Host σ) (lab : Lab σ) (request : Request) :
    Served host lab request (exchange host lab request).reply (exchange host lab request).after := by
  have h := serve_spec host request lab lab rfl
  unfold exchange
  revert h
  dsimp only
  cases ((serve host request).run.run lab).1 with
  | ok a => exact id
  | error e => exact id

theorem Evolves.advances (h : Evolves host lab lab') : Advances host lab lab' :=
  Relation.ReflTransGen.mono (fun _ _ hstep => .changed hstep) _ _ h

/-- What is asked about a process that is known to have ended is answered. -/
theorem Served.met (h : Served host lab request reply lab') (hended : lab.supervisor.Ended id pid o)
    (hrequest : request = .poll id ∨ request = .terminate id ∨ request = .release id) :
    ∃ a, reply = .ok a := by
  have hid : request.handle? = some id := by rcases hrequest with rfl | rfl | rfl <;> rfl
  cases h with
  | refused hid' hnone =>
      cases hid.symm.trans hid'
      exact absurd hnone hended.holds.ne_none
  | failed hid' hlive =>
      cases hid.symm.trans hid'
      exact absurd hlive hended.not_live
  | unread => rcases hrequest with h | h | h <;> cases h
  | unlaunched => cases hid
  | unstarted => cases hid
  | uncompleted => cases hid
  | _ => exact ⟨_, rfl⟩

theorem Served.advances (h : Served host lab request reply lab') : Advances host lab lab' := by
  cases h with
  | refused => exact .refl
  | failed _ _ h => exact h.evolves.advances
  | polled _ h => exact h.evolves.advances
  | read _ h => exact h.evolves.advances
  | unread _ h => exact h.evolves.advances
  | terminated h => exact h.evolves.advances
  | terminatedAll h => exact h.evolves.advances
  | launched h => exact .single (.changed (.launched h))
  | unlaunched h => exact .single (.changed (.unlaunched h))
  | released h _ hreleases => exact h.evolves.advances.tail (.changed (.released hreleases))
  | completed hlaunches h hreleases =>
      exact ((Relation.ReflTransGen.single (.changed (.launched hlaunches))).trans
        h.evolves.advances).tail (.changed (.released hreleases))
  | unstarted h => exact .single (.changed (.unlaunched h))
  | uncompleted hlaunches h =>
      exact (Relation.ReflTransGen.single (.changed (.launched hlaunches))).trans h.evolves.advances
  | regrouped => exact .single (.regrouped lab _)

theorem Advance.orderly (h : Advance host lab lab') (hlab : Orderly lab) : Orderly lab' := by
  cases h with
  | changed h => exact h.orderly hlab
  | regrouped shared => exact ⟨hlab.fresh, hlab.held, hlab.released, hlab.ended⟩

theorem Advances.orderly (h : Advances host lab lab') (hlab : Orderly lab) : Orderly lab' := by
  induction h with
  | refl => exact hlab
  | tail _ hstep ih => exact hstep.orderly ih

/-- Nothing is taken out of the journal. -/
theorem Advances.mem_journal (h : Advances host lab lab') {event : Event}
    (hevent : event ∈ lab.journal) : event ∈ lab'.journal := by
  induction h with
  | refl => exact hevent
  | tail _ hstep ih =>
      cases hstep with
      | changed h =>
          obtain ⟨new, hnew⟩ := h.journal
          rw [hnew]
          exact List.mem_append_left _ ih
      | regrouped shared => exact ih

/-- What is known of the end of a process stays known until its handle is given back. -/
theorem Advances.ended (h : Advances host lab lab') (hlab : Orderly lab)
    (hended : lab.supervisor.Ended id pid o) :
    lab'.supervisor.Ended id pid o ∨ .released id ∈ lab'.journal := by
  induction h with
  | refl => exact .inl hended
  | tail hrow hstep ih =>
      rcases ih with ih | ih
      · cases hstep with
        | changed h => exact h.ended (Advances.orderly hrow hlab) ih
        | regrouped shared => exact .inl ih
      · exact .inr (Advances.mem_journal (.single hstep) ih)

/-- What has become known of the end of a process, the system has told. -/
theorem Advances.seen_of_new (h : Advances host start lab)
    (hnew : ∀ pid o, ¬start.supervisor.Ended id pid o) (hended : lab.supervisor.Ended id pid o) :
    Seen host start id o lab := by
  induction h with
  | refl => exact absurd hended (hnew pid o)
  | @tail lab₁ lab₂ hrow hstep ih =>
      have hkeep : lab₁.supervisor.Ended id pid o → Seen host start id o lab₂ := fun h => by
        obtain ⟨pid', lab₃, lab₄, hbefore, hexits, hafter⟩ := ih h
        exact ⟨pid', lab₃, lab₄, hbefore, hexits, hafter.tail hstep⟩
      cases hstep with
      | changed h =>
          rcases h.ended_back hended with hended | hexits
          · exact hkeep hended
          · exact ⟨pid, lab₁, lab₂, hrow, hexits, .refl⟩
      | regrouped shared => exact hkeep hended

/-- Where nothing was held at first, all that is known the system has told. -/
theorem Advances.seen (h : Advances host start lab) (hprocs : start.supervisor.procs = [])
    (hended : lab.supervisor.Ended id pid o) : Seen host start id o lab :=
  h.seen_of_new (fun _ _ h => h.holds.ne_none (Supervisor.procs_eq_nil.1 hprocs id)) hended

theorem Advances.given (h : Advances host lab lab') (hgiven : Given lab.journal id) :
    Given lab'.journal id := by
  obtain ⟨spec, hspec⟩ := hgiven
  exact ⟨spec, h.mem_journal hspec⟩

theorem Session.advances (h : Session host start history lab) : Advances host start lab := by
  induction h with
  | start => exact .refl
  | served _ request ih => exact ih.trans (exchange_served host _ request).advances

/-- Every exchange of a row was made in a lab that came out of the first one, and the last one has
come out of it. -/
theorem Session.each (h : Session host start history lab) : ∀ x ∈ history,
    Advances host start x.before ∧ Served host x.before x.request x.reply x.after ∧
      Advances host x.after lab := by
  induction h with
  | start => exact fun _ hx => nomatch hx
  | @served history lab h request ih =>
      intro x hx
      have hserved := exchange_served host lab request
      rcases List.mem_append.1 hx with hx | hx
      · obtain ⟨hbefore, hx, hafter⟩ := ih x hx
        exact ⟨hbefore, hx, hafter.trans hserved.advances⟩
      · cases List.mem_singleton.1 hx
        exact ⟨h.advances, hserved, .refl⟩

end Row

end Lab

end DeviceLab
