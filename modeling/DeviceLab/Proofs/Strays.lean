import DeviceLab.Proofs.Listings
import DeviceLab.Proofs.Summing
import DeviceLab.Proofs.Triple
import DeviceLab.Supervisor.Operations

/-! # What a sweep kills

A sweep goes by the text that the process table is printed as.  What it hands to the system are the
numbers in the lines whose command contains the pattern, other than the number of the program
itself, and nothing else is signalled.  A line may tell any number of 32 bits, though, and the system
takes it with a sign: zero is the group of the program itself, and from 2^31 on a number stands for
another group, or for all processes.

* `Stray.targets`: the numbers that are handed to the system.
* `Lab.sweep_sweeps`: what a sweep does to the system, whatever the system is.
* `Stray.MayKill`: the number of a process that may be killed.
* `Lab.sweep_mayKill_iff`: only such processes are killed exactly if no line with the pattern tells
  of a number that is none of a process. -/

namespace DeviceLab

variable {σ : Type} {host : Host σ}

open Text

/-- The system is asked to kill what some numbers address, one after another. -/
def Host.killEach (host : Host σ) : List Int → StateM σ Unit
  | [] => return
  | target :: rest => do
    discard <| host.signalProcess target .kill
    killEach host rest

/-! ### The numbers -/

namespace Lab

open Decimal

theorem addressed_of_lt {pid : Nat} (h : pid < twoTo 31) : addressed pid = pid := if_pos h

/-- The upper half of the numbers stands for negative ones. -/
theorem addressed_of_le {pid : Nat} (h : twoTo 31 ≤ pid) :
    addressed pid = (pid : Int) - twoTo 32 := if_neg (Nat.not_lt.2 h)

theorem addressed_neg {pid : Nat} (hlow : twoTo 31 ≤ pid) (hhigh : pid < twoTo 32) :
    addressed pid < 0 := by
  rw [addressed_of_le hlow]
  omega

theorem eq_addressed_iff {pid : Nat} {target : Int} (h : pid < twoTo 32) :
    target = addressed pid ↔ 0 < pid ∧ pid < twoTo 31 ∧ target = pid ∨ pid = 0 ∧ target = 0 ∨
      twoTo 31 ≤ pid ∧ target < 0 ∧ target = (pid : Int) - twoTo 32 := by
  by_cases hlt : pid < twoTo 31
  · rw [addressed_of_lt hlt]
    omega
  · have hle := Nat.not_lt.1 hlt
    have hneg := addressed_neg hle h
    have hsome : 0 < twoTo 31 := by decide
    rw [addressed_of_le hle] at hneg ⊢
    omega

theorem addressed_pos_iff {pid : Nat} (h : pid < twoTo 32) :
    0 < addressed pid ↔ 0 < pid ∧ pid < twoTo 31 := by
  by_cases hlt : pid < twoTo 31
  · rw [addressed_of_lt hlt]
    omega
  · have hneg := addressed_neg (Nat.not_lt.1 hlt) h
    omega

end Lab

namespace Stray

open Decimal Lab

variable {own pid : Nat} {listing pattern : String} {target : Int}

/-- A listing has a line that tells of a process whose command contains a pattern. -/
def Listed (listing pattern : String) (pid : Nat) : Prop :=
  ∃ line ∈ lines listing.toList, ∃ command, Tells line pid command ∧ pattern.toList <:+: command

/-- The numbers that a sweep hands to the system, in the order of the listing. -/
def targets (own : Nat) (listing pattern : String) : List Int :=
  ((matchingPids listing pattern).filter fun found => found.1 ≠ own).map fun found =>
    addressed found.1

theorem Listed.lt (h : Listed listing pattern pid) : pid < twoTo 32 := by
  obtain ⟨line, -, command, htells, -⟩ := h
  obtain ⟨-, -, -, -, -, -, -, hlt, -⟩ := htells
  exact hlt

theorem listed_iff_mem : Listed listing pattern pid ↔
    ∃ command, (pid, command) ∈ matchingPids listing pattern := by
  simp only [matchingPids_eq, List.mem_filterMap, found?_eq_some_iff, Listed]
  constructor
  · rintro ⟨line, hline, command, htells, hpattern⟩
    refine ⟨String.ofList command, line, hline, ?_⟩
    rw [String.toList_ofList]
    exact ⟨htells, hpattern⟩
  · rintro ⟨command, line, hline, hfound⟩
    exact ⟨line, hline, command.toList, hfound⟩

theorem mem_targets : target ∈ targets own listing pattern ↔
    ∃ pid, Listed listing pattern pid ∧ pid ≠ own ∧ target = addressed pid := by
  simp only [targets, List.mem_map, List.mem_filter, decide_eq_true_eq, listed_iff_mem]
  constructor
  · rintro ⟨⟨pid, command⟩, ⟨hmem, hown⟩, rfl⟩
    exact ⟨pid, ⟨command, hmem⟩, hown, rfl⟩
  · rintro ⟨pid, ⟨command, hmem⟩, hown, rfl⟩
    exact ⟨(pid, command), ⟨hmem, hown⟩, rfl⟩

/-- What a sweep may kill: a process that is listed with the pattern in its command, and is not the
program itself. -/
def MayKill (own : Nat) (listing pattern : String) (target : Int) : Prop :=
  0 < target ∧ ∃ pid, Listed listing pattern pid ∧ pid ≠ own ∧ target = pid

/-- A number that is handed to the system is the one that was listed, or no number of a process. -/
theorem mayKill_iff (h : Listed listing pattern pid) (hown : pid ≠ own) :
    MayKill own listing pattern (addressed pid) ↔ 0 < pid ∧ pid < twoTo 31 := by
  constructor
  · exact fun hmay => (addressed_pos_iff h.lt).1 hmay.1
  · exact fun hpid => ⟨(addressed_pos_iff h.lt).2 hpid, pid, h, hown, addressed_of_lt hpid.2⟩

end Stray

/-! ### A sweep -/

namespace Lab

variable {pattern : String}

/-- What can come of a sweep for the system. -/
inductive Sweeps (host : Host σ) (pattern : String) (system : σ) : σ → Prop where
  /-- The empty pattern means no process, and nothing is looked at. -/
  | idle (h : pattern = "") : Sweeps host pattern system system
  /-- The processes could not be listed. -/
  | unlisted {cause : IoError} {after : σ} (hsome : pattern ≠ "")
      (h : host.listProcesses.run.run system = (.error cause, after)) :
      Sweeps host pattern system after
  | killed {listing : Bytes} {own : Nat} {listed between : σ} (hsome : pattern ≠ "")
      (hlisting : host.listProcesses.run.run system = (.ok listing, listed))
      (hown : host.ownPid.run listed = (own, between)) :
      Sweeps host pattern system
        ((host.killEach (Stray.targets own (Utf8.decodeLossy listing) pattern)).run between).2

theorem killListed_kills (own : Nat) (found : List (Nat × String)) (system : σ) :
    Leads (fun lab => lab.system = system) (killListed host own found) fun _ lab =>
      lab.system = ((host.killEach ((found.filter fun entry => entry.1 ≠ own).map fun entry =>
        addressed entry.1)).run system).2 := by
  induction found generalizing system with
  | nil => exact .pure fun _ h => h
  | cons entry rest ih =>
      obtain ⟨pid, command⟩ := entry
      refine .ite (fun hown => ?_) fun hown => ?_
      · rw [List.filter_cons_of_neg (by simpa using hown)]
        exact ih system
      · rw [List.filter_cons_of_pos (by simpa using hown)]
        exact .bind (Q := fun _ lab => lab.system = system) (.modify fun _ h => h) fun _ =>
          .bind (Q := fun _ lab =>
            lab.system = ((host.signalProcess (addressed pid) .kill).run system).2)
            (.modifyGet fun _ h => by rw [← h]; rfl) fun _ =>
          .bind (ih _) fun _ => .pure fun _ h => h

theorem sweep_sweeps (host : Host σ) (pattern : String) (lab : Lab σ) :
    Sweeps host pattern lab.system ((sweep host pattern).run lab).2.system := by
  have hsweep : Leads (fun lab' => lab'.system = lab.system) (sweep host pattern)
      fun _ lab' => Sweeps host pattern lab.system lab'.system := by
    refine .ite (fun hnone => .pure fun _ h => ?_) fun hsome => ?_
    · rw [h]
      exact .idle (String.isEmpty_iff.1 hnone)
    have hsome : pattern ≠ "" := fun h => hsome (String.isEmpty_iff.2 h)
    refine .bind (Q := fun r lab' => host.listProcesses.run.run lab.system = (r, lab'.system))
      (.modifyGet fun _ h => by rw [← h]; rfl) fun r => ?_
    cases r with
    | error cause => exact .pure fun _ h => .unlisted hsome h
    | ok listing =>
        refine .of_eq fun listed hlisted => ?_
        refine .bind (Q := fun own lab' => host.ownPid.run listed.system = (own, lab'.system))
          (.modifyGet fun _ h => by rw [h]; rfl) fun own => .of_eq fun between hown => ?_
        refine .bind ((killListed_kills own _ between.system).conseq (fun _ h => by rw [h])
          fun _ _ h => h) fun killed => ?_
        refine .bind (Q := fun _ lab' => Sweeps host pattern lab.system lab'.system)
          (.modify fun _ h => ?_) fun _ => .pure fun _ h => h
        rw [h]
        exact .killed hsome hlisted hown
  exact hsweep lab rfl

end Lab

/-! ### A small system -/

namespace Sample

/-- A system that writes down the numbers that it is to kill, and has a listing as it is given. -/
def recordingKills (listing : String) : Host (List Int) :=
  { Sample.host.along (fun _ => {}) fun _ kept => kept with
    signalProcess := fun target _ kept => (true, kept ++ [target])
    listProcesses := ExceptT.mk fun kept => (.ok (Utf8.encode listing), kept) }

/-- Helpers, one of them with the highest number there is, the program itself, and another process.
-/
def table : String := " 12 helper\n  3 helper\n 7 adb\n 2147483647 old helper\n"

end Sample

namespace Lab

/-! ### The main result -/

/-- What a `sweep` does to the system (`Sweeps`), and when it kills only what it `MayKill`: exactly
if no line of `listing` with `pattern` in its command tells of the number zero, or of one that the
system takes for a negative one.  Such a number addresses a group of processes, or all of them. -/
theorem sweep_mayKill_iff (host : Host σ) (pattern : String) (lab : Lab σ) :
    Sweeps host pattern lab.system ((sweep host pattern).run lab).2.system ∧
    ∀ own listing,
      ((∀ target ∈ Stray.targets own listing pattern, Stray.MayKill own listing pattern target) ↔
        ∀ pid, Stray.Listed listing pattern pid → pid ≠ own → 0 < pid ∧ pid < Decimal.twoTo 31) ∧
      ∀ target, target ∈ Stray.targets own listing pattern ↔
        ∃ pid, Stray.Listed listing pattern pid ∧ pid ≠ own ∧
          (0 < pid ∧ pid < Decimal.twoTo 31 ∧ target = pid ∨ pid = 0 ∧ target = 0 ∨
            Decimal.twoTo 31 ≤ pid ∧ target < 0 ∧ target = (pid : Int) - Decimal.twoTo 32) := by
  refine ⟨sweep_sweeps host pattern lab, fun own listing => ⟨⟨fun hall pid hpid hown => ?_,
    fun hall target htarget => ?_⟩, fun target => ?_⟩⟩
  · exact (Stray.mayKill_iff hpid hown).1 (hall _ (Stray.mem_targets.2 ⟨pid, hpid, hown, rfl⟩))
  · obtain ⟨pid, hpid, hown, rfl⟩ := Stray.mem_targets.1 htarget
    exact (Stray.mayKill_iff hpid hown).2 (hall pid hpid hown)
  · rw [Stray.mem_targets]
    refine exists_congr fun pid => and_congr_right fun hpid => and_congr_right fun _ => ?_
    exact eq_addressed_iff hpid.lt

/-- Two helpers and the program itself are listed; the helpers are killed, and it is not. -/
theorem sweep_kills_helpers :
    ((sweep (Sample.recordingKills Sample.table) "helper").run { system := [] }).2.system =
      [12, 2147483647] ∧
    ∀ target ∈ ([12, 2147483647] : List Int), Stray.MayKill 3 Sample.table "helper" target := by
  have hfound : Stray.matchingPids Sample.table "helper" =
      [(12, "helper"), (3, "helper"), (2147483647, "old helper")] := by decide
  have htargets : Stray.targets 3 Sample.table "helper" = [12, 2147483647] := by
    rw [Stray.targets, hfound]
    decide
  obtain ⟨-, hmay⟩ := sweep_mayKill_iff (Sample.recordingKills Sample.table) "helper" { system := [] }
  refine ⟨by decide +kernel, ?_⟩
  rw [← htargets]
  refine (hmay 3 Sample.table).1.2 fun pid hpid _ => ?_
  obtain ⟨command, hmem⟩ := Stray.listed_iff_mem.1 hpid
  rw [hfound] at hmem
  have hnumbers : ∀ entry ∈ [(12, "helper"), (3, "helper"), (2147483647, "old helper")],
      0 < entry.1 ∧ entry.1 < Decimal.twoTo 31 := by decide
  exact hnumbers _ hmem

/-- A listing tells of the number zero and of one of 32 bits.  What the system is asked to kill are
the group of the program itself and another group, of which neither is listed. -/
theorem sweep_kills_groups :
    ((sweep (Sample.recordingKills "0 helper\n4294967289 helper\n") "helper").run { system := [] }).2.system =
      [0, -7] ∧
    ∀ target ∈ ([0, -7] : List Int),
      ¬Stray.MayKill 3 "0 helper\n4294967289 helper\n" "helper" target := by
  refine ⟨by decide +kernel, fun target htarget hmay => ?_⟩
  rcases List.mem_pair.1 htarget with rfl | rfl <;> exact absurd hmay.1 (by decide)

end Lab

end DeviceLab
