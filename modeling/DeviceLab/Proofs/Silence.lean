import Mathlib.Data.List.Induction
import DeviceLab.Timeout

/-! # How long a suite has been silent

The watch over a suite is told the length of the output again and again, and of all that it keeps
the greatest length and one instant.  Here that is compared with the whole history: the instant is
the latest one at which a measurement found more output than every measurement before it
(`lastGrowth_observed`), so the limits are judged by the history alone (`check_history`).

* `GrownAt`, `LastGrowth`: when the output had grown, told by the row of measurements.
* `InOrder`: measurements are made one after another, the first one not before the start.
* `TimeoutWatch.observed`: the watch after a row of measurements. -/

namespace DeviceLab

/-- A look at the output: the length that it had, and when that was. -/
structure Measurement where
  length : Nat
  instant : Instant
  deriving DecidableEq, Repr

variable {start : Instant} {row : List Measurement} {m other : Measurement}

/-- A measurement of a row finds some output, and more than every measurement before it. -/
def GrownAt (row : List Measurement) (m : Measurement) : Prop :=
  ∃ before after, row = before ++ m :: after ∧ 0 < m.length ∧ ∀ e ∈ before, e.length < m.length

/-- The latest instant at which the output had grown, or the start if it never has. -/
inductive LastGrowth (start : Instant) (row : List Measurement) : Instant → Prop where
  | never (h : ∀ m, ¬GrownAt row m) : LastGrowth start row start
  | grown {m : Measurement} (h : GrownAt row m)
      (hlatest : ∀ other, GrownAt row other → other.instant.nanos ≤ m.instant.nanos) :
      LastGrowth start row m.instant

/-- From the start on, no measurement is made before an earlier one. -/
def InOrder (start : Instant) (row : List Measurement) : Prop :=
  (start.nanos :: row.map (·.instant.nanos)).Pairwise (· ≤ ·)

instance : Decidable (InOrder start row) := inferInstanceAs (Decidable (List.Pairwise _ _))

/-! ### One more measurement -/

theorem GrownAt.mem (h : GrownAt row m) : m ∈ row := by
  obtain ⟨before, after, rfl, -⟩ := h
  simp

theorem not_grownAt_nil : ¬GrownAt [] m := by
  intro h
  have hmem := h.mem
  simp at hmem

/-- In a longer row the output had grown where it had before, and perhaps at the end. -/
theorem grownAt_concat : GrownAt (row ++ [m]) other ↔
    GrownAt row other ∨ other = m ∧ 0 < m.length ∧ ∀ e ∈ row, e.length < m.length := by
  constructor
  · rintro ⟨before, after, hrow, hpos, hless⟩
    rcases List.eq_nil_or_concat after with rfl | ⟨after', last, rfl⟩
    · obtain ⟨rfl, hlast⟩ := List.append_inj' hrow rfl
      obtain rfl : m = other := by simpa using hlast
      exact .inr ⟨rfl, hpos, hless⟩
    · have hsplit : row ++ [m] = (before ++ other :: after') ++ [last] := by simp [hrow]
      obtain ⟨rfl, -⟩ := List.append_inj' hsplit rfl
      exact .inl ⟨before, after', rfl, hpos, hless⟩
  · rintro (⟨before, after, rfl, hpos, hless⟩ | ⟨rfl, hpos, hless⟩)
    · exact ⟨before, after ++ [m], by simp, hpos, hless⟩
    · exact ⟨row, [], rfl, hpos, hless⟩

theorem inOrder_concat (h : InOrder start (row ++ [m])) :
    InOrder start row ∧ ∀ e ∈ row, e.instant.nanos ≤ m.instant.nanos := by
  unfold InOrder at h ⊢
  rw [List.map_append, ← List.cons_append, List.pairwise_append] at h
  obtain ⟨hrow, -, hlast⟩ := h
  refine ⟨hrow, fun e he => ?_⟩
  have hmem : e.instant.nanos ∈ start.nanos :: row.map (·.instant.nanos) :=
    List.mem_cons_of_mem _ (List.mem_map_of_mem he)
  exact hlast _ hmem _ (by simp)

theorem LastGrowth.unique {t t' : Instant} (h : LastGrowth start row t)
    (h' : LastGrowth start row t') : t = t' := by
  cases h with
  | never hnone =>
      cases h' with
      | never => rfl
      | grown h' => exact absurd h' (hnone _)
  | @grown m h hlatest =>
      cases h' with
      | never hnone => exact absurd h (hnone _)
      | @grown m' h' hlatest' =>
          have heq : m.instant.nanos = m'.instant.nanos :=
            Int.le_antisymm (hlatest' m h) (hlatest m' h')
          exact congrArg Instant.mk heq

/-- Only when the output had grown counts. -/
theorem LastGrowth.congr {row' : List Measurement} {t : Instant} (h : LastGrowth start row t)
    (hsame : ∀ m, GrownAt row' m ↔ GrownAt row m) : LastGrowth start row' t := by
  cases h with
  | never hnone => exact .never fun m hm => hnone m ((hsame m).1 hm)
  | grown h hlatest =>
      exact .grown ((hsame _).2 h) fun other hother => hlatest other ((hsame other).1 hother)

namespace TimeoutWatch

variable {w : TimeoutWatch} {limits : SuiteTimeouts} {now later : Instant} {n : Nat}

/-- The watch after a row of measurements. -/
def observed (w : TimeoutWatch) (row : List Measurement) : TimeoutWatch :=
  row.foldl (fun w m => w.observeOutput m.length m.instant) w

@[simp]
theorem observed_nil (w : TimeoutWatch) : w.observed [] = w := rfl

@[simp]
theorem observed_append (w : TimeoutWatch) (row row' : List Measurement) :
    w.observed (row ++ row') = (w.observed row).observed row' := List.foldl_append

@[simp]
theorem observed_cons (w : TimeoutWatch) (m : Measurement) (row : List Measurement) :
    w.observed (m :: row) = (w.observeOutput m.length m.instant).observed row := rfl

theorem observeOutput_of_grown (h : w.outputLength < n) (now : Instant) :
    w.observeOutput n now = { w with outputLength := n, lastActivity := now } := if_pos h

theorem observeOutput_of_le (h : n ≤ w.outputLength) (now : Instant) :
    w.observeOutput n now = w := if_neg (by omega)

/-- A measurement leaves the limits and the start alone. -/
theorem observeOutput_fixed (w : TimeoutWatch) (n : Nat) (now : Instant) :
    (w.observeOutput n now).limits = w.limits ∧ (w.observeOutput n now).start = w.start := by
  unfold observeOutput
  split <;> exact ⟨rfl, rfl⟩

theorem observed_fixed (w : TimeoutWatch) (row : List Measurement) :
    (w.observed row).limits = w.limits ∧ (w.observed row).start = w.start := by
  induction row generalizing w with
  | nil => exact ⟨rfl, rfl⟩
  | cons m row ih =>
      obtain ⟨hlimits, hstart⟩ := observeOutput_fixed w m.length m.instant
      rw [observed_cons, (ih _).1, (ih _).2]
      exact ⟨hlimits, hstart⟩

/-! ### What the watch keeps -/

theorem outputLength_observeOutput (w : TimeoutWatch) (n : Nat) (now : Instant) :
    (w.observeOutput n now).outputLength = max w.outputLength n := by
  unfold observeOutput
  split
  · show n = max w.outputLength n
    omega
  · omega

/-- The length that is kept is the greatest one so far. -/
theorem outputLength_observed_lt (w : TimeoutWatch) (row : List Measurement) :
    (w.observed row).outputLength < n ↔ w.outputLength < n ∧ ∀ e ∈ row, e.length < n := by
  induction row generalizing w with
  | nil => simp
  | cons m row ih =>
      rw [observed_cons, ih, outputLength_observeOutput, Nat.max_lt, and_assoc,
        List.forall_mem_cons]

/-- The instant that is kept is the latest one at which the output had grown. -/
theorem lastGrowth_observed (h : InOrder start row) :
    LastGrowth start row ((startedAt limits start).observed row).lastActivity := by
  induction row using List.reverseRecOn with
  | nil => exact .never fun m => not_grownAt_nil
  | append_singleton row m ih =>
      obtain ⟨hrow, hlatest⟩ := inOrder_concat h
      have hkept := outputLength_observed_lt (n := m.length) (startedAt limits start) row
      rw [observed_append, observed_cons, observed_nil]
      by_cases hgrown : ((startedAt limits start).observed row).outputLength < m.length
      · have hnew : GrownAt (row ++ [m]) m := grownAt_concat.2 (.inr ⟨rfl, hkept.1 hgrown⟩)
        rw [observeOutput_of_grown hgrown]
        refine .grown hnew fun other hother => ?_
        rcases grownAt_concat.1 hother with hother | ⟨rfl, -⟩
        · exact hlatest other hother.mem
        · exact Int.le_refl _
      · have hsame : ∀ other, GrownAt (row ++ [m]) other ↔ GrownAt row other := by
          intro other
          refine grownAt_concat.trans (or_iff_left ?_)
          rintro ⟨-, hpos, hless⟩
          exact hgrown (hkept.2 ⟨hpos, hless⟩)
        rw [observeOutput_of_le (Nat.le_of_not_lt hgrown)]
        exact (ih hrow).congr hsame

/-- A measurement that finds no more output than an earlier one might as well not have been made. -/
theorem observed_skip (before after : List Measurement)
    (h : m.length = 0 ∨ ∃ e ∈ before, m.length ≤ e.length) :
    w.observed (before ++ m :: after) = w.observed (before ++ after) := by
  have hkept : m.length ≤ (w.observed before).outputLength := by
    rcases h with hzero | ⟨e, he, hle⟩
    · omega
    · have hless := (outputLength_observed_lt (n := m.length) w before).1
      by_contra hgrown
      have hbelow := (hless (by omega)).2 e he
      omega
  rw [observed_append, observed_append, observed_cons, observeOutput_of_le hkept]

/-! ### What the watch says -/

theorem check_eq_overall_iff :
    w.check now = .overall ↔ (w.limits.overall.nanos : Int) < now.nanos - w.start.nanos := by
  have hsince : w.limits.overall.nanos < (now.since w.start).nanos ↔
      (w.limits.overall.nanos : Int) < now.nanos - w.start.nanos := by
    simp only [Instant.since]
    omega
  rw [← hsince]
  unfold check
  split
  · next hover => exact iff_of_true rfl hover
  · next hwithin =>
      refine iff_of_false ?_ hwithin
      split
      · split <;> exact nofun
      · exact nofun

theorem check_eq_idle_iff :
    w.check now = .idle ↔ now.nanos - w.start.nanos ≤ w.limits.overall.nanos ∧
      ∃ idle ∈ w.limits.idle, (idle.nanos : Int) < now.nanos - w.lastActivity.nanos := by
  by_cases hoverall : w.check now = .overall
  · have hover := check_eq_overall_iff.1 hoverall
    rw [hoverall]
    refine iff_of_false nofun fun h => ?_
    omega
  · have hwithin := mt check_eq_overall_iff.2 hoverall
    have hnot : ¬w.limits.overall.nanos < (now.since w.start).nanos := by
      simp only [Instant.since]
      omega
    have hsince : ∀ idle : Duration, idle.nanos < (now.since w.lastActivity).nanos ↔
        (idle.nanos : Int) < now.nanos - w.lastActivity.nanos := by
      intro idle
      simp only [Instant.since]
      omega
    unfold check
    rw [if_neg hnot]
    cases w.limits.idle with
    | none => simp
    | some idle =>
        simp only [hsince, Option.mem_def, Option.some.injEq, exists_eq_left']
        split <;> simp <;> omega

theorem check_eq_ok_iff :
    w.check now = .ok ↔ now.nanos - w.start.nanos ≤ w.limits.overall.nanos ∧
      ∀ idle ∈ w.limits.idle, now.nanos - w.lastActivity.nanos ≤ idle.nanos := by
  have hoverall : w.check now = .overall ↔ _ := check_eq_overall_iff
  have hidle : w.check now = .idle ↔ _ := check_eq_idle_iff
  cases hstatus : w.check now with
  | overall =>
      have hover := hoverall.1 hstatus
      exact iff_of_false nofun fun h => by omega
  | idle =>
      obtain ⟨-, idle, hmem, hover⟩ := hidle.1 hstatus
      refine iff_of_false nofun fun h => ?_
      have hle := h.2 idle hmem
      omega
  | ok =>
      rw [hstatus] at hoverall hidle
      have hwithin : now.nanos - w.start.nanos ≤ w.limits.overall.nanos := by
        by_contra hover
        exact nomatch hoverall.2 (by omega)
      refine iff_of_true rfl ⟨hwithin, fun idle hmem => ?_⟩
      by_contra hover
      exact nomatch hidle.2 ⟨hwithin, idle, hmem, by omega⟩

/-- What has run too long has still done so later. -/
theorem check_overall_later (hlater : now.nanos ≤ later.nanos) (h : w.check now = .overall) :
    w.check later = .overall := by
  have hover := check_eq_overall_iff.1 h
  exact check_eq_overall_iff.2 (by omega)

/-- A limit that is passed stays passed as long as nothing is observed. -/
theorem check_later (hlater : now.nanos ≤ later.nanos) (h : (w.check now).isTimeout = true) :
    (w.check later).isTimeout = true := by
  have hpassed : w.check now ≠ .ok := by simpa [TimeoutStatus.isTimeout] using h
  suffices hlate : w.check later ≠ .ok by simpa [TimeoutStatus.isTimeout] using hlate
  intro hok
  obtain ⟨hoverall, hidle⟩ := check_eq_ok_iff.1 hok
  refine hpassed (check_eq_ok_iff.2 ⟨by omega, fun idle hmem => ?_⟩)
  have hle := hidle idle hmem
  omega

/-- The limits are judged by the history of the measurements in `row`.  The overall limit is passed
when `start` is too long ago, and else the limit of silence when the `LastGrowth` is; a measurement
that finds no more output than an earlier one changes nothing; and a limit that is passed `now`
stays passed `later`, until there is another measurement. -/
theorem check_history (limits : SuiteTimeouts) (h : InOrder start row) :
    let w := (startedAt limits start).observed row
    (∃ last, (∀ t, LastGrowth start row t ↔ t = last) ∧ ∀ now : Instant,
      (w.check now = .overall ↔ (limits.overall.nanos : Int) < now.nanos - start.nanos) ∧
      (w.check now = .idle ↔ now.nanos - start.nanos ≤ limits.overall.nanos ∧
        ∃ idle ∈ limits.idle, (idle.nanos : Int) < now.nanos - last.nanos) ∧
      (w.check now = .ok ↔ now.nanos - start.nanos ≤ limits.overall.nanos ∧
        ∀ idle ∈ limits.idle, now.nanos - last.nanos ≤ idle.nanos)) ∧
    (∀ (before : List Measurement) (m : Measurement) after, row = before ++ m :: after →
      (m.length = 0 ∨ ∃ e ∈ before, m.length ≤ e.length) →
      w = (startedAt limits start).observed (before ++ after)) ∧
    ∀ now later : Instant, now.nanos ≤ later.nanos →
      ((w.check now).isTimeout = true → (w.check later).isTimeout = true) ∧
      (w.check now = .overall → w.check later = .overall) := by
  intro w
  have hlast : LastGrowth start row w.lastActivity := lastGrowth_observed h
  obtain ⟨hlimits, hstart⟩ : w.limits = limits ∧ w.start = start := observed_fixed _ row
  refine ⟨⟨w.lastActivity, fun t => ⟨fun ht => ht.unique hlast, fun ht => ht ▸ hlast⟩,
    fun now => ?_⟩, ?_, ?_⟩
  · have hoverall : w.check now = .overall ↔ _ := check_eq_overall_iff
    have hidle : w.check now = .idle ↔ _ := check_eq_idle_iff
    have hok : w.check now = .ok ↔ _ := check_eq_ok_iff
    rw [hlimits, hstart] at hoverall hidle hok
    exact ⟨hoverall, hidle, hok⟩
  · rintro before m after rfl hseen
    exact observed_skip before after hseen
  · intro now later hlater
    exact ⟨check_later hlater, check_overall_later hlater⟩

/-- A length, then a smaller one, then the first one again: the output had grown only once.  What
the watch says at two instants tells when that was. -/
theorem check_history_stagnant :
    let limits : SuiteTimeouts := ⟨⟨100⟩, some ⟨3⟩⟩
    let row : List Measurement := [⟨5, ⟨1⟩⟩, ⟨3, ⟨2⟩⟩, ⟨5, ⟨4⟩⟩]
    InOrder ⟨0⟩ row ∧ ((startedAt limits ⟨0⟩).observed row).check ⟨4⟩ = .ok ∧
      ((startedAt limits ⟨0⟩).observed row).check ⟨5⟩ = .idle ∧ LastGrowth ⟨0⟩ row ⟨1⟩ := by
  intro limits row
  have horder : InOrder ⟨0⟩ row := by decide
  have hok : ((startedAt limits ⟨0⟩).observed row).check ⟨4⟩ = .ok := by decide
  have hidle : ((startedAt limits ⟨0⟩).observed row).check ⟨5⟩ = .idle := by decide
  obtain ⟨⟨last, hlast, hjudged⟩, -, -⟩ := check_history limits horder
  obtain ⟨-, hsilent⟩ := (hjudged ⟨4⟩).2.2.1 hok
  obtain ⟨-, idle, hmem, hpassed⟩ := (hjudged ⟨5⟩).2.1.1 hidle
  have hlow : (4 : Int) - last.nanos ≤ 3 := hsilent ⟨3⟩ rfl
  obtain rfl : ⟨3⟩ = idle := Option.some.inj hmem
  have hhigh : (3 : Int) < 5 - last.nanos := hpassed
  have hone : (1 : Int) = last.nanos := by omega
  exact ⟨horder, hok, hidle, (hlast ⟨1⟩).2 (congrArg Instant.mk hone)⟩

end TimeoutWatch

end DeviceLab
