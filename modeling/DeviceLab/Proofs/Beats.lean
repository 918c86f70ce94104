import DeviceLab.Timeout
import Mathlib.Data.List.Chain

/-! # How far apart the reminders are

Whoever watches a suite asks again and again whether a reminder is due.  The reminder knows one
instant, the last one at which it said so; here the row of those instants is held against the row
of the questions.

* `Heartbeat.beats`: the questions of a row to which the answer is yes.
* `Heartbeat.Asked`: the questions do not go back in time.
* `beats_apart`: the answers are more than the interval apart, however one asks.
* `beats_follow`: who asks often enough is not left without an answer for long. -/

namespace DeviceLab

namespace Heartbeat

/-- From an instant on, no question is asked before an earlier one. -/
def Asked (start : Instant) (row : List Instant) : Prop :=
  (start :: row).IsChain fun t t' => t.nanos ≤ t'.nanos

/-- From an instant on, no question is asked later than a while after the one before it. -/
def AskedWithin (p : Int) (start : Instant) (row : List Instant) : Prop :=
  (start :: row).IsChain fun t t' => t'.nanos - t.nanos ≤ p

instance (start : Instant) (row : List Instant) : Decidable (Asked start row) :=
  inferInstanceAs (Decidable (List.IsChain _ _))

instance (p : Int) (start : Instant) (row : List Instant) : Decidable (AskedWithin p start row) :=
  inferInstanceAs (Decidable (List.IsChain _ _))

variable {start now t : Instant} {row : List Instant} {p : Int}

theorem Asked.tail (h : Asked start (now :: row)) : start.nanos ≤ now.nanos ∧ Asked now row :=
  List.isChain_cons_cons.1 h

theorem AskedWithin.tail (h : AskedWithin p start (now :: row)) :
    now.nanos - start.nanos ≤ p ∧ AskedWithin p now row :=
  List.isChain_cons_cons.1 h

theorem Asked.le (h : Asked start row) (ht : t ∈ row) : start.nanos ≤ t.nanos := by
  induction row generalizing start with
  | nil => exact absurd ht List.not_mem_nil
  | cons now row ih =>
    obtain ⟨hle, hrow⟩ := h.tail
    rcases List.mem_cons.1 ht with rfl | ht
    · exact hle
    · exact Int.le_trans hle (ih hrow ht)

variable {interval : Duration} {last before b : Instant}

/-- The questions of a row to which the answer is that a reminder is due. -/
def beats : Heartbeat → List Instant → List Instant
  | _, [] => []
  | h, now :: row =>
    match h.due now with
    | (true, h) => now :: h.beats row
    | (false, h) => h.beats row

theorem due_of_lt (hpos : 0 < interval.nanos)
    (hover : (interval.nanos : Int) < now.nanos - last.nanos) :
    (startedAt interval last).due now = (true, startedAt interval now) := by
  have hsince : interval.nanos < (now.since last).nanos := by
    simp only [Instant.since]
    omega
  rw [due, startedAt, if_neg (Nat.ne_of_gt hpos), if_pos hsince, startedAt]

theorem due_of_le (hearly : now.nanos - last.nanos ≤ interval.nanos) :
    (startedAt interval last).due now = (false, startedAt interval last) := by
  have hsince : ¬interval.nanos < (now.since last).nanos := by
    simp only [Instant.since]
    omega
  rw [due, startedAt, if_neg hsince, ite_self]

theorem beats_of_lt (hpos : 0 < interval.nanos)
    (hover : (interval.nanos : Int) < now.nanos - last.nanos) (row : List Instant) :
    (startedAt interval last).beats (now :: row) = now :: (startedAt interval now).beats row := by
  rw [beats, due_of_lt hpos hover]

/-- A question that comes too early leaves no trace. -/
theorem beats_of_le (hearly : now.nanos - last.nanos ≤ interval.nanos) (row : List Instant) :
    (startedAt interval last).beats (now :: row) = (startedAt interval last).beats row := by
  rw [beats, due_of_le hearly]

/-- An interval of zero is never over. -/
theorem beats_of_zero {h : Heartbeat} (hzero : h.interval.nanos = 0) (row : List Instant) :
    h.beats row = [] := by
  induction row with
  | nil => rfl
  | cons now row ih =>
    have hnever : h.due now = (false, h) := by rw [due, if_pos hzero]
    rw [beats, hnever, ← ih]

/-! ### However one asks -/

theorem beats_sublist (hpos : 0 < interval.nanos) (last : Instant) (row : List Instant) :
    ((startedAt interval last).beats row).Sublist row := by
  induction row generalizing last with
  | nil => exact .slnil
  | cons now row ih =>
    rcases Int.lt_or_le interval.nanos (now.nanos - last.nanos) with hover | hearly
    · rw [beats_of_lt hpos hover]
      exact (ih now).cons_cons now
    · rw [beats_of_le hearly]
      exact (ih last).cons now

/-- The answers are more than the interval apart from each other and from the start. -/
theorem beats_apart (hpos : 0 < interval.nanos) (last : Instant) (row : List Instant) :
    (last :: (startedAt interval last).beats row).IsChain
      fun b b' => (interval.nanos : Int) < b'.nanos - b.nanos := by
  induction row generalizing last with
  | nil => exact .singleton _
  | cons now row ih =>
    rcases Int.lt_or_le interval.nanos (now.nanos - last.nanos) with hover | hearly
    · rw [beats_of_lt hpos hover]
      exact .cons_cons hover (ih now)
    · rw [beats_of_le hearly]
      exact ih last

/-! ### Asking often enough -/

/-- The answer is yes at the first question after the interval is over, and that comes no later
than the questions are apart.  The induction knows the question before, which came too early. -/
theorem beats_within (hpos : 0 < interval.nanos)
    (hbefore : before.nanos - last.nanos ≤ interval.nanos) (hwithin : AskedWithin p before row) :
    (last :: (startedAt interval last).beats row).IsChain
      fun b b' => b'.nanos - b.nanos ≤ interval.nanos + p := by
  induction row generalizing last before with
  | nil => exact .singleton _
  | cons now row ih =>
    obtain ⟨hgap, hrow⟩ := hwithin.tail
    rcases Int.lt_or_le interval.nanos (now.nanos - last.nanos) with hover | hearly
    · rw [beats_of_lt hpos hover]
      exact .cons_cons (by omega) (ih (by omega) hrow)
    · rw [beats_of_le hearly]
      exact ih hearly hrow

/-- An answer comes with one of the questions, so not before the first of them. -/
theorem le_of_mem_beats (hpos : 0 < interval.nanos) (hasked : Asked now row)
    (hb : b ∈ (startedAt interval last).beats row) : now.nanos ≤ b.nanos :=
  hasked.le ((beats_sublist hpos last row).subset hb)

/-- A question that comes more than the interval after an answer is not before the next one. -/
theorem beats_follow (hpos : 0 < interval.nanos)
    (hbefore : before.nanos - last.nanos ≤ interval.nanos) (hwithin : AskedWithin p before row)
    (hasked : Asked before row) (hb : b ∈ last :: (startedAt interval last).beats row)
    (ht : t ∈ row) (hover : (interval.nanos : Int) < t.nanos - b.nanos) :
    ∃ b' ∈ (startedAt interval last).beats row, (interval.nanos : Int) < b'.nanos - b.nanos ∧
      b'.nanos - b.nanos ≤ interval.nanos + p ∧ b'.nanos ≤ t.nanos := by
  induction row generalizing last before with
  | nil => exact absurd ht List.not_mem_nil
  | cons now row ih =>
    obtain ⟨hgap, hwithin⟩ := hwithin.tail
    obtain ⟨-, hrow⟩ := hasked.tail
    rcases Int.lt_or_le interval.nanos (now.nanos - last.nanos) with hpassed | hearly
    · rw [beats_of_lt hpos hpassed] at hb ⊢
      rcases List.mem_cons.1 hb with rfl | hb
      · have hnow : now.nanos ≤ t.nanos := by
          rcases List.mem_cons.1 ht with rfl | ht
          · exact Int.le_refl _
          · exact hrow.le ht
        exact ⟨now, List.mem_cons_self, hpassed, by omega, hnow⟩
      · rcases List.mem_cons.1 ht with rfl | ht
        · have hle : t.nanos ≤ b.nanos := by
            rcases List.mem_cons.1 hb with rfl | hb
            · exact Int.le_refl _
            · exact le_of_mem_beats hpos hrow hb
          omega
        · obtain ⟨b', hmem, hnext⟩ := ih (by omega) hwithin hrow hb ht
          exact ⟨b', List.mem_cons_of_mem now hmem, hnext⟩
    · rw [beats_of_le hearly] at hb ⊢
      rcases List.mem_cons.1 ht with rfl | ht
      · rcases List.mem_cons.1 hb with rfl | hb
        · omega
        · have hle : t.nanos ≤ b.nanos := le_of_mem_beats hpos hrow hb
          omega
      · exact ih hearly hwithin hrow hb ht

/-- The `beats` of a heartbeat are questions of the `row`.  Two of them, and `start` and the first,
are more than `interval` apart.  If no question comes later than `p` after the one before it
(`AskedWithin`), then two beats are at most `interval` and `p` apart, and as long as the questions
go on there is a next one.  With an `interval` of zero there is none. -/
theorem beats_spacing (interval : Duration) (start : Instant) (row : List Instant)
    (hasked : Asked start row) :
    let beats := (startedAt interval start).beats row
    beats.Sublist row ∧
    (0 < interval.nanos →
      ((start :: beats).IsChain fun b b' => (interval.nanos : Int) < b'.nanos - b.nanos) ∧
      ∀ p, AskedWithin p start row →
        ((start :: beats).IsChain fun b b' => b'.nanos - b.nanos ≤ interval.nanos + p) ∧
        ∀ b ∈ start :: beats, ∀ t ∈ row, (interval.nanos : Int) < t.nanos - b.nanos →
          ∃ b' ∈ beats, (interval.nanos : Int) < b'.nanos - b.nanos ∧
            b'.nanos - b.nanos ≤ interval.nanos + p ∧ b'.nanos ≤ t.nanos) ∧
    (interval.nanos = 0 → beats = []) := by
  have hzero : interval.nanos = 0 → (startedAt interval start).beats row = [] :=
    fun hzero => beats_of_zero hzero row
  refine ⟨?_, fun hpos => ⟨beats_apart hpos start row, fun p hwithin => ?_⟩, hzero⟩
  · rcases Nat.eq_zero_or_pos interval.nanos with h | hpos
    · exact hzero h ▸ List.nil_sublist row
    · exact beats_sublist hpos start row
  · have hnone : start.nanos - start.nanos ≤ interval.nanos := by omega
    exact ⟨beats_within hpos hnone hwithin,
      fun b hb t ht => beats_follow hpos hnone hwithin hasked hb ht⟩

/-- Questions at odd times and an interval of ten: each reminder comes at the first question that
is more than ten after the one before. -/
theorem beats_spacing_irregular :
    let row : List Instant := [⟨3⟩, ⟨10⟩, ⟨14⟩, ⟨14⟩, ⟨24⟩, ⟨25⟩, ⟨36⟩]
    Asked ⟨0⟩ row ∧ (startedAt ⟨10⟩ ⟨0⟩).beats row = [⟨14⟩, ⟨25⟩, ⟨36⟩] ∧
    ∀ b ∈ Instant.mk 0 :: (startedAt ⟨10⟩ ⟨0⟩).beats row, ∀ t ∈ row, 10 < t.nanos - b.nanos →
      ∃ b' ∈ (startedAt ⟨10⟩ ⟨0⟩).beats row, 10 < b'.nanos - b.nanos ∧
        b'.nanos - b.nanos ≤ 10 + 11 ∧ b'.nanos ≤ t.nanos := by
  intro row
  have hasked : Asked ⟨0⟩ row := by decide
  have hwithin : AskedWithin 11 ⟨0⟩ row := by decide
  exact ⟨hasked, by decide,
    (((beats_spacing ⟨10⟩ ⟨0⟩ row hasked).2.1 (by decide)).2 11 hwithin).2⟩

end Heartbeat

end DeviceLab
