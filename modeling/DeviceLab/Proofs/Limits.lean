import DeviceLab.Proofs.Admission
import DeviceLab.Proofs.Entries

/-! # Which times are durations

A valid configuration tells every time as a finite number of seconds, none of them negative.  Such a
number is rounded to nanoseconds, and it is a duration when the outcome is below `2^64` seconds.
Rounding does not matter for that: a number with a fraction is below `2^53`, and one without a
fraction is not rounded (`roundHalfEven_lt_iff`).  So exactly the numbers below `2^64` are durations
(`Duration.fromSeconds_found`).

The checks have no such bound.  `Config.durations_found_iff` says for which valid configurations all
durations are found, and `Config.durations_missing` that there are others. -/

namespace DeviceLab

namespace Decimal

theorem twoTo_pos (n : Nat) : 0 < twoTo n := Nat.pow_pos (by decide)

theorem twoTo_add (m n : Nat) : twoTo (m + n) = twoTo m * twoTo n := Nat.pow_add 2 m n

theorem twoTo_le {m n : Nat} (h : m ≤ n) : twoTo m ≤ twoTo n := Nat.pow_le_pow_right (by decide) h

theorem roundHalfEven_one (n : Nat) : roundHalfEven n 1 = n := by
  unfold roundHalfEven
  rw [Nat.div_one, Nat.mod_one, if_pos (Or.inl (by decide))]

theorem Binary64.value_bounds {x : Binary64} {negative : Bool} {m : Nat} {q : Int}
    (h : x.value = .finite negative m q) : m < twoTo 53 ∧ -1074 ≤ q := by
  have hfraction : x.bits.toNat % twoTo 52 < twoTo 52 := Nat.mod_lt _ (twoTo_pos 52)
  have hdouble : twoTo 53 = twoTo 52 + twoTo 52 := rfl
  unfold Binary64.value at h
  dsimp only at h
  split at h
  · split at h <;> cases h
  · split at h
    · cases h
      exact ⟨by omega, Int.le_refl _⟩
    · next hexponent =>
        cases h
        exact ⟨by omega, by omega⟩

/-- Whether the nanoseconds of `m · 2^q` seconds are below those of `2^64` is told by the number
itself. -/
theorem roundHalfEven_lt_iff {m : Nat} {q : Int} (hm : m < twoTo 53) (hq : -1074 ≤ q) :
    roundHalfEven (m * twoTo q.toNat * tenTo 9) (twoTo (-q).toNat) < twoTo 64 * tenTo 9 ↔
      m * twoTo (q + 1074).toNat < twoTo 64 * twoTo 1074 := by
  by_cases hneg : q < 0
  · -- with a fraction: both sides are true
    have hzero : q.toNat = 0 := by omega
    have hsmall : (q + 1074).toNat ≤ 1074 := by omega
    have hround : roundHalfEven (m * twoTo q.toNat * tenTo 9) (twoTo (-q).toNat) ≤
        m * tenTo 9 + 1 := by
      refine Nat.le_trans (roundHalfEven_le _ _) (Nat.add_le_add_right ?_ 1)
      rw [hzero, show twoTo 0 = 1 from rfl, Nat.mul_one]
      exact Nat.div_le_self ..
    have hnanos : m * tenTo 9 + 1 ≤ twoTo 53 * tenTo 9 := by
      have hstep : (m + 1) * tenTo 9 ≤ twoTo 53 * tenTo 9 := Nat.mul_le_mul_right _ hm
      have hpos : 1 ≤ tenTo 9 := by decide
      rw [Nat.succ_mul] at hstep
      omega
    have hless : twoTo 53 * tenTo 9 < twoTo 64 * tenTo 9 := by decide
    have hscaled : m * twoTo (q + 1074).toNat < twoTo 64 * twoTo 1074 := by
      calc m * twoTo (q + 1074).toNat
          ≤ m * twoTo 1074 := Nat.mul_le_mul_left m (twoTo_le hsmall)
        _ < twoTo 64 * twoTo 1074 :=
            Nat.mul_lt_mul_of_pos_right (Nat.lt_trans hm (by decide)) (twoTo_pos 1074)
    exact iff_of_true (Nat.lt_of_le_of_lt (Nat.le_trans hround hnanos) hless) hscaled
  · -- without a fraction: nothing is rounded
    have hzero : (-q).toNat = 0 := by omega
    have hsum : (q + 1074).toNat = q.toNat + 1074 := by omega
    rw [hzero, show twoTo 0 = 1 from rfl, roundHalfEven_one, hsum, twoTo_add, ← Nat.mul_assoc,
      Nat.mul_lt_mul_right (by decide : 0 < tenTo 9), Nat.mul_lt_mul_right (twoTo_pos 1074)]

end Decimal

open Decimal

/-! ### One time -/

/-- The least number of seconds that is above every duration. -/
def Duration.bound : Binary64 := .ofNat (twoTo 64)

/-- A number of seconds below the bound. -/
def Duration.Below (x : Binary64) : Prop := Duration.bound.finiteGt x = true

/-- A result that is there exactly when a condition holds, and otherwise is missing because a time
is too long. -/
def Found {α : Type} (result : Except DurationError α) (condition : Prop) : Prop :=
  (condition ∧ ∃ a, result = .ok a) ∨ (¬condition ∧ result = .error .tooBigOrNan)

theorem Found.pure {α : Type} (a : α) : Found (.ok a) True := .inl ⟨trivial, a, rfl⟩

theorem Found.congr {α : Type} {result : Except DurationError α} {c c' : Prop}
    (h : Found result c) (hc : c ↔ c') : Found result c' := propext hc ▸ h

theorem Found.bind {α γ : Type} {result : Except DurationError α} {f : α → Except DurationError γ}
    {c c' : Prop} (h : Found result c) (hf : ∀ a, Found (f a) c') :
    Found (result >>= f) (c ∧ c') := by
  rcases h with ⟨hc, a, rfl⟩ | ⟨hc, rfl⟩
  · exact (hf a).congr ⟨fun h => ⟨hc, h⟩, And.right⟩
  · exact .inr ⟨fun h => hc h.1, rfl⟩

theorem Found.map {α γ : Type} {result : Except DurationError α} {c : Prop} (f : α → γ)
    (h : Found result c) : Found (f <$> result) c := by
  rcases h with ⟨hc, a, rfl⟩ | ⟨hc, rfl⟩
  · exact .inl ⟨hc, f a, rfl⟩
  · exact .inr ⟨hc, rfl⟩

theorem Found.iff {α : Type} {result : Except DurationError α} {c : Prop} (h : Found result c) :
    (∃ a, result = .ok a) ↔ c := by
  rcases h with ⟨hc, hok⟩ | ⟨hc, rfl⟩
  · exact iff_of_true hok hc
  · exact iff_of_false (fun ⟨_, h⟩ => nomatch h) hc

theorem Found.missing {α : Type} {result : Except DurationError α} {c : Prop}
    (h : Found result c) (hc : ¬c) : result = .error .tooBigOrNan :=
  h.elim (fun h => absurd h.1 hc) And.right

theorem Duration.bound_scaled : Duration.bound.scaled? = some (twoTo 64 * twoTo 1074 : Nat) := by
  have hvalue : Duration.bound.value = .finite false (twoTo 52) 12 := by rfl
  have hsize : twoTo 52 * twoTo 1086 = twoTo 64 * twoTo 1074 := by
    rw [← twoTo_add, ← twoTo_add]
  have hplace : ((12 : Int) + 1074).toNat = 1086 := by rfl
  unfold Binary64.scaled?
  rw [hvalue, ← hsize]
  dsimp only
  rw [hplace, if_neg Bool.false_ne_true]
  exact congrArg some (Int.natCast_mul ..).symm

/-- A number that is finite and not negative has no sign unless it is zero. -/
theorem Decimal.Binary64.value_of_nonneg {x : Binary64} (hx : x.isFiniteNonneg = true) :
    ∃ negative m q, x.value = .finite negative m q ∧ (negative && m != 0) = false ∧
      x.scaled? = some (m * twoTo (q + 1074).toNat : Nat) := by
  unfold Binary64.isFiniteNonneg at hx
  unfold Binary64.scaled? at hx ⊢
  cases hvalue : x.value with
  | nan => simp [hvalue] at hx
  | infinite negative => simp [hvalue] at hx
  | finite negative m q =>
      refine ⟨negative, m, q, rfl, ?_⟩
      cases negative with
      | false => exact ⟨rfl, congrArg some (Int.natCast_mul ..).symm⟩
      | true =>
          have hsize : m * twoTo (q + 1074).toNat = 0 := by
            simp only [hvalue, Option.any_some, if_true, decide_eq_true_eq] at hx
            omega
          have hm : m = 0 := by
            rcases Nat.mul_eq_zero.1 hsize with hm | hpower
            · exact hm
            · exact absurd hpower (Nat.ne_of_gt (twoTo_pos _))
          subst hm
          exact ⟨rfl, by simp⟩

/-- A number of seconds that is finite and not negative is a duration when it is below the bound. -/
theorem Duration.fromSeconds_found {x : Binary64} (hx : x.isFiniteNonneg = true) :
    Found (Duration.fromSeconds x) (Duration.Below x) := by
  obtain ⟨negative, m, q, hvalue, hsign, hscaled⟩ := Binary64.value_of_nonneg hx
  obtain ⟨hm, hq⟩ := Binary64.value_bounds hvalue
  have hbelow : Duration.Below x ↔ m * twoTo (q + 1074).toNat < twoTo 64 * twoTo 1074 := by
    unfold Duration.Below Binary64.finiteGt
    rw [Duration.bound_scaled, hscaled]
    exact decide_eq_true_iff.trans Int.ofNat_lt
  refine Found.congr ?_ ((roundHalfEven_lt_iff hm hq).trans hbelow.symm)
  unfold Duration.fromSeconds
  rw [hvalue]
  dsimp only
  rw [hsign, if_neg Bool.false_ne_true]
  split
  · next hlt => exact .inl ⟨hlt, _, rfl⟩
  · next hlt => exact .inr ⟨hlt, rfl⟩

/-! ### All times of a configuration -/

namespace TimingSettings

/-- Numbers that pass the checks are finite and not negative. -/
theorem durations_nonneg {t : TimingSettings} (h : t.validate = .ok ()) :
    ∀ entry ∈ t.durations, entry.2.isFiniteNonneg = true := by
  intro entry hentry
  have hvalid := (validate_ok_iff.1 h).durations
  exact Binary64.isFiniteNonneg_iff.2 (hvalid _ (List.mem_map_of_mem (f := Prod.snd) hentry))

/-- A time of zero is not above any other, and it is below the bound. -/
theorem below_of_not_pos {x : Binary64} (hx : x.isFiniteNonneg = true)
    (hzero : x.finiteGt (.zero false) = false) : Duration.Below x := by
  obtain ⟨_, m, q, -, -, hscaled⟩ := Binary64.value_of_nonneg hx
  have hnull : (Binary64.zero false).scaled? = some 0 := by rfl
  unfold Binary64.finiteGt at hzero
  unfold Duration.Below Binary64.finiteGt
  rw [hscaled, hnull] at hzero
  rw [Duration.bound_scaled, hscaled]
  have hsize := of_decide_eq_false hzero
  have hbound : 0 < twoTo 64 * twoTo 1074 := Nat.mul_pos (twoTo_pos _) (twoTo_pos _)
  exact decide_eq_true (by omega)

/-- The durations of numbers that pass the checks are found when all of them are below the bound. -/
theorem toTiming_found {t : TimingSettings} (h : t.validate = .ok ()) :
    Found t.toTiming (∀ entry ∈ t.durations, Duration.Below entry.2) := by
  have hnonneg := durations_nonneg h
  unfold durations at hnonneg ⊢
  simp only [List.forall_mem_cons] at hnonneg ⊢
  obtain ⟨h1, h2, h3, h4, h5, h6, h7, h8, h9, h10, h11, h12, -⟩ := hnonneg
  refine .bind (Duration.fromSeconds_found h1) fun _ => ?_
  refine .bind (Duration.fromSeconds_found h2) fun _ => ?_
  refine .bind (Duration.fromSeconds_found h3) fun _ => ?_
  refine .bind (Duration.fromSeconds_found h4) fun _ => ?_
  refine .bind (Duration.fromSeconds_found h5) fun _ => ?_
  refine .bind (Duration.fromSeconds_found h6) fun _ => ?_
  refine .bind (Duration.fromSeconds_found h7) fun _ => ?_
  refine .bind (Duration.fromSeconds_found h8) fun _ => ?_
  refine .bind (Duration.fromSeconds_found h9) fun _ => ?_
  refine .bind (Duration.fromSeconds_found h10) fun _ => ?_
  refine .bind (Duration.fromSeconds_found h11) fun _ => ?_
  dsimp only
  split
  · refine .bind ((Duration.fromSeconds_found h12).map some) fun _ => ?_
    exact (Found.pure _).congr (by simp)
  · next hzero =>
      have hbelow := below_of_not_pos h12 (by simpa using hzero)
      exact (Found.pure _).congr (by simpa using hbelow)

end TimingSettings

theorem SuiteTimeouts.withOverrides_eq (usual : SuiteTimeouts) (overall idle : Option Binary64) :
    usual.withOverrides overall idle =
      overall.elim (.ok usual.overall) Duration.fromSeconds >>= fun limit =>
        SuiteTimeouts.mk limit <$>
          idle.elim (.ok usual.idle) fun x => some <$> Duration.fromSeconds x := by
  cases overall with
  | none => cases idle <;> rfl
  | some x => cases idle <;> rfl

/-- The limits of a suite are found when those that it gives itself are below the bound. -/
theorem SuiteTimeouts.withOverrides_found {overall idle : Option Binary64}
    (hoverall : ∀ x ∈ overall, x.isFiniteNonneg = true)
    (hidle : ∀ x ∈ idle, x.isFiniteNonneg = true) (usual : SuiteTimeouts) :
    Found (usual.withOverrides overall idle)
      ((∀ x ∈ overall, Duration.Below x) ∧ ∀ x ∈ idle, Duration.Below x) := by
  rw [withOverrides_eq]
  refine .bind ?_ fun limit => .map _ ?_
  · cases overall with
    | none => exact (Found.pure _).congr (by simp)
    | some x => exact (Duration.fromSeconds_found (hoverall x rfl)).congr (by simp)
  · cases idle with
    | none => exact (Found.pure _).congr (by simp)
    | some x => exact ((Duration.fromSeconds_found (hidle x rfl)).map some).congr (by simp)

namespace Config

/-- The limits of a suite that passes the checks are not negative. -/
theorem checkSuite_limits {c : Config} {name : String} (h : c.checkSuite name = .ok ()) :
    ∃ spec, c.suite? name = some spec ∧ (∀ x ∈ spec.timeoutSecs, x.isFiniteNonneg = true) ∧
      ∀ x ∈ spec.idleTimeoutSecs, x.isFiniteNonneg = true := by
  obtain ⟨spec, hspec, hvalid⟩ := checkSuite_ok_iff.1 h
  exact ⟨spec, hspec, fun x hx => Binary64.isFiniteNonneg_iff.2 (hvalid.timeout x hx).nonneg,
    fun x hx => Binary64.isFiniteNonneg_iff.2 (hvalid.idleTimeout x hx).nonneg⟩

theorem validate_timing {c : Config} (h : c.validate = .ok ()) : c.timing.validate = .ok () :=
  TimingSettings.validate_ok_iff.2 (c.validate_grants.of_ok h).timing

theorem validate_checkSuite {c : Config} (h : c.validate = .ok ()) :
    ∀ name ∈ c.selected, c.checkSuite name = .ok () := fun name hname =>
  checkSuite_ok_iff.2 ((c.validate_grants.of_ok h).suites.suites name hname)

/-! ### The main result -/

/-- The times that a valid configuration gives become durations exactly when they are `Below`
`2^64` seconds, and nothing but a time that is too long is ever the matter (`Found`): the twelve of
`c.timing` all at once, and the limits of each selected suite whatever limits are `usual`. -/
theorem durations_found_iff {c : Config} (h : c.validate = .ok ()) :
    Found c.timing.toTiming (∀ entry ∈ c.timing.durations, Duration.Below entry.2) ∧
      ∀ name ∈ c.selected, ∃ spec, c.suite? name = some spec ∧ ∀ usual : SuiteTimeouts,
        Found (usual.withOverrides spec.timeoutSecs spec.idleTimeoutSecs)
          ((∀ x ∈ spec.timeoutSecs, Duration.Below x) ∧
            ∀ x ∈ spec.idleTimeoutSecs, Duration.Below x) := by
  refine ⟨TimingSettings.toTiming_found (validate_timing h), fun name hname => ?_⟩
  obtain ⟨spec, hspec, htimeout, hidle⟩ := checkSuite_limits (validate_checkSuite h name hname)
  exact ⟨spec, hspec, SuiteTimeouts.withOverrides_found htimeout hidle⟩

/-- The small lab with heartbeats that are due every `2^64` seconds. -/
def rareBeats : Config :=
  { Sample.config with
    timing := { Sample.config.timing with heartbeatInterval := Duration.bound } }

/-- The small lab with a suite that may run for `2^64` seconds. -/
def endless : Config :=
  { Sample.config with
    suites := [("unit", { Sample.suite with timeoutSecs := some Duration.bound })] }

theorem bound_pos : Duration.bound.Pos :=
  ⟨_, Duration.bound_scaled, Int.natCast_pos.2 (Nat.mul_pos (twoTo_pos _) (twoTo_pos _))⟩

theorem sample_wellFormed : Sample.config.WellFormed :=
  validate_ok_iff.1 (Sample.setup_config Sample.planned).2

theorem rareBeats_valid : rareBeats.validate = .ok () := by
  have hsample := sample_wellFormed
  have hsuites : rareBeats.SuitesInOrder rareBeats.selected := by
    refine ⟨hsample.suites.nodup, fun name hname => ?_⟩
    obtain ⟨suite, hsuite, hchecked⟩ := hsample.suites.suites name hname
    exact ⟨suite, hsuite, { hchecked with }⟩
  have htiming : rareBeats.timing.WellFormed := by
    have hdurations := hsample.timing.durations
    refine { hsample.timing with durations := ?_ }
    simp only [List.forall_mem_cons] at hdurations ⊢
    obtain ⟨h1, h2, h3, h4, h5, -, hrest⟩ := hdurations
    exact ⟨h1, h2, h3, h4, h5, bound_pos.nonneg, hrest⟩
  exact validate_ok_iff.2 { hsample with
    suites := hsuites, commands := { hsample.commands with }, timing := htiming }

theorem endless_valid : endless.validate = .ok () := by
  have hsample := sample_wellFormed
  have hsuites : endless.SuitesInOrder endless.selected := by
    refine ⟨hsample.suites.nodup, List.forall_mem_singleton.2 ⟨_, rfl, ?_⟩⟩
    obtain ⟨suite, hsuite, hchecked⟩ := hsample.suites.suites "unit" (List.mem_singleton_self _)
    cases hsuite
    refine { hchecked with timeout := ?_ }
    rintro _ ⟨⟩
    exact bound_pos
  exact validate_ok_iff.2 { hsample with
    suites := hsuites, commands := { hsample.commands with } }

theorem not_below_bound : ¬Duration.Below Duration.bound := by
  intro h
  obtain ⟨a, b, ha, hb, hlt⟩ := Binary64.finiteGt_iff.1 h
  rw [ha] at hb
  cases hb
  exact Int.lt_irrefl _ hlt

theorem durations_found_sample : endless.validate = .ok () ∧
    (∃ timing, endless.timing.toTiming = .ok timing) ∧
    ∃ spec, endless.suite? "unit" = some spec ∧ ∀ usual : SuiteTimeouts,
      ¬∃ limits, usual.withOverrides spec.timeoutSecs spec.idleTimeoutSecs = .ok limits := by
  obtain ⟨htiming, hsuites⟩ := durations_found_iff endless_valid
  have hbelow : ∀ entry ∈ endless.timing.durations, Duration.bound.finiteGt entry.2 = true := by
    decide +kernel
  refine ⟨endless_valid, htiming.iff.2 hbelow, ?_⟩
  obtain ⟨spec, hspec, hfound⟩ := hsuites "unit" (by decide)
  refine ⟨spec, hspec, fun usual hlimits => ?_⟩
  have hgiven : Duration.bound ∈ spec.timeoutSecs := by
    cases hspec
    rfl
  exact not_below_bound (((hfound usual).iff.1 hlimits).1 _ hgiven)

/-- There are valid configurations whose durations are missing: one of the timing table, and a limit
of a selected suite. -/
theorem durations_missing :
    (rareBeats.validate = .ok () ∧ rareBeats.timing.toTiming = .error .tooBigOrNan) ∧
      endless.validate = .ok () ∧ "unit" ∈ endless.selected ∧
        ∃ spec, endless.suite? "unit" = some spec ∧ ∀ usual : SuiteTimeouts,
          usual.withOverrides spec.timeoutSecs spec.idleTimeoutSecs = .error .tooBigOrNan := by
  refine ⟨⟨rareBeats_valid, ?_⟩, endless_valid, List.mem_singleton_self _, ?_⟩
  · refine (TimingSettings.toTiming_found (validate_timing rareBeats_valid)).missing fun h => ?_
    exact not_below_bound (h ("heartbeat_interval_secs", Duration.bound) (by decide +kernel))
  · obtain ⟨spec, hspec, htimeout, hidle⟩ :=
      checkSuite_limits (validate_checkSuite endless_valid "unit" (List.mem_singleton_self _))
    refine ⟨spec, hspec, fun usual => ?_⟩
    refine (SuiteTimeouts.withOverrides_found htimeout hidle usual).missing fun h => ?_
    have hgiven : Duration.bound ∈ spec.timeoutSecs := by
      cases hspec
      rfl
    exact not_below_bound (h.1 _ hgiven)

end Config

end DeviceLab

/-! ## What rounding leaves of the limits

The checks of a configuration compare numbers of seconds; a run goes by whole nanoseconds.  Rounding
to the nearest nanosecond keeps the order of two times (`Duration.fromSeconds_mono`), so the limit
of silence stays within the one of the suite.  It does not keep that a time is positive: what is at
most half a nanosecond becomes no time at all (`Duration.fromSeconds_pos_iff`).

The checks ask for times above zero, so `Config.limits_positive_iff` says for which of them the
durations of a run are positive, and `Config.limits_vanish` that they need not be. -/

namespace DeviceLab

namespace Decimal

variable {num den : Nat}

/-- Only the quotient counts. -/
theorem roundHalfEven_mul (num den : Nat) {k : Nat} (hk : 0 < k) :
    roundHalfEven (num * k) (den * k) = roundHalfEven num den := by
  have hrest : num * k % (den * k) = num % den * k := Nat.mul_mod_mul_right ..
  have hdouble : 2 * (num % den * k) = 2 * (num % den) * k := (Nat.mul_assoc ..).symm
  have hless : 2 * (num % den) * k < den * k ↔ 2 * (num % den) < den := Nat.mul_lt_mul_right hk
  have hequal : 2 * (num % den) * k = den * k ↔ 2 * (num % den) = den :=
    Nat.mul_left_inj (Nat.ne_of_gt hk)
  unfold roundHalfEven
  simp only [Nat.mul_div_mul_right _ _ hk, hrest, hdouble, hless, hequal]

theorem roundHalfEven_mono {a b : Nat} (h : a ≤ b) (den : Nat) :
    roundHalfEven a den ≤ roundHalfEven b den := by
  have hbelow : a / den ≤ b / den := Nat.div_le_div_right h
  rcases Nat.lt_or_eq_of_le hbelow with hlt | heq
  · have ha := roundHalfEven_le a den
    have hb := div_le_roundHalfEven b den
    omega
  · -- between the same two whole numbers the rests decide
    have hrest : a % den ≤ b % den := by
      have ha := Nat.div_add_mod a den
      have hb := Nat.div_add_mod b den
      rw [heq] at ha
      omega
    unfold roundHalfEven
    simp only [heq]
    split <;> split <;> omega

/-- Only a quotient of more than a half is not rounded to zero. -/
theorem roundHalfEven_pos_iff (hden : 0 < den) : 0 < roundHalfEven num den ↔ den < 2 * num := by
  have hsplit := Nat.div_add_mod num den
  rcases Nat.eq_zero_or_pos (num / den) with hzero | hpos
  · have hrest : num % den = num := by rwa [hzero, Nat.mul_zero, Nat.zero_add] at hsplit
    unfold roundHalfEven
    rw [hzero, hrest]
    rcases Nat.lt_or_ge den (2 * num) with hmore | hless
    · rw [if_neg (by omega)]
      exact iff_of_true Nat.one_pos hmore
    · -- half a nanosecond goes to the even neighbour, which is zero
      rw [if_pos (by omega)]
      exact iff_of_false (Nat.lt_irrefl 0) (Nat.not_lt.2 hless)
  · have hround := div_le_roundHalfEven num den
    have hone : den * 1 ≤ den * (num / den) := Nat.mul_le_mul_left den hpos
    omega

end Decimal

open Decimal

/-! ### One time -/

namespace Duration

variable {x y : Binary64} {d e : Duration}

/-- A number of seconds above half a nanosecond. -/
def Perceptible (x : Binary64) : Prop :=
  ∃ size, x.scaled? = some size ∧ (twoTo 1074 : Int) < 2 * (size * tenTo 9)

/-- The nanoseconds of a number of seconds, by its size in units of `2^-1074`. -/
theorem nanos_of_nonneg (hx : x.isFiniteNonneg = true) (hd : fromSeconds x = .ok d) :
    ∃ size : Nat, x.scaled? = some (size : Int) ∧
      d.nanos = roundHalfEven (size * tenTo 9) (twoTo 1074) := by
  obtain ⟨negative, m, q, hvalue, hsign, hscaled⟩ := Binary64.value_of_nonneg hx
  obtain ⟨-, hq⟩ := Binary64.value_bounds hvalue
  refine ⟨m * twoTo (q + 1074).toNat, hscaled, ?_⟩
  have hnanos : d.nanos = roundHalfEven (m * twoTo q.toNat * tenTo 9) (twoTo (-q).toNat) := by
    unfold fromSeconds at hd
    simp only [hvalue, hsign, if_neg Bool.false_ne_true] at hd
    split at hd <;> cases hd
    rfl
  have hplaces : (-q).toNat + (q + 1074).toNat = 1074 + q.toNat := by omega
  calc d.nanos
      = roundHalfEven (m * twoTo q.toNat * tenTo 9) (twoTo (-q).toNat) := hnanos
    _ = roundHalfEven (m * twoTo q.toNat * tenTo 9 * twoTo (q + 1074).toNat)
          (twoTo (-q).toNat * twoTo (q + 1074).toNat) :=
        (roundHalfEven_mul _ _ (twoTo_pos _)).symm
    _ = roundHalfEven (m * twoTo (q + 1074).toNat * tenTo 9 * twoTo q.toNat)
          (twoTo 1074 * twoTo q.toNat) := by
        rw [← twoTo_add, hplaces, twoTo_add, Nat.mul_right_comm _ (tenTo 9),
          Nat.mul_right_comm m, Nat.mul_right_comm _ (twoTo q.toNat)]
    _ = roundHalfEven (m * twoTo (q + 1074).toNat * tenTo 9) (twoTo 1074) :=
        roundHalfEven_mul _ _ (twoTo_pos _)

/-- A duration is positive exactly when it was told by more than half a nanosecond. -/
theorem fromSeconds_pos_iff (hx : x.isFiniteNonneg = true) (hd : fromSeconds x = .ok d) :
    0 < d.nanos ↔ Perceptible x := by
  obtain ⟨size, hsize, hnanos⟩ := nanos_of_nonneg hx hd
  rw [hnanos, roundHalfEven_pos_iff (twoTo_pos 1074)]
  unfold Perceptible
  simp only [hsize, Option.some.injEq, exists_eq_left']
  exact_mod_cast Iff.rfl

/-- Durations are in the order of the numbers that they were told by. -/
theorem fromSeconds_mono (hx : x.isFiniteNonneg = true) (hy : y.isFiniteNonneg = true)
    (hle : x.AtMost y) (hd : fromSeconds x = .ok d) (he : fromSeconds y = .ok e) :
    d.nanos ≤ e.nanos := by
  obtain ⟨small, hsmall, hd⟩ := nanos_of_nonneg hx hd
  obtain ⟨great, hgreat, he⟩ := nanos_of_nonneg hy he
  obtain ⟨a, b, ha, hb, hab⟩ := hle
  rw [hsmall] at ha
  rw [hgreat] at hb
  cases ha
  cases hb
  rw [hd, he]
  exact roundHalfEven_mono (Nat.mul_le_mul_right _ (Int.ofNat_le.1 hab)) _

end Duration

open Duration (Perceptible)

/-! ### The timing table -/

namespace TimingSettings

variable {t : TimingSettings} {timing : Timing}

/-- The durations of a run that are limits, and the numbers that they come from. -/
structure Becomes (t : TimingSettings) (timing : Timing) : Prop where
  poll : Duration.fromSeconds t.pollInterval = .ok timing.pollInterval
  connect : Duration.fromSeconds t.connectTimeout = .ok timing.console.connect
  read : Duration.fromSeconds t.readTimeout = .ok timing.console.read
  install : Duration.fromSeconds t.installTimeout = .ok timing.installTimeout
  overall : Duration.fromSeconds t.suiteTimeout = .ok timing.suite.overall
  idle : if t.suiteIdleTimeout.finiteGt (.zero false) then
      ∃ d, Duration.fromSeconds t.suiteIdleTimeout = .ok d ∧ timing.suite.idle = some d
    else timing.suite.idle = none

theorem becomes_of_ok (h : t.toTiming = .ok timing) : t.Becomes timing := by
  unfold toTiming at h
  obtain ⟨_, -, h⟩ := Json.bind_eq_ok h
  obtain ⟨_, -, h⟩ := Json.bind_eq_ok h
  obtain ⟨_, -, h⟩ := Json.bind_eq_ok h
  obtain ⟨_, -, h⟩ := Json.bind_eq_ok h
  obtain ⟨_, hpoll, h⟩ := Json.bind_eq_ok h
  obtain ⟨_, -, h⟩ := Json.bind_eq_ok h
  obtain ⟨_, -, h⟩ := Json.bind_eq_ok h
  obtain ⟨_, hconnect, h⟩ := Json.bind_eq_ok h
  obtain ⟨_, hread, h⟩ := Json.bind_eq_ok h
  obtain ⟨_, hinstall, h⟩ := Json.bind_eq_ok h
  obtain ⟨_, hoverall, h⟩ := Json.bind_eq_ok h
  dsimp only at h
  split at h
  · next hset =>
      obtain ⟨limit, hidle, h⟩ := Json.bind_eq_ok h
      obtain ⟨d, hd, rfl⟩ := Json.map_eq_ok hidle
      cases h
      exact ⟨hpoll, hconnect, hread, hinstall, hoverall, (if_pos hset).mpr ⟨d, hd, rfl⟩⟩
  · next hset =>
      cases h
      exact ⟨hpoll, hconnect, hread, hinstall, hoverall, (if_neg hset).mpr rfl⟩

/-- What rounding leaves of the times of a run. -/
structure Rounded (t : TimingSettings) (timing : Timing) : Prop where
  poll : 0 < timing.pollInterval.nanos ↔ Perceptible t.pollInterval
  connect : 0 < timing.console.connect.nanos ↔ Perceptible t.connectTimeout
  read : 0 < timing.console.read.nanos ↔ Perceptible t.readTimeout
  install : 0 < timing.installTimeout.nanos ↔ Perceptible t.installTimeout
  overall : 0 < timing.suite.overall.nanos ↔ Perceptible t.suiteTimeout
  /-- Silence is not limited exactly when its limit is zero. -/
  unlimited : timing.suite.idle = none ↔ t.suiteIdleTimeout.isZero = true
  idle : ∀ d ∈ timing.suite.idle, 0 < d.nanos ↔ Perceptible t.suiteIdleTimeout
  /-- The limit of silence is within the one of the suite. -/
  within : ∀ d ∈ timing.suite.idle, d.nanos ≤ timing.suite.overall.nanos

/-- A time that is not negative is above zero unless it is zero. -/
theorem finiteGt_zero_iff {x : Binary64} (hx : x.isFiniteNonneg = true) :
    x.finiteGt (.zero false) = true ↔ x.isZero = false := by
  obtain ⟨size, hsize, hnonneg⟩ := Binary64.isFiniteNonneg_iff.1 hx
  have hnull : (Binary64.zero false).scaled? = some 0 := by rfl
  unfold Binary64.finiteGt Binary64.isZero
  rw [hsize, hnull]
  simp only [decide_eq_true_eq, beq_eq_false_iff_ne, ne_eq, Option.some.injEq]
  omega

theorem rounded_of_valid (hvalid : t.validate = .ok ()) (h : t.toTiming = .ok timing) :
    t.Rounded timing := by
  have hbecomes := becomes_of_ok h
  have hnonneg := durations_nonneg hvalid
  unfold durations at hnonneg
  simp only [List.forall_mem_cons] at hnonneg
  obtain ⟨-, -, -, -, hpoll, -, -, hconnect, hread, hinstall, hoverall, hidle, -⟩ := hnonneg
  have hset := finiteGt_zero_iff hidle
  have hlimit := hbecomes.idle
  refine ⟨Duration.fromSeconds_pos_iff hpoll hbecomes.poll,
    Duration.fromSeconds_pos_iff hconnect hbecomes.connect,
    Duration.fromSeconds_pos_iff hread hbecomes.read,
    Duration.fromSeconds_pos_iff hinstall hbecomes.install,
    Duration.fromSeconds_pos_iff hoverall hbecomes.overall, ?_, ?_, ?_⟩
  · split at hlimit
    · next hgiven =>
        obtain ⟨d, -, hd⟩ := hlimit
        rw [hd, hset.1 hgiven]
        exact iff_of_false nofun nofun
    · next hgiven =>
        refine iff_of_true hlimit ?_
        by_contra hzero
        exact hgiven (hset.2 (Bool.eq_false_iff.2 hzero))
  · intro d hd
    split at hlimit
    · obtain ⟨d', hd', hsome⟩ := hlimit
      obtain rfl : d' = d := Option.some.inj (hsome.symm.trans hd)
      exact Duration.fromSeconds_pos_iff hidle hd'
    · rw [hlimit] at hd
      cases hd
  · intro d hd
    split at hlimit
    · obtain ⟨d', hd', hsome⟩ := hlimit
      obtain rfl : d' = d := Option.some.inj (hsome.symm.trans hd)
      exact Duration.fromSeconds_mono hidle hoverall (validate_ok_iff.1 hvalid).idle hd'
        hbecomes.overall
    · rw [hlimit] at hd
      cases hd

end TimingSettings

/-! ### The limits of a suite -/

open TimingSettings (Becomes Rounded)

/-- The limits of a suite are rounded from its own times, or else from the usual ones. -/
theorem SuiteTimeouts.withOverrides_rounded {t : TimingSettings} {timing : Timing}
    {overall idle : Option Binary64} {limits : SuiteTimeouts} (hrounded : t.Rounded timing)
    (hoverall : ∀ x ∈ overall, x.isFiniteNonneg = true)
    (hidle : ∀ x ∈ idle, x.isFiniteNonneg = true)
    (h : timing.suite.withOverrides overall idle = .ok limits) :
    (0 < limits.overall.nanos ↔ Perceptible (overall.getD t.suiteTimeout)) ∧
      ∀ d ∈ limits.idle, 0 < d.nanos ↔ Perceptible (idle.getD t.suiteIdleTimeout) := by
  rw [withOverrides_eq] at h
  obtain ⟨limit, hlimit, h⟩ := Json.bind_eq_ok h
  obtain ⟨silence, hsilence, rfl⟩ := Json.map_eq_ok h
  refine ⟨?_, fun d hd => ?_⟩
  · cases overall with
    | none =>
        cases hlimit
        exact hrounded.overall
    | some x => exact Duration.fromSeconds_pos_iff (hoverall x rfl) hlimit
  · cases idle with
    | none =>
        cases hsilence
        exact hrounded.idle d hd
    | some x =>
        obtain ⟨given, hgiven, rfl⟩ := Json.map_eq_ok hsilence
        cases hd
        exact Duration.fromSeconds_pos_iff (hidle x rfl) hgiven

namespace Config

/-- Which times that pass the checks are still positive in whole nanoseconds: exactly those that
are `Perceptible`, above half a nanosecond, in the timing table `t` and, in every valid
configuration, for the limits of each selected suite that `t` is used with.  Whether silence is
limited, and that its limit is within the one of the suite, never changes (`Rounded`). -/
theorem limits_positive_iff {t : TimingSettings} {timing : Timing} (hvalid : t.validate = .ok ())
    (h : t.toTiming = .ok timing) :
    t.Rounded timing ∧
      ∀ c : Config, c.validate = .ok () → ∀ name ∈ c.selected,
        ∃ spec, c.suite? name = some spec ∧
          ∀ limits, timing.suite.withOverrides spec.timeoutSecs spec.idleTimeoutSecs = .ok limits →
            (0 < limits.overall.nanos ↔ Perceptible (spec.timeoutSecs.getD t.suiteTimeout)) ∧
              ∀ d ∈ limits.idle,
                0 < d.nanos ↔ Perceptible (spec.idleTimeoutSecs.getD t.suiteIdleTimeout) := by
  have hrounded := TimingSettings.rounded_of_valid hvalid h
  refine ⟨hrounded, fun c hc name hname => ?_⟩
  obtain ⟨spec, hspec, htimeout, hidle⟩ := checkSuite_limits (validate_checkSuite hc name hname)
  exact ⟨spec, hspec, fun limits hlimits =>
    SuiteTimeouts.withOverrides_rounded hrounded htimeout hidle hlimits⟩

/-- The least positive number of seconds. -/
def tick : Binary64 := ⟨1⟩

/-- The small lab in great haste. -/
def hurried : Config :=
  { Sample.config with
    suites := [("unit", { Sample.suite with timeoutSecs := some tick })]
    timing := { Sample.config.timing with connectTimeout := tick, suiteIdleTimeout := tick } }

theorem tick_scaled : tick.scaled? = some 1 := by decide +kernel

theorem tick_pos : tick.Pos := ⟨1, tick_scaled, Int.one_pos⟩

theorem not_perceptible_tick : ¬Perceptible tick := by
  rintro ⟨size, hsize, hless⟩
  rw [tick_scaled] at hsize
  cases hsize
  revert hless
  decide +kernel

theorem hurried_timing : hurried.timing.validate = .ok () := by decide +kernel

theorem hurried_toTiming : ∃ timing, hurried.timing.toTiming = .ok timing := by
  have hbelow : ∀ entry ∈ hurried.timing.durations, Duration.bound.finiteGt entry.2 = true := by
    decide +kernel
  exact (TimingSettings.toTiming_found hurried_timing).iff.2 hbelow

theorem hurried_valid : hurried.validate = .ok () := by
  have hsample := sample_wellFormed
  have hsuites : hurried.SuitesInOrder hurried.selected := by
    refine ⟨hsample.suites.nodup, List.forall_mem_singleton.2 ⟨_, rfl, ?_⟩⟩
    obtain ⟨suite, hsuite, hchecked⟩ := hsample.suites.suites "unit" (List.mem_singleton_self _)
    cases hsuite
    refine { hchecked with timeout := ?_ }
    rintro _ ⟨⟩
    exact tick_pos
  exact validate_ok_iff.2 { hsample with
    suites := hsuites, commands := { hsample.commands with }
    timing := TimingSettings.validate_ok_iff.1 hurried_timing }

/-- A valid configuration may have a console that must answer in no time, a suite that may take no
time, and a suite that must never be silent. -/
theorem limits_vanish : hurried.validate = .ok () ∧ "unit" ∈ hurried.selected ∧
    ∃ timing spec limits, hurried.timing.toTiming = .ok timing ∧
      timing.console.connect = .zero ∧ timing.suite.idle = some .zero ∧
      hurried.suite? "unit" = some spec ∧
      timing.suite.withOverrides spec.timeoutSecs spec.idleTimeoutSecs = .ok limits ∧
      limits.overall = .zero := by
  obtain ⟨timing, htiming⟩ := hurried_toTiming
  have htick : Duration.fromSeconds tick = .ok .zero := by decide +kernel
  have hbecomes := TimingSettings.becomes_of_ok htiming
  have hconnect : timing.console.connect = .zero :=
    Except.ok.inj (hbecomes.connect.symm.trans htick)
  have hidle : timing.suite.idle = some .zero := by
    obtain ⟨d, hd, hsome⟩ := (if_pos (by decide +kernel)).mp hbecomes.idle
    rw [hsome, Except.ok.inj (hd.symm.trans htick)]
  have hlimits : timing.suite.withOverrides (some tick) none = .ok ⟨.zero, timing.suite.idle⟩ := by
    rw [SuiteTimeouts.withOverrides_eq, Option.elim_some, htick]
    rfl
  exact ⟨hurried_valid, List.mem_singleton_self _, timing, _, _, htiming, hconnect, hidle, rfl,
    hlimits, rfl⟩

theorem limits_positive_hurried : hurried.validate = .ok () ∧
    ∃ timing, hurried.timing.toTiming = .ok timing ∧ 0 < timing.installTimeout.nanos ∧
      timing.console.connect.nanos = 0 ∧ timing.suite.idle ≠ none ∧
      ∃ spec, hurried.suite? "unit" = some spec ∧
        ∀ limits, timing.suite.withOverrides spec.timeoutSecs spec.idleTimeoutSecs = .ok limits →
          limits.overall.nanos = 0 := by
  obtain ⟨timing, htiming⟩ := hurried_toTiming
  obtain ⟨hrounded, hsuites⟩ := limits_positive_iff hurried_timing htiming
  have hinstall : Perceptible hurried.timing.installTimeout := ⟨_, rfl, by decide +kernel⟩
  refine ⟨hurried_valid, timing, htiming, hrounded.install.2 hinstall, ?_, ?_, ?_⟩
  · exact Nat.eq_zero_of_not_pos fun h => not_perceptible_tick (hrounded.connect.1 h)
  · intro hnone
    have hzero := hrounded.unlimited.1 hnone
    revert hzero
    decide +kernel
  · obtain ⟨spec, hspec, hlimits⟩ :=
      hsuites hurried hurried_valid "unit" (List.mem_singleton_self _)
    refine ⟨spec, hspec, fun limits hgiven => ?_⟩
    have hpos := (hlimits limits hgiven).1
    cases hspec
    exact Nat.eq_zero_of_not_pos fun h => not_perceptible_tick (hpos.1 h)

end Config

end DeviceLab
