import DeviceLab.Proofs.Numerals
import DeviceLab.Time.Timestamp
import Mathlib.Algebra.GroupWithZero.Nat

/-! # Points in time

The text of a point in time has parts of a fixed width, which are digits (`padded_spells`), with
marks between them.  The reader takes part after part: each of its steps finds a number before
something that is no digit (`readNumber_eq`, `readYear_eq`, `readFraction_eq`), and the steps are
put together by `bind_eq`.  So a point in time that is no leap second, in one of the years from 0
to 9999, is read from its text (`InRange.ofText?_text`).  Other years are written with a sign and
any number of digits, and a leap second is written as second 60. -/

/-! ## The calendar

A day and its number determine each other: the day with a number exists (`isValid_ofNumber`) and has
that number (`number_ofNumber`).  Both follow from one description of the day with a number
(`ofNumber_spec`): the era of 400 years, the year of the era and the day of that year, which begins
in March.  The year of the era is found by a division (`yearOfEra_spec`) that first takes the leap
days away (`evened`); it is right since `evened` is monotone and the first and the last day of every
year of an era fall on the right side. -/

namespace DeviceLab.CalendarDay

/-- The number of days of an era before one of its years. -/
def yearStart (y : Nat) : Nat := 365 * y + y / 4 - y / 100

/-- A day of an era, brought to years of 365 days. -/
def evened (d : Nat) : Nat := d - d / 1460 + d / 36524 - d / 146096

theorem evened_yearStart : ∀ y < 400, 365 * y ≤ evened (yearStart y) := by decide +kernel

theorem evened_yearEnd : ∀ y < 399, evened (yearStart (y + 1) - 1) < 365 * (y + 1) := by
  decide +kernel

theorem evened_succ {d : Nat} (h : d < 146096) : evened d ≤ evened (d + 1) := by
  unfold evened
  omega

theorem evened_mono {d d' : Nat} (h : d ≤ d') (hlt : d' ≤ 146096) : evened d ≤ evened d' := by
  induction h with
  | refl => exact Nat.le_refl _
  | step h ih => exact Nat.le_trans (ih (by omega)) (evened_succ (by omega))

theorem evened_lt {d : Nat} (h : d ≤ 146096) : evened d < 365 * 400 := by
  unfold evened
  omega

theorem yearStart_succ (y : Nat) :
    yearStart (y + 1) = yearStart y + 365 + (if (y + 1) % 4 = 0 then 1 else 0) -
      if (y + 1) % 100 = 0 then 1 else 0 := by
  have hle : y / 100 ≤ 365 * y := by omega
  have hleap : (y + 1) / 4 = y / 4 + if (y + 1) % 4 = 0 then 1 else 0 := by split <;> omega
  have hcentury : (y + 1) / 100 = y / 100 + if (y + 1) % 100 = 0 then 1 else 0 := by
    split <;> omega
  rw [yearStart, yearStart, hleap, hcentury]
  clear hleap hcentury
  generalize (if (y + 1) % 4 = 0 then 1 else 0) = leap
  generalize (if (y + 1) % 100 = 0 then 1 else 0) = century
  generalize y / 100 = centuries at hle
  omega

/-- The year of the era of a day of the era; only a leap year has a day behind its 365th. -/
theorem yearOfEra_spec {d : Nat} (h : d ≤ 146096) :
    let y := evened d / 365
    y < 400 ∧ yearStart y ≤ d ∧ d ≤ yearStart y + 365 ∧
      (d = yearStart y + 365 → (y + 1) % 4 = 0 ∧ ((y + 1) % 100 ≠ 0 ∨ (y + 1) % 400 = 0)) := by
  intro y
  have hlt : y < 400 := Nat.div_lt_of_lt_mul (evened_lt h)
  have hle : 365 * y ≤ evened d := Nat.mul_div_le _ _
  have hbelow : evened d < 365 * (y + 1) := Nat.lt_mul_div_succ _ (by decide)
  have hstart : yearStart y ≤ d := by
    rcases Nat.lt_or_ge d (yearStart y) with hbefore | hstart
    · obtain ⟨z, hz⟩ : ∃ z, y = z + 1 := ⟨y - 1, by
        have : y ≠ 0 := by
          intro hzero
          rw [hzero] at hbefore
          cases hbefore
        omega⟩
      rw [hz] at hbefore hle
      have hmono := evened_mono (Nat.le_sub_one_of_lt hbefore) (by unfold yearStart; omega)
      have hlast := evened_yearEnd z (by omega)
      omega
    · exact hstart
  have hend : y = 399 ∨ d < yearStart (y + 1) := by
    rcases Nat.lt_or_ge d (yearStart (y + 1)) with hend | hafter
    · exact .inr hend
    · refine .inl ?_
      rcases Nat.lt_or_ge (y + 1) 400 with hnext | hlast
      · have hfirst := evened_yearStart (y + 1) hnext
        have hmono := evened_mono hafter h
        omega
      · omega
  have hsucc := yearStart_succ y
  rcases hend with hlast | hend
  · rw [hlast] at hstart ⊢
    have hvalue : yearStart 399 = 145731 := by decide
    exact ⟨by decide, hstart, by omega, fun _ => ⟨by decide, .inr (by decide)⟩⟩
  · refine ⟨hlt, hstart, ?_, fun heq => ?_⟩
    · split at hsucc <;> split at hsucc <;> omega
    · split at hsucc <;> split at hsucc <;> omega

/-- The month of a day of a year that begins in March. -/
def monthOf (day : Nat) : Nat :=
  if (5 * day + 2) / 153 < 10 then (5 * day + 2) / 153 + 3 else (5 * day + 2) / 153 - 9

/-- The day of the month of a day of a year that begins in March. -/
def dayOfMonth (day : Nat) : Nat := day - (153 * ((5 * day + 2) / 153) + 2) / 5 + 1

theorem evened_div_cast (d : Nat) : ((d : Int) - d / 1460 + d / 36524 - d / 146096) / 365 =
    ((evened d / 365 : Nat) : Int) := by
  unfold evened
  omega

theorem sub_yearStart_cast {d y : Nat} (h : yearStart y ≤ d) :
    (d : Int) - (365 * (y : Int) + (y : Int) / 4 - (y : Int) / 100) =
      ((d - yearStart y : Nat) : Int) := by
  unfold yearStart at h ⊢
  omega

/-- The day with a number, by its era, the year of the era and the day of the year. -/
theorem ofNumber_spec (n : Int) : ∃ (era : Int) (y day : Nat),
    n + 719468 = era * 146097 + yearStart y + day ∧ y < 400 ∧ day ≤ 365 ∧
      (day = 365 → (y + 1) % 4 = 0 ∧ ((y + 1) % 100 ≠ 0 ∨ (y + 1) % 400 = 0)) ∧
      ofNumber n = ⟨y + era * 400 + if monthOf day ≤ 2 then 1 else 0, monthOf day,
        dayOfMonth day⟩ := by
  let era := (n + 719468) / 146097
  obtain ⟨d, hd⟩ : ∃ d : Nat, n + 719468 = era * 146097 + d :=
    ⟨((n + 719468) - era * 146097).toNat, by omega⟩
  have hdlt : d ≤ 146096 := by omega
  obtain ⟨hy, hstart, hend, hleap⟩ := yearOfEra_spec hdlt
  refine ⟨era, evened d / 365, d - yearStart (evened d / 365), by omega, hy, by omega,
    fun heq => hleap (by omega), ?_⟩
  have hera : Int.fdiv (n + 719468) 146097 = era := Int.fdiv_eq_ediv_of_nonneg _ (by decide)
  have hdoe : n + 719468 - era * 146097 = d := by omega
  unfold ofNumber
  simp only [hera, hdoe, evened_div_cast, sub_yearStart_cast hstart]
  clear hd hdlt hy hstart hend hleap hera hdoe
  generalize d - yearStart (evened d / 365) = day
  have hmonth : (5 * (day : Int) + 2) / 153 = ((5 * day + 2) / 153 : Nat) := rfl
  have hdays : (153 * (((5 * day + 2) / 153 : Nat) : Int) + 2) / 5 =
      ((153 * ((5 * day + 2) / 153) + 2) / 5 : Nat) := rfl
  rw [CalendarDay.mk.injEq, hmonth, hdays]
  unfold monthOf dayOfMonth
  refine ⟨?_, ?_, by omega⟩
  · congr 1
    split <;> split <;> split <;> omega
  · split <;> split <;> omega

/-- The day with a number has that number. -/
theorem number_ofNumber (n : Int) : (ofNumber n).number = n := by
  obtain ⟨era, y, day, hn, hy, hday, -, heq⟩ := ofNumber_spec n
  have hmonth : (((monthOf day : Nat) : Int) + 9) % 12 = ((5 * day + 2) / 153 : Nat) := by
    unfold monthOf
    split <;> omega
  have hyear : (if monthOf day ≤ 2 then (y + era * 400 + if monthOf day ≤ 2 then 1 else 0) - 1
      else y + era * 400 + if monthOf day ≤ 2 then 1 else 0) = (y + era * 400 : Int) := by
    split <;> omega
  have hera : Int.fdiv (y + era * 400) 400 = era := by
    rw [Int.fdiv_eq_ediv_of_nonneg _ (by decide)]
    omega
  have hoffset : (y : Int) + era * 400 - era * 400 = y := by omega
  have hdays : (153 * (((5 * day + 2) / 153 : Nat) : Int) + 2) / 5 =
      ((153 * ((5 * day + 2) / 153) + 2) / 5 : Nat) := rfl
  rw [heq, number]
  dsimp only
  rw [hyear, hera, hmonth, hoffset, hdays]
  unfold dayOfMonth
  unfold yearStart at hn
  omega

theorem monthOf_bounds : ∀ day < 366, 1 ≤ monthOf day ∧ monthOf day ≤ 12 := by
  intro day hday
  unfold monthOf
  split <;> omega

/-- The days of a year that begins in March are in their months when the last day of each month is.
The months are told by the quotients that `monthOf` looks at. -/
theorem dayOfMonth_le_of_last (year : Int) (last : Nat) (hlast : last ≤ 365)
    (hmonths : ∀ q ≤ 11, min ((153 * q + 150) / 5) last - (153 * q + 2) / 5 + 1 ≤
      monthLength year (if q < 10 then q + 3 else q - 9)) {day : Nat} (hday : day ≤ last) :
    dayOfMonth day ≤ monthLength year (monthOf day) := by
  have hbelow : 5 * day + 2 < 153 * ((5 * day + 2) / 153 + 1) := Nat.lt_mul_div_succ _ (by decide)
  have hquotient : (5 * day + 2) / 153 ≤ 11 := by omega
  refine Nat.le_trans ?_ (hmonths _ hquotient)
  unfold dayOfMonth
  omega

/-- The months of a leap year and of another one are long enough for their days. -/
theorem dayOfMonth_le :
    (∀ day < 366, dayOfMonth day ≤ monthLength 0 (monthOf day)) ∧
      ∀ day < 365, dayOfMonth day ≤ monthLength 1 (monthOf day) :=
  ⟨fun _ hday => dayOfMonth_le_of_last 0 365 (by decide) (by decide) (Nat.le_of_lt_succ hday),
    fun _ hday => dayOfMonth_le_of_last 1 364 (by decide) (by decide) (Nat.le_of_lt_succ hday)⟩

theorem monthLength_congr {year year' : Int} (h : isLeapYear year = isLeapYear year')
    (month : Nat) : monthLength year month = monthLength year' month := by
  rw [monthLength, monthLength, h]

/-- The day with a number exists. -/
theorem isValid_ofNumber (n : Int) : (ofNumber n).isValid = true := by
  obtain ⟨era, y, day, -, hy, hday, hleap, heq⟩ := ofNumber_spec n
  obtain ⟨hfirst, hlast⟩ := monthOf_bounds day (by omega)
  rw [heq, isValid]
  simp only [Bool.and_eq_true, decide_eq_true_eq]
  refine ⟨⟨⟨hfirst, hlast⟩, Nat.le_add_left ..⟩, ?_⟩
  cases hyear : isLeapYear (y + era * 400 + if monthOf day ≤ 2 then 1 else 0) with
  | true =>
      rw [monthLength_congr (hyear.trans (by decide : true = isLeapYear 0))]
      exact dayOfMonth_le.1 day (by omega)
  | false =>
      rw [monthLength_congr (hyear.trans (by decide : false = isLeapYear 1))]
      refine dayOfMonth_le.2 day (Nat.lt_of_le_of_ne hday fun h365 => ?_)
      rw [h365, if_pos (by decide)] at hyear
      have hleap := hleap h365
      simp only [isLeapYear, Bool.and_eq_false_iff, Bool.or_eq_false_iff, beq_eq_false_iff_ne,
        bne_eq_false_iff_eq] at hyear
      omega

end DeviceLab.CalendarDay

/-! ## Times -/

namespace DeviceLab.Timestamp

open Decimal Text

variable {α β : Type} {cs rest : List Char} {width n : Nat}

/-- The first reader takes a part of the text, and the second reads what is left. -/
theorem bind_eq {x : PartReader α} {f : α → PartReader β} {a : α} (h : x cs = some (a, rest)) :
    (x >>= f) cs = f a rest := by
  change ((x cs).bind fun p => f p.1 p.2) = _
  rw [h, Option.bind_some]

/-- So many digits that tell a number. -/
structure Spells (width : Nat) (cs : List Char) (n : Nat) : Prop where
  digits : ∀ c ∈ cs, isDigit c = true
  nonempty : cs ≠ []
  length : cs.length = width
  value : ofDigits cs = n

theorem padded_spells (hn : n < 10 ^ width) (hwidth : 0 < width) :
    Spells width (padded width n).toList n := by
  have hlength : (Nat.toDigits 10 n).length ≤ width :=
    (Nat.length_toDigits_le_iff (by decide) hwidth).2 hn
  rw [padded, String.toList_ofList]
  refine ⟨fun c hc => ?_, ?_, ?_, ?_⟩
  · rcases List.mem_append.1 hc with hzero | hdigit
    · rw [List.eq_of_mem_replicate hzero]
      rfl
    · exact isDigit_of_mem_toDigits hdigit
  · exact List.append_ne_nil_of_right_ne_nil _ Nat.toDigits_ne_nil
  · rw [List.length_append, List.length_replicate]
    omega
  · rw [ofDigits_eq, Nat.ofDigitChars_append, Nat.ofDigitChars_replicate_zero, Nat.mul_zero,
      Nat.ofDigitChars_ten_toDigits]

/-- What comes next is no digit. -/
def Stops (rest : List Char) : Prop := ∀ c ∈ rest.head?, isDigit c = false

theorem stops_cons {c : Char} (h : isDigit c = false) (rest : List Char) : Stops (c :: rest) :=
  fun _ hd => Option.some.inj hd ▸ h

section Readers

variable {limit : Nat} (h : Spells width cs n) (hrest : Stops rest)

include h

theorem trimStart_spelled (rest : List Char) : trimStart (cs ++ rest) = cs ++ rest := by
  obtain ⟨c, more, rfl⟩ := List.exists_cons_of_ne_nil h.nonempty
  have hblank := isBlank_of_digit (h.digits c List.mem_cons_self)
  rw [List.cons_append, trimStart, List.dropWhile_cons_of_neg (by simp [hblank])]

include hrest

theorem readDigits_eq (hwidth : width ≤ limit) :
    readDigits limit (cs ++ rest) = some (cs, rest) := by
  have htake : ((cs ++ rest).take limit).takeWhile isDigit = cs := by
    rw [List.take_append, List.take_of_length_le (h.length ▸ hwidth)]
    refine takeWhile_digits h.digits fun c hc => hrest c ?_
    cases rest with
    | nil => rw [List.take_nil] at hc; exact hc
    | cons d rest =>
        cases hleft : limit - cs.length with
        | zero => rw [hleft] at hc; cases hc
        | succ k => rw [hleft] at hc; exact hc
  simp only [readDigits, htake, List.isEmpty_eq_false_iff.2 h.nonempty, List.drop_left,
    Bool.false_eq_true, if_false]

theorem readNumber_eq (hwidth : width ≤ limit) :
    readNumber limit (cs ++ rest) = some (n, rest) := by
  have htrim : (modify trimStart : PartReader Unit) (cs ++ rest) = some ((), cs ++ rest) :=
    congrArg (fun cs => some ((), cs)) (trimStart_spelled h rest)
  rw [readNumber, bind_eq htrim, bind_eq (readDigits_eq h hrest hwidth), h.value]
  rfl

theorem readYear_eq (hwidth : width ≤ 4) : readYear (cs ++ rest) = some ((n : Int), rest) := by
  have htrim : (modify trimStart : PartReader Unit) (cs ++ rest) = some ((), cs ++ rest) :=
    congrArg (fun cs => some ((), cs)) (trimStart_spelled h rest)
  have hget : (get : PartReader (List Char)) (cs ++ rest) = some (cs ++ rest, cs ++ rest) := rfl
  have hread := readDigits_eq h hrest hwidth
  obtain ⟨c, more, hcs⟩ := List.exists_cons_of_ne_nil h.nonempty
  have hdigit := h.digits c (hcs ▸ List.mem_cons_self)
  have hminus : c ≠ '-' := by
    rintro rfl
    cases hdigit
  have hplus : c ≠ '+' := by
    rintro rfl
    cases hdigit
  rw [readYear, bind_eq htrim, bind_eq hget]
  subst hcs
  simp only [List.cons_append, List.cons.injEq, hminus, hplus, false_and, imp_false,
    not_false_eq_true, implies_true]
  rw [← List.cons_append, bind_eq hread, h.value]
  rfl

end Readers

theorem readMark_eq {c : Char} (hc : isBlank c = false) (rest : List Char) :
    readMark c (c :: rest) = some ((), rest) := by
  simp [readMark, trimStart, hc]

/-- A point, digits and the mark of universal time. -/
theorem readFraction_point (h : Spells width cs n) (hwidth : width ≤ 9) :
    readFraction ('.' :: (cs ++ ['Z'])) = some (n * tenTo (9 - width), ['Z']) := by
  have hstop : Stops ['Z'] := stops_cons rfl []
  have hread := readDigits_eq h hstop hwidth
  have hrest : (modify (·.dropWhile isDigit) : PartReader PUnit) ['Z'] = some (⟨⟩, ['Z']) := rfl
  change (do
    let found ← readDigits 9
    modify (·.dropWhile isDigit)
    return ofDigits found * tenTo (9 - found.length) : PartReader Nat) (cs ++ ['Z']) = _
  rw [bind_eq hread, bind_eq hrest, h.value, h.length]
  rfl

theorem readFraction_eq (hn : n < tenTo 9) :
    readFraction ((fractionText n).toList ++ ['Z']) = some (n, ['Z']) := by
  have hpoint {m width : Nat} (hm : m < 10 ^ width) (hwidth : 0 < width) (hle : width ≤ 9) :
      readFraction (("." ++ padded width m).toList ++ ['Z']) =
        some (m * tenTo (9 - width), ['Z']) := by
    rw [String.toList_append]
    exact readFraction_point (padded_spells hm hwidth) hle
  have h9 : tenTo 9 = 1000000000 := rfl
  have h6 : tenTo 6 = 1000000 := rfl
  have h3 : tenTo 3 = 1000 := rfl
  unfold fractionText
  rw [h6, h3]
  split
  · next hzero => rw [hzero]; rfl
  split
  · next hmod =>
      rw [hpoint (by omega) (by decide) (by decide), h6,
        Nat.div_mul_cancel (Nat.dvd_of_mod_eq_zero hmod)]
  split
  · next hmod =>
      rw [hpoint (by omega) (by decide) (by decide), h3,
        Nat.div_mul_cancel (Nat.dvd_of_mod_eq_zero hmod)]
  · rw [hpoint (by omega) (by decide) (by decide)]
    exact congrArg (fun n => some (n, ['Z'])) (Nat.mul_one n)

theorem stops_fractionText (n : Nat) : Stops ((fractionText n).toList ++ ['Z']) := by
  unfold fractionText
  split
  · exact stops_cons rfl []
  split
  · rw [String.toList_append]
    exact stops_cons rfl _
  split <;> (rw [String.toList_append]; exact stops_cons rfl _)

theorem readOffset_eq : readOffset ['Z'] = some (0, []) := rfl

/-- The reader of a whole timestamp finds the parts of a text. -/
theorem readTimestamp_parts {Y M D H N S F : List Char}
    {year month day hour minute second nanos : Nat} (hY : Spells 4 Y year) (hM : Spells 2 M month)
    (hD : Spells 2 D day) (hH : Spells 2 H hour) (hN : Spells 2 N minute) (hS : Spells 2 S second)
    (hF : readFraction (F ++ ['Z']) = some (nanos, ['Z'])) (hstop : Stops (F ++ ['Z']))
    (hdate : CalendarDay.isValid ⟨year, month, day⟩ = true)
    (hrange : inRange (CalendarDay.number ⟨year, month, day⟩) = true)
    (hhour : hour ≤ 23) (hminute : minute ≤ 59) (hsecond : second ≤ 59) :
    readTimestamp (Y ++ '-' :: (M ++ '-' :: (D ++ 'T' :: (H ++ ':' :: (N ++ ':' ::
      (S ++ (F ++ ['Z']))))))) =
      some (⟨CalendarDay.number ⟨year, month, day⟩ * 86400 + (hour * 3600 + minute * 60 + second),
        nanos⟩, []) := by
  have hget (cs : List Char) : (get : PartReader (List Char)) cs = some (cs, cs) := rfl
  have hset (cs cs' : List Char) : (set cs : PartReader PUnit) cs' = some (⟨⟩, cs) := rfl
  have hguard {p : Prop} [Decidable p] (hp : p) (cs : List Char) :
      (guard p : PartReader Unit) cs = some ((), cs) := by
    change (if p then Pure.pure () else failure : PartReader Unit) cs = _
    rw [if_pos hp]
    rfl
  have htrim : (modify trimStart : PartReader Unit) ['Z'] = some ((), ['Z']) := rfl
  rw [readTimestamp, bind_eq (readYear_eq hY (stops_cons rfl _) (by decide)),
    bind_eq (readMark_eq rfl _), bind_eq (readNumber_eq hM (stops_cons rfl _) (by decide)),
    bind_eq (readMark_eq rfl _), bind_eq (readNumber_eq hD (stops_cons rfl _) (by decide)),
    bind_eq (hget _)]
  dsimp only
  rw [bind_eq (hguard (by decide) _), bind_eq (hset _ _),
    bind_eq (readNumber_eq hH (stops_cons rfl _) (by decide)), bind_eq (readMark_eq rfl _),
    bind_eq (readNumber_eq hN (stops_cons rfl _) (by decide)), bind_eq (readMark_eq rfl _),
    bind_eq (readNumber_eq hS hstop (by decide)), bind_eq hF, bind_eq htrim, bind_eq readOffset_eq]
  generalize CalendarDay.number ⟨year, month, day⟩ = number at hrange
  have htotal : Int.fdiv (number * 86400 +
      ((hour : Int) * 3600 + minute * 60 + (min second 59 : Nat)) - 0) 86400 = number := by
    rw [Int.fdiv_eq_ediv_of_nonneg _ (by decide)]
    omega
  have hexists : (CalendarDay.isValid ⟨year, month, day⟩ && inRange number && hour ≤ 23 &&
      minute ≤ 59 && second ≤ 60) = true := by
    have hsixty : second ≤ 60 := by omega
    simp only [hdate, hrange, hhour, hminute, hsixty, decide_true, Bool.and_self]
  rw [bind_eq (hguard hexists _), bind_eq (hguard (by rw [htotal]; exact hrange) _),
    Nat.min_eq_left hsecond, if_neg (by omega), Int.sub_zero]
  rfl

/-- The year of a point in time. -/
def year (t : Timestamp) : Int := (CalendarDay.ofNumber (Int.fdiv t.seconds 86400)).year

/-- No leap second, in one of the years from 0 to 9999. -/
structure InRange (t : Timestamp) : Prop where
  nanos : t.nanos < tenTo 9
  nonneg : 0 ≤ t.year
  le : t.year ≤ 9999

theorem inRange_of_year {n : Int} (hnonneg : 0 ≤ (CalendarDay.ofNumber n).year)
    (hle : (CalendarDay.ofNumber n).year ≤ 9999) : inRange n = true := by
  obtain ⟨era, y, day, hn, hy, hday, -, heq⟩ := CalendarDay.ofNumber_spec n
  rw [heq] at hnonneg hle
  have hfirst : CalendarDay.number ⟨-262143, 1, 1⟩ = -96465292 := by decide
  have hlast : CalendarDay.number ⟨262142, 12, 31⟩ = 95026236 := by decide
  rw [inRange, hfirst, hlast, Bool.and_eq_true, decide_eq_true_eq, decide_eq_true_eq]
  unfold CalendarDay.yearStart at hn
  dsimp only at hnonneg hle
  split at hnonneg <;> omega

/-- A text by its parts. -/
theorem toList_text {t : Timestamp} {year month day second : Nat}
    (hdate : CalendarDay.ofNumber (Int.fdiv t.seconds 86400) = ⟨year, month, day⟩)
    (hsecond : Int.fmod t.seconds 86400 = second) (hyear : year ≤ 9999)
    (hnanos : t.nanos < tenTo 9) :
    t.text.toList = (padded 4 year).toList ++ '-' :: ((padded 2 month).toList ++ '-' ::
      ((padded 2 day).toList ++ 'T' :: ((padded 2 (second / 3600)).toList ++ ':' ::
        ((padded 2 (second / 60 % 60)).toList ++ ':' :: ((padded 2 (second % 60)).toList ++
          ((fractionText t.nanos).toList ++ ['Z'])))))) := by
  have hplain : yearText year = padded 4 year := if_pos ⟨by omega, by omega⟩
  have hleap : ¬tenTo 9 ≤ t.nanos := Nat.not_le_of_lt hnanos
  unfold text
  have hmarks : "-".toList = ['-'] ∧ "T".toList = ['T'] ∧ ":".toList = [':'] ∧ "Z".toList = ['Z'] :=
    ⟨rfl, rfl, rfl, rfl⟩
  simp only [hdate, hsecond, hplain, hleap, if_false, Nat.add_zero, Int.toNat_natCast,
    String.toList_append, List.append_assoc, hmarks, List.cons_append, List.nil_append]

theorem monthLength_le (year : Int) (month : Nat) : CalendarDay.monthLength year month ≤ 31 := by
  unfold CalendarDay.monthLength
  split
  · split <;> decide
  · split <;> decide

theorem isValid_bounds {d : CalendarDay} (h : d.isValid = true) : d.month < 100 ∧ d.day < 100 := by
  have hlength := monthLength_le d.year d.month
  simp only [CalendarDay.isValid, Bool.and_eq_true, decide_eq_true_eq] at h
  omega

/-- A point in time is read from its text. -/
theorem InRange.ofText?_text {t : Timestamp} (h : t.InRange) : ofText? t.text = some t := by
  obtain ⟨hnanos, hnonneg, hle⟩ := h
  have hday : Int.fdiv t.seconds 86400 = t.seconds / 86400 :=
    Int.fdiv_eq_ediv_of_nonneg _ (by decide)
  have hmod : Int.fmod t.seconds 86400 = t.seconds % 86400 :=
    Int.fmod_eq_emod_of_nonneg _ (by decide)
  obtain ⟨second, hsecond⟩ : ∃ second : Nat, t.seconds % 86400 = second :=
    ⟨(t.seconds % 86400).toNat, by omega⟩
  have hrange := inRange_of_year hnonneg hle
  have hvalid := CalendarDay.isValid_ofNumber (Int.fdiv t.seconds 86400)
  have hnumber := CalendarDay.number_ofNumber (Int.fdiv t.seconds 86400)
  unfold year at hnonneg hle
  rcases hdate : CalendarDay.ofNumber (Int.fdiv t.seconds 86400) with ⟨year, month, day⟩
  rw [hdate] at hnonneg hle hvalid hnumber
  obtain ⟨year, rfl⟩ := Int.eq_ofNat_of_zero_le hnonneg
  have hyear : year ≤ 9999 := Int.ofNat_le.1 hle
  obtain ⟨hmonth, hdays⟩ : month < 100 ∧ day < 100 := isValid_bounds hvalid
  have hspells {n : Nat} (hn : n < 100) : Spells 2 (padded 2 n).toList n :=
    padded_spells hn (by decide)
  have hread := readTimestamp_parts (padded_spells (by omega : year < 10 ^ 4) (by decide))
    (hspells hmonth) (hspells hdays) (hspells (by omega : second / 3600 < 100))
    (hspells (by omega : second / 60 % 60 < 100)) (hspells (by omega : second % 60 < 100))
    (readFraction_eq hnanos) (stops_fractionText t.nanos) hvalid (by rw [hnumber]; exact hrange)
    (by omega) (by omega) (by omega)
  rw [hnumber, ← toList_text hdate (hmod.trans hsecond) hyear hnanos] at hread
  have hseconds : Int.fdiv t.seconds 86400 * 86400 + (((second / 3600 : Nat) : Int) * 3600 +
      (second / 60 % 60 : Nat) * 60 + (second % 60 : Nat)) = t.seconds := by
    omega
  rw [hseconds] at hread
  rw [ofText?, hread]
  rfl

end DeviceLab.Timestamp
