import DeviceLab.Decimal.Numeral
import DeviceLab.Text.Blank

/-! # Decimal digits

A number is written in decimal digits without a superfluous zero in front
(`eq_zero_of_head_toDigits`), and it is read back from them (`ofDigits_toDigits`).  A reader that
takes digits as long as there are any takes just those (`takeWhile_digits`).  A whole number may have a
plus sign in front, and is read if it is below a limit (`natural?_eq_some_iff`). -/

namespace DeviceLab.Text

variable {p : Char → Bool} {run rest : List Char}

/-- Characters of one kind are taken up to the first one of another kind. -/
theorem takeWhile_run (h : ∀ c ∈ run, p c = true) (hrest : ∀ c ∈ rest.head?, p c = false) :
    (run ++ rest).takeWhile p = run := by
  rw [List.takeWhile_append_of_pos h]
  cases rest with
  | nil => exact List.append_nil _
  | cons c rest => rw [List.takeWhile_cons_of_neg (by simp [hrest c rfl]), List.append_nil]

theorem dropWhile_run (h : ∀ c ∈ run, p c = true) (hrest : ∀ c ∈ rest.head?, p c = false) :
    (run ++ rest).dropWhile p = rest := by
  rw [List.dropWhile_append_of_pos h]
  cases rest with
  | nil => rfl
  | cons c rest => exact List.dropWhile_cons_of_neg (by simp [hrest c rfl])

end DeviceLab.Text

namespace DeviceLab.Decimal

variable {n limit : Nat} {c : Char} {digits rest word : List Char}

theorem code_of_digit (h : isDigit c = true) : 48 ≤ c.toNat ∧ c.toNat ≤ 57 := by
  rw [isDigit, Bool.and_eq_true, decide_eq_true_eq, decide_eq_true_eq] at h
  exact h

/-- Digits are no blanks. -/
theorem isBlank_of_digit (h : isDigit c = true) : Text.isBlank c = false := by
  obtain ⟨hlow, hhigh⟩ := code_of_digit h
  simp [Text.isBlank]
  omega

theorem exists_digitChar (h : isDigit c = true) : ∃ k < 10, c = Nat.digitChar k := by
  obtain ⟨hlow, hhigh⟩ := code_of_digit h
  have hk : c.toNat - 48 < 10 := by omega
  have hcode : (Nat.digitChar (c.toNat - 48)).toNat = c.toNat := by
    rw [Nat.toNat_digitChar_of_lt_ten hk]
    omega
  refine ⟨c.toNat - 48, hk, ?_⟩
  calc c = Char.ofNat c.toNat := (Char.ofNat_toNat c).symm
    _ = Char.ofNat (Nat.digitChar (c.toNat - 48)).toNat := by rw [hcode]
    _ = Nat.digitChar (c.toNat - 48) := Char.ofNat_toNat _

theorem ofDigits_eq (cs : List Char) : ofDigits cs = Nat.ofDigitChars 10 cs 0 := by
  rw [ofDigits, Nat.ofDigitChars_eq_foldl]
  simp only [Nat.mul_comm]

theorem isDigit_of_mem_toDigits (h : c ∈ Nat.toDigits 10 n) : isDigit c = true :=
  Nat.isDigit_of_mem_toDigits (by decide) (by decide) h

theorem ofDigits_toDigits (n : Nat) : ofDigits (Nat.toDigits 10 n) = n := by
  rw [ofDigits_eq, Nat.ofDigitChars_ten_toDigits]

/-- Only zero is written with a zero in front. -/
theorem eq_zero_of_head_toDigits (h : (Nat.toDigits 10 n).head? = some '0') : n = 0 := by
  induction n using Nat.strongRecOn with
  | ind n ih =>
      rw [Nat.toDigits_eq_if (by decide)] at h
      split at h
      · exact Nat.digitChar_eq_zero.1 (Option.some.inj h)
      · obtain ⟨d, more, hdigits⟩ := List.exists_cons_of_ne_nil (@Nat.toDigits_ne_nil (n / 10) 10)
        rw [hdigits] at h
        have hzero : n / 10 = 0 := ih (n / 10) (by omega) (by rw [hdigits]; exact h)
        omega

theorem takeWhile_digits (h : ∀ c ∈ digits, isDigit c = true)
    (hrest : ∀ c ∈ rest.head?, isDigit c = false) :
    (digits ++ rest).takeWhile isDigit = digits :=
  Text.takeWhile_run h hrest

theorem dropWhile_digits (h : ∀ c ∈ digits, isDigit c = true)
    (hrest : ∀ c ∈ rest.head?, isDigit c = false) :
    (digits ++ rest).dropWhile isDigit = rest :=
  Text.dropWhile_run h hrest

/-! ### Whole numbers as they may be written -/

/-- A whole number as it may be written: digits, behind a plus sign if there is one. -/
def Writes (word : List Char) (n : Nat) : Prop :=
  ∃ digits, (word = digits ∨ word = '+' :: digits) ∧ digits ≠ [] ∧
    (∀ c ∈ digits, isDigit c = true) ∧ ofDigits digits = n

theorem natural?_eq_some_iff : natural? limit word = some n ↔ Writes word n ∧ n < limit := by
  -- the sign of a number is not its first digit
  have hbody : ∃ body, natural? limit word = (if body.isEmpty || !body.all isDigit then none
      else if ofDigits body < limit then some (ofDigits body) else none) ∧
      ∀ digits, digits ≠ [] → (∀ c ∈ digits, isDigit c = true) →
        (word = digits ∨ word = '+' :: digits ↔ body = digits) := by
    unfold natural?
    split
    · next rest =>
        refine ⟨rest, rfl, fun digits _ hdigits => ⟨fun h => ?_, fun h => .inr (h ▸ rfl)⟩⟩
        rcases h with h | h
        · exact absurd (hdigits '+' (h ▸ List.mem_cons_self ..)) (by decide)
        · exact (List.cons.inj h).2
    · next hplain =>
        exact ⟨word, rfl, fun digits _ _ => ⟨fun h => h.resolve_right (hplain digits), .inl⟩⟩
  obtain ⟨body, hread, hwritten⟩ := hbody
  rw [hread]
  constructor
  · intro h
    split at h
    · cases h
    next hshape =>
    simp only [Bool.or_eq_true, Bool.not_eq_true', not_or, Bool.not_eq_false, List.all_eq_true,
      List.isEmpty_iff] at hshape
    split at h
    · next hlt =>
        cases h
        exact ⟨⟨body, (hwritten body hshape.1 hshape.2).2 rfl, hshape.1, hshape.2, rfl⟩, hlt⟩
    · cases h
  · rintro ⟨⟨digits, hword, hne, hdigits, rfl⟩, hlt⟩
    obtain rfl := (hwritten digits hne hdigits).1 hword
    rw [if_neg (by simpa [hne] using hdigits), if_pos hlt]

theorem natural?_eq_none_iff : natural? limit word = none ↔ ∀ n, Writes word n → limit ≤ n := by
  simp only [Option.eq_none_iff_forall_ne_some, ne_eq, natural?_eq_some_iff, not_and, Nat.not_lt]

/-- What is written stands for one number. -/
theorem Writes.unique {m : Nat} (h : Writes word n) (h' : Writes word m) : n = m := by
  have hn : natural? (max n m + 1) word = some n := natural?_eq_some_iff.2 ⟨h, by omega⟩
  have hm : natural? (max n m + 1) word = some m := natural?_eq_some_iff.2 ⟨h', by omega⟩
  exact Option.some.inj (hn.symm.trans hm)

/-- A number is written without blanks. -/
theorem Writes.plain (h : Writes word n) : word ≠ [] ∧ ∀ c ∈ word, Text.isBlank c = false := by
  obtain ⟨digits, rfl | rfl, hne, hdigits, -⟩ := h
  · exact ⟨hne, fun c hc => isBlank_of_digit (hdigits c hc)⟩
  · refine ⟨List.cons_ne_nil _ _, fun c hc => ?_⟩
    rcases List.mem_cons.1 hc with rfl | hc
    · rfl
    · exact isBlank_of_digit (hdigits c hc)

theorem writes_toDigits (n : Nat) : Writes (Nat.toDigits 10 n) n :=
  ⟨_, .inl rfl, Nat.toDigits_ne_nil, fun _ => isDigit_of_mem_toDigits, ofDigits_toDigits n⟩

end DeviceLab.Decimal
