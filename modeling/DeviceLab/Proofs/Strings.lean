import Mathlib.Data.String.Basic

/-! # Texts that are cut at a character

`String.splitOn` looks for a separator by its positions.  Where the separator is one character it
cuts the list of characters, so that what is known of `List.splitOnP` is known of it
(`splitOn_char`). -/

namespace DeviceLab

open String

/-- The cut from a position on: the part that has been begun is `m`, the rest is `r`, and `acc` are
the parts before. -/
theorem splitOnAux_char (sep : Char) (l m r : List Char) (acc : List String) :
    splitOnAux (ofList (l ++ m ++ r)) (ofList [sep]) ⟨utf8Len l⟩ ⟨utf8Len l + utf8Len m⟩ 0 acc =
      acc.reverse ++ (List.splitOnPPrepend (· == sep) r m.reverse).map ofList := by
  induction r generalizing l m acc with
  | nil =>
      have hend := (atEnd_of_valid (l ++ m) []).2 rfl
      rw [utf8Len_append] at hend
      rw [splitOnAux, if_pos hend]
      simpa using extract_of_valid l m []
  | cons c r ih =>
      have hopen := mt (atEnd_of_valid (l ++ m) (c :: r)).1 (List.cons_ne_nil c r)
      have hget := get_of_valid (l ++ m) (c :: r)
      have hnext := next_of_valid (l ++ m) c r
      have hsep : Pos.Raw.get (ofList [sep]) 0 = sep := get_of_valid [] [sep]
      rw [utf8Len_append] at hopen hget hnext
      rw [splitOnAux, if_neg hopen, hget, hsep, List.headD_cons]
      by_cases hc : c = sep
      · subst hc
        have hnextSep : Pos.Raw.next (ofList [c]) 0 = ⟨c.utf8Size⟩ := by
          simpa using next_of_valid [] c []
        have hdone : Pos.Raw.atEnd (ofList [c]) ⟨c.utf8Size⟩ = true := by
          simpa using (atEnd_of_valid [c] []).2 rfl
        have hpart : Pos.Raw.extract (ofList (l ++ m ++ c :: r)) ⟨utf8Len l⟩
            (Pos.Raw.unoffsetBy ⟨utf8Len l + utf8Len m + c.utf8Size⟩ ⟨c.utf8Size⟩) = ofList m := by
          simpa [Pos.Raw.unoffsetBy] using extract_of_valid l m (c :: r)
        rw [if_pos (beq_self_eq_true c), hnext, hnextSep]
        dsimp only
        rw [if_pos hdone, hpart]
        simpa [List.splitOnPPrepend_cons_eq_if, Nat.add_assoc] using
          ih (l ++ m ++ [c]) [] (ofList m :: acc)
      · have hne : (c == sep) = false := beq_false_of_ne hc
        have hstep : Pos.Raw.unoffsetBy ⟨utf8Len l + utf8Len m⟩ 0 = ⟨utf8Len l + utf8Len m⟩ := rfl
        rw [if_neg (by rw [hne]; exact Bool.false_ne_true), hstep, hnext]
        simpa [List.splitOnPPrepend_cons_eq_if, hc, Nat.add_assoc] using ih l (m ++ [c]) acc

theorem splitOn_char (sep : Char) (text : String) :
    text.splitOn (ofList [sep]) = (text.toList.splitOnP (· == sep)).map ofList := by
  have hsep : (ofList [sep] == "") = false := by simp
  have haux := splitOnAux_char sep [] [] text.toList []
  rw [splitOn, hsep]
  simpa using haux

end DeviceLab
