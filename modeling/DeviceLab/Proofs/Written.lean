import DeviceLab.Json.Decode
import DeviceLab.Proofs.Numerals

/-! # Written values

The text that is written for a value is read as that value.  A string is read character by
character from its escapes (`stringPart_escapeChar`), a whole number of 64 bits from its digits
(`readNumber_writeInt`).  Both need to know what may follow: behind a value stands nothing, a comma
or the end of a line (`Delimited`), since the parts of a collection are written on lines of their
own.

The induction is on the value (`Value.Plain.legible`).  Its hypothesis holds at every level of
indentation, before every such rest and for every number of steps that the text does not exceed
(`Value.Legible`), so that a step of `readItems` or `readFields` takes one part and leaves the
others (`readItems_next`, `readField`).  Numbers with a fraction are left out: no record that is
written has one. -/

namespace DeviceLab.Json

open Decimal

/-! ### Strings -/

theorem hexDigit?_digitChar : ∀ d < 16, hexDigit? (Nat.digitChar d) = some d := by decide

theorem utf8Size_digitChar : ∀ d < 16, (Nat.digitChar d).utf8Size = 1 := by decide

/-- A control is read from its number. -/
theorem numberEscape_control {c : Char} (h : c.toNat < 0x20) (rest : List Char) :
    numberEscape ('0' :: '0' :: Nat.digitChar (c.toNat / 16) :: Nat.digitChar (c.toNat % 16) ::
      rest) = .char c rest := by
  have hhigh : c.toNat / 16 < 16 := by omega
  have hlow : c.toNat % 16 < 16 := Nat.mod_lt _ (by decide)
  have hzero : hexDigit? '0' = some 0 := by decide
  have hnumber : hexNumber? ['0', '0', Nat.digitChar (c.toNat / 16),
      Nat.digitChar (c.toNat % 16)] = some c.toNat := by
    simp only [hexNumber?, List.foldl_cons, List.foldl_nil, hzero, hexDigit?_digitChar _ hhigh,
      hexDigit?_digitChar _ hlow, Option.bind_eq_bind, Option.bind_some, Option.pure_def]
    congr 1
    omega
  have hescape : hexEscape ('0' :: '0' :: Nat.digitChar (c.toNat / 16) ::
      Nat.digitChar (c.toNat % 16) :: rest) = .ok (c.toNat, rest) := by
    simp only [hexEscape, List.take_succ_cons, List.take_zero, List.foldl_cons, List.foldl_nil,
      utf8Size_digitChar _ hhigh, utf8Size_digitChar _ hlow, hnumber]
    rfl
  simp only [numberEscape, hescape]
  rw [if_neg (by omega), if_pos (Or.inl (by omega)), Char.ofNat_toNat]

/-- Inside a string one step reads what was written for one character. -/
theorem stringPart_escapeChar (c : Char) (rest : List Char) :
    stringPart (escapeChar c ++ rest) = .char c rest := by
  unfold escapeChar
  by_cases hquote : c = '"'
  · subst hquote; rfl
  by_cases hslash : c = '\\'
  · subst hslash; rfl
  by_cases hback : c = '\x08'
  · subst hback; rfl
  by_cases htab : c = '\t'
  · subst htab; rfl
  by_cases hline : c = '\n'
  · subst hline; rfl
  by_cases hfeed : c = '\x0c'
  · subst hfeed; rfl
  by_cases hreturn : c = '\r'
  · subst hreturn; rfl
  simp only [hquote, hslash, hback, htab, hline, hfeed, hreturn, if_false]
  split
  · exact numberEscape_control ‹_› rest
  · next hprinted =>
    rw [List.singleton_append, stringPart.eq_def]
    split <;> simp_all

theorem escapeChar_ne_nil (c : Char) : escapeChar c ≠ [] := by
  intro h
  have hpart := stringPart_escapeChar c []
  rw [h] at hpart
  cases hpart

theorem length_le_escaped (cs : List Char) : cs.length ≤ (cs.flatMap escapeChar).length := by
  induction cs with
  | nil => exact Nat.le_refl 0
  | cons c cs ih =>
      have := List.length_pos_iff.2 (escapeChar_ne_nil c)
      rw [List.flatMap_cons, List.length_append, List.length_cons]
      omega

theorem readString_written (cs : List Char) (rest : List Char) (fuel : Nat) (seen : List Char)
    (h : cs.length < fuel) :
    readString fuel seen (cs.flatMap escapeChar ++ '"' :: rest) =
      ⟨.ok (String.ofList (seen.reverse ++ cs)), .ok rest⟩ := by
  induction cs generalizing fuel seen with
  | nil =>
      obtain ⟨fuel, rfl⟩ := Nat.exists_eq_add_of_lt h
      simp [readString, stringPart]
  | cons c cs ih =>
      obtain ⟨fuel, rfl⟩ : ∃ k, fuel = k + 1 := ⟨fuel - 1, by simp at h; omega⟩
      rw [List.flatMap_cons, List.append_assoc, readString, stringPart_escapeChar]
      simp only
      rw [ih fuel (c :: seen) (by simpa using h), List.reverse_cons, List.append_assoc,
        List.singleton_append]

/-- A string is read from behind its first quote. -/
theorem readString_writeString (s : String) (rest : List Char) :
    ∃ body, writeString s ++ rest = '"' :: body ∧
      readString (body.length + 1) [] body = ⟨.ok s, .ok rest⟩ := by
  refine ⟨s.toList.flatMap escapeChar ++ '"' :: rest, by simp [writeString], ?_⟩
  have hlength := length_le_escaped s.toList
  rw [readString_written _ _ _ _ (by rw [List.length_append]; omega), List.reverse_nil,
    List.nil_append, String.ofList_toList]

/-! ### Numbers -/

/-- What may follow a value: nothing, a comma or the end of a line. -/
def Delimited (rest : List Char) : Prop := ∀ c ∈ rest.head?, c = ',' ∨ c = '\n'

theorem Delimited.isDigit {rest : List Char} (h : Delimited rest) :
    ∀ c ∈ rest.head?, isDigit c = false := by
  intro c hc
  rcases h c hc with rfl | rfl <;> rfl

/-- A whole number of 64 bits, with a sign or without. -/
def IsInt64 (n : Int) : Prop := -(twoTo 63 : Int) ≤ n ∧ n < twoTo 64

/-- Digits behind an optional sign, with neither a fraction nor an exponent. -/
theorem readNumber_digits (negative : Bool) {digits rest : List Char}
    (hdigits : ∀ c ∈ digits, Decimal.isDigit c = true) (hne : digits ≠ [])
    (hzero : ¬(digits.head? = some '0' ∧ digits.length ≠ 1)) (hrest : Delimited rest)
    (hrange : if negative then ¬(ofDigits digits = 0 ∨ twoTo 63 < ofDigits digits)
      else ofDigits digits < twoTo 64) :
    readNumber (if negative then '-' :: (digits ++ rest) else digits ++ rest) =
      ⟨.ok (.int (if negative then -(ofDigits digits : Int) else ofDigits digits)), .ok rest⟩ := by
  have htake := takeWhile_digits hdigits hrest.isDigit
  have hdrop := dropWhile_digits hdigits hrest.isDigit
  have hempty : digits.isEmpty = false := List.isEmpty_eq_false_iff.2 hne
  cases negative with
  | true =>
      simp only [readNumber, if_true, htake, hdrop, hempty, hzero]
      cases rest with
      | nil => exact if_neg hrange
      | cons c rest => rcases hrest c rfl with rfl | rfl <;> exact if_neg hrange
  | false =>
      obtain ⟨d, more, rfl⟩ := List.exists_cons_of_ne_nil hne
      have hsign : d ≠ '-' := by
        rintro rfl
        cases hdigits '-' List.mem_cons_self
      simp only [readNumber, Bool.false_eq_true, if_false, List.cons_append, List.cons.injEq, hsign,
        false_and, imp_false, not_false_eq_true, implies_true]
      simp only [← List.cons_append, htake, hdrop, hempty, hzero]
      cases rest with
      | nil => exact if_pos hrange
      | cons c rest => rcases hrest c rfl with rfl | rfl <;> exact if_pos hrange

theorem readNumber_writeInt {n : Int} (hn : IsInt64 n) {rest : List Char}
    (hrest : Delimited rest) :
    readNumber (writeInt n ++ rest) = ⟨.ok (.int n), .ok rest⟩ := by
  obtain ⟨hlow, hhigh⟩ := hn
  have hzero : ¬((Nat.toDigits 10 n.natAbs).head? = some '0' ∧
      (Nat.toDigits 10 n.natAbs).length ≠ 1) := by
    rintro ⟨hhead, hlength⟩
    rw [eq_zero_of_head_toDigits hhead, Nat.toDigits_zero] at hlength
    exact hlength rfl
  have hread := fun negative => readNumber_digits negative
    (fun _ hc => isDigit_of_mem_toDigits hc) Nat.toDigits_ne_nil hzero hrest
  rw [ofDigits_toDigits] at hread
  rcases Int.lt_or_le n 0 with hneg | hpos
  · have habs : -(n.natAbs : Int) = n := by omega
    rw [writeInt, if_pos hneg, List.cons_append]
    have htrue := hread true (by simp only [if_true]; omega)
    simpa only [if_true, habs] using htrue
  · have habs : (n.natAbs : Int) = n := by omega
    rw [writeInt, if_neg (by omega)]
    have hfalse := hread false (by simp only [Bool.false_eq_true, if_false]; omega)
    simpa only [Bool.false_eq_true, if_false, habs] using hfalse

theorem writeInt_opens (n : Int) :
    ∃ c cs, writeInt n = c :: cs ∧ (c = '-' ∨ Decimal.isDigit c = true) := by
  obtain ⟨d, more, hdigits⟩ := List.exists_cons_of_ne_nil (@Nat.toDigits_ne_nil n.natAbs 10)
  unfold writeInt
  split
  · exact ⟨_, _, rfl, .inl rfl⟩
  · exact ⟨d, more, hdigits, .inr (isDigit_of_mem_toDigits (hdigits ▸ List.mem_cons_self))⟩

theorem readDocument_number {c : Char} (h : c = '-' ∨ Decimal.isDigit c = true) (fuel : Nat)
    (cs : List Char) :
    readDocument (fuel + 1) (c :: cs) = (readNumber (c :: cs)).toDocument c := by
  rcases h with rfl | hdigit
  · rw [readDocument]
    rfl
  · obtain ⟨k, hk, rfl⟩ := exists_digitChar hdigit
    rw [readDocument]
    match k, hk with
    | 0, _ | 1, _ | 2, _ | 3, _ | 4, _ | 5, _ | 6, _ | 7, _ | 8, _ | 9, _ => rfl

/-! ### Values -/

/-- Values whose numbers are whole ones of 64 bits. -/
inductive Value.Plain : Value → Prop where
  | null : Plain .null
  | bool (b : Bool) : Plain (.bool b)
  | int {n : Int} (h : IsInt64 n) : Plain (.int n)
  | string (s : String) : Plain (.string s)
  | array {items : List Value} (h : ∀ item ∈ items, Plain item) : Plain (.array items)
  | object {fields : List (String × Value)} (h : ∀ field ∈ fields, Plain field.2) :
      Plain (.object fields)

/-- What is written for a value is read as that value, whatever follows it. -/
def Value.Legible (v : Value) : Prop :=
  ∀ level fuel rest, (write level v).length ≤ fuel → Delimited rest →
    readDocument fuel (write level v ++ rest) = (.ofValue v, rest)

variable {rest : List Char}

theorem skipSpace_newline (level : Nat) (cs : List Char) :
    skipSpace (newline level ++ cs) = skipSpace cs := by
  have hblank : ∀ c ∈ newline level, isSpace c = true := by
    intro c hc
    rcases List.mem_cons.1 hc with rfl | hc
    · rfl
    · rw [List.eq_of_mem_replicate hc]
      rfl
  exact List.dropWhile_append_of_pos hblank

theorem delimited_newline (level : Nat) (cs : List Char) : Delimited (newline level ++ cs) :=
  fun _ hc => .inr (Option.some.inj hc).symm

theorem delimited_nil : Delimited [] := nofun

/-- The first character of what is written for a value. -/
theorem write_opens {v : Value} (h : v.Plain) (level : Nat) :
    ∃ c cs, write level v = c :: cs ∧ isSpace c = false ∧ c ≠ ']' := by
  cases h with
  | null => exact ⟨_, _, rfl, rfl, by decide⟩
  | bool b => cases b <;> exact ⟨_, _, rfl, rfl, by decide⟩
  | @int n h =>
      obtain ⟨c, cs, hwrite, hlead⟩ := writeInt_opens n
      refine ⟨c, cs, hwrite, ?_⟩
      rcases hlead with rfl | hdigit
      · exact ⟨rfl, by decide⟩
      · obtain ⟨k, hk, rfl⟩ := exists_digitChar hdigit
        clear hwrite hdigit
        revert k
        decide
  | string s => exact ⟨_, _, rfl, rfl, by decide⟩
  | @array items h => cases items <;> exact ⟨_, _, rfl, rfl, by decide⟩
  | @object fields h => cases fields <;> exact ⟨_, _, rfl, rfl, by decide⟩

theorem skipSpace_write {v : Value} (h : v.Plain) (level : Nat) (cs : List Char) :
    skipSpace (write level v ++ cs) = write level v ++ cs := by
  obtain ⟨c, more, hwrite, hspace, -⟩ := write_opens h level
  rw [hwrite, List.cons_append, skipSpace, List.dropWhile_cons_of_neg (by simp [hspace])]

theorem readDocument_skipSpace (fuel : Nat) {cs cs' : List Char}
    (h : skipSpace cs = skipSpace cs') : readDocument fuel cs = readDocument fuel cs' := by
  cases fuel with
  | zero => rfl
  | succ fuel => rw [readDocument, readDocument, h]

theorem delimited_writeItems (level : Nat) (items : List Value) {cs : List Char}
    (h : Delimited cs) : Delimited (writeItems level items ++ cs) := by
  cases items with
  | nil => exact h
  | cons item items => exact fun _ hc => .inl (Option.some.inj hc).symm

theorem delimited_writeFields (level : Nat) (fields : List (String × Value)) {cs : List Char}
    (h : Delimited cs) : Delimited (writeFields level fields ++ cs) := by
  cases fields with
  | nil => exact h
  | cons field fields => exact fun _ hc => .inl (Option.some.inj hc).symm

section Parts

variable {v : Value} {fuel level : Nat}
  (hplain : v.Plain) (hlegible : v.Legible) (hfuel : (write level v).length ≤ fuel)
  (hrest : Delimited rest)

include hplain hlegible hfuel hrest

/-- The first item of an array is read. -/
theorem readItems_first :
    readItems (fuel + 1) true (newline level ++ (write level v ++ rest)) =
      let (items, ending, after) := readItems fuel false rest
      (.ofValue v :: items, ending, after) := by
  have hread := hlegible level fuel rest hfuel hrest
  have hskip := skipSpace_write hplain level rest
  obtain ⟨c, cs, hwrite, -, hbracket⟩ := write_opens hplain level
  rw [hwrite, List.cons_append] at hread hskip
  rw [readItems, skipSpace_newline, hwrite, List.cons_append, hskip]
  simp [hbracket, hread]

/-- An item behind a comma is read. -/
theorem readItems_next :
    readItems (fuel + 1) false (',' :: (newline level ++ (write level v ++ rest))) =
      let (items, ending, after) := readItems fuel false rest
      (.ofValue v :: items, ending, after) := by
  have hread := hlegible level fuel rest hfuel hrest
  have hskip : skipSpace (newline level ++ (write level v ++ rest)) = write level v ++ rest := by
    rw [skipSpace_newline, skipSpace_write hplain]
  obtain ⟨c, cs, hwrite, -, hbracket⟩ := write_opens hplain level
  rw [readItems, skipSpace, List.dropWhile_cons_of_neg (by decide)]
  simp [hskip, hread]
  simp [hwrite, hbracket]

omit hplain in
theorem readField (name : String) (first : Bool) :
    readFields (fuel + 1) first ((if first then [] else [',']) ++
      (newline level ++ (writeString name ++ (':' :: ' ' :: (write level v ++ rest))))) =
      let (fields, ending, after) := readFields fuel false rest
      ((some name, .ofValue v) :: fields, ending, after) := by
  have hblank : skipSpace (' ' :: (write level v ++ rest)) = skipSpace (write level v ++ rest) :=
    rfl
  have hread : readDocument fuel (' ' :: (write level v ++ rest)) = (.ofValue v, rest) :=
    (readDocument_skipSpace fuel hblank).trans (hlegible level fuel rest hfuel hrest)
  obtain ⟨body, hbody, hname⟩ :=
    readString_writeString name (':' :: ' ' :: (write level v ++ rest))
  have hquote : skipSpace (newline level ++ '"' :: body) = '"' :: body := skipSpace_newline ..
  have hcomma (cs : List Char) : skipSpace (',' :: cs) = ',' :: cs := rfl
  have hcolon (cs : List Char) : skipSpace (':' :: cs) = ':' :: cs := rfl
  rw [hbody]
  cases first with
  | true => simp [readFields, hquote, hname, hcolon, hread, Except.toOption]
  | false => simp [readFields, hquote, hname, hcolon, hread, hcomma, Except.toOption]

end Parts

theorem readItems_close (fuel level : Nat) (first : Bool) (rest : List Char) :
    readItems (fuel + 1) first (newline level ++ ']' :: rest) = ([], .closed, rest) := by
  rw [readItems, skipSpace_newline]
  rfl

theorem readFields_close (fuel level : Nat) (first : Bool) (rest : List Char) :
    readFields (fuel + 1) first (newline level ++ '\x7d' :: rest) = ([], .closed, rest) := by
  rw [readFields, skipSpace_newline]
  rfl

/-- The items of an array behind the first one. -/
theorem readItems_write {items : List Value} (h : ∀ item ∈ items, item.Plain ∧ item.Legible)
    {fuel : Nat} (level below : Nat) (rest : List Char)
    (hfuel : (writeItems level items).length < fuel) :
    readItems fuel false (writeItems level items ++ (newline below ++ ']' :: rest)) =
      (Document.ofItems items, .closed, rest) := by
  induction items generalizing fuel with
  | nil =>
      obtain ⟨fuel, rfl⟩ := Nat.exists_eq_add_of_lt hfuel
      exact readItems_close ..
  | cons item items ih =>
      obtain ⟨fuel, rfl⟩ := Nat.exists_eq_add_of_lt hfuel
      obtain ⟨⟨hplain, hlegible⟩, hitems⟩ := List.forall_mem_cons.1 h
      simp only [writeItems, List.cons_append, List.append_assoc, List.length_cons,
        List.length_append] at hfuel ⊢
      rw [readItems_next hplain hlegible (by omega)
        (delimited_writeItems _ _ (delimited_newline _ _)), ih hitems (by omega)]
      rfl

/-- The fields of an object behind the first one. -/
theorem readFields_write {fields : List (String × Value)}
    (h : ∀ field ∈ fields, field.2.Legible) {fuel : Nat} (level below : Nat) (rest : List Char)
    (hfuel : (writeFields level fields).length < fuel) :
    readFields fuel false (writeFields level fields ++ (newline below ++ '\x7d' :: rest)) =
      (Document.ofFields fields, .closed, rest) := by
  induction fields generalizing fuel with
  | nil =>
      obtain ⟨fuel, rfl⟩ := Nat.exists_eq_add_of_lt hfuel
      exact readFields_close ..
  | cons field fields ih =>
      obtain ⟨name, v⟩ := field
      obtain ⟨fuel, rfl⟩ : ∃ k, fuel = k + 1 := ⟨fuel - 1, by omega⟩
      obtain ⟨hlegible, hfields⟩ := List.forall_mem_cons.1 h
      simp only [writeFields, List.cons_append, List.append_assoc, List.length_cons,
        List.length_append, List.nil_append] at hfuel ⊢
      have hfirst : (write level v).length ≤ fuel := by omega
      have hread := readField hlegible hfirst
        (delimited_writeFields level fields (delimited_newline below ('\x7d' :: rest))) name false
      rw [ih hfields (by omega)] at hread
      exact hread

theorem readDocument_bracket (fuel : Nat) (cs : List Char) :
    readDocument (fuel + 1) ('[' :: cs) =
      let (items, ending, after) := readItems fuel true cs
      (.array items ending, after) := by
  rw [readDocument]
  rfl

theorem readDocument_brace (fuel : Nat) (cs : List Char) :
    readDocument (fuel + 1) ('\x7b' :: cs) =
      let (fields, ending, after) := readFields fuel true cs
      (.object fields ending, after) := by
  rw [readDocument]
  rfl

theorem legible_of_succ {v : Value} (hplain : v.Plain)
    (h : ∀ level fuel rest, (write level v).length ≤ fuel + 1 → Delimited rest →
      readDocument (fuel + 1) (write level v ++ rest) = (.ofValue v, rest)) : v.Legible := by
  intro level fuel rest hfuel
  obtain ⟨c, cs, hwrite, -⟩ := write_opens hplain level
  cases fuel with
  | zero => simp [hwrite] at hfuel
  | succ fuel => exact h level fuel rest hfuel

theorem Value.Legible.array {items : List Value}
    (h : ∀ item ∈ items, item.Plain ∧ item.Legible) : (Value.array items).Legible := by
  refine legible_of_succ (.array fun item hitem => (h item hitem).1) fun level fuel rest hfuel _ => ?_
  cases items with
  | nil =>
      cases fuel with
      | zero => simp [write] at hfuel
      | succ fuel => rfl
  | cons item items =>
      cases fuel with
      | zero => simp [write] at hfuel
      | succ fuel =>
          obtain ⟨⟨hplain, hlegible⟩, hitems⟩ := List.forall_mem_cons.1 h
          simp only [write, List.cons_append, List.append_assoc, List.length_cons,
            List.length_append, List.nil_append] at hfuel ⊢
          have hline : 0 < (newline level).length := Nat.succ_pos _
          have hfirst : (write (level + 1) item).length ≤ fuel := by omega
          rw [readDocument_bracket, readItems_first hplain hlegible hfirst
            (delimited_writeItems _ _ (delimited_newline _ _)),
            readItems_write hitems _ _ _ (by omega)]
          rfl

theorem Value.Legible.object {fields : List (String × Value)}
    (h : ∀ field ∈ fields, field.2.Plain ∧ field.2.Legible) : (Value.object fields).Legible := by
  refine legible_of_succ (.object fun field hfield => (h field hfield).1)
    fun level fuel rest hfuel _ => ?_
  cases fields with
  | nil =>
      cases fuel with
      | zero => simp [write] at hfuel
      | succ fuel => rfl
  | cons field fields =>
      cases fuel with
      | zero => simp [write] at hfuel
      | succ fuel =>
          obtain ⟨name, v⟩ := field
          obtain ⟨⟨-, hlegible⟩, hfields⟩ := List.forall_mem_cons.1 h
          simp only [write, List.cons_append, List.append_assoc, List.length_cons,
            List.length_append, List.nil_append] at hfuel ⊢
          have hfirst : (write (level + 1) v).length ≤ fuel := by omega
          have hrest := delimited_newline level ('\x7d' :: rest)
          have hread := readField hlegible hfirst
            (delimited_writeFields (level + 1) fields hrest) name true
          rw [if_pos rfl, List.nil_append] at hread
          rw [readDocument_brace, hread,
            readFields_write (fun field hfield => (hfields field hfield).2) _ _ _ (by omega)]
          rfl

theorem Value.Plain.legible {v : Value} (h : v.Plain) : v.Legible := by
  induction h with
  | null =>
      refine legible_of_succ .null fun level fuel rest _ _ => ?_
      simp only [write, String.reduceToList]
      rfl
  | bool b =>
      refine legible_of_succ (.bool b) fun level fuel rest _ _ => ?_
      cases b <;> simp only [write, String.reduceToList] <;> rfl
  | @int n h =>
      refine legible_of_succ (.int h) fun level fuel rest hfuel hrest => ?_
      have hread := readNumber_writeInt h hrest
      obtain ⟨c, cs, hwrite, hlead⟩ := writeInt_opens n
      rw [hwrite, List.cons_append] at hread
      rw [write, hwrite, List.cons_append, readDocument_number hlead, hread]
      rfl
  | string s =>
      refine legible_of_succ (.string s) fun level fuel rest hfuel hrest => ?_
      obtain ⟨body, hbody, hread⟩ := readString_writeString s rest
      rw [write, hbody, readDocument]
      simp [skipSpace, isSpace, hread, Token.toText, Token.toDocument, Except.map, Document.ofValue]
  | array h ih => exact .array fun item hitem => ⟨h item hitem, ih item hitem⟩
  | object h ih => exact .object fun field hfield => ⟨h field hfield, ih field hfield⟩

/-- A plain value that is written is read, and nothing is left of the text. -/
theorem Document.ofText_pretty {v : Value} (h : v.Plain) :
    Document.ofText v.pretty = (.ofValue v, false) := by
  have hread := h.legible 0 (2 * (write 0 v).length + 2) [] (by omega) delimited_nil
  rw [List.append_nil] at hread
  simp only [Document.ofText, Value.pretty, String.toList_ofList, hread]
  rfl

end DeviceLab.Json
