import Mathlib.Data.List.Infix
import Mathlib.Data.List.TakeWhile
import DeviceLab.Process.Stray
import DeviceLab.Proofs.Numerals
import DeviceLab.Proofs.Scanning

/-! # Process listings

A line of a listing tells of a process when it has a number of 32 bits and more words behind it,
which are the command with whatever blanks are inside it.  A listing that is printed line by line is
read back without loss, in the order of its lines, and what else stands between them adds nothing.

* `Stray.Tells`: a line tells of a process; `Stray.processOf?_eq_some_iff`: that is how it is read.
* `Stray.Row`: what a line of a listing can be, and how it is written.
* `Stray.matchingPids_printed`: the processes of a printed listing are found. -/

namespace DeviceLab

namespace Text

variable {c : Char} {text core padding trailing word rest needle : List Char}

/-! ### Blanks at the ends -/

/-- The text consists of blanks. -/
def Blanks (text : List Char) : Prop := ∀ c ∈ text, isBlank c = true

/-- The text has no blanks at its ends, and is not empty. -/
structure Bare (text : List Char) : Prop where
  ne_nil : text ≠ []
  head : ∀ c ∈ text.head?, isBlank c = false
  last : ∀ c ∈ text.getLast?, isBlank c = false

instance (text : List Char) : Decidable (Blanks text) :=
  List.decidableBAll (fun c => isBlank c = true) text

theorem bare_iff : Bare text ↔ text ≠ [] ∧ text.head?.all (fun c => !isBlank c) = true ∧
    text.getLast?.all (fun c => !isBlank c) = true := by
  simp only [Option.all_eq_true, Bool.not_eq_true']
  exact ⟨fun h => ⟨h.ne_nil, h.head, h.last⟩, fun ⟨hne, hhead, hlast⟩ => ⟨hne, hhead, hlast⟩⟩

-- told by the two characters at the ends, so that deciding it does not go over all characters
instance (text : List Char) : Decidable (Bare text) := decidable_of_iff' _ bare_iff

/-- A text without blanks at its ends is what is left of it when some are put around it. -/
theorem trim_around (hpadding : Blanks padding) (hcore : Bare core) (htrailing : Blanks trailing) :
    trim (padding ++ core ++ trailing) = core := by
  have hhead : ∀ c ∈ (core ++ trailing).head?, isBlank c = false := by
    rw [List.head?_append_of_ne_nil core hcore.ne_nil]
    exact hcore.head
  have hlast : ∀ c ∈ core.reverse.head?, isBlank c = false := by
    rw [List.head?_reverse]
    exact hcore.last
  have hreversed : ∀ c ∈ trailing.reverse, isBlank c = true := fun c hc =>
    htrailing c (List.mem_reverse.1 hc)
  rw [trim, trimStart, List.append_assoc, dropWhile_run hpadding hhead, trimEnd,
    List.reverse_append, dropWhile_run hreversed hlast, List.reverse_reverse]

/-- The first character that is kept is no blank. -/
theorem head_dropWhile (text : List Char) :
    ∀ c ∈ (text.dropWhile isBlank).head?, isBlank c = false := by
  intro c hc
  have hnot := List.head?_dropWhile_not isBlank text
  rw [Option.mem_def.1 hc] at hnot
  exact hnot

theorem blanks_takeWhile (text : List Char) : Blanks (text.takeWhile isBlank) :=
  fun _ => List.mem_takeWhile_imp

/-- Every text is what is left of it with blanks around. -/
theorem exists_around (text : List Char) : ∃ padding trailing, Blanks padding ∧ Blanks trailing ∧
    text = padding ++ trim text ++ trailing ∧ (trim text = [] ∨ Bare (trim text)) := by
  let start := trimStart text
  let trailing := (start.reverse.takeWhile isBlank).reverse
  have hstart : start = trim text ++ trailing := by
    rw [trim, trimEnd, ← List.reverse_append, List.takeWhile_append_dropWhile, List.reverse_reverse]
  refine ⟨text.takeWhile isBlank, trailing, blanks_takeWhile text, fun c hc =>
    blanks_takeWhile _ c (List.mem_reverse.1 hc), ?_, ?_⟩
  · rw [List.append_assoc, ← hstart]
    exact List.takeWhile_append_dropWhile.symm
  · by_cases hnone : trim text = []
    · exact .inl hnone
    · refine .inr ⟨hnone, fun c hc => head_dropWhile text c ?_, fun c hc => ?_⟩
      · change c ∈ start.head?
        rwa [hstart, List.head?_append_of_ne_nil _ hnone]
      · rw [trim, trimEnd, List.getLast?_reverse] at hc
        exact head_dropWhile _ c hc

theorem Bare.append (hne : word ≠ []) (hword : ∀ d ∈ word, isBlank d = false) (h : Bare rest)
    (gap : List Char) : Bare (word ++ gap ++ rest) where
  ne_nil := by simp [hne]
  head := by
    rw [List.append_assoc, List.head?_append_of_ne_nil _ hne]
    exact fun d hd => hword d (List.mem_of_head? hd)
  last := by
    rw [List.getLast?_append_of_ne_nil _ h.ne_nil]
    exact h.last

/-- There is more behind a blank that is inside of a text. -/
theorem Bare.trim_ne_nil (h : Bare (word ++ c :: rest)) (hc : isBlank c = true) :
    trim rest ≠ [] := by
  intro hnone
  obtain ⟨gap, more, hgap, hmore, hrest, -⟩ := exists_around rest
  rw [hnone, List.append_nil] at hrest
  have hblanks : Blanks (c :: rest) := by
    rw [hrest]
    exact List.forall_mem_cons.2 ⟨hc, fun d hd => (List.mem_append.1 hd).elim (hgap d) (hmore d)⟩
  obtain ⟨d, hd⟩ := Option.isSome_iff_exists.1
    (List.getLast?_isSome.2 (List.cons_ne_nil c rest))
  have hplain : isBlank d = false := h.last d <| by
    rw [List.getLast?_append_of_ne_nil _ (List.cons_ne_nil _ _)]
    exact hd
  rw [hblanks d (List.mem_of_getLast? hd)] at hplain
  cases hplain

theorem trim_append_blank (text : List Char) (hc : isBlank c = true) :
    trim (text ++ [c]) = trim text := by
  obtain ⟨padding, trailing, hpadding, htrailing, htext, hcore⟩ := exists_around text
  rcases hcore with hnone | hcore
  · have hblanks : ∀ d ∈ text ++ [c], isBlank d = true := by
      rw [htext, hnone]
      simp only [List.append_nil, List.mem_append, List.mem_singleton]
      rintro d ((hd | hd) | rfl)
      · exact hpadding d hd
      · exact htrailing d hd
      · exact hc
    rw [hnone, trim, trimStart, List.dropWhile_eq_nil_iff.2 hblanks]
    rfl
  · have hmore : Blanks (trailing ++ [c]) := by
      intro d hd
      rcases List.mem_append.1 hd with hd | hd
      · exact htrailing d hd
      · exact List.mem_singleton.1 hd ▸ hc
    have hlonger : text ++ [c] = padding ++ trim text ++ (trailing ++ [c]) := by
      rw [← List.append_assoc, ← htext]
    rw [hlonger, trim_around hpadding hcore hmore]

/-- A carriage return at the end is a blank among others. -/
theorem trim_chomp (line : List Char) : trim (chomp line) = trim line := by
  have hsplit : chomp line = line ∨ line = chomp line ++ ['\r'] := by
    fun_induction chomp line with
    | case1 => exact .inl rfl
    | case2 => exact .inr rfl
    | case3 c line _ ih =>
        rcases ih with ih | ih
        · exact .inl (congrArg (c :: ·) ih)
        · exact .inr (congrArg (c :: ·) ih)
  rcases hsplit with hsame | hsplit
  · rw [hsame]
  · have hreturn : isBlank '\r' = true := rfl
    conv => rhs; rw [hsplit]
    rw [trim_append_blank _ hreturn]

/-! ### Words -/

theorem splitAtBlank?_eq_some_iff : splitAtBlank? text = some (word, rest) ↔
    ∃ c, isBlank c = true ∧ text = word ++ c :: rest ∧ ∀ d ∈ word, isBlank d = false := by
  induction text generalizing word with
  | nil => simp [splitAtBlank?]
  | cons d text ih =>
      rw [splitAtBlank?]
      split
      · next hd =>
          rw [Option.some.injEq, Prod.mk.injEq]
          constructor
          · rintro ⟨rfl, rfl⟩
            exact ⟨d, hd, rfl, nofun⟩
          · rintro ⟨c, -, htext, hword⟩
            cases word with
            | nil => exact ⟨rfl, (List.cons.inj htext).2⟩
            | cons e word =>
                obtain ⟨rfl, -⟩ := List.cons.inj htext
                rw [hword d (List.mem_cons_self ..)] at hd
                cases hd
      · next hd =>
          rw [Option.map_eq_some_iff]
          constructor
          · rintro ⟨⟨first, behind⟩, hsplit, hpair⟩
            cases hpair
            obtain ⟨c, hc, rfl, hfirst⟩ := ih.1 hsplit
            refine ⟨c, hc, rfl, fun e he => ?_⟩
            rcases List.mem_cons.1 he with rfl | he
            · exact Bool.eq_false_iff.2 hd
            · exact hfirst e he
          · rintro ⟨c, hc, htext, hword⟩
            cases word with
            | nil =>
                obtain ⟨rfl, -⟩ := List.cons.inj htext
                exact absurd hc hd
            | cons e word =>
                obtain ⟨rfl, rfl⟩ := List.cons.inj htext
                exact ⟨(word, rest), ih.2 ⟨c, hc, rfl, fun f hf =>
                  hword f (List.mem_cons_of_mem _ hf)⟩, rfl⟩

/-- The words of a text: what stands between blanks. -/
def words (text : List Char) : List (List Char) := (text.splitOnP isBlank).filter (· ≠ [])

theorem words_blanks (h : Blanks padding) (text : List Char) :
    words (padding ++ text) = words text := by
  induction padding with
  | nil => rfl
  | cons c padding ih =>
      have hc := h c (List.mem_cons_self ..)
      have hsame := ih fun d hd => h d (List.mem_cons_of_mem _ hd)
      rw [List.cons_append, words, List.splitOnP_cons_eq_if_modifyHead, if_pos hc,
        List.filter_cons_of_neg (by simp)]
      exact hsame

theorem words_cons (hne : word ≠ []) (hword : ∀ d ∈ word, isBlank d = false)
    (hc : isBlank c = true) (rest : List Char) :
    words (word ++ c :: rest) = word :: words rest := by
  rw [words, List.splitOnP_append_cons_of_forall_mem hword c hc, List.filter_cons_of_pos (by simpa)]
  rfl

theorem words_ne_nil (hc : c ∈ text) (hplain : isBlank c = false) : words text ≠ [] := by
  induction text with
  | nil => cases hc
  | cons d text ih =>
      rw [words, List.splitOnP_cons_eq_if_modifyHead]
      split
      · next hd =>
          have hmem : c ∈ text := (List.mem_cons.1 hc).resolve_left fun heq => by
            rw [heq, hd] at hplain
            cases hplain
          rw [List.filter_cons_of_neg (by simp)]
          exact ih hmem
      · obtain ⟨first, others, hsplit⟩ :=
          List.exists_cons_of_ne_nil (List.splitOnP_ne_nil isBlank text)
        rw [hsplit, List.modifyHead_cons, List.filter_cons_of_pos (by simp)]
        exact List.cons_ne_nil _ _

/-! ### Parts of a text -/

theorem startsWith_iff : startsWith needle text = true ↔ needle <+: text := by
  induction needle generalizing text with
  | nil => simp [startsWith]
  | cons c needle ih =>
      cases text with
      | nil => simp [startsWith]
      | cons d text => rw [startsWith, Bool.and_eq_true, beq_iff_eq, ih, List.cons_prefix_cons]

theorem contains_iff : contains needle text = true ↔ needle <:+: text := by
  induction text with
  | nil => rw [contains, List.isEmpty_iff, List.infix_nil]
  | cons d text ih => rw [contains, Bool.or_eq_true, startsWith_iff, ih, List.infix_cons_iff]

end Text

namespace Stray

open Text Decimal

/-! ### One line -/

/-- A line tells of a process: a number of 32 bits, blanks, and its command. -/
def Tells (line : List Char) (pid : Nat) (command : List Char) : Prop :=
  ∃ padding number gap trailing, line = padding ++ (number ++ gap ++ command) ++ trailing ∧
    Blanks padding ∧ Writes number pid ∧ pid < twoTo 32 ∧ gap ≠ [] ∧ Blanks gap ∧ Bare command ∧
    Blanks trailing

theorem processOf?_eq_some_iff {line command : List Char} {pid : Nat} :
    processOf? line = some (pid, command) ↔ Tells line pid command := by
  have hread : processOf? line = some (pid, command) ↔ ∃ number rest,
      splitAtBlank? (trim line) = some (number, rest) ∧ natural? (twoTo 32) number = some pid ∧
        trim rest = command := by
    simp [processOf?, Option.bind_eq_some_iff]
  rw [hread]
  constructor
  · rintro ⟨number, rest, hsplit, hnumber, rfl⟩
    obtain ⟨c, hc, hcore, -⟩ := splitAtBlank?_eq_some_iff.1 hsplit
    obtain ⟨hwrites, hlt⟩ := natural?_eq_some_iff.1 hnumber
    obtain ⟨padding, trailing, hpadding, htrailing, hline, hbare⟩ := exists_around line
    have hbare : Bare (number ++ c :: rest) := by
      rw [← hcore]
      exact hbare.resolve_left fun hnone => by simp [hnone] at hcore
    obtain ⟨gap, more, hgap, hmore, hrest, hcommand⟩ := exists_around rest
    refine ⟨padding, number, c :: gap, more ++ trailing, ?_, hpadding, hwrites, hlt,
      List.cons_ne_nil _ _, List.forall_mem_cons.2 ⟨hc, hgap⟩,
      hcommand.resolve_left (hbare.trim_ne_nil hc), ?_⟩
    · calc line = padding ++ (number ++ c :: rest) ++ trailing := by rw [← hcore]; exact hline
        _ = padding ++ (number ++ c :: (gap ++ trim rest ++ more)) ++ trailing := by rw [← hrest]
        _ = _ := by simp
    · intro d hd
      exact (List.mem_append.1 hd).elim (hmore d) (htrailing d)
  · rintro ⟨padding, number, gap, trailing, rfl, hpadding, hwrites, hlt, hgap, hblanks, hcommand,
      htrailing⟩
    obtain ⟨hne, hplain⟩ := hwrites.plain
    obtain ⟨c, gap, rfl⟩ := List.exists_cons_of_ne_nil hgap
    obtain ⟨hc, hblanks⟩ := List.forall_mem_cons.1 hblanks
    have hcore : Bare (number ++ c :: gap ++ command) := hcommand.append hne hplain _
    refine ⟨number, gap ++ command, ?_, natural?_eq_some_iff.2 ⟨hwrites, hlt⟩, ?_⟩
    · rw [trim_around hpadding hcore htrailing]
      exact splitAtBlank?_eq_some_iff.2 ⟨c, hc, by simp, hplain⟩
    · have haround : trim (gap ++ command ++ []) = command :=
        trim_around hblanks hcommand nofun
      rwa [List.append_nil] at haround

/-- A line that tells of a process has its number as its first word, and another word behind. -/
theorem Tells.words {line command : List Char} {pid : Nat} (h : Tells line pid command) :
    ∃ number second others, Text.words line = number :: second :: others ∧ Writes number pid ∧
      pid < twoTo 32 := by
  obtain ⟨padding, number, gap, trailing, rfl, hpadding, hwrites, hlt, hgap, hblanks, hcommand, -⟩ :=
    h
  obtain ⟨hne, hplain⟩ := hwrites.plain
  obtain ⟨c, gap, rfl⟩ := List.exists_cons_of_ne_nil hgap
  obtain ⟨d, command, rfl⟩ := List.exists_cons_of_ne_nil hcommand.ne_nil
  have hd : d ∈ gap ++ d :: command ++ trailing := by simp
  obtain ⟨second, others, hwords⟩ :=
    List.exists_cons_of_ne_nil (words_ne_nil hd (hcommand.head d rfl))
  refine ⟨number, second, others, ?_, hwrites, hlt⟩
  have hline : padding ++ (number ++ c :: gap ++ d :: command) ++ trailing =
      padding ++ (number ++ c :: (gap ++ d :: command ++ trailing)) := by simp
  rw [hline, words_blanks hpadding, words_cons hne hplain (hblanks c (List.mem_cons_self ..)),
    hwords]

/-! ### All lines -/

/-- What a line of a listing can be. -/
inductive Row where
  | process (padding : List Char) (pid : Nat) (gap command : List Char)
  | other (text : List Char)
  deriving DecidableEq, Repr

inductive LineEnd where
  | feed
  | returnFeed
  deriving DecidableEq, Repr

/-- The end of a line as it is written. -/
def LineEnd.text : LineEnd → List Char
  | .feed => ['\n']
  | .returnFeed => ['\r', '\n']

namespace Row

/-- A line as it is written; the number of a process stands there in decimal digits. -/
def text : Row → List Char
  | .process padding pid gap command => padding ++ ((toString pid).toList ++ gap ++ command)
  | .other text => text

/-- The line is one line.  The `process` has a number of 32 bits, blanks before its command, and no
blanks at the ends of the command; of any `other` line there are fewer than two words, or the first
one is no such number. -/
def WellFormed : Row → Prop
  | .process padding pid gap command => Blanks padding ∧ '\n' ∉ padding ∧ pid < twoTo 32 ∧
      gap ≠ [] ∧ Blanks gap ∧ '\n' ∉ gap ∧ Bare command ∧ '\n' ∉ command
  | .other text => '\n' ∉ text ∧ ((words text).length < 2 ∨
      ∀ word ∈ (words text).head?, ∀ pid, Writes word pid → twoTo 32 ≤ pid)

instance : DecidablePred WellFormed
  | .process _ _ _ _ => inferInstanceAs (Decidable (_ ∧ _))
  | .other text =>
    decidable_of_iff ('\n' ∉ text ∧ ((words text).length < 2 ∨
      ∀ word ∈ (words text).head?, natural? (twoTo 32) word = none))
      (by simp only [natural?_eq_none_iff]; rfl)

/-- The process that the line is about, if its command contains a pattern. -/
def found? (pattern : String) : Row → Option (Nat × String)
  | .process _ pid _ command =>
    if pattern.toList <:+: command then some (pid, String.ofList command) else none
  | .other _ => none

end Row

/-- A listing with its lines ended, but perhaps for a last one. -/
def printed (rows : List (Row × LineEnd)) (last : Option Row) : List Char :=
  (rows.flatMap fun row => row.1.text ++ row.2.text) ++ (last.map Row.text).getD []

/-- What a line adds to the processes that are found. -/
def found? (pattern : String) (line : List Char) : Option (Nat × String) :=
  (processOf? line).bind fun (pid, command) =>
    if contains pattern.toList command then some (pid, String.ofList command) else none

theorem found?_eq_some_iff {line : List Char} {pattern command : String} {pid : Nat} :
    found? pattern line = some (pid, command) ↔
      Tells line pid command.toList ∧ pattern.toList <:+: command.toList := by
  rw [found?, Option.bind_eq_some_iff]
  constructor
  · rintro ⟨⟨pid', command'⟩, hread, hpair⟩
    obtain ⟨hcontains, hpair⟩ := Option.ite_none_right_eq_some.1 hpair
    cases hpair
    rw [String.toList_ofList]
    exact ⟨processOf?_eq_some_iff.1 hread, contains_iff.1 hcontains⟩
  · rintro ⟨htells, hcontains⟩
    refine ⟨(pid, command.toList), processOf?_eq_some_iff.2 htells, ?_⟩
    dsimp only
    rw [if_pos (contains_iff.2 hcontains), String.ofList_toList]

theorem matchingPids_eq (listing pattern : String) :
    matchingPids listing pattern = (lines listing.toList).filterMap (found? pattern) := rfl

theorem found?_eq_of_trim {line line' : List Char} (h : trim line = trim line') (pattern : String) :
    found? pattern line = found? pattern line' := by
  unfold found? processOf?
  rw [h]

theorem Row.one_line {row : Row} (h : row.WellFormed) : '\n' ∉ row.text := by
  cases row with
  | process padding pid gap command =>
      obtain ⟨-, hpadding, -, -, -, hgap, -, hcommand⟩ := h
      have hpid : '\n' ∉ Nat.toDigits 10 pid := fun hmem =>
        absurd (isDigit_of_mem_toDigits hmem) (by decide)
      simp [Row.text, hpadding, hpid, hgap, hcommand]
  | other text => exact h.1

/-- A line is read as what it was. -/
theorem Row.found?_text {row : Row} (h : row.WellFormed) (pattern : String) :
    Stray.found? pattern row.text = row.found? pattern := by
  cases row with
  | process padding pid gap command =>
      obtain ⟨hpadding, -, hlt, hgap, hblanks, -, hcommand, -⟩ := h
      have hwrites : Writes (toString pid).toList pid := by
        rw [Nat.toString_eq_repr, Nat.toList_repr]
        exact writes_toDigits pid
      have htells : Tells (Row.process padding pid gap command).text pid command :=
        ⟨padding, _, gap, [], (List.append_nil _).symm, hpadding, hwrites, hlt, hgap, hblanks,
          hcommand, nofun⟩
      rw [Stray.found?, processOf?_eq_some_iff.2 htells, Option.bind_some]
      simp only [contains_iff]
      rfl
  | other text =>
      have hnone : processOf? text = none := by
        rw [Option.eq_none_iff_forall_not_mem]
        rintro ⟨pid, command⟩ hread
        obtain ⟨number, second, others, hwords, hwrites, hlt⟩ :=
          (processOf?_eq_some_iff.1 hread).words
        rcases h.2 with hfew | hfirst
        · rw [hwords, List.length_cons, List.length_cons] at hfew
          omega
        · rw [hwords] at hfirst
          exact absurd hlt (Nat.not_lt.2 (hfirst number rfl pid hwrites))
      rw [Row.text, Stray.found?, hnone]
      rfl

theorem filterMap_lines {rows : List (Row × LineEnd)} (h : ∀ row ∈ rows, row.1.WellFormed)
    (rest : List Char) (pattern : String) :
    (lines ((rows.flatMap fun row => row.1.text ++ row.2.text) ++ rest)).filterMap
        (Stray.found? pattern) =
      rows.filterMap (fun row => row.1.found? pattern) ++
        (lines rest).filterMap (Stray.found? pattern) := by
  induction rows with
  | nil => rfl
  | cons entry rows ih =>
      obtain ⟨row, ending⟩ := entry
      obtain ⟨hrow, hrows⟩ := List.forall_mem_cons.1 h
      have hone := Row.one_line hrow
      -- a line is cut off with or without a carriage return, which is a blank
      have hline : ∃ line, trim line = trim row.text ∧ ∀ more,
          lines (row.text ++ ending.text ++ more) = line :: lines more := by
        cases ending with
        | feed =>
            refine ⟨chomp row.text, trim_chomp _, fun more => ?_⟩
            rw [LineEnd.text, List.append_assoc, List.singleton_append, lines_ended hone]
        | returnFeed =>
            have hreturn : '\n' ∉ row.text ++ ['\r'] := by simp [hone]
            refine ⟨chomp (row.text ++ ['\r']), ?_, fun more => ?_⟩
            · rw [trim_chomp, trim_append_blank _ (by rfl)]
            · rw [← lines_ended hreturn]
              simp [LineEnd.text]
      obtain ⟨line, htrim, hlines⟩ := hline
      have hfound : Stray.found? pattern line = row.found? pattern := by
        rw [found?_eq_of_trim htrim, Row.found?_text hrow]
      rw [List.flatMap_cons, List.append_assoc, hlines, List.filterMap_cons, List.filterMap_cons,
        hfound, ih hrows]
      cases row.found? pattern <;> rfl

/-- The processes of a printed listing whose command contains `pattern` are found, each as often as
it stands in `rows` or is the `last` and in the same order, and nothing else is. -/
theorem matchingPids_printed {rows : List (Row × LineEnd)} {last : Option Row}
    (hrows : ∀ row ∈ rows, row.1.WellFormed) (hlast : ∀ row ∈ last, row.WellFormed)
    (pattern : String) :
    matchingPids (String.ofList (printed rows last)) pattern =
      (rows.map Prod.fst ++ last.toList).filterMap (Row.found? pattern) := by
  have hrest : (lines ((last.map Row.text).getD [])).filterMap (Stray.found? pattern) =
      last.toList.filterMap (Row.found? pattern) := by
    cases last with
    | none => rfl
    | some row =>
        have hrow := hlast row rfl
        have hfound := Row.found?_text hrow pattern
        by_cases hempty : row.text = []
        · rw [hempty] at hfound
          have hnone : row.found? pattern = none := hfound.symm
          simp [hempty, lines, hnone]
        · simp [lines_unended (Row.one_line hrow) hempty, List.filterMap_cons, hfound]
  rw [matchingPids_eq, String.toList_ofList, printed, filterMap_lines hrows, hrest,
    List.filterMap_append, List.filterMap_map]
  rfl

/-- A listing with all that may stand in it. -/
def mixed : List (Row × LineEnd) :=
  [(.process [' ', ' '] 412 [' '] "emulator64-arm".toList, .feed),
    (.other "bogus emulator64 line".toList, .returnFeed),
    (.process [] 4294967295 ['\t', '\u3000'] "x emulator64  7".toList, .returnFeed),
    (.other ['4', '1', '3', ' '], .feed),
    (.process ['\r'] 0 [' ', ' '] "adb".toList, .feed),
    (.other "4294967296 emulator64".toList, .feed),
    (.other [], .returnFeed),
    (.process [' ', ' '] 412 ['\u00a0'] "emulator64-arm".toList, .returnFeed)]

/-- Between other lines the processes are found, also one that is listed twice and one without the
end of its line. -/
theorem matchingPids_printed_mixed :
    (∀ row ∈ mixed, row.1.WellFormed) ∧
    matchingPids (String.ofList (printed mixed (some (.process [] 5 [' '] "emulator64".toList))))
      "emulator64" =
      [(412, "emulator64-arm"), (4294967295, "x emulator64  7"), (412, "emulator64-arm"),
        (5, "emulator64")] := by
  have hrows : ∀ row ∈ mixed, row.1.WellFormed := by decide +kernel
  refine ⟨hrows, ?_⟩
  rw [matchingPids_printed hrows (by decide +kernel)]
  decide +kernel

end Stray

end DeviceLab
