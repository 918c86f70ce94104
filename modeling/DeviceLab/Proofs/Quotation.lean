import DeviceLab.Dispatch.Command
import DeviceLab.Proofs.Numerals

/-! # Command lines read back

A command line is shown for the log with a blank between its arguments, and with quotes around those
that have blanks or quotes in them or nothing at all.  Whoever reads it needs nothing else to find
the arguments: outside of quotes a blank ends an argument, and inside a quote ends it unless it is
written with a backslash and two more quotes.  The quote that closes an argument is followed by a
blank or by nothing, and thus is never taken for the beginning of such a sequence.

* `LaunchSpec.argumentsOf?`: the arguments of a command line.
* `LaunchSpec.readArgument_shown`: one argument is read as it was shown, whatever it has in it.
* `LaunchSpec.argumentsOf?_commandLine`: the arguments are found, so that no two rows of arguments
  are shown alike. -/

namespace DeviceLab.LaunchSpec

open Text

/-! ### Reading -/

/-- The inside of quotes up to the closing one, and what stands behind that.  An apostrophe inside
is written as a quote, a backslash and two more quotes. -/
def readQuoted : List Char → Option (List Char × List Char)
  | [] => none
  | '\'' :: '\\' :: '\'' :: '\'' :: rest =>
    (readQuoted rest).map fun (inside, behind) => ('\'' :: inside, behind)
  | '\'' :: rest => some ([], rest)
  | c :: rest => (readQuoted rest).map fun (inside, behind) => (c :: inside, behind)

/-- One argument, in quotes or up to the next blank, and what stands behind it. -/
def readArgument : List Char → Option (List Char × List Char)
  | '\'' :: rest => readQuoted rest
  | text => some (text.takeWhile (· ≠ ' '), text.dropWhile (· ≠ ' '))

theorem readQuoted_length {text inside behind : List Char}
    (h : readQuoted text = some (inside, behind)) : behind.length ≤ text.length := by
  fun_induction readQuoted text generalizing inside with
  | case1 => cases h
  | case2 rest ih =>
      obtain ⟨⟨inside, behind⟩, hread, hpair⟩ := Option.map_eq_some_iff.1 h
      cases hpair
      have hrest := ih hread
      simp only [List.length_cons]
      omega
  | case3 rest =>
      cases h
      exact Nat.le_succ _
  | case4 c rest _ _ ih =>
      obtain ⟨⟨inside, behind⟩, hread, hpair⟩ := Option.map_eq_some_iff.1 h
      cases hpair
      exact Nat.le_succ_of_le (ih hread)

theorem readArgument_length {text arg behind : List Char}
    (h : readArgument text = some (arg, behind)) : behind.length ≤ text.length := by
  unfold readArgument at h
  split at h
  · exact Nat.le_succ_of_le (readQuoted_length h)
  · cases h
    exact (List.dropWhile_suffix _).length_le

/-- Arguments with a single blank between them. -/
def readArguments (text : List Char) : Option (List (List Char)) :=
  match _hread : readArgument text with
  | some (arg, []) => some [arg]
  | some (arg, ' ' :: rest) => (readArguments rest).map (arg :: ·)
  | _ => none
termination_by text.length
decreasing_by exact readArgument_length _hread

/-- The arguments of a command line; an empty one has none. -/
def argumentsOf? (line : String) : Option (List String) :=
  match line.toList with
  | [] => some []
  | text => (readArguments text).map (List.map String.ofList)

/-! ### One argument -/

/-- An argument has ended: a blank follows, or nothing. -/
def Ended (rest : List Char) : Prop := ∀ c ∈ rest.head?, c = ' '

theorem ended_nil : Ended [] := nofun

theorem ended_blank (rest : List Char) : Ended (' ' :: rest) := by
  rintro c ⟨⟩
  rfl

/-- Quotes are read to their end, and no further. -/
theorem readQuoted_escaped (arg : List Char) {rest : List Char} (h : Ended rest) :
    readQuoted (escapeQuotes arg ++ '\'' :: rest) = some (arg, rest) := by
  induction arg with
  | nil =>
      -- what stands behind the closing quote begins with no backslash
      refine readQuoted.eq_3 rest fun more hmore => ?_
      have hbackslash := h '\\' (by rw [hmore]; rfl)
      cases hbackslash
  | cons c arg ih =>
      rw [escapeQuotes]
      split
      · next hc =>
          subst hc
          simp only [List.cons_append, readQuoted, ih, Option.map_some]
      · next hc =>
          rw [List.cons_append, readQuoted.eq_4 c _ (fun _ hquote _ => hc hquote) hc, ih,
            Option.map_some]

/-- What needs no quotes has no blank or quote in it. -/
theorem plain_of_needsQuotes {arg : List Char} (h : needsQuotes arg = false) :
    arg ≠ [] ∧ ∀ c ∈ arg, c ≠ ' ' ∧ c ≠ '\'' := by
  rw [needsQuotes, Bool.or_eq_false_iff] at h
  refine ⟨List.isEmpty_eq_false_iff.1 h.1, fun c hc => ?_⟩
  have hplain := List.any_eq_false.1 h.2 c hc
  refine ⟨fun heq => hplain ?_, fun heq => hplain ?_⟩ <;> rw [heq] <;> rfl

/-- An argument is read as it was shown, up to where it ends. -/
theorem readArgument_shown (arg : List Char) {rest : List Char} (h : Ended rest) :
    readArgument (shownArgument arg ++ rest) = some (arg, rest) := by
  unfold shownArgument
  split
  · rw [List.cons_append, List.append_assoc, List.singleton_append]
    exact readQuoted_escaped arg h
  · next hneeds =>
      obtain ⟨hne, hplain⟩ := plain_of_needsQuotes (Bool.eq_false_iff.2 hneeds)
      have hinside : ∀ c ∈ arg, decide (c ≠ ' ') = true := fun c hc =>
        decide_eq_true (hplain c hc).1
      have hstop : ∀ c ∈ rest.head?, decide (c ≠ ' ') = false := fun c hc => by
        rw [h c hc]
        rfl
      have htake : (arg ++ rest).takeWhile (· ≠ ' ') = arg := takeWhile_run hinside hstop
      have hdrop : (arg ++ rest).dropWhile (· ≠ ' ') = rest := dropWhile_run hinside hstop
      have hquote : ∀ more, arg ++ rest ≠ '\'' :: more := by
        intro more heq
        obtain ⟨c, tail, rfl⟩ := List.exists_cons_of_ne_nil hne
        exact (hplain c (List.mem_cons_self ..)).2 (List.cons.inj heq).1
      rw [readArgument.eq_2 _ fun more heq => hquote more heq, htake, hdrop]

/-! ### All arguments -/

theorem shownArgument_ne_nil (arg : List Char) : shownArgument arg ≠ [] := by
  unfold shownArgument
  split
  · exact List.cons_ne_nil _ _
  · next hneeds => exact (plain_of_needsQuotes (Bool.eq_false_iff.2 hneeds)).1

theorem readArguments_last {text arg : List Char} (h : readArgument text = some (arg, [])) :
    readArguments text = some [arg] := by
  rw [readArguments]
  split <;> simp_all

theorem readArguments_next {text arg rest : List Char}
    (h : readArgument text = some (arg, ' ' :: rest)) :
    readArguments text = (readArguments rest).map (arg :: ·) := by
  rw [readArguments]
  split <;> simp_all

theorem readArguments_shown {args : List (List Char)} (h : args ≠ []) :
    readArguments (shownArguments args) = some args := by
  induction args with
  | nil => exact absurd rfl h
  | cons arg rest ih =>
      cases rest with
      | nil =>
          have hread := readArgument_shown arg ended_nil
          rw [List.append_nil] at hread
          exact readArguments_last hread
      | cons next rest =>
          have hread := readArgument_shown arg (ended_blank (shownArguments (next :: rest)))
          rw [shownArguments, readArguments_next hread, ih (List.cons_ne_nil _ _), Option.map_some]
          exact List.cons_ne_nil _ _

theorem shownArguments_eq_nil {args : List (List Char)} : shownArguments args = [] ↔ args = [] := by
  refine ⟨fun h => ?_, fun h => by rw [h]; rfl⟩
  match args with
  | [] => rfl
  | [arg] => exact absurd h (shownArgument_ne_nil arg)
  | arg :: next :: rest => exact absurd (List.append_eq_nil_iff.1 h).1 (shownArgument_ne_nil arg)

theorem argumentsOf?_shown (argv : List String) :
    argumentsOf? (String.ofList (shownArguments (argv.map String.toList))) = some argv := by
  unfold argumentsOf?
  rw [String.toList_ofList]
  split
  · next hnone =>
      rw [shownArguments_eq_nil, List.map_eq_nil_iff] at hnone
      rw [hnone]
  · next hsome =>
      have hargs : argv.map String.toList ≠ [] := fun h => hsome (shownArguments_eq_nil.2 h)
      rw [readArguments_shown hargs, Option.map_some, List.map_map]
      congr 1
      exact List.map_id'' (fun _ => String.ofList_toList) argv

/-- `argumentsOf?` reads the arguments back from every `commandLine`, also from that of a suite; so
command lines are the same exactly if their arguments are. -/
theorem argumentsOf?_commandLine :
    (∀ spec : LaunchSpec, argumentsOf? spec.commandLine = some spec.argv) ∧
    (∀ spec other : LaunchSpec,
      spec.commandLine = other.commandLine ↔ spec.argv = other.argv) ∧
    ∀ command : SuiteCommand, argumentsOf? command.shown = some command.argv := by
  have hread (spec : LaunchSpec) : argumentsOf? spec.commandLine = some spec.argv :=
    argumentsOf?_shown spec.argv
  refine ⟨hread, fun spec other => ⟨fun h => ?_, fun h => ?_⟩, fun command => hread _⟩
  · have hboth : some spec.argv = some other.argv := by rw [← hread spec, ← hread other, h]
    exact Option.some.inj hboth
  · rw [commandLine, commandLine, h]

/-- Blanks, quotes and nothing at all, next to each other. -/
example : ({ label := "x", argv := ["a b", "", "'", "c"] } : LaunchSpec).commandLine =
    "'a b' '' ''\\''' c" := by decide

end DeviceLab.LaunchSpec
