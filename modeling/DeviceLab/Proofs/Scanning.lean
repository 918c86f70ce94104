import Mathlib.Algebra.GroupWithZero.Nat
import DeviceLab.Classifier.Rule
import DeviceLab.Proofs.Folds

/-! # What a scan has counted

A line counts for what the first rule says that applies to it.  The counts of a scanner after some
lines depend only on these hits: the totals are clamped sums, the severity is the worst one, and
another run is asked for when one of the hits asks for it.  `Scanner.ofHits` is the scanner with
these counts; one more line adds its hit to them (`Scanner.ofHits_scanLine`), so a scan of any
length ends with them (`Scanner.scan_eq`), and with it the judgement on a whole text
(`classify_eq`).

* `RuleSet.ruleFor?`: the first rule that applies to a line.
* `Classification.Sound`: what a judgement says about the lines and the exit code.
* `classify_sound`: every judgement says this. -/

namespace DeviceLab

open Text

/-! ### Rules and hits -/

namespace Rule

/-- The rule counts a line in. -/
def Applies (rule : Rule) (line : List Char) : Prop := (rule.check line).isSome

instance (rule : Rule) (line : List Char) : Decidable (rule.Applies line) :=
  inferInstanceAs (Decidable (_ = true))

/-- A hit has the tally and the severity of its rule. -/
theorem check_spec {rule : Rule} {line : List Char} {hit : RuleHit}
    (h : rule.check line = some hit) : hit.tally = rule.tally ∧ hit.severity = rule.severity := by
  unfold check at h
  split at h
  · split at h
    · cases h
      exact ⟨rfl, rfl⟩
    · cases h
  · obtain ⟨slots, -, rfl⟩ := Option.map_eq_some_iff.1 h
    exact ⟨rfl, rfl⟩

end Rule

/-- What a hit adds to a total: one for the one tally, its number for the other. -/
def RuleHit.amount (one add : Tally) (hit : RuleHit) : Nat :=
  if hit.tally = one then 1 else if hit.tally = add then hit.count else 0

namespace RuleSet

variable {table : RuleSet} {line : List Char} {rule : Rule} {hit : RuleHit}

/-- The first rule of a table that applies to a line. -/
def ruleFor? (table : RuleSet) (line : List Char) : Option Rule :=
  table.rules.find? fun rule => rule.Applies line

/-- The hits of some lines, in order. -/
def hits (table : RuleSet) (lines : List (List Char)) : List RuleHit :=
  lines.filterMap table.check

theorem check_eq (table : RuleSet) (line : List Char) :
    table.check line = (table.ruleFor? line).bind fun rule => rule.check line := by
  unfold check ruleFor?
  induction table.rules with
  | nil => rfl
  | cons rule rest ih =>
      cases hcheck : rule.check line with
      | none => simp [Rule.Applies, hcheck, ih]
      | some hit => simp [Rule.Applies, hcheck]

theorem applies_of_ruleFor (h : table.ruleFor? line = some rule) : rule.Applies line := by
  simpa using List.find?_some h

/-- A line has a hit when a rule applies to it, and the hit is that of the first such rule. -/
theorem check_eq_some_iff : table.check line = some hit ↔
    ∃ rule, table.ruleFor? line = some rule ∧ rule.check line = some hit := by
  rw [check_eq, Option.bind_eq_some_iff]

theorem check_eq_none_iff : table.check line = none ↔ table.ruleFor? line = none := by
  rw [check_eq]
  cases hrule : table.ruleFor? line with
  | none => simp
  | some rule => simpa [Rule.Applies, Option.isSome_iff_ne_none] using applies_of_ruleFor hrule

theorem mem_hits {lines : List (List Char)} :
    hit ∈ table.hits lines ↔ ∃ line ∈ lines, table.check line = some hit :=
  List.mem_filterMap

/-- What is said of the severities of all hits is said of the rules that come first. -/
theorem forall_hits_severity {lines : List (List Char)} {P : Severity → Prop} :
    (∀ v ∈ (table.hits lines).map RuleHit.severity, P v) ↔
      ∀ line ∈ lines, ∀ rule, table.ruleFor? line = some rule → P rule.severity := by
  constructor
  · intro h line hline rule hrule
    obtain ⟨hit, hhit⟩ := Option.isSome_iff_exists.1 (applies_of_ruleFor hrule)
    rw [← (Rule.check_spec hhit).2]
    have hcheck := check_eq_some_iff.2 ⟨rule, hrule, hhit⟩
    exact h _ (List.mem_map_of_mem (mem_hits.2 ⟨line, hline, hcheck⟩))
  · intro h v hv
    obtain ⟨hit, hmem, rfl⟩ := List.mem_map.1 hv
    obtain ⟨line, hline, hcheck⟩ := mem_hits.1 hmem
    obtain ⟨rule, hrule, hhit⟩ := check_eq_some_iff.1 hcheck
    rw [(Rule.check_spec hhit).2]
    exact h line hline rule hrule

/-- There are no hits when no rule applies to any line. -/
theorem hits_eq_nil_iff {lines : List (List Char)} :
    table.hits lines = [] ↔ ∀ line ∈ lines, table.ruleFor? line = none := by
  simp only [hits, List.filterMap_eq_nil_iff, check_eq_none_iff]

end RuleSet

/-! ### The counts after some lines -/

namespace Scanner

variable {table : RuleSet}

/-- The scanner that has counted some hits. -/
def ofHits (table : RuleSet) (hits : List RuleHit) : Scanner where
  table := table
  passed := min (hits.map (RuleHit.amount .pass .addPasses)).sum maxCount
  failed := min (hits.map (RuleHit.amount .fail .addFails)).sum maxCount
  recognised := hits.length
  scanned := .aggregate (hits.map RuleHit.severity)
  rerunRequested := hits.any fun hit => hit.tally = .rerun

/-- One more hit is added to the counts. -/
theorem ofHits_count (hits : List RuleHit) (hit : RuleHit) :
    (ofHits table hits).count hit = ofHits table (hits ++ [hit]) := by
  unfold count ofHits
  simp only [List.map_append, List.map_cons, List.map_nil, List.sum_append, List.sum_singleton,
    List.length_append, List.length_singleton, List.any_append, List.any_cons, List.any_nil,
    Severity.aggregate_concat, Bool.or_false]
  cases htally : hit.tally <;> simp [RuleHit.amount, htally, addCounts_min]

/-- One more line adds its hit, if it has one. -/
theorem ofHits_scanLine (hits : List RuleHit) (line : List Char) :
    (ofHits table hits).scanLine line = ofHits table (hits ++ table.hits [line]) := by
  cases hcheck : table.check line with
  | none =>
      have hmiss : (ofHits table hits).table.check line = none := hcheck
      simp [scanLine, hmiss, RuleSet.hits, hcheck]
  | some hit =>
      have hhit : (ofHits table hits).table.check line = some hit := hcheck
      simp [scanLine, hhit, ofHits_count, RuleSet.hits, hcheck]

/-- The counts after some lines are those of their hits. -/
theorem scan_eq (lines : List (List Char)) :
    lines.foldl scanLine (start table) = ofHits table (table.hits lines) := by
  suffices h : ∀ hits, lines.foldl scanLine (ofHits table hits) =
      ofHits table (hits ++ table.hits lines) from h []
  induction lines with
  | nil => exact fun hits => by simp [RuleSet.hits]
  | cons line rest ih =>
      intro hits
      have hcons : table.hits (line :: rest) = table.hits [line] ++ table.hits rest :=
        List.filterMap_append (l := [line])
      rw [List.foldl_cons, ofHits_scanLine, ih, hcons, List.append_assoc]

end Scanner

theorem classify_eq (text : String) (exitCode : Option Int) (table : RuleSet)
    (policy : ExitPolicy) : classify text exitCode table policy =
      (Scanner.ofHits table (table.hits (lines text.toList))).finish exitCode policy :=
  congrArg (Scanner.finish · exitCode policy) (Scanner.scan_eq _)

/-! ### The judgement -/

/-- What a judgement says about the lines and the exit code that it was made of. -/
structure Classification.Sound (c : Classification) (lines : List (List Char))
    (exitCode : Option Int) (table : RuleSet) (policy : ExitPolicy) : Prop where
  /-- The totals are those of the hits. -/
  passed : c.passed = min ((table.hits lines).map (RuleHit.amount .pass .addPasses)).sum maxCount
  failed : c.failed = min ((table.hits lines).map (RuleHit.amount .fail .addFails)).sum maxCount
  /-- A success is what everybody would call one. -/
  success : policy.harnessFailure ≠ .success → policy.crash ≠ .success →
    (c.severity = .success ↔ exitCode = some 0 ∧ c.failed = 0 ∧ 0 < c.passed ∧
      ∀ line ∈ lines, ∀ rule, table.ruleFor? line = some rule → rule.severity = .success)
  /-- No line is played down. -/
  covers : ∀ line ∈ lines, ∀ rule, table.ruleFor? line = some rule → rule.severity ≤ c.severity
  /-- Output without any recognised line is called so, and it is at least a failure. -/
  ambiguous : c.ambiguous = true ↔ ∀ line ∈ lines, ∀ rule ∈ table.rules, ¬rule.Applies line
  failure : c.ambiguous = true → .failure ≤ c.severity
  /-- A process without an exit code has at least the severity of a crash. -/
  crash : exitCode = none → policy.crash ≤ c.severity

namespace Scanner

variable {s : Scanner} {exitCode : Option Int} {policy : ExitPolicy}

/-- An exit code is that of a success only when the counts are. -/
theorem exitSeverity_eq_success (hfailure : policy.harnessFailure ≠ .success)
    (hcrash : policy.crash ≠ .success) :
    s.exitSeverity exitCode policy = .success ↔
      exitCode = some 0 ∧ s.failed = 0 ∧ 0 < s.passed := by
  unfold exitSeverity
  cases exitCode with
  | none => simpa using hcrash
  | some code =>
      dsimp only
      split
      · next hclean => simpa using hclean
      · next hclean =>
          refine iff_of_false ?_ (by simpa using hclean)
          split
          · decide
          · exact hfailure

/-- The judgement is at least as bad as the lines and as the exit code. -/
theorem join_le_finish (s : Scanner) (exitCode : Option Int) (policy : ExitPolicy) :
    s.scanned.join (s.exitSeverity exitCode policy) ≤ (s.finish exitCode policy).severity := by
  unfold finish
  dsimp only
  split
  · exact Severity.le_join_left _ _
  · exact Severity.le_refl _

/-- Where a line was recognised, it is just as bad. -/
theorem finish_of_recognised (h : 0 < s.recognised) :
    (s.finish exitCode policy).severity = s.scanned.join (s.exitSeverity exitCode policy) := by
  unfold finish
  have hzero : (s.recognised == 0) = false := by simp; omega
  dsimp only
  rw [hzero]
  rfl

/-- The judgement is a success when both the exit code and the lines say so. -/
theorem finish_eq_success (hfailure : policy.harnessFailure ≠ .success)
    (hcrash : policy.crash ≠ .success) (hcounted : 0 < s.passed → 0 < s.recognised) :
    (s.finish exitCode policy).severity = .success ↔
      (exitCode = some 0 ∧ s.failed = 0 ∧ 0 < s.passed) ∧ s.scanned = .success := by
  rw [← exitSeverity_eq_success hfailure hcrash, and_comm, ← Severity.join_eq_success]
  constructor
  · intro h
    exact Severity.le_success_iff.1 (h ▸ join_le_finish s exitCode policy)
  · intro h
    have hclean := (exitSeverity_eq_success hfailure hcrash).1 (Severity.join_eq_success.1 h).2
    rw [finish_of_recognised (hcounted hclean.2.2), h]

/-- What has been counted has been recognised. -/
theorem recognised_of_passed {table : RuleSet} {hits : List RuleHit}
    (h : 0 < (ofHits table hits).passed) : 0 < (ofHits table hits).recognised := by
  cases hits with
  | nil => exact absurd h (by simp [ofHits])
  | cons hit rest => exact Nat.succ_pos _

end Scanner

/-- Every judgement by `classify` is `Sound`: what it says about the lines of `text` is true of
them. -/
theorem classify_sound (text : String) (exitCode : Option Int) (table : RuleSet)
    (policy : ExitPolicy) :
    (classify text exitCode table policy).Sound (lines text.toList) exitCode table policy := by
  rw [classify_eq]
  have hbound := Severity.join_le_iff.1
    (Scanner.join_le_finish (.ofHits table (table.hits (lines text.toList))) exitCode policy)
  constructor
  case passed => rfl
  case failed => rfl
  case success =>
    intro hfailure hcrash
    have hscanned : Severity.aggregate ((table.hits (lines text.toList)).map RuleHit.severity) =
        .success ↔ ∀ line ∈ lines text.toList, ∀ rule, table.ruleFor? line = some rule →
          rule.severity = .success :=
      Severity.aggregate_eq_success.trans RuleSet.forall_hits_severity
    rw [Scanner.finish_eq_success hfailure hcrash Scanner.recognised_of_passed, and_assoc,
      and_assoc]
    exact and_congr_right' (and_congr_right' (and_congr_right' hscanned))
  case covers =>
    exact RuleSet.forall_hits_severity.1 fun v hv =>
      Severity.le_trans (Severity.le_aggregate hv) hbound.1
  case ambiguous =>
    have hnone : (table.hits (lines text.toList)).length = 0 ↔
        ∀ line ∈ lines text.toList, ∀ rule ∈ table.rules, ¬rule.Applies line := by
      simp [RuleSet.hits_eq_nil_iff, RuleSet.ruleFor?]
    exact beq_iff_eq.trans hnone
  case failure =>
    intro hambiguous
    have hzero : (Scanner.ofHits table (table.hits (lines text.toList))).recognised == 0 :=
      hambiguous
    unfold Scanner.finish
    rw [hzero]
    exact Severity.le_join_right _ _
  case crash =>
    rintro rfl
    exact hbound.2

/-- Lines that count for nothing, or for nothing bad, do not stand in the way of a success. -/
theorem success_with_noise :
    ({} : ExitPolicy).harnessFailure ≠ .success ∧ ({} : ExitPolicy).crash ≠ .success ∧
      (classify "TEST-PASS | a\r\nTEST-KNOWN-FAIL | b\n\nnoise" (some 0)
        (.builtin "unit") {}).severity = .success := by
  have hrules : ∀ line ∈ lines "TEST-PASS | a\r\nTEST-KNOWN-FAIL | b\n\nnoise".toList,
      ((RuleSet.builtin "unit").ruleFor? line).all (·.severity = .success) = true := by
    simp only [String.reduceToList]
    decide +kernel
  refine ⟨by decide, by decide, ?_⟩
  refine ((classify_sound _ (some 0) (.builtin "unit") {}).success (by decide) (by decide)).2
    ⟨rfl, ?_, ?_, fun line hline rule hrule => ?_⟩
  · simp only [classify_eq, String.reduceToList]
    decide +kernel
  · simp only [classify_eq, String.reduceToList]
    decide +kernel
  have hall := hrules line hline
  rw [hrule] at hall
  exact of_decide_eq_true hall

end DeviceLab

/-! ## Texts in pieces

A line ends at a line feed, so a text may be cut behind any line feed without a change to its lines
(`Text.lines_append`), and the lines may be counted piece by piece.  And since the counts of a
scanner are sums, worst cases and questions whether there is any (`Scanner.ofHits`), they do not
depend on the order of the lines (`Scanner.ofHits_perm`).

* `Text.lines_ended`, `Text.lines_unended`: what the lines of a text are.
* `Text.lines_join`: the lines of a text that is cut behind line feeds.
* `classify_pieces`: a judgement depends on the lines only, and not on their order. -/

namespace DeviceLab

namespace Text

/-! ### Lines -/

/-- A line without the carriage return at its end. -/
def chomp : List Char → List Char
  | [] => []
  | ['\r'] => []
  | c :: line => c :: chomp line

/-- A character that ends no line belongs to the line that follows it. -/
theorem lines_cons {c : Char} {rest : List Char} (hc : '\n' ≠ c)
    (hrest : c = '\r' → rest.head? ≠ some '\n') :
    lines (c :: rest) = match lines rest with
      | [] => [[c]]
      | line :: more => (c :: line) :: more := by
  refine lines.eq_4 c rest hc.symm fun more hreturn hfeed => hrest hreturn ?_
  rw [hfeed, List.head?_cons]

/-- The characters up to a line feed are a line, but for a carriage return right before it. -/
theorem lines_ended {line : List Char} (h : '\n' ∉ line) (rest : List Char) :
    lines (line ++ '\n' :: rest) = chomp line :: lines rest := by
  induction line with
  | nil => rfl
  | cons c line ih =>
      obtain ⟨hc, hline⟩ := not_or.1 (mt List.mem_cons.2 h)
      cases line with
      | nil =>
          by_cases hreturn : c = '\r'
          · subst hreturn
            rfl
          · have hchomp : chomp [c] = [c] := by simp [chomp, hreturn]
            rw [hchomp, List.singleton_append, lines_cons hc fun h => absurd h hreturn]
            rfl
      | cons d line =>
          have hchomp : chomp (c :: d :: line) = c :: chomp (d :: line) := by simp [chomp]
          have hhead : ((d :: line) ++ '\n' :: rest).head? ≠ some '\n' := fun hhead =>
            hline (Option.some.inj hhead ▸ List.mem_cons_self ..)
          rw [hchomp, List.cons_append, lines_cons hc fun _ => hhead, ih hline]

/-- What follows the last line feed is a line when it is not empty. -/
theorem lines_unended {line : List Char} (h : '\n' ∉ line) (hne : line ≠ []) :
    lines line = [line] := by
  induction line with
  | nil => exact absurd rfl hne
  | cons c line ih =>
      obtain ⟨hc, hline⟩ := not_or.1 (mt List.mem_cons.2 h)
      have hhead : line.head? ≠ some '\n' := fun hhead => hline (List.mem_of_head? hhead)
      rw [lines_cons hc fun _ => hhead]
      cases line with
      | nil => rfl
      | cons d line => rw [ih hline (List.cons_ne_nil d line)]

/-- A text may be cut behind a line feed. -/
theorem lines_append_feed (a b : List Char) :
    lines (a ++ '\n' :: b) = lines (a ++ ['\n']) ++ lines b := by
  -- By induction on the length: what is left behind the first line is no tail by one character.
  induction hlength : a.length using Nat.strongRecOn generalizing a with
  | _ size ih =>
      by_cases hmem : '\n' ∈ a
      · obtain ⟨line, rest, rfl, hline⟩ := List.eq_append_cons_of_mem hmem
        have hshorter : rest.length < size := by
          rw [← hlength, List.length_append, List.length_cons]
          omega
        rw [List.append_assoc, List.append_assoc, List.cons_append, List.cons_append,
          lines_ended hline, lines_ended hline, ih _ hshorter rest rfl, List.cons_append]
      · rw [lines_ended hmem, lines_ended hmem]
        rfl

theorem lines_append {a : List Char} (h : a.getLast? = some '\n') (b : List Char) :
    lines (a ++ b) = lines a ++ lines b := by
  obtain ⟨start, rfl⟩ := List.getLast?_eq_some_iff.1 h
  rw [List.append_assoc, List.singleton_append, lines_append_feed]

/-- The lines of a text that is cut behind line feeds are those of its pieces. -/
theorem lines_join {pieces : List String}
    (h : ∀ piece ∈ pieces.dropLast, piece.toList.getLast? = some '\n') :
    lines (String.join pieces).toList = pieces.flatMap fun piece => lines piece.toList := by
  rw [String.toList_join]
  induction pieces with
  | nil => rfl
  | cons piece rest ih =>
      cases rest with
      | nil => simp
      | cons next rest =>
          rw [List.dropLast_cons_cons, List.forall_mem_cons] at h
          rw [List.flatMap_cons, lines_append h.1, ih h.2]
          rfl

end Text

open Text

namespace Scanner

variable {table : RuleSet}

/-! ### Pieces and order -/

/-- To count pieces of a text is to count their lines. -/
theorem scanText_pieces (s : Scanner) (pieces : List String) :
    pieces.foldl scanText s = (pieces.flatMap fun piece => lines piece.toList).foldl scanLine s :=
  List.foldl_flatMap.symm

/-- The counts do not depend on the order of the hits. -/
theorem ofHits_perm {hits hits' : List RuleHit} (h : hits.Perm hits') :
    ofHits table hits = ofHits table hits' := by
  unfold ofHits
  rw [(h.map _).sum_nat, (h.map (RuleHit.amount .fail .addFails)).sum_nat, h.length_eq,
    Severity.aggregate_perm (h.map RuleHit.severity), h.any_eq]

end Scanner

/-- However a text is cut into `pieces` behind line feeds, and whether the pieces are counted by
`scanText` or their lines by `scanLine`, the judgement is that of `classify` on the whole text; and
texts `a` and `b` with the same lines in another order are judged alike. -/
theorem classify_pieces (exitCode : Option Int) (table : RuleSet) (policy : ExitPolicy) :
    (∀ pieces : List String, (∀ piece ∈ pieces.dropLast, piece.toList.getLast? = some '\n') →
      (pieces.foldl Scanner.scanText (.start table)).finish exitCode policy =
          classify (String.join pieces) exitCode table policy ∧
        ((pieces.flatMap fun piece => lines piece.toList).foldl Scanner.scanLine
            (.start table)).finish exitCode policy =
          classify (String.join pieces) exitCode table policy) ∧
      ∀ a b : String, (lines a.toList).Perm (lines b.toList) →
        classify a exitCode table policy = classify b exitCode table policy := by
  constructor
  · intro pieces hpieces
    rw [Scanner.scanText_pieces, ← lines_join hpieces]
    exact ⟨rfl, rfl⟩
  · intro a b hperm
    have hhits : (table.hits (lines a.toList)).Perm (table.hits (lines b.toList)) :=
      hperm.filterMap table.check
    rw [classify_eq, classify_eq, Scanner.ofHits_perm hhits]

/-- Two suites that write into one file, with their lines in one order and in another. -/
theorem classify_pieces_interleaved :
    (lines "TEST-PASS | a\r\nTEST-UNEXPECTED-FAIL | b".toList).Perm
        (lines "TEST-UNEXPECTED-FAIL | b\nTEST-PASS | a\n".toList) ∧
      classify "TEST-PASS | a\r\nTEST-UNEXPECTED-FAIL | b" (some 10) (.builtin "unit") {} =
        classify "TEST-UNEXPECTED-FAIL | b\nTEST-PASS | a\n" (some 10) (.builtin "unit") {} := by
  have hperm : (lines "TEST-PASS | a\r\nTEST-UNEXPECTED-FAIL | b".toList).Perm
      (lines "TEST-UNEXPECTED-FAIL | b\nTEST-PASS | a\n".toList) := by
    simp only [String.reduceToList]
    decide +kernel
  exact ⟨hperm, (classify_pieces (some 10) (.builtin "unit") {}).2 _ _ hperm⟩

end DeviceLab
