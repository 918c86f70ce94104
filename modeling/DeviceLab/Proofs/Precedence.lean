import DeviceLab.Classifier.Scan
import DeviceLab.Proofs.Checks
import DeviceLab.Proofs.Entries

/-! # Which rule counts

Rules that are added to a category go in front of those it has, in their own order.  So of several
additions the latest one counts first, and within one of them the first rule; the built-in table of
the category comes last.  An addition with a rule that cannot be made changes nothing, and one for
another category does not matter.

* `RuleSpec.check`: what a line counts for by a specification.
* `Classifier.next`, `Classifier.after`: one addition, and a row of them.
* `Classifier.additions`: the additions to a category that count, the latest first.
* `Classifier.check_after`: what a line counts for after a row of additions. -/

namespace DeviceLab

/-! ### Specifications -/

namespace RuleSpec

variable {spec : RuleSpec} {specs : List RuleSpec} {rules : List Rule}

/-- What a line counts for by a specification, when a rule can be made of it. -/
def check (spec : RuleSpec) (line : List Char) : Option RuleHit :=
  match Rule.ofSpec spec with
  | .ok rule => rule.check line
  | .error _ => none

instance (spec : RuleSpec) : Decidable spec.WellFormed :=
  match hgroups : spec.groups? with
  | none => .isFalse fun ⟨_, hsome, _⟩ => nomatch hgroups.symm.trans hsome
  | some groups =>
    decidable_of_iff (spec.tally.needsCapture → 0 < groups)
      ⟨fun h => ⟨groups, hgroups, h⟩, fun ⟨_, hsome, h⟩ =>
        Option.some.inj (hsome.symm.trans hgroups) ▸ h⟩

theorem exists_rule_iff : (∃ rule, Rule.ofSpec spec = .ok rule) ↔ spec.WellFormed := by
  have hgrants := Rule.ofSpec_grants spec
  cases hresult : Rule.ofSpec spec with
  | ok rule => exact iff_of_true ⟨rule, rfl⟩ (hgrants.of_ok hresult)
  | error cause => exact iff_of_false nofun (hgrants.of_error hresult).not_wellFormed

/-- Rules are made of all specifications or of none. -/
theorem exists_rules_iff :
    (∃ rules, specs.mapM Rule.ofSpec = .ok rules) ↔ ∀ spec ∈ specs, spec.WellFormed := by
  simp only [Json.exists_mapM_iff, exists_rule_iff]

/-- The rules that are made count in the order of their specifications. -/
theorem findSome?_rules (h : specs.mapM Rule.ofSpec = .ok rules) (line : List Char) :
    (rules.findSome? fun rule => rule.check line) =
      specs.findSome? fun spec => spec.check line := by
  rw [Json.mapM_eq_ok_iff] at h
  induction h with
  | nil => rfl
  | @cons spec rule specs rules hrule _ ih =>
      have hcheck : spec.check line = rule.check line := by rw [check, hrule]
      rw [List.findSome?_cons, List.findSome?_cons, hcheck, ih]

end RuleSpec

/-! ### One addition -/

theorem RuleSet.check_prepend (table : RuleSet) (rules : List Rule) (line : List Char) :
    (table.prepend rules).check line =
      (rules.findSome? fun rule => rule.check line).or (table.check line) :=
  List.findSome?_append ..

namespace Classifier

variable {c extended : Classifier} {category other : String} {specs : List RuleSpec}
  {calls : List (String × List RuleSpec)}

theorem tableFor_setTable (category : String) (table : RuleSet)
    (tables : List (String × RuleSet)) (policy : ExitPolicy) :
    (⟨setTable category table tables, policy⟩ : Classifier).tableFor category = table := by
  simp [tableFor, setTable]

theorem tableFor_setTable_of_ne (h : other ≠ category) (table : RuleSet)
    (tables : List (String × RuleSet)) (policy : ExitPolicy) :
    (⟨setTable category table tables, policy⟩ : Classifier).tableFor other =
      (⟨tables, policy⟩ : Classifier).tableFor other := by
  have hfind : ((tables.filter fun entry => entry.1 != category).find? fun entry =>
      entry.1 == other) = tables.find? fun entry => entry.1 == other := by
    rw [List.find?_filter]
    refine congrArg (List.find? · tables) (funext fun entry => ?_)
    by_cases hkey : entry.1 = other <;> simp [hkey, h]
  simp [tableFor, setTable, h.symm, hfind]

/-- Rules are added exactly when all of them can be made. -/
theorem exists_extendCategory_iff : (∃ extended, c.extendCategory category specs = .ok extended) ↔
    ∀ spec ∈ specs, spec.WellFormed := by
  rw [← RuleSpec.exists_rules_iff, extendCategory]
  cases specs.mapM Rule.ofSpec with
  | ok rules => exact iff_of_true ⟨_, rfl⟩ ⟨_, rfl⟩
  | error cause => exact ⟨nofun, nofun⟩

/-- The rules that are added count first, and those of other categories stay as they are. -/
theorem extendCategory_spec (h : c.extendCategory category specs = .ok extended) :
    (∀ line, (extended.tableFor category).check line =
      (specs.findSome? fun spec => spec.check line).or ((c.tableFor category).check line)) ∧
    ∀ other, other ≠ category → extended.tableFor other = c.tableFor other := by
  obtain ⟨rules, hrules, h⟩ := Json.bind_eq_ok h
  cases h
  refine ⟨fun line => ?_, fun other hother => tableFor_setTable_of_ne hother ..⟩
  rw [tableFor_setTable, RuleSet.check_prepend, RuleSpec.findSome?_rules hrules]

/-- What becomes of the classifier when rules are to be added; if they are not, it is still the one
before. -/
def next (c : Classifier) (call : String × List RuleSpec) : Classifier :=
  match c.extendCategory call.1 call.2 with
  | .ok extended => extended
  | .error _ => c

theorem next_of_malformed {call : String × List RuleSpec}
    (h : ¬∀ spec ∈ call.2, spec.WellFormed) : c.next call = c := by
  unfold next
  cases hresult : c.extendCategory call.1 call.2 with
  | ok extended => exact absurd (exists_extendCategory_iff.1 ⟨extended, hresult⟩) h
  | error cause => rfl

theorem tableFor_next_of_ne {call : String × List RuleSpec} (h : other ≠ call.1) :
    (c.next call).tableFor other = c.tableFor other := by
  unfold next
  cases hresult : c.extendCategory call.1 call.2 with
  | ok extended => exact (extendCategory_spec hresult).2 other h
  | error cause => rfl

theorem check_next {call : String × List RuleSpec} (h : ∀ spec ∈ call.2, spec.WellFormed)
    (line : List Char) : ((c.next call).tableFor call.1).check line =
      (call.2.findSome? fun spec => spec.check line).or ((c.tableFor call.1).check line) := by
  obtain ⟨extended, hresult⟩ : ∃ extended, c.extendCategory call.1 call.2 = .ok extended :=
    exists_extendCategory_iff.2 h
  rw [next, hresult]
  exact (extendCategory_spec hresult).1 line

/-! ### A row of additions -/

/-- The classifier after a row of additions, whether or not each of them succeeds. -/
def after (c : Classifier) (calls : List (String × List RuleSpec)) : Classifier :=
  calls.foldl next c

/-- The additions to a category that succeed, the latest first. -/
def additions (category : String) (calls : List (String × List RuleSpec)) :
    List (List RuleSpec) :=
  ((calls.filter fun call => call.1 = category ∧ ∀ spec ∈ call.2, spec.WellFormed).map
    Prod.snd).reverse

theorem additions_cons (call : String × List RuleSpec) :
    additions category (call :: calls) = additions category calls ++
      if call.1 = category ∧ ∀ spec ∈ call.2, spec.WellFormed then [call.2] else [] := by
  unfold additions
  rw [List.filter_cons]
  split <;> simp_all

/-- A line counts for what the first specification says that it matches, of the latest addition with
such a one; and if there is none, for what it counted for before. -/
theorem check_after (c : Classifier) (calls : List (String × List RuleSpec)) (category : String)
    (line : List Char) : ((c.after calls).tableFor category).check line =
      ((additions category calls).findSome? fun specs =>
        specs.findSome? fun spec => spec.check line).or ((c.tableFor category).check line) := by
  induction calls generalizing c with
  | nil => rfl
  | cons call calls ih =>
      have hnext : c.after (call :: calls) = (c.next call).after calls := rfl
      rw [hnext, ih, additions_cons, List.findSome?_append, Option.or_assoc]
      refine congrArg _ ?_
      by_cases hcategory : call.1 = category
      · subst hcategory
        by_cases hformed : ∀ spec ∈ call.2, spec.WellFormed
        · rw [if_pos ⟨rfl, hformed⟩, check_next hformed, List.findSome?_singleton]
        · rw [if_neg fun h => hformed h.2, next_of_malformed hformed]
          rfl
      · rw [if_neg fun h => hcategory h.1, tableFor_next_of_ne (Ne.symm hcategory)]
        rfl

/-- After any row of `calls` that add to a fresh classifier, a `line` of `category` counts for what
the first matching specification says of the latest addition to the category that succeeded, or
else of the one before it, and so on, or else for what `RuleSet.builtin` says.  `extendCategory`
succeeds exactly when each of its patterns is `WellFormed`; otherwise all tables stay as they are.
The tables of other categories stay in any case. -/
theorem latest_addition_counts :
    (∀ (policy : ExitPolicy) calls category line,
      ((({ policy } : Classifier).after calls).tableFor category).check line =
        ((additions category calls).findSome? fun specs =>
          specs.findSome? fun spec => spec.check line).or ((RuleSet.builtin category).check line)) ∧
    (∀ (c : Classifier) category specs,
      (∃ extended, c.extendCategory category specs = .ok extended) ↔
        ∀ spec ∈ specs, spec.WellFormed) ∧
    (∀ (c : Classifier) call, (¬∀ spec ∈ call.2, spec.WellFormed) → c.next call = c) ∧
    ∀ (c : Classifier) call other, other ≠ call.1 →
      (c.next call).tableFor other = c.tableFor other :=
  ⟨fun _ calls category line => check_after _ calls category line,
    fun _ _ _ => exists_extendCategory_iff, fun _ _ h => next_of_malformed h,
    fun _ _ _ h => tableFor_next_of_ne h⟩

end Classifier

end DeviceLab
