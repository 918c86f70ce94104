import DeviceLab.Proofs.Scanning
import DeviceLab.Regex.Search

/-! # Groups that capture a number

The rules for totals end with a group of digits.  That such a group never captures anything else is
read off the program of the pattern: each address gets a stage, which says how far a thread has come
with the first group, and the stages have to agree with the instructions (`Program.agrees`).  Then
every thread keeps to its stage (`Program.handsOn_of_agrees`), and a match has captured a row of
digits (`Matcher.captures_digits`).

* `Rule.CapturesDigits`: a rule that needs a number captures a row of digits in every line.
* `RuleSet.builtin_capturesDigits`: the rules of the built-in tables do. -/

/-! ## What the threads of a search keep

A search follows many threads at once, but what one of them remembers is told by the instructions
that it has gone through.  A condition that every instruction hands on to the next one
(`Program.HandsOn`) is therefore kept by the threads of a position (`threadsAt_kept`), by a step to
the next position (`advanceBy_kept`), and by the whole search: it holds of the thread whose slots
the search gives back (`Matcher.search_kept`). -/

namespace DeviceLab.Regex

variable {program : Program} {text : List Char} {holds : Nat → Thread → Prop}

/-- A condition on a thread at a position of a text is handed on by every instruction. -/
structure Program.HandsOn (program : Program) (text : List Char) (holds : Nat → Thread → Prop) :
    Prop where
  start : ∀ i ≤ text.length, holds i ⟨0, []⟩
  take : ∀ {i t s c}, program.instr? t.address = some (.take s) → text[i]? = some c →
    s.mem c = true → holds i t → holds (i + 1) ⟨t.address + 1, t.slots⟩
  check : ∀ {i t l}, program.instr? t.address = some (.check l) → holds i t →
    holds i ⟨t.address + 1, t.slots⟩
  save : ∀ {i t slot}, program.instr? t.address = some (.save slot) → holds i t →
    holds i ⟨t.address + 1, t.slots.set slot i⟩
  fork : ∀ {i t targets}, program.instr? t.address = some (.fork targets) → holds i t →
    ∀ target ∈ targets, holds i ⟨target, t.slots⟩

/-- The slots are those of a thread that stands at the end of the program. -/
def Program.Accepts (program : Program) (holds : Nat → Thread → Prop) (slots : Slots) : Prop :=
  ∃ i t, program.instr? t.address = some .accept ∧ t.slots = slots ∧ holds i t

/-! ### One position -/

theorem follow_kept (h : program.HandsOn text holds) {here : Position} {fuel : Nat}
    {pending found : List Thread} {seen : Array Bool}
    (hpending : ∀ t ∈ pending, holds here.index t) (hfound : ∀ t ∈ found, holds here.index t) :
    ∀ t ∈ (follow program here fuel pending seen found).2, holds here.index t := by
  induction fuel generalizing pending seen found with
  | zero => exact hfound
  | succ fuel ih =>
      cases pending with
      | nil => exact hfound
      | cons t pending =>
          obtain ⟨ht, hrest⟩ := List.forall_mem_cons.1 hpending
          unfold follow
          dsimp only
          split
          · exact ih hrest hfound
          split
          · exact ih hrest hfound
          · exact ih hrest (List.forall_mem_cons.2 ⟨ht, hfound⟩)
          · exact ih hrest (List.forall_mem_cons.2 ⟨ht, hfound⟩)
          · next hinstr =>
              split
              · exact ih (List.forall_mem_cons.2 ⟨h.check hinstr ht, hrest⟩) hfound
              · exact ih hrest hfound
          · next hinstr => exact ih (List.forall_mem_cons.2 ⟨h.save hinstr ht, hrest⟩) hfound
          · next hinstr =>
              refine ih (List.forall_mem_append.2 ⟨?_, hrest⟩) hfound
              exact List.forall_mem_map.2 (h.fork hinstr ht)

theorem threadsAt_kept (h : program.HandsOn text holds) {budget : Nat} {here : Position}
    {starts : List Thread} (hstarts : ∀ t ∈ starts, holds here.index t) :
    ∀ t ∈ threadsAt program budget here starts, holds here.index t := fun t ht =>
  follow_kept h hstarts (List.forall_mem_nil _) t (List.mem_reverse.1 ht)

/-- The threads that are preferred to an accepting one are some of the given ones, and so is the
accepting one. -/
theorem untilAccept_spec (program : Program) (preferred threads : List Thread) :
    (∀ t ∈ (untilAccept program preferred threads).1, t ∈ preferred ∨ t ∈ threads) ∧
      ∀ slots, (untilAccept program preferred threads).2 = some slots →
        ∃ t ∈ threads, program.instr? t.address = some .accept ∧ t.slots = slots := by
  induction threads generalizing preferred with
  | nil => exact ⟨fun t ht => .inl (List.mem_reverse.1 ht), fun _ h => nomatch h⟩
  | cons t rest ih =>
      unfold untilAccept
      split
      · next hinstr =>
          refine ⟨fun t ht => .inl (List.mem_reverse.1 ht), fun slots hslots => ?_⟩
          exact ⟨t, List.mem_cons_self .., hinstr, Option.some.inj hslots⟩
      · obtain ⟨hkept, haccepts⟩ := ih (t :: preferred)
        refine ⟨fun u hu => ?_, fun slots hslots => ?_⟩
        · rcases hkept u hu with hu | hu
          · rcases List.mem_cons.1 hu with rfl | hu
            · exact .inr (List.mem_cons_self ..)
            · exact .inl hu
          · exact .inr (List.mem_cons_of_mem _ hu)
        · obtain ⟨u, hu, haccept⟩ := haccepts slots hslots
          exact ⟨u, List.mem_cons_of_mem _ hu, haccept⟩

theorem advanceBy_kept (h : program.HandsOn text holds) {i : Nat} {c : Char} {threads : List Thread}
    (hc : text[i]? = some c) (hthreads : ∀ t ∈ threads, holds i t) :
    ∀ t ∈ advanceBy program c threads, holds (i + 1) t := by
  intro u hu
  obtain ⟨t, ht, hstep⟩ := List.mem_filterMap.1 hu
  split at hstep
  · next hinstr =>
      split at hstep
      · next hmem =>
          cases hstep
          exact h.take hinstr hc hmem (hthreads t ht)
      · cases hstep
  · cases hstep

/-! ### All positions -/

/-- At one position, the threads that are followed on keep the condition, and so does a match. -/
theorem step_kept (h : program.HandsOn text holds) (budget : Nat) (before after : Option Char)
    {i : Nat} {threads : List Thread} {best : Option Slots} (hi : i ≤ text.length)
    (hthreads : ∀ t ∈ threads, holds i t)
    (hbest : ∀ slots, best = some slots → program.Accepts holds slots) :
    (∀ t ∈ (searchFrom.step program budget before i threads best after).1, holds i t) ∧
      ∀ slots, (searchFrom.step program budget before i threads best after).2 = some slots →
        program.Accepts holds slots := by
  unfold searchFrom.step
  dsimp only
  generalize hstarts : (if best.isNone then threads ++ [⟨0, []⟩] else threads) = starts
  have hkept : ∀ t ∈ starts, holds i t := by
    rw [← hstarts]
    split
    · exact List.forall_mem_append.2 ⟨hthreads, List.forall_mem_singleton.2 (h.start i hi)⟩
    · exact hthreads
  split
  · exact ⟨List.forall_mem_nil _, hbest⟩
  · have hall : ∀ t ∈ threadsAt program budget ⟨i, before, after⟩ starts, holds i t :=
      threadsAt_kept h hkept
    obtain ⟨hpreferred, haccepts⟩ :=
      untilAccept_spec program [] (threadsAt program budget ⟨i, before, after⟩ starts)
    refine ⟨fun t ht => ?_, fun slots hslots => ?_⟩
    · exact (hpreferred t ht).elim (fun hnil => nomatch hnil) (hall t)
    · rcases Option.or_eq_some_iff.1 hslots with hfound | ⟨-, hold⟩
      · obtain ⟨t, ht, hinstr, hslots⟩ := haccepts slots hfound
        exact ⟨i, t, hinstr, hslots, hall t ht⟩
      · exact hbest slots hold

theorem searchFrom_kept (h : program.HandsOn text holds) {budget i : Nat} {before : Option Char}
    {threads : List Thread} {best : Option Slots} {rest : List Char} (hrest : text.drop i = rest)
    (hi : i ≤ text.length) (hthreads : ∀ t ∈ threads, holds i t)
    (hbest : ∀ slots, best = some slots → program.Accepts holds slots) :
    ∀ slots, searchFrom program budget before i threads best rest = some slots →
      program.Accepts holds slots := by
  induction rest generalizing before i threads best with
  | nil => exact (step_kept h budget before none hi hthreads hbest).2
  | cons c rest ih =>
      have hlt : i < text.length := by
        refine Nat.lt_of_not_le fun hle => ?_
        rw [List.drop_eq_nil_of_le hle] at hrest
        cases hrest
      rw [List.drop_eq_getElem_cons hlt] at hrest
      obtain ⟨hc, hdrop⟩ := List.cons.inj hrest
      obtain ⟨hpreferred, hfound⟩ :=
        step_kept h budget before (some c) hi hthreads hbest
      have hadvanced := advanceBy_kept h (List.getElem?_eq_some_iff.2 ⟨hlt, hc⟩) hpreferred
      exact ih hdrop hlt hadvanced hfound

/-- The slots of a match are those of a thread that has gone through the program to its end. -/
theorem Matcher.search_kept {m : Matcher} {slots : Slots} (h : m.program.HandsOn text holds)
    (hsearch : m.search text = some slots) : m.program.Accepts holds slots :=
  searchFrom_kept h List.drop_zero (Nat.zero_le _) (List.forall_mem_nil _)
    (by simp) slots hsearch

end DeviceLab.Regex

/-! ## Digits -/

namespace DeviceLab

open Decimal Regex

namespace Regex

/-! ### Rows of digits -/

/-- There are only digits between two places of a text. -/
def DigitsBetween (text : List Char) (first last : Nat) : Prop :=
  ∀ i, first ≤ i → i < last → ∃ c, text[i]? = some c ∧ isDigit c = true

theorem isDigit_of_mem {c : Char} (h : CharSet.digit.mem c = true) : isDigit c = true := by
  simp only [CharSet.digit, CharSet.mem, List.any_cons, List.any_nil, Bool.or_false,
    Bool.and_eq_true, decide_eq_true_eq] at h
  rw [isDigit, Bool.and_eq_true, decide_eq_true_eq, decide_eq_true_eq]
  exact h

/-- A row of digits goes on with a digit. -/
theorem DigitsBetween.succ {text : List Char} {first i : Nat} {c : Char}
    (h : DigitsBetween text first i) (hc : text[i]? = some c) (hdigit : isDigit c = true) :
    DigitsBetween text first (i + 1) := by
  intro j hfirst hlast
  rcases Nat.lt_succ_iff_lt_or_eq.1 hlast with hlt | rfl
  · exact h j hfirst hlt
  · exact ⟨c, hc, hdigit⟩

/-- The part of a text between two places is a row of digits when there are only digits. -/
theorem DigitsBetween.part {text : List Char} {first last : Nat}
    (h : DigitsBetween text first last) (hlt : first < last) :
    (text.drop first).take (last - first) ≠ [] ∧
      ∀ c ∈ (text.drop first).take (last - first), isDigit c = true := by
  constructor
  · intro hnil
    obtain ⟨c, hc, -⟩ := h first (Nat.le_refl _) hlt
    have hhead : ((text.drop first).take (last - first))[0]? = some c := by
      rw [List.getElem?_take_of_lt (by omega), List.getElem?_drop]
      exact hc
    rw [hnil] at hhead
    cases hhead
  · intro c hmem
    obtain ⟨k, hk, hget⟩ := List.mem_iff_getElem.1 hmem
    rw [List.length_take] at hk
    obtain ⟨d, hd, hdigit⟩ := h (first + k) (Nat.le_add_right ..) (by omega)
    have hat : text[first + k]? = some c := by
      rw [List.getElem_take, List.getElem_drop] at hget
      exact List.getElem?_eq_some_iff.2 ⟨_, hget⟩
    cases hd.symm.trans hat
    exact hdigit

/-! ### Stages -/

/-- How far a thread has come with the first group. -/
inductive Stage where
  /-- Nothing is known. -/
  | outside
  /-- The group is open, and there were only digits since. -/
  | opened
  /-- The same, and there was at least one. -/
  | inside
  /-- The group was closed behind at least one digit. -/
  | closed
  deriving DecidableEq

namespace Stage

variable {text : List Char} {i : Nat} {slots : Slots} {stage next : Stage}

/-- What a stage says of the slots of a thread that has come to a place of the text. -/
def Holds (text : List Char) (i : Nat) (slots : Slots) : Stage → Prop
  | .outside => True
  | .opened => ∃ first, slots.get? 2 = some first ∧ first ≤ i ∧ DigitsBetween text first i
  | .inside => ∃ first, slots.get? 2 = some first ∧ first < i ∧ DigitsBetween text first i
  | .closed => ∃ first last, slots.get? 2 = some first ∧ slots.get? 3 = some last ∧
      first < last ∧ DigitsBetween text first last

/-- Whether a stage says at least as much as another one. -/
def implies : Stage → Stage → Bool
  | _, .outside => true
  | .inside, .opened => true
  | stage, next => stage = next

/-- The stage behind a character of a set. -/
def take (s : CharSet) : Stage → Stage
  | .outside => .outside
  | .closed => .closed
  | .opened | .inside => if s = .digit then .inside else .outside

/-- The stage behind a position that is saved. -/
def save (slot : Nat) (stage : Stage) : Stage :=
  if slot = 2 then .opened
  else if slot = 3 then if stage = .inside then .closed else .outside
  else stage

theorem Holds.mono (himplies : stage.implies next = true) (h : stage.Holds text i slots) :
    next.Holds text i slots := by
  cases stage <;> cases next <;> first | exact h | exact trivial | cases himplies
  obtain ⟨first, hfirst, hlt, hdigits⟩ := h
  exact ⟨first, hfirst, Nat.le_of_lt hlt, hdigits⟩

theorem Holds.take {s : CharSet} {c : Char} (hc : text[i]? = some c) (hmem : s.mem c = true)
    (h : stage.Holds text i slots) : (stage.take s).Holds text (i + 1) slots := by
  have hopen : ∀ first, slots.get? 2 = some first → first ≤ i → DigitsBetween text first i →
      (if s = .digit then Stage.inside else .outside).Holds text (i + 1) slots := by
    intro first hfirst hle hdigits
    split
    · next hset =>
        subst hset
        exact ⟨first, hfirst, Nat.lt_succ_of_le hle, hdigits.succ hc (isDigit_of_mem hmem)⟩
    · trivial
  cases stage with
  | outside => trivial
  | opened =>
      obtain ⟨first, hfirst, hle, hdigits⟩ := h
      exact hopen first hfirst hle hdigits
  | inside =>
      obtain ⟨first, hfirst, hlt, hdigits⟩ := h
      exact hopen first hfirst (Nat.le_of_lt hlt) hdigits
  | closed => exact h

end Stage

theorem Slots.get?_set_self (slots : Slots) (slot position : Nat) :
    (slots.set slot position).get? slot = some position := by
  simp [Slots.get?, Slots.set]

theorem Slots.get?_set_of_ne (slots : Slots) {slot other : Nat} (position : Nat)
    (h : other ≠ slot) : (slots.set slot position).get? other = slots.get? other := by
  have hhead : (slot == other) = false := beq_eq_false_iff_ne.2 h.symm
  have hrest : ((slots.filter fun entry => entry.1 != slot).find? fun entry => entry.1 == other) =
      slots.find? fun entry => entry.1 == other := by
    rw [List.find?_filter]
    congr 1
    funext entry
    by_cases hentry : entry.1 = other
    · simp [hentry, h]
    · simp [hentry]
  simp only [Slots.get?, Slots.set, List.find?_cons, hhead, hrest]

theorem Stage.Holds.save {text : List Char} {i : Nat} {slots : Slots} {stage : Stage} {slot : Nat}
    (h : stage.Holds text i slots) : (stage.save slot).Holds text i (slots.set slot i) := by
  unfold Stage.save
  split
  · next hslot =>
      subst hslot
      exact ⟨i, Slots.get?_set_self .., Nat.le_refl i, fun j hfirst hlast => by omega⟩
  split
  · next hslot =>
      subst hslot
      split
      · next hstage =>
          subst hstage
          obtain ⟨first, hfirst, hlt, hdigits⟩ := h
          exact ⟨first, i, (Slots.get?_set_of_ne slots i (by decide)).trans hfirst,
            Slots.get?_set_self .., hlt, hdigits⟩
      · trivial
  · next hopen hclose =>
      have hfirst := Slots.get?_set_of_ne slots i (Ne.symm hopen)
      have hlast := Slots.get?_set_of_ne slots i (Ne.symm hclose)
      cases stage <;> simp only [Holds, hfirst, hlast] <;> exact h

/-! ### Stages of a program -/

/-- The stages agree with the instruction at an address: what they say before it and what the
instruction does give what they say behind it. -/
def Instr.agrees (stages : Nat → Stage) (address : Nat) : Instr → Bool
  | .take s => ((stages address).take s).implies (stages (address + 1))
  | .check _ => (stages address).implies (stages (address + 1))
  | .save slot => ((stages address).save slot).implies (stages (address + 1))
  | .fork targets => targets.all fun target => (stages address).implies (stages target)
  | .accept => stages address = .closed

/-- The stages agree with all instructions. -/
def Program.agrees (program : Program) (stages : Nat → Stage) : Bool :=
  stages 0 = .outside &&
    (List.range program.size).all fun address =>
      (program.instr? address).all (·.agrees stages address)

namespace Program

variable {program : Program} {stages : Nat → Stage} {text : List Char}

theorem agrees_at (h : program.agrees stages = true) {address : Nat} {instr : Instr}
    (hinstr : program.instr? address = some instr) : instr.agrees stages address = true := by
  have hlt : address < program.size := (Array.getElem?_eq_some_iff.1 hinstr).1
  have hall := List.all_eq_true.1 (Bool.and_eq_true_iff.1 h).2 address (List.mem_range.2 hlt)
  rw [hinstr] at hall
  exact hall

/-- Every thread keeps to the stage of the instruction that it stands at. -/
theorem handsOn_of_agrees (h : program.agrees stages = true) :
    program.HandsOn text fun i t => (stages t.address).Holds text i t.slots where
  start i _ := by
    have hstart : stages 0 = .outside := of_decide_eq_true (Bool.and_eq_true_iff.1 h).1
    dsimp only
    rw [hstart]
    trivial
  take hinstr hc hmem ht := (ht.take hc hmem).mono (agrees_at h hinstr)
  check hinstr ht := ht.mono (agrees_at h hinstr)
  save hinstr ht := ht.save.mono (agrees_at h hinstr)
  fork hinstr ht target htarget :=
    ht.mono (List.all_eq_true.1 (agrees_at h hinstr) target htarget)

end Program

/-- With stages that agree with its program, a matcher captures a row of digits in each match. -/
theorem Matcher.captures_digits {m : Matcher} {stages : Nat → Stage} {line : List Char}
    {slots : Slots} (h : m.program.agrees stages = true) (hsearch : m.search line = some slots) :
    ∃ digits, capture? line slots 1 = some digits ∧ digits ≠ [] ∧
      ∀ c ∈ digits, isDigit c = true := by
  obtain ⟨i, t, haccept, rfl, hstage⟩ := m.search_kept (Program.handsOn_of_agrees h) hsearch
  have hclosed : stages t.address = .closed := of_decide_eq_true (Program.agrees_at h haccept)
  rw [hclosed] at hstage
  obtain ⟨first, last, hfirst, hlast, hlt, hdigits⟩ := hstage
  refine ⟨(line.drop first).take (last - first), ?_, hdigits.part hlt⟩
  simp only [capture?, hfirst, hlast, Option.pure_def, Option.bind_eq_bind, Option.bind_some]

/-- The stages of a program whose last part is a group of digits: behind `address`, the first of
the group, stand the set of digits, the choice to go round once more, and the end of the group, of
the whole match and of the program. -/
def Program.lastGroupStages (program : Program) (address : Nat) : Stage :=
  match program.size - address with
  | 1 | 2 => .closed
  | 3 | 4 => .inside
  | 5 => .opened
  | _ => .outside

end Regex

/-! ### Rules that need a number -/

namespace Rule

/-- The text of the first group, where the rule has found its pattern. -/
def captured? (rule : Rule) (line : List Char) : Option (List Char) :=
  match rule.test with
  | .text _ => none
  | .pattern matcher => (matcher.search line).bind fun slots => Matcher.capture? line slots 1

/-- When the rule needs a number, it captures a row of digits in every line that it applies to. -/
def CapturesDigits (rule : Rule) : Prop :=
  rule.tally.needsCapture = true → ∀ line, rule.Applies line →
    ∃ digits, rule.captured? line = some digits ∧ digits ≠ [] ∧ ∀ c ∈ digits, isDigit c = true

/-- Rules that need no number need not capture one. -/
theorem capturesDigits_of_plain {rules : List Rule}
    (h : ∀ rule ∈ rules, rule.tally.needsCapture = false) :
    ∀ rule ∈ rules, rule.CapturesDigits := by
  intro rule hrule hneeds
  rw [h rule hrule] at hneeds
  cases hneeds

theorem capturesDigits_of_agrees {m : Matcher} {tally : Tally} {severity : Severity}
    {stages : Nat → Stage} (h : m.program.agrees stages = true) :
    (Rule.mk (.pattern m) tally severity).CapturesDigits := by
  intro _ line happlies
  obtain ⟨hit, hhit⟩ := Option.isSome_iff_exists.1 happlies
  obtain ⟨slots, hsearch, -⟩ := Option.map_eq_some_iff.1 hhit
  obtain ⟨digits, hcapture, hdigits⟩ := m.captures_digits h hsearch
  refine ⟨digits, ?_, hdigits⟩
  simp only [captured?, hsearch, Option.bind_some, hcapture]

end Rule

namespace RuleSet

/-- The rules of a table that need a number capture a row of digits. -/
def CapturesDigits (table : RuleSet) : Prop := ∀ rule ∈ table.rules, rule.CapturesDigits

/-- A well-formed pattern whose last part is a group of digits. -/
def EndsInDigits (pattern : String) : Prop :=
  (Matcher.ofPattern? pattern).any (fun m => m.program.agrees m.program.lastGroupStages) = true

instance (pattern : String) : Decidable (EndsInDigits pattern) :=
  inferInstanceAs (Decidable (_ = true))

theorem counting_spec {pattern : String} {tally : Tally} {rule : Rule}
    (h : rule ∈ counting pattern tally) :
    ∃ m, Matcher.ofPattern? pattern = some m ∧ rule = ⟨.pattern m, tally, .success⟩ := by
  unfold counting Rule.pattern at h
  cases hm : Matcher.ofPattern? pattern with
  | none => simp [hm] at h
  | some m =>
      rw [hm] at h
      dsimp only at h
      split at h
      · next hrule =>
          split at hrule
          · cases hrule
          · cases hrule
            exact ⟨m, rfl, List.mem_singleton.1 h⟩
      · cases h

theorem counting_capturesDigits {pattern : String} {tally : Tally} (h : EndsInDigits pattern) :
    ∀ rule ∈ counting pattern tally, rule.CapturesDigits := by
  intro rule hrule
  obtain ⟨m, hm, rfl⟩ := counting_spec hrule
  rw [EndsInDigits, hm] at h
  exact Rule.capturesDigits_of_agrees h

/-- The rules for totals capture rows of digits when their two patterns end in digits. -/
theorem summaryRules_capturesDigits {passed failed : String} {known : Option String}
    (hpassed : EndsInDigits passed) (hfailed : EndsInDigits failed) :
    ∀ rule ∈ summaryRules passed failed known, rule.CapturesDigits := by
  have hknown : ∀ rule ∈ (known.map fun pattern => counting pattern .none).getD [],
      rule.tally.needsCapture = false := by
    cases known with
    | none => exact List.forall_mem_nil _
    | some pattern =>
        intro rule hrule
        obtain ⟨m, -, rfl⟩ := counting_spec hrule
        rfl
  unfold summaryRules
  simp only [List.forall_mem_append]
  exact ⟨⟨⟨counting_capturesDigits hpassed, counting_capturesDigits hfailed⟩,
    Rule.capturesDigits_of_plain hknown⟩, Rule.capturesDigits_of_plain (by decide)⟩

theorem categoryRules_capturesDigits (category : String) :
    ∀ rule ∈ categoryRules category, rule.CapturesDigits := by
  have hrerun : (Rule.substring "Error installing gecko!" .rerun .success).CapturesDigits :=
    fun hneeds => absurd hneeds (by decide)
  unfold categoryRules
  split
  case h_1 | h_2 | h_3 | h_4 | h_5 | h_6 =>
    exact summaryRules_capturesDigits (by decide +kernel) (by decide +kernel)
  case h_7 | h_8 =>
    exact List.forall_mem_cons.2
      ⟨hrerun, summaryRules_capturesDigits (by decide +kernel) (by decide +kernel)⟩
  case h_9 => exact Rule.capturesDigits_of_plain (by decide)

/-- Every built-in table reads totals only from rows of digits. -/
theorem builtin_capturesDigits (category : String) : (builtin category).CapturesDigits :=
  List.forall_mem_append.2
    ⟨categoryRules_capturesDigits category, Rule.capturesDigits_of_plain (by decide)⟩

end RuleSet

end DeviceLab
