import DeviceLab.Signal

/-! # Rows of signals and requests

Between two looks at it the request to cancel meets signals and requests in any number and order.
The count of signals has eight bits, so the answer to a signal depends on the number of signals
before it modulo 256: the protocol (the first signal cancels, the second one exits, later ones are
ignored) is kept for 256 signals and begins anew with the next one.  The flag, on the other hand,
is set by whatever comes first and stays set (`answers_of_row`). -/

namespace DeviceLab

/-- What happens to the request to cancel: a signal is delivered, or the program itself asks. -/
inductive Interruption where
  | signal
  | request
  deriving DecidableEq, Repr

/-- The answer to a signal as the protocol has it, by the number of signals before it. -/
def SignalAction.due : Nat → SignalAction
  | 0 => .cancel
  | 1 => .exit
  | _ + 2 => .ignore

namespace SignalState

variable {s : SignalState} {n : Nat}

/-- One interruption: the answer, if it is a signal, and the state after it. -/
def meet (s : SignalState) : Interruption → Option SignalAction × SignalState
  | .signal => (some s.onSignal.1, s.onSignal.2)
  | .request => (none, s.cancel)

def after (s : SignalState) (row : List Interruption) : SignalState :=
  row.foldl (fun s event => (s.meet event).2) s

/-- The answers to the signals of a row. -/
def answers (s : SignalState) : List Interruption → List SignalAction
  | [] => []
  | event :: row => (s.meet event).1.toList ++ (s.meet event).2.answers row

/-! ### One signal -/

theorem onSignal_answer (s : SignalState) : s.onSignal.1 = .due s.received.toNat := by
  unfold onSignal
  by_cases hfirst : s.received = 0
  · rw [if_pos hfirst, hfirst]
    rfl
  · by_cases hsecond : s.received = 1
    · rw [if_neg hfirst, if_pos hsecond, hsecond]
      rfl
    · rw [if_neg hfirst, if_neg hsecond]
      have hzero : s.received.toNat ≠ 0 := fun h => hfirst (UInt8.toNat.inj h)
      have hone : s.received.toNat ≠ 1 := fun h => hsecond (UInt8.toNat.inj h)
      obtain ⟨k, hk⟩ : ∃ k, s.received.toNat = k + 2 := ⟨s.received.toNat - 2, by omega⟩
      rw [hk]
      rfl

@[simp]
theorem onSignal_received (s : SignalState) : s.onSignal.2.received = s.received + 1 := by
  unfold onSignal
  split
  · rfl
  · split <;> rfl

theorem onSignal_cancelled (hflag : s.received ≠ 0 → s.cancelled = true) :
    s.onSignal.2.cancelled = true := by
  unfold onSignal
  by_cases hfirst : s.received = 0
  · rw [if_pos hfirst]
    rfl
  · rw [if_neg hfirst]
    split <;> exact hflag hfirst

/-- Whatever comes, the flag is not taken back. -/
theorem meet_cancelled (event : Interruption) (h : s.cancelled = true) :
    (s.meet event).2.cancelled = true := by
  cases event with
  | signal => exact onSignal_cancelled fun _ => h
  | request => rfl

/-! ### A row of them -/

theorem after_cons (event : Interruption) (row : List Interruption) :
    s.after (event :: row) = (s.meet event).2.after row := rfl

theorem after_cancelled (row : List Interruption) (h : s.cancelled = true) :
    (s.after row).cancelled = true := by
  induction row generalizing s with
  | nil => exact h
  | cons event row ih => exact ih (meet_cancelled event h)

/-- The count goes round in eight bits. -/
theorem received_after (row : List Interruption) (h : s.received.toNat = n % 256) :
    (s.after row).received.toNat = (n + row.count .signal) % 256 := by
  induction row generalizing s n with
  | nil => exact h
  | cons event row ih =>
      rw [after_cons]
      cases event with
      | signal =>
          have hnext : s.onSignal.2.received.toNat = (n + 1) % 256 := by
            rw [onSignal_received, UInt8.toNat_add, h]
            show (n % 256 + 1) % 256 = (n + 1) % 256
            omega
          rw [show (s.meet .signal).2 = s.onSignal.2 from rfl, ih hnext, List.count_cons_self]
          omega
      | request =>
          rw [show (s.meet .request).2 = s.cancel from rfl, ih (s := s.cancel) h,
            List.count_cons_of_ne (by decide)]

/-- Each signal is answered by the count before it, which goes round in eight bits. -/
theorem answers_from (row : List Interruption) (h : s.received.toNat = n % 256) :
    s.answers row = (List.range' n (row.count .signal)).map fun k => .due (k % 256) := by
  induction row generalizing s n with
  | nil => rfl
  | cons event row ih =>
      cases event with
      | signal =>
          have hnext : s.onSignal.2.received.toNat = (n + 1) % 256 :=
            received_after [.signal] h
          have hrest := ih hnext
          rw [List.count_cons_self, List.range'_succ, List.map_cons, ← hrest, ← h,
            ← onSignal_answer]
          rfl
      | request =>
          rw [List.count_cons_of_ne (by decide)]
          exact ih (s := s.cancel) h

/-- The protocol is kept as long as the count does not go round. -/
theorem due_mod_iff (n : Nat) :
    ((List.range n).map fun k => SignalAction.due (k % 256)) = (List.range n).map .due ↔
      n ≤ 256 := by
  constructor
  · intro h
    refine Nat.le_of_not_lt fun hat => ?_
    have hboth := congrArg (fun l : List SignalAction => l[256]?) h
    simp only [List.getElem?_map, List.getElem?_range hat, Option.map_some] at hboth
    exact absurd hboth (by decide)
  · intro hn
    refine List.map_congr_left fun k hk => ?_
    have hlt : k < n := List.mem_range.1 hk
    rw [Nat.mod_eq_of_lt (by omega)]

/-- What a `row` of signals and requests leads to: the answers follow the protocol and `received`
is right exactly as long as eight bits hold the count of signals; `cancelled` is set by the first
of them, whichever it is, and stays. -/
theorem answers_of_row (row : List Interruption) :
    answers {} row = (List.range (row.count .signal)).map (fun k => .due (k % 256)) ∧
      (answers {} row = (List.range (row.count .signal)).map .due ↔ row.count .signal ≤ 256) ∧
      (after {} row).received.toNat = row.count .signal % 256 ∧
      ((after {} row).received.toNat = row.count .signal ↔ row.count .signal < 256) ∧
      ((after {} row).cancelled = true ↔ row ≠ []) := by
  have hanswers : answers {} row =
      (List.range (row.count .signal)).map (fun k => .due (k % 256)) := by
    rw [List.range_eq_range']
    exact answers_from row rfl
  have hcount : (after {} row).received.toNat = row.count .signal % 256 := by
    rw [received_after row (n := 0) rfl, Nat.zero_add]
  refine ⟨hanswers, ?_, hcount, ?_, ?_⟩
  · rw [hanswers]
    exact due_mod_iff _
  · rw [hcount]
    omega
  · cases row with
    | nil => exact ⟨fun h => Bool.noConfusion h, fun h => absurd rfl h⟩
    | cons event row =>
        refine ⟨fun _ => List.cons_ne_nil _ _, fun _ => after_cancelled row ?_⟩
        cases event <;> rfl

/-- The 257th signal is answered as if it were the first one. -/
theorem answers_begin_anew :
    answers {} (List.replicate 257 .signal) ≠ (List.range 257).map .due ∧
      (answers {} (List.replicate 257 .signal))[256]? = some SignalAction.cancel ∧
      (after {} (List.replicate 257 .signal)).received.toNat ≠ 257 := by
  decide +kernel

end SignalState

end DeviceLab
