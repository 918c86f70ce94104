import Mathlib.Logic.Basic

/-! # What operations lead to

A small program logic for operations on a state, with and without failure.

* `Leads P x Q`: from every state that satisfies `P`, the operation `x` leads to a result and a
  state that satisfy `Q`.
* `Ends P x Q E`: the same of an operation that may fail; `Q` is about results and `E` about
  failures.
* `Preserves I x`, `Upholds I x`: the case in which only the property `I` is kept.

Operations are total, so both are statements about every run of `x`.  Each way to make an operation
has one rule (`Leads.bind`, `Ends.bind`, `Ends.tryCatch`, ...); a specification of a function is
derived by following its text with the rules, and the rules for consequences (`Leads.conseq`,
`Ends.conseq`) fit one specification to another. -/

namespace DeviceLab

variable {S ε ε' α β : Type}

/-- From every state that satisfies `P`, the operation leads to `Q`. -/
def Leads (P : S → Prop) (x : StateM S α) (Q : α → S → Prop) : Prop :=
  ∀ s, P s → Q (x.run s).1 (x.run s).2

/-- From every state that satisfies `P`, the operation gives a result and `Q`, or fails and `E`. -/
def Ends (P : S → Prop) (x : ExceptT ε (StateM S) α) (Q : α → S → Prop) (E : ε → S → Prop) :
    Prop :=
  Leads P x.run fun r s => match r with
    | .ok a => Q a s
    | .error e => E e s

/-! ### Operations that cannot fail -/

section Leads

variable {P P' : S → Prop} {Q Q' : α → S → Prop} {R : β → S → Prop}

/-- What is known of an operation, for one of its runs. -/
theorem Leads.result {x : StateM S α} {s s' : S} {a : α} (h : Leads P x Q) (hs : P s)
    (hrun : x.run s = (a, s')) : Q a s' := by
  have hr := h s hs
  rwa [hrun] at hr

theorem Leads.conseq {x : StateM S α} (h : Leads P' x Q') (hP : ∀ s, P s → P' s)
    (hQ : ∀ a s, Q' a s → Q a s) : Leads P x Q :=
  fun s hs => hQ _ _ (h s (hP s hs))

theorem Leads.weaken {x : StateM S α} (h : Leads P x Q') (hQ : ∀ a s, Q' a s → Q a s) :
    Leads P x Q :=
  fun s hs => hQ _ _ (h s hs)

/-- Two specifications of one operation hold at once. -/
theorem Leads.and {x : StateM S α} (h : Leads P x Q) (h' : Leads P' x Q') :
    Leads (fun s => P s ∧ P' s) x fun a s => Q a s ∧ Q' a s :=
  fun s hs => ⟨h s hs.1, h' s hs.2⟩

theorem Leads.of_eq {x : StateM S α} (h : ∀ r, P r → Leads (· = r) x Q) : Leads P x Q :=
  fun s hs => h s hs s rfl

theorem Leads.pure {a : α} (h : ∀ s, P s → Q a s) : Leads P (Pure.pure a) Q := h

theorem Leads.bind {x : StateM S α} {f : α → StateM S β} (hx : Leads P x Q)
    (hf : ∀ a, Leads (Q a) (f a) R) : Leads P (x >>= f) R :=
  fun s hs => hf _ _ (hx s hs)

theorem Leads.discard {x : StateM S α} (h : Leads P x fun _ => P') :
    Leads P (discard x) fun _ => P' := h

theorem Leads.get {Q : S → S → Prop} (h : ∀ s, P s → Q s s) :
    Leads P (MonadState.get : StateM S S) Q := h

theorem Leads.set {t : S} {Q : PUnit → S → Prop} (h : ∀ s, P s → Q ⟨⟩ t) :
    Leads P (set t : StateM S PUnit) Q := h

theorem Leads.modify {f : S → S} {Q : PUnit → S → Prop} (h : ∀ s, P s → Q ⟨⟩ (f s)) :
    Leads P (modify f : StateM S PUnit) Q := h

theorem Leads.modifyGet {f : S → α × S} (h : ∀ s, P s → Q (f s).1 (f s).2) :
    Leads P (modifyGet f : StateM S α) Q := h

theorem Leads.ite {c : Prop} [Decidable c] {x y : StateM S α} (hx : c → Leads P x Q)
    (hy : ¬c → Leads P y Q) : Leads P (if c then x else y) Q := by
  split
  · exact hx ‹c›
  · exact hy ‹¬c›

/-- What every round of a loop keeps, the loop keeps. -/
theorem Leads.forM {l : List α} {f : α → StateM S PUnit}
    (h : ∀ a ∈ l, Leads P (f a) fun _ => P) : Leads P (l.forM f) fun _ => P := by
  induction l with
  | nil => exact .pure fun _ hs => hs
  | cons a l ih =>
      exact .bind (h a (List.mem_cons_self ..))
        fun _ => ih fun b hb => h b (List.mem_cons_of_mem a hb)

end Leads

/-! ### Operations that may fail -/

section Ends

variable {P P' : S → Prop} {Q Q' : α → S → Prop} {R : β → S → Prop} {E E' : ε → S → Prop}
  {F : ε' → S → Prop}

theorem Ends.ok {x : ExceptT ε (StateM S) α} {s s' : S} {a : α} (h : Ends P x Q E) (hs : P s)
    (hrun : x.run.run s = (.ok a, s')) : Q a s' := by
  have hr := h s hs
  rwa [hrun] at hr

theorem Ends.error {x : ExceptT ε (StateM S) α} {s s' : S} {e : ε} (h : Ends P x Q E) (hs : P s)
    (hrun : x.run.run s = (.error e, s')) : E e s' := by
  have hr := h s hs
  rwa [hrun] at hr

theorem Ends.conseq {x : ExceptT ε (StateM S) α} (h : Ends P' x Q' E') (hP : ∀ s, P s → P' s)
    (hQ : ∀ a s, Q' a s → Q a s) (hE : ∀ e s, E' e s → E e s) : Ends P x Q E := by
  intro s hs
  have hr := h s (hP s hs)
  revert hr
  cases (x.run.run s).1 with
  | ok a => exact hQ a _
  | error e => exact hE e _

theorem Ends.weaken {x : ExceptT ε (StateM S) α} (h : Ends P x Q' E')
    (hQ : ∀ a s, Q' a s → Q a s) (hE : ∀ e s, E' e s → E e s) : Ends P x Q E :=
  h.conseq (fun _ hs => hs) hQ hE

/-- Two specifications of one operation hold at once. -/
theorem Ends.and {x : ExceptT ε (StateM S) α} (h : Ends P x Q E) (h' : Ends P' x Q' E') :
    Ends (fun s => P s ∧ P' s) x (fun a s => Q a s ∧ Q' a s) fun e s => E e s ∧ E' e s := by
  intro s hs
  have hr := h s hs.1
  have hr' := h' s hs.2
  revert hr hr'
  cases (x.run.run s).1 with
  | ok a => exact And.intro
  | error e => exact And.intro

theorem Ends.of_eq {x : ExceptT ε (StateM S) α} (h : ∀ r, P r → Ends (· = r) x Q E) :
    Ends P x Q E :=
  fun s hs => h s hs s rfl

/-- An operation comes out in one way. -/
theorem Ends.exact {x : ExceptT ε (StateM S) α} {s : S} :
    Ends (· = s) x (fun a s' => x.run.run s = (.ok a, s')) fun e s' =>
      x.run.run s = (.error e, s') := by
  rintro s rfl
  cases hx : (x.run.run s).1 with
  | ok a => exact Prod.ext hx rfl
  | error e => exact Prod.ext hx rfl

/-- A property of the state alone that the operation keeps, however it ends. -/
theorem Ends.of_leads {x : ExceptT ε (StateM S) α} (h : Leads P x.run fun _ => P') :
    Ends P x (fun _ => P') fun _ => P' := by
  intro s hs
  have hr := h s hs
  cases hx : (x.run.run s).1 with
  | ok a => exact hr
  | error e => exact hr

theorem Ends.leads {x : ExceptT ε (StateM S) α} (h : Ends P x (fun _ => P') fun _ => P') :
    Leads P x.run fun _ => P' := by
  intro s hs
  have hr := h s hs
  revert hr
  cases (x.run.run s).1 with
  | ok a => exact id
  | error e => exact id

theorem Ends.pure {a : α} (h : ∀ s, P s → Q a s) :
    Ends P (Pure.pure a : ExceptT ε (StateM S) α) Q E := h

theorem Ends.throw {e : ε} (h : ∀ s, P s → E e s) :
    Ends P (MonadExcept.throw e : ExceptT ε (StateM S) α) Q E := h

/-- After what never happens anything may follow. -/
theorem Ends.absurd {x : ExceptT ε (StateM S) α} : Ends (fun _ => False) x Q E :=
  fun _ hs => hs.elim

theorem Ends.bind {x : ExceptT ε (StateM S) α} {f : α → ExceptT ε (StateM S) β}
    (hx : Ends P x Q E) (hf : ∀ a, Ends (Q a) (f a) R E) : Ends P (x >>= f) R E := by
  intro s hs
  have hr := hx s hs
  have hrun : (x >>= f).run.run s =
      match (x.run.run s).1 with
      | .ok a => (f a).run.run (x.run.run s).2
      | .error e => (.error e, (x.run.run s).2) := by
    change (ExceptT.bindCont f (x.run.run s).1).run (x.run.run s).2 = _
    cases (x.run.run s).1 with
    | ok a => rfl
    | error e => rfl
  rw [hrun]
  revert hr
  cases (x.run.run s).1 with
  | ok a => exact hf a _
  | error e => exact id

/-- An operation that cannot fail, as one that may. -/
theorem Ends.lift {x : StateM S α} (h : Leads P x Q) :
    Ends P (ExceptT.lift x : ExceptT ε (StateM S) α) Q E := h

/-- The outcome of an operation that may fail, looked at by one that cannot. -/
theorem Leads.attempt {x : ExceptT ε (StateM S) α} {Q : Except ε α → S → Prop}
    (h : Ends P x (fun a => Q (.ok a)) fun e => Q (.error e)) : Leads P x.run Q := by
  intro s hs
  have hr := h s hs
  revert hr
  cases (x.run.run s).1 with
  | ok a => exact id
  | error e => exact id

theorem Ends.discard {x : ExceptT ε (StateM S) α} (h : Ends P x (fun _ => P') E) :
    Ends P (discard x) (fun _ => P') E := by
  intro s hs
  have hr := h s hs
  have hrun : (Functor.discard x).run.run s =
      ((x.run.run s).1.map fun _ => ⟨⟩, (x.run.run s).2) := by
    change StateT.run ((x.run >>= fun r => match r with
      | .ok _ => Pure.pure (.ok ⟨⟩)
      | .error e => Pure.pure (.error e) : StateM S (Except ε PUnit))) s = _
    change StateT.run (match (x.run.run s).1 with
      | .ok _ => (Pure.pure (.ok ⟨⟩) : StateM S (Except ε PUnit))
      | .error e => Pure.pure (.error e)) (x.run.run s).2 = _
    cases (x.run.run s).1 with
    | ok a => rfl
    | error e => rfl
  rw [hrun]
  revert hr
  cases (x.run.run s).1 with
  | ok a => exact id
  | error e => exact id

theorem Ends.tryCatch {x : ExceptT ε (StateM S) α} {f : ε → ExceptT ε (StateM S) α}
    (hx : Ends P x Q E') (hf : ∀ e, Ends (E' e) (f e) Q E) :
    Ends P (MonadExcept.tryCatch x f) Q E := by
  intro s hs
  have hr := hx s hs
  have hrun : (MonadExcept.tryCatch x f).run.run s =
      match (x.run.run s).1 with
      | .ok a => (.ok a, (x.run.run s).2)
      | .error e => (f e).run.run (x.run.run s).2 := by
    change StateT.run (match (x.run.run s).1 with
      | .ok a => (Pure.pure (.ok a) : StateM S (Except ε α))
      | .error e => (f e).run) (x.run.run s).2 = _
    cases (x.run.run s).1 with
    | ok a => rfl
    | error e => rfl
  rw [hrun]
  revert hr
  cases (x.run.run s).1 with
  | ok a => exact id
  | error e => exact hf e _

theorem Ends.adapt {x : ExceptT ε (StateM S) α} {f : ε → ε'} (h : Ends P x Q fun e => F (f e)) :
    Ends P (ExceptT.adapt f x) Q F := by
  intro s hs
  have hr := h s hs
  change match ((x.run.run s).1.mapError f) with
    | .ok a => Q a (x.run.run s).2
    | .error e => F e (x.run.run s).2
  revert hr
  cases (x.run.run s).1 with
  | ok a => exact id
  | error e => exact id

theorem Ends.get {Q : S → S → Prop} (h : ∀ s, P s → Q s s) :
    Ends P (MonadState.get : ExceptT ε (StateM S) S) Q E := h

theorem Ends.set {t : S} {Q : PUnit → S → Prop} (h : ∀ s, P s → Q ⟨⟩ t) :
    Ends P (set t : ExceptT ε (StateM S) PUnit) Q E := h

theorem Ends.modify {f : S → S} {Q : PUnit → S → Prop} (h : ∀ s, P s → Q ⟨⟩ (f s)) :
    Ends P (modify f : ExceptT ε (StateM S) PUnit) Q E := h

theorem Ends.modifyGet {f : S → α × S} (h : ∀ s, P s → Q (f s).1 (f s).2) :
    Ends P (modifyGet f : ExceptT ε (StateM S) α) Q E := h

theorem Ends.ite {c : Prop} [Decidable c] {x y : ExceptT ε (StateM S) α}
    (hx : c → Ends P x Q E) (hy : ¬c → Ends P y Q E) : Ends P (if c then x else y) Q E := by
  split
  · exact hx ‹c›
  · exact hy ‹¬c›

/-- What every round of a loop keeps, the loop keeps, also when a round fails. -/
theorem Ends.forM {l : List α} {f : α → ExceptT ε (StateM S) PUnit}
    (h : ∀ a ∈ l, Ends P (f a) (fun _ => P) E) : Ends P (l.forM f) (fun _ => P) E := by
  induction l with
  | nil => exact .pure fun _ hs => hs
  | cons a l ih =>
      exact .bind (h a (List.mem_cons_self ..))
        fun _ => ih fun b hb => h b (List.mem_cons_of_mem a hb)

end Ends

/-! ### Keeping a property -/

/-- The operation keeps a property of the state. -/
def Preserves (I : S → Prop) (x : StateM S α) : Prop := Leads I x fun _ => I

/-- The operation keeps a property of the state, however it ends. -/
def Upholds (I : S → Prop) (x : ExceptT ε (StateM S) α) : Prop := Ends I x (fun _ => I) fun _ => I

section Keeping

variable {I : S → Prop} {x y : StateM S α} {z w : ExceptT ε (StateM S) α}

theorem Preserves.pure {a : α} : Preserves I (Pure.pure a) := Leads.pure fun _ h => h

theorem Preserves.bind {f : α → StateM S β} (hx : Preserves I x) (hf : ∀ a, Preserves I (f a)) :
    Preserves I (x >>= f) :=
  Leads.bind hx hf

theorem Preserves.get : Preserves I (MonadState.get : StateM S S) := Leads.get fun _ h => h

theorem Preserves.modify {f : S → S} (h : ∀ s, I s → I (f s)) :
    Preserves I (modify f : StateM S PUnit) :=
  Leads.modify h

theorem Preserves.modifyGet {f : S → α × S} (h : ∀ s, I s → I (f s).2) :
    Preserves I (modifyGet f : StateM S α) :=
  Leads.modifyGet h

theorem Preserves.ite {c : Prop} [Decidable c] (hx : Preserves I x) (hy : Preserves I y) :
    Preserves I (if c then x else y) :=
  Leads.ite (fun _ => hx) fun _ => hy

theorem Preserves.discard (hx : Preserves I x) : Preserves I (discard x) := Leads.discard hx

theorem Preserves.forM {l : List α} {f : α → StateM S PUnit} (h : ∀ a, Preserves I (f a)) :
    Preserves I (l.forM f) :=
  Leads.forM fun a _ => h a

/-- The outcome of an operation that may fail, looked at by one that cannot. -/
theorem Preserves.attempt (hz : Upholds I z) : Preserves I z.run := Ends.leads hz

theorem Upholds.of_run (h : Preserves I z.run) : Upholds I z := Ends.of_leads h

theorem Upholds.pure {a : α} : Upholds I (Pure.pure a : ExceptT ε (StateM S) α) :=
  Ends.pure fun _ h => h

theorem Upholds.throw {e : ε} : Upholds I (MonadExcept.throw e : ExceptT ε (StateM S) α) :=
  Ends.throw fun _ h => h

theorem Upholds.bind {f : α → ExceptT ε (StateM S) β} (hz : Upholds I z)
    (hf : ∀ a, Upholds I (f a)) : Upholds I (z >>= f) :=
  Ends.bind hz hf

theorem Upholds.lift (hx : Preserves I x) :
    Upholds I (ExceptT.lift x : ExceptT ε (StateM S) α) :=
  Ends.lift hx

theorem Upholds.get : Upholds I (MonadState.get : ExceptT ε (StateM S) S) := Ends.get fun _ h => h

theorem Upholds.modify {f : S → S} (h : ∀ s, I s → I (f s)) :
    Upholds I (modify f : ExceptT ε (StateM S) PUnit) :=
  Ends.modify h

theorem Upholds.modifyGet {f : S → α × S} (h : ∀ s, I s → I (f s).2) :
    Upholds I (modifyGet f : ExceptT ε (StateM S) α) :=
  Ends.modifyGet h

theorem Upholds.ite {c : Prop} [Decidable c] (hz : Upholds I z) (hw : Upholds I w) :
    Upholds I (if c then z else w) :=
  Ends.ite (fun _ => hz) fun _ => hw

theorem Upholds.forM {l : List α} {f : α → ExceptT ε (StateM S) PUnit}
    (h : ∀ a, Upholds I (f a)) : Upholds I (l.forM f) :=
  Ends.forM fun a _ => h a

end Keeping

end DeviceLab
