import DeviceLab.Proofs.Devices

/-! # Looks at the wish to cancel

A run looks whether it is to be cancelled when it enters a phase, and from time to time while it
waits.  What follows is exact: which looks are made, and in which state the run is when one of them
has seen the wish.

* `Looked cancelled r r'`: from the first state to the second one the run has only looked, and all
  looks but the last one have not seen the wish.
* `sleep_looked`, `enter_looked`: waiting and entering a phase.
* `startDevices_looks`: what is true of the attempts to start the devices is still true when they are
  given up because a look has seen the wish. -/

namespace DeviceLab

/-- The move looks whether the run is to be cancelled. -/
def Move.isLook : Move → Bool
  | .looked _ => true
  | _ => false

namespace Run

variable {σ β κ : Type} {kept : Device → κ} {s : Setup σ β} {r r' r'' : Run σ β} {cancelled : Bool}
  {I : Run σ β → Prop}

/-- The run has only looked; the last look has seen whether it is cancelled. -/
structure Looked (cancelled : Bool) (r r' : Run σ β) : Prop where
  adds : Adds id (fun m => ∃ b, m = .looked b) r r'
  moves : ∃ k, r'.moves.toList =
    r.moves.toList ++ (List.replicate k (Move.looked false) ++ [Move.looked cancelled])

/-- Nothing at all has been written down, and nothing has been done with the devices. -/
def Silent (r r' : Run σ β) : Prop := Adds id (fun _ => False) r r'

theorem Looked.silent (h : Looked cancelled r r') (h' : Silent r' r'') : Looked cancelled r r'' := by
  obtain ⟨k, hmoves⟩ := h.moves
  exact ⟨h.adds.trans (Adds.mono h' fun _ hm => hm.elim), k, (Adds.moves_eq h').trans hmoves⟩

theorem Silent.looked (h : Silent r r') (h' : Looked cancelled r' r'') : Looked cancelled r r'' := by
  obtain ⟨k, hmoves⟩ := h'.moves
  exact ⟨Adds.trans (Adds.mono h fun _ hm => hm.elim) h'.adds, k, by rw [hmoves, Adds.moves_eq h]⟩

/-- A look that has not seen the wish, and then other ones. -/
theorem Looked.trans (h : Looked false r r') (h' : Looked cancelled r' r'') :
    Looked cancelled r r'' := by
  obtain ⟨k, hmoves⟩ := h.moves
  obtain ⟨k', hmoves'⟩ := h'.moves
  refine ⟨h.adds.trans h'.adds, k + 1 + k', ?_⟩
  have hfalse : List.replicate k (Move.looked false) ++ [Move.looked false] =
      List.replicate (k + 1) (.looked false) := List.replicate_succ'.symm
  rw [hmoves', hmoves, hfalse, List.append_assoc, ← List.append_assoc (List.replicate _ _),
    List.replicate_append_replicate]

/-- How often a run has looked whether it is to be cancelled. -/
def looks (r : Run σ β) : Nat :=
  r.moves.toList.countP Move.isLook

theorem Looked.looks (h : Looked false r r') : r.looks + 1 ≤ r'.looks := by
  obtain ⟨k, hmoves⟩ := h.moves
  unfold Run.looks
  rw [hmoves, List.countP_append, List.countP_append, List.countP_singleton]
  simp [Move.isLook]

theorem look_looked (host : Host σ) (r : Run σ β) :
    Leads (· = r) (look host : StateM (Run σ β) Bool) fun cancelled r' => Looked cancelled r r' := by
  refine .modifyGet fun r₀ h => ?_
  subst h
  have hlab : Adds id (fun m => ∃ b, m = .looked b) r₀ { r₀ with lab := _ } :=
    adds_lab r₀ { r₀.lab with system := (host.cancelRequested r₀.lab.system).2 }
  exact ⟨hlab.trans (adds_move _ ⟨_, rfl⟩), 0, Array.toList_push ..⟩

theorem sleepUntil_looked (host : Host σ) (deadline : Instant) (slices : Nat) (r : Run σ β) :
    Leads (· = r) (sleepUntil host deadline slices : StateM (Run σ β) Bool)
      fun cancelled r' => Looked cancelled r r' := by
  induction slices generalizing r with
  | zero => exact look_looked host r
  | succ slices ih =>
      have hrobust : Robust id (fun _ => False) (Looked false r) := fun _ _ => Looked.silent
      refine .bind (look_looked host r) fun cancelled => ?_
      refine .ite (fun htrue => .pure fun r' h => htrue ▸ h) fun hfalse => ?_
      rw [Bool.not_eq_true] at hfalse
      subst hfalse
      refine .bind (onLab_keeps hrobust _) fun now => ?_
      refine .ite (fun _ => .pure fun r' h => h) fun _ => ?_
      refine .bind (onLab_keeps hrobust _) fun _ => .of_eq fun r₁ h₁ => ?_
      exact (ih r₁).weaken fun cancelled r' h => h₁.trans h

/-- While it waits a run looks at least once, unless the clock ends before the wait. -/
theorem sleep_looked (host : Host σ) (d : Duration) (r : Run σ β) :
    Ends (· = r) (sleep host d) (fun cancelled r' => Looked cancelled r r')
      fun stop r' => (stop = .broken (.duration .pastClock) ∧ host.Overruns d) ∧ Silent r r' := by
  have hrobust : Robust id (fun _ => False) (Silent r) := robust_adds r
  refine sleep_ends ((onLab_keeps hrobust _).conseq (fun r' h => h ▸ .refl r) fun _ _ h => h)
    fun deadline slices => .of_eq fun r₁ h₁ => ?_
  exact (sleepUntil_looked host deadline slices r₁).weaken fun _ _ h => h₁.looked h

/-- A phase is entered after a look that has not seen the wish; otherwise the run stops there. -/
theorem enter_looked (target : Phase) (r : Run σ β) :
    Ends (· = r) (enter s target)
      (fun _ r' => ∃ r₁ l, Looked false r r₁ ∧
        r' = { r₁ with machine := l, moves := r₁.moves.push (.entered target) })
      fun stop r' => (∃ outcome, stop = .phase outcome) ∧ ∃ cancelled, Looked cancelled r r' ∧
        (cancelled = false → ∃ e, r.machine.transition target = .error e) := by
  refine .bind (.lift (look_looked s.host r)) fun cancelled => ?_
  refine .ite (fun htrue => .bind (stopCancelled_spec.weaken (fun _ _ hr => hr)
    fun _ r' h => ⟨h.1, cancelled, h.2, fun hfalse => ?_⟩) fun _ => .absurd) fun hfalse => ?_
  · rw [htrue] at hfalse
    cases hfalse
  rw [Bool.not_eq_true] at hfalse
  subst hfalse
  refine .bind (Q := fun run r' => run.machine = r.machine ∧ Looked false r r')
    (.get fun _ h => ⟨h.adds.machine, h⟩) fun run => ?_
  dsimp only
  split
  · next l _ => exact .modify fun r₁ h₁ => ⟨r₁, l, h₁.2, rfl⟩
  · next e he => exact .throw fun r₁ h₁ => ⟨⟨_, rfl⟩, false, h₁.2, fun _ => ⟨e, h₁.1 ▸ he⟩⟩

/-- However often the devices are started anew, what each attempt keeps and a look keeps that has
not seen the wish is kept, up to the look that has. -/
theorem startDevices_looks (hb : s.backend.Keeps kept)
    (hI : Robust kept (Move.In .devicesStarting) I)
    (hlook : ∀ r r', I r → Looked false r r' → I r')
    (hphases : ∀ r o, I r → I { r with phases := r.phases ++ [o] }) :
    Ends I (startDevices s) (fun _ => I)
      fun stop r => s.MayStop stop ∧ (I r ∨ (∃ outcome, stop = .phase outcome) ∧
        ∃ r₀, I r₀ ∧ Looked true r₀ r) := by
  refine startDevices_ends (F := I) (fun attempt => startOnce_leads (A := I)
    (fun r hr => hI r _ hr (adds_move r rfl)) ?_ (abortAttempt_keeps hb hI))
    (fun o r hr _ _ => ⟨trivial, .inl hr⟩) fun attempt => .of_eq fun r hr =>
      (sleep_looked s.host _ r).weaken (fun cancelled r' h => ?_) fun stop r' h => ?_
  · exact (startAttempt_keeps hb hI).weaken (fun _ r hr => hphases r _ hr) fun _ _ hr => hr
  · cases cancelled with
    | true => exact ⟨trivial, .inr ⟨⟨_, rfl⟩, r, hr, h⟩⟩
    | false => exact hlook r r' hr h
  · obtain ⟨⟨rfl, hpast⟩, hsilent⟩ := h
    have hadds : Adds kept (Move.In .devicesStarting) r r' :=
      (Adds.mono hsilent fun _ hm => hm.elim).of_id
    exact ⟨.retry hpast, .inl (hI r r' hr hadds)⟩

end Run

end DeviceLab
