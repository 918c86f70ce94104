import DeviceLab.Lifecycle.State
import Mathlib.Data.List.Chain
import Mathlib.Data.List.Nodup

/-! # The way of a run through its phases

A run is asked to enter phases and to fail, in any order and as often as anyone likes; what cannot
follow is refused.  Whatever it was asked, its history is a way through the order of the phases
that is nowhere left and never begun again.

* `Lifecycle.Request`, `Lifecycle.answered`, `Lifecycle.after`: what is asked, and what a row of
  it leaves.
* `Phase.Precedes`: the next phase, or the failure of a phase that is not the last.
* `Lifecycle.Coherent`: the phase, the history and the place of the failure tell the same story.
* `coherent_transition`, `coherent_after`: one request keeps it, and so does a row of them. -/

namespace DeviceLab

/-! ### One phase before another -/

/-- The second phase can stand right after the first in a history. -/
def Phase.Precedes (p q : Phase) : Prop :=
  p.next = some q ∨ q = .failed ∧ p.isTerminal = false

namespace Phase

variable {p q : Phase}

theorem canFollow_iff : p.canFollow q = true ↔ p.Precedes q := by
  cases p <;> cases q <;> simp [canFollow, Precedes, isTerminal, next]

theorem canFollow_terminal (h : p.isTerminal = true) (q : Phase) : p.canFollow q = false := by
  simp [canFollow, h]

theorem Precedes.not_terminal (h : p.Precedes q) : p.isTerminal = false := by
  rcases h with h | ⟨-, h⟩
  · cases p <;> cases h <;> rfl
  · exact h

theorem Precedes.rank_lt (h : p.Precedes q) : p.rank < q.rank := by
  rcases h with h | ⟨rfl, h⟩
  · cases p <;> cases h <;> decide
  · cases p <;> first | exact absurd h (by decide) | decide

/-- No phase comes twice in a row in which each precedes the one after it. -/
theorem nodup_of_isChain {row : List Phase} (h : row.IsChain Precedes) : row.Nodup := by
  have hranks : (row.map rank).IsChain (· < ·) :=
    (List.isChain_map rank).2 (h.imp fun _ _ => Precedes.rank_lt)
  exact (List.isChain_iff_pairwise.1 hranks).nodup.of_map rank

end Phase

namespace Lifecycle

variable {l l' : Lifecycle} {target : Phase}

/-! ### Requests -/

/-- What a run can be asked. -/
inductive Request where
  | enter (target : Phase)
  | fail
  deriving DecidableEq, Repr

/-- The run after a request; one that is refused leaves it as it is. -/
def answered (l : Lifecycle) : Request → Lifecycle
  | .enter target =>
    match l.transition target with
    | .ok l' => l'
    | .error _ => l
  | .fail => l.fail

/-- The run after a row of requests. -/
def after (l : Lifecycle) (row : List Request) : Lifecycle := row.foldl answered l

@[simp]
theorem after_nil (l : Lifecycle) : l.after [] = l := rfl

@[simp]
theorem after_cons (l : Lifecycle) (request : Request) (row : List Request) :
    l.after (request :: row) = (l.answered request).after row := rfl

theorem after_append (l : Lifecycle) (row row' : List Request) :
    l.after (row ++ row') = (l.after row).after row' := List.foldl_append

theorem transition_ok (h : l.phase.canFollow target = true) :
    l.transition target = .ok
      { phase := target
        failedFrom := if target = .failed then some l.phase else l.failedFrom
        history := l.history ++ [target] } := by
  simp [transition, h]

theorem transition_refused (h : l.phase.canFollow target = false) :
    l.transition target = .error ⟨l.phase, target⟩ := by
  simp [transition, h]

theorem answered_ok (h : l.transition target = .ok l') : l.answered (.enter target) = l' := by
  simp [answered, h]

theorem answered_refused (h : l.phase.canFollow target = false) :
    l.answered (.enter target) = l := by
  simp [answered, transition_refused h]

/-! ### What one request keeps -/

/-- The phase of a run, its history and the place of its failure tell the same story. -/
structure Coherent (l : Lifecycle) : Prop where
  starts : l.history.head? = some .idle
  ends : l.history.getLast? = some l.phase
  steps : l.history.IsChain Phase.Precedes
  failed : ∀ p, l.failedFrom = some p ↔
    l.phase = .failed ∧ ∃ earlier, l.history = earlier ++ [p, .failed]

theorem coherent_new : Coherent {} where
  starts := rfl
  ends := rfl
  steps := .singleton _
  failed p := by simp

/-- What can be entered is not entered from the last phase, nor from the failed one. -/
theorem Coherent.failedFrom_eq_none (h : l.Coherent) (hphase : l.phase.isTerminal = false) :
    l.failedFrom = none := by
  refine Option.eq_none_iff_forall_ne_some.2 fun p hp => ?_
  rw [((h.failed p).1 hp).1] at hphase
  exact absurd hphase (by decide)

/-- A run that has failed was in a phase before, since it began in the idle one. -/
theorem Coherent.failedFrom_isSome (h : l.Coherent) : l.failedFrom.isSome ↔ l.phase = .failed := by
  refine ⟨fun hsome => ?_, fun hphase => ?_⟩
  · obtain ⟨p, hp⟩ := Option.isSome_iff_exists.1 hsome
    exact ((h.failed p).1 hp).1
  · obtain ⟨earlier, hearlier⟩ := List.getLast?_eq_some_iff.1 h.ends
    rw [hphase] at hearlier
    rcases List.eq_nil_or_concat earlier with rfl | ⟨earlier, p, rfl⟩
    · have hidle := h.starts
      rw [hearlier] at hidle
      exact absurd hidle (by decide)
    · have hp : l.failedFrom = some p := (h.failed p).2 ⟨hphase, earlier, by simpa using hearlier⟩
      exact hp ▸ rfl

theorem coherent_transition (h : l.Coherent) (hfollow : l.phase.canFollow target = true) :
    (l.answered (.enter target)).Coherent := by
  have hprecedes : l.phase.Precedes target := Phase.canFollow_iff.1 hfollow
  have hgoes : l.phase.isTerminal = false := hprecedes.not_terminal
  obtain ⟨earlier, hearlier⟩ := List.getLast?_eq_some_iff.1 h.ends
  rw [answered_ok (transition_ok hfollow)]
  refine ⟨by simp [h.starts], by simp, ?_, fun p => ?_⟩
  · exact h.steps.append (.singleton _) (by simpa [h.ends] using hprecedes)
  · by_cases hfailed : target = .failed
    · -- the history so far ends with the phase that failed
      have hsplit : ∀ earlier', earlier ++ [l.phase, .failed] = earlier' ++ [p, .failed] ↔
          earlier = earlier' ∧ l.phase = p := fun earlier' => by
        refine ⟨fun heq => ?_, fun ⟨hearlier, hp⟩ => by rw [hearlier, hp]⟩
        simpa using List.append_inj' heq rfl
      simp [hfailed, hearlier, hsplit]
    · simp [hfailed, h.failedFrom_eq_none hgoes]

/-- Once a run has ended, every request is refused. -/
theorem answered_terminal (h : l.phase.isTerminal = true) (request : Request) :
    l.answered request = l := by
  cases request with
  | enter target => exact answered_refused (Phase.canFollow_terminal h target)
  | fail => exact answered_refused (Phase.canFollow_terminal h .failed)

theorem coherent_enter (h : l.Coherent) (target : Phase) :
    (l.answered (.enter target)).Coherent := by
  cases hfollow : l.phase.canFollow target with
  | true => exact coherent_transition h hfollow
  | false => exact (answered_refused hfollow).symm ▸ h

theorem coherent_answered (h : l.Coherent) (request : Request) : (l.answered request).Coherent := by
  cases request with
  | enter target => exact coherent_enter h target
  | fail => exact coherent_enter h .failed

/-! ### What a row of requests keeps -/

theorem coherent_after (h : l.Coherent) (row : List Request) : (l.after row).Coherent := by
  induction row generalizing l with
  | nil => exact h
  | cons request row ih => exact ih (coherent_answered h request)

/-- A run that has ended stays where it is. -/
theorem after_terminal (h : l.phase.isTerminal = true) (row : List Request) : l.after row = l := by
  induction row with
  | nil => rfl
  | cons request row ih => rw [after_cons, answered_terminal h, ih]

/-- A machine that was asked by `row` to enter phases and to fail, as often as anyone likes, has a
`history` from `idle` to its own phase, in which none comes twice and each is followed by the
`next` one or by `failed`.  It has a `failedFrom` exactly when it failed, the last phase before.
What cannot follow is refused by `transition` and changes nothing, and a machine that is `done` or
`failed` refuses everything. -/
theorem after_new_spec (row : List Request) :
    let l := Lifecycle.after {} row
    (l.history.head? = some .idle ∧ l.history.getLast? = some l.phase ∧ l.history.Nodup ∧
      l.history.IsChain fun p q => p.next = some q ∨ q = .failed ∧ p.isTerminal = false) ∧
    ((l.failedFrom.isSome ↔ l.phase = .failed) ∧
      ∀ p, l.failedFrom = some p →
        ∃ earlier, l.history = earlier ++ [p, .failed]) ∧
    (∀ target,
      (l.phase.Precedes target ∧ (l.answered (.enter target)).history = l.history ++ [target]) ∨
      (l.transition target = .error ⟨l.phase, target⟩ ∧ l.answered (.enter target) = l)) ∧
    (l.phase = .done ∨ l.phase = .failed →
      (∀ target, l.transition target = .error ⟨l.phase, target⟩) ∧ l.fail = l ∧
      ∀ further, Lifecycle.after {} (row ++ further) = l) := by
  intro l
  have h : l.Coherent := coherent_after coherent_new row
  refine ⟨⟨h.starts, h.ends, Phase.nodup_of_isChain h.steps, h.steps⟩,
    ⟨h.failedFrom_isSome, fun p hp => ((h.failed p).1 hp).2⟩, fun target => ?_, fun hended => ?_⟩
  · cases hfollow : l.phase.canFollow target with
    | true =>
      refine .inl ⟨Phase.canFollow_iff.1 hfollow, ?_⟩
      rw [answered_ok (transition_ok hfollow)]
    | false => exact .inr ⟨transition_refused hfollow, answered_refused hfollow⟩
  · have hterminal : l.phase.isTerminal = true := by
      rcases hended with hended | hended <;> rw [hended] <;> rfl
    refine ⟨fun target => transition_refused (Phase.canFollow_terminal hterminal target),
      answered_terminal hterminal .fail, fun further => ?_⟩
    rw [after_append]
    exact after_terminal hterminal further

end Lifecycle

end DeviceLab
