import Levaware.Lib.Abort
import Levaware.Lib.History

set_option autoImplicit false

/-! # Machines that start over when they stop

A machine takes one turn after the other. A turn is a program that may stop for good; the machine
then starts over from the state it stopped in, of which the start keeps what it likes. A life lies
between two starts. What the starts establish and the turns keep holds all the time, if a stop
leaves what a start needs (`Keeps.run`), and a run is always some turns into a life
(`run_lastLife`). -/

namespace Lives

open Abort

variable {ε σ ι : Type}

structure Machine (ε σ ι : Type) where
  /-- whether the turn can be taken in the state -/
  possible : σ → ι → Bool
  turn : ι → EStateM ε σ Unit
  /-- the state in which the next life begins, `none` if it never does -/
  start : σ → Option σ

namespace Machine

variable (M : Machine ε σ ι)

/-- A turn, and the start after one that stops. -/
def step (s : σ) (i : ι) : Option σ :=
  if M.possible s i then
    match (M.turn i).run s with
    | .ok _ s' => some s'
    | .error _ s' => M.start s'
  else none

/-- A turn that does not stop. -/
def goesOn (s : σ) (i : ι) : Option σ :=
  if M.possible s i then
    match (M.turn i).run s with
    | .ok _ s' => some s'
    | .error _ _ => none
  else none

/-- The state after some turns, whatever lives they fall into. -/
def run (s : σ) (turns : List ι) : Option σ := turns.foldlM M.step s

/-- The state after some turns of one life. -/
def life (s : σ) (turns : List ι) : Option σ := turns.foldlM M.goesOn s

variable {M} {s s' t : σ} {i : ι} {e : ε} {turns : List ι}

/-! ## One turn -/

theorem step_of_ok (hpossible : M.possible s i = true) (hrun : (M.turn i).run s = .ok () s') :
    M.step s i = some s' := by
  unfold step
  rw [if_pos hpossible, hrun]

theorem step_of_error (hpossible : M.possible s i = true) (hrun : (M.turn i).run s = .error e t) :
    M.step s i = M.start t := by
  unfold step
  rw [if_pos hpossible, hrun]

theorem step_cases (h : M.step s i = some s') :
    M.possible s i = true ∧ ((M.turn i).run s = .ok () s' ∨
      ∃ e t, (M.turn i).run s = .error e t ∧ M.start t = some s') := by
  unfold step at h
  split at h
  · next hpossible =>
      refine ⟨hpossible, ?_⟩
      cases hrun : (M.turn i).run s with
      | ok u t =>
          rw [hrun] at h
          cases h
          exact Or.inl rfl
      | error e t =>
          rw [hrun] at h
          exact Or.inr ⟨e, t, rfl, h⟩
  · cases h

theorem goesOn_iff :
    M.goesOn s i = some s' ↔ M.possible s i = true ∧ (M.turn i).run s = .ok () s' := by
  unfold goesOn
  split
  · next hpossible => cases (M.turn i).run s <;> simp [hpossible]
  · next hpossible => simp [hpossible]

/-! ## What holds all the time -/

/-- The turns keep `I` and leave `D` when they stop, from which the starts establish `I`. -/
structure Keeps (M : Machine ε σ ι) (I D : σ → Prop) : Prop where
  turn : ∀ i, Triple (fun s => I s ∧ M.possible s i = true) (M.turn i) (fun _ => I) (fun _ => D)
  start : ∀ s s', D s → M.start s = some s' → I s'

section Keeps

variable {I D : σ → Prop}

theorem Keeps.step (h : M.Keeps I D) (hs : I s) (hstep : M.step s i = some s') : I s' := by
  obtain ⟨hpossible, hrun | ⟨e, t, hrun, hstart⟩⟩ := step_cases hstep
  · exact (h.turn i).ok ⟨hs, hpossible⟩ hrun
  · exact h.start t s' ((h.turn i).error ⟨hs, hpossible⟩ hrun) hstart

theorem Keeps.run (h : M.Keeps I D) (hs : I s) (hrun : M.run s turns = some s') : I s' :=
  History.foldlM_track (R := fun _ s => I s) hs (fun _ _ _ _ hI hstep => h.step hI hstep) hrun

/-- If what a stop leaves is always enough for a start, every turn leads on. -/
theorem Keeps.leadsOn (h : M.Keeps I D) (hstart : ∀ s, D s → ∃ s', M.start s = some s')
    (hs : I s) (hpossible : M.possible s i = true) : ∃ s', M.step s i = some s' ∧ I s' := by
  cases hrun : (M.turn i).run s with
  | ok u s' =>
      have hstep := step_of_ok hpossible hrun
      exact ⟨s', hstep, h.step hs hstep⟩
  | error e t =>
      obtain ⟨s', hs'⟩ := hstart t ((h.turn i).error ⟨hs, hpossible⟩ hrun)
      have hstep := (step_of_error hpossible hrun).trans hs'
      exact ⟨s', hstep, h.step hs hstep⟩

/-! ## The life a run is in -/

/-- A run ends in a life that began where it began, or with a start during it. `B` is what is known
    of the states in which lives begin. -/
theorem Keeps.run_lastLife (h : M.Keeps I D) {B : σ → Prop}
    (hbegin : ∀ c b, D c → M.start c = some b → B b) (hI : I s) (hB : B s)
    (hrun : M.run s turns = some s') :
    ∃ pre post b, turns = pre ++ post ∧ M.run s pre = some b ∧ B b ∧ M.life b post = some s' := by
  refine History.foldlM_track_run (R := fun turns s' => ∃ pre post b, turns = pre ++ post ∧
    M.run s pre = some b ∧ B b ∧ M.life b post = some s') ⟨[], [], s, rfl, rfl, hB, rfl⟩ ?_ hrun
  rintro turns s₁ i s₂ hrun₁ ⟨pre, post, b, rfl, hpre, hb, hlife⟩ hstep
  obtain ⟨hpossible, hok | ⟨e, t, herror, hstart⟩⟩ := step_cases hstep
  · -- the life goes on
    refine ⟨pre, post ++ [i], b, by simp, hpre, hb, ?_⟩
    unfold life at hlife ⊢
    rw [List.foldlM_append, hlife]
    simpa using goesOn_iff.2 ⟨hpossible, hok⟩
  · -- the turn has ended it
    have hI₁ : I s₁ := h.run hI hrun₁
    refine ⟨pre ++ post ++ [i], [], s₂, by simp, ?_, ?_, rfl⟩
    · unfold Machine.run
      rw [List.foldlM_append, show (pre ++ post).foldlM M.step s = some s₁ from hrun₁]
      simpa using hstep
    · exact hbegin t s₂ ((h.turn i).error ⟨hI₁, hpossible⟩ herror) hstart

end Keeps

end Machine

end Lives
