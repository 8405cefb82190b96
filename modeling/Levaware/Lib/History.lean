import Mathlib.Data.List.DropRight
import Mathlib.Data.List.Induction

set_option autoImplicit false

/-! # Runs and their histories

A run folds a step function over the list of its inputs, oldest first. The rules here relate the
state a run has reached to the inputs it has seen: what holds at the start and is carried by every
step holds of the whole history. A step may be partial (`Option`), with `none` for a run that never
gets any further. -/

namespace History

variable {σ ι : Type}

/-- A relation between histories and states that every step carries on holds after every run. -/
theorem foldl_track {step : σ → ι → σ} {R : List ι → σ → Prop} {s₀ : σ} (h₀ : R [] s₀)
    (hstep : ∀ h s i, R h s → R (h ++ [i]) (step s i)) (l : List ι) : R l (l.foldl step s₀) := by
  induction l using List.reverseRecOn with
  | nil => exact h₀
  | append_singleton h i ih =>
      rw [List.foldl_append]
      exact hstep h _ i ih

/-- The same for partial steps, for the runs that get to their end. A step may use that its state
    was reached by the history before it. -/
theorem foldlM_track_run {step : σ → ι → Option σ} {R : List ι → σ → Prop} {s₀ : σ} (h₀ : R [] s₀)
    (hstep : ∀ h s i s', h.foldlM step s₀ = some s → R h s → step s i = some s' → R (h ++ [i]) s')
    {l : List ι} {s : σ} (hrun : l.foldlM step s₀ = some s) : R l s := by
  induction l using List.reverseRecOn generalizing s with
  | nil =>
      cases hrun
      exact h₀
  | append_singleton h i ih =>
      rw [List.foldlM_append, Option.bind_eq_bind, Option.bind_eq_some_iff] at hrun
      obtain ⟨s', hrun', hlast⟩ := hrun
      rw [List.foldlM_cons, Option.bind_eq_bind, Option.bind_eq_some_iff] at hlast
      obtain ⟨s'', hstep', hnil⟩ := hlast
      cases hnil
      exact hstep h s' i _ hrun' (ih hrun') hstep'

theorem foldlM_track {step : σ → ι → Option σ} {R : List ι → σ → Prop} {s₀ : σ} (h₀ : R [] s₀)
    (hstep : ∀ h s i s', R h s → step s i = some s' → R (h ++ [i]) s') {l : List ι} {s : σ}
    (hrun : l.foldlM step s₀ = some s) : R l s :=
  foldlM_track_run h₀ (fun h s i s' _ => hstep h s i s') hrun

/-- Steps that never get stuck while an invariant holds, and keep it, make total runs. -/
theorem foldlM_total {step : σ → ι → Option σ} {I : σ → Prop}
    (hstep : ∀ s i, I s → ∃ s', step s i = some s' ∧ I s') (l : List ι) {s₀ : σ} (h₀ : I s₀) :
    ∃ s, l.foldlM step s₀ = some s ∧ I s := by
  induction l generalizing s₀ with
  | nil => exact ⟨s₀, rfl, h₀⟩
  | cons i l ih =>
      obtain ⟨s', hs', hI⟩ := hstep s₀ i h₀
      obtain ⟨s, hrun, hIs⟩ := ih hI
      refine ⟨s, ?_, hIs⟩
      rw [List.foldlM_cons, hs']
      exact hrun

/-! ## Conditions on every step of a run -/

/-- Every step of a run meets a condition on the state it is taken in. -/
def EveryStep (step : σ → ι → Option σ) (s₀ : σ) (C : σ → ι → Prop) (l : List ι) : Prop :=
  ∀ pre i post s, l = pre ++ i :: post → pre.foldlM step s₀ = some s → C s i

section EveryStep

variable {step : σ → ι → Option σ} {s₀ s : σ} {C : σ → ι → Prop} {l : List ι} {i : ι}

theorem everyStep_nil : EveryStep step s₀ C [] := by
  intro pre i post s hl
  simp at hl

theorem everyStep_snoc_iff (hrun : l.foldlM step s₀ = some s) :
    EveryStep step s₀ C (l ++ [i]) ↔ EveryStep step s₀ C l ∧ C s i := by
  constructor
  · intro h
    refine ⟨fun pre j post t hl ht => h pre j (post ++ [i]) t ?_ ht, h l i [] s rfl hrun⟩
    rw [hl, List.append_assoc, List.cons_append]
  · rintro ⟨hall, hlast⟩ pre j post t hl ht
    -- the step is the last one or one of those before it
    rcases post.eq_nil_or_concat with rfl | ⟨post, k, rfl⟩
    · obtain ⟨rfl, hij⟩ := List.append_inj' hl rfl
      cases hij
      rw [hrun] at ht
      cases ht
      exact hlast
    · rw [List.concat_eq_append, ← List.cons_append, ← List.append_assoc] at hl
      exact hall pre j post t (List.append_inj' hl rfl).1 ht

theorem EveryStep.initial {l' : List ι} (h : EveryStep step s₀ C (l ++ l')) :
    EveryStep step s₀ C l := by
  intro pre i post s hl hs
  refine h pre i (post ++ l') s ?_ hs
  rw [hl, List.append_assoc, List.cons_append]

/-- What the steps of a run keep as long as they meet their condition. -/
theorem EveryStep.invariant {I : σ → Prop} (h₀ : I s₀)
    (hkeep : ∀ s i s', I s → C s i → step s i = some s' → I s') (h : EveryStep step s₀ C l)
    (hrun : l.foldlM step s₀ = some s) : I s := by
  refine foldlM_track_run (R := fun l s => EveryStep step s₀ C l → I s) (fun _ => h₀) ?_ hrun h
  intro l s i s' hrun ih hstep hall
  obtain ⟨hbefore, hlast⟩ := (everyStep_snoc_iff hrun).1 hall
  exact hkeep s i s' (ih hbefore) hlast hstep

/-- Two conditions that agree under an invariant, which steps that meet the one keep. -/
theorem everyStep_congr {I : σ → Prop} {C' : σ → ι → Prop} (h₀ : I s₀)
    (hkeep : ∀ s i s', I s → C s i → step s i = some s' → I s')
    (hiff : ∀ s i, I s → (C s i ↔ C' s i)) :
    EveryStep step s₀ C l ↔ EveryStep step s₀ C' l := by
  constructor
  · intro h pre i post s hl hs
    have hpre : EveryStep step s₀ C pre := EveryStep.initial (hl ▸ h)
    exact (hiff s i (hpre.invariant h₀ hkeep hs)).1 (h pre i post s hl hs)
  · intro h pre i post s hl hs
    have hpre : EveryStep step s₀ C' pre := EveryStep.initial (hl ▸ h)
    have hI := hpre.invariant h₀ (fun s i s' hI hC' => hkeep s i s' hI ((hiff s i hI).2 hC')) hs
    exact (hiff s i hI).2 (h pre i post s hl hs)

theorem everyStep_iff_take :
    EveryStep step s₀ C l ↔
      ∀ k : Fin l.length, ∀ s ∈ (l.take k).foldlM step s₀, C s (l.get k) := by
  constructor
  · intro h k s hs
    refine h (l.take k) (l.get k) (l.drop (k + 1)) s ?_ hs
    rw [List.get_eq_getElem, ← List.drop_eq_getElem_cons, List.take_append_drop]
  · rintro h pre i post s rfl hs
    have hk : pre.length < (pre ++ i :: post).length := by simp
    have hC := h ⟨pre.length, hk⟩ s (by simpa using hs)
    simpa using hC

instance [∀ s i, Decidable (C s i)] : Decidable (EveryStep step s₀ C l) :=
  decidable_of_iff _ everyStep_iff_take.symm

end EveryStep

/-! ## Laws of every prefix -/

variable {R : List ι → Prop} {C : List ι → ι → Prop}

/-- A law that each input keeps under a condition of its own, and only then, holds all along a
    sequence of inputs iff every input meets its condition. -/
theorem prefixes_iff (h₀ : R []) (hstep : ∀ pre i, R pre → (R (pre ++ [i]) ↔ C pre i))
    (l : List ι) :
    (∀ pre, pre <+: l → R pre) ↔ ∀ pre i post, l = pre ++ i :: post → C pre i := by
  constructor
  · intro h pre i post hl
    refine (hstep pre i (h pre ⟨i :: post, hl.symm⟩)).mp (h _ ⟨post, ?_⟩)
    rw [hl, List.append_assoc, List.singleton_append]
  · intro h pre hpre
    induction pre using List.reverseRecOn with
    | nil => exact h₀
    | append_singleton pre i ih =>
        obtain ⟨post, hl⟩ := hpre
        rw [List.append_assoc, List.singleton_append] at hl
        exact (hstep pre i (ih ⟨_, hl⟩)).mpr (h pre i post hl.symm)

/-! ## Counting since a reset -/

/-- How many of the inputs since the last one that resets are of a kind. -/
def countSince (resets counts : ι → Bool) (l : List ι) : Nat :=
  (l.rtakeWhile fun i => !resets i).countP counts

section CountSince

variable {resets resets' counts : ι → Bool} {l : List ι} {i : ι}

theorem countSince_snoc :
    countSince resets counts (l ++ [i]) =
      if resets i then 0
      else if counts i then countSince resets counts l + 1 else countSince resets counts l := by
  unfold countSince
  rw [List.rtakeWhile_concat]
  cases resets i with
  | true => simp
  | false => cases hi : counts i <;> simp [List.countP_append, hi]

/-- The count as a counter that every input moves. -/
theorem countSince_eq_foldl :
    countSince resets counts l =
      l.foldl (fun n i => if resets i then 0 else if counts i then n + 1 else n) 0 := by
  induction l using List.reverseRecOn with
  | nil => rfl
  | append_singleton l i ih => rw [countSince_snoc, List.foldl_append, ← ih, List.foldl_cons,
      List.foldl_nil]

/-- The more there is that resets, the less is counted. -/
theorem countSince_le_of_imp (h : ∀ i, resets i → resets' i) :
    countSince resets' counts l ≤ countSince resets counts l := by
  induction l using List.reverseRecOn with
  | nil => exact Nat.le_refl 0
  | append_singleton l i ih =>
      rw [countSince_snoc, countSince_snoc]
      have hi := h i
      split_ifs with h' hc hr hc hr hc <;> first | omega | simp_all

end CountSince

/-! ## Sessions -/

/-- `s` is the part of `l` between two occurrences of `a`, or between one and an end of `l`. -/
structure Session (a : ι) (l pre s post : List ι) : Prop where
  split : l = pre ++ s ++ post
  unbroken : a ∉ s
  opened : ∀ i ∈ pre.getLast?, i = a
  closed : ∀ i ∈ post.head?, i = a

/-- A list up to the first `a`, and the rest. -/
theorem exists_split_first (a : ι) (l : List ι) :
    ∃ v q, l = v ++ q ∧ a ∉ v ∧ ∀ i ∈ q.head?, i = a := by
  induction l with
  | nil => exact ⟨[], [], rfl, by simp, by simp⟩
  | cons i l ih =>
      by_cases hi : i = a
      · exact ⟨[], i :: l, rfl, by simp, by simpa using hi⟩
      · obtain ⟨v, q, hl, hv, hq⟩ := ih
        refine ⟨i :: v, q, by rw [hl, List.cons_append], ?_, hq⟩
        simpa [hv] using fun h => hi h.symm

/-- A list up to and with the last `a`, and the rest. -/
theorem exists_split_last (a : ι) (l : List ι) :
    ∃ p u, l = p ++ u ∧ a ∉ u ∧ ∀ i ∈ p.getLast?, i = a := by
  obtain ⟨v, q, hl, hv, hq⟩ := exists_split_first a l.reverse
  refine ⟨q.reverse, v.reverse, ?_, by simpa using hv, by simpa using hq⟩
  rw [← List.reverse_append, ← hl, List.reverse_reverse]

end History
