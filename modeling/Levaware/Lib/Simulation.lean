import Levaware.Lib.Abort

set_option autoImplicit false

/-! # Comparing two programs or two machines

`Abort.Alike` compares two state programs run from related states: both return the same, or both
stop for the same reason, in states that are related again. `Simulation.foldlM_simulates` compares
two step functions: each step of the one is some steps of the other. -/

namespace Abort

variable {ε σ τ σ' τ' α β ι : Type}

/-- From states related by `pre`, both programs return the same value with `post`, or both stop for
    the same reason with `stop`. -/
def Alike (pre : σ → τ → Prop) (m : EStateM ε σ α) (m' : EStateM ε τ α)
    (post stop : σ → τ → Prop) : Prop :=
  ∀ s t, pre s t →
    (∃ a s' t', m.run s = .ok a s' ∧ m'.run t = .ok a t' ∧ post s' t') ∨
    ∃ e s' t', m.run s = .error e s' ∧ m'.run t = .error e t' ∧ stop s' t'

section Alike

variable {pre mid post stop : σ → τ → Prop}

theorem Alike.pure {a : α} (h : ∀ s t, pre s t → post s t) :
    Alike pre (pure a : EStateM ε σ α) (pure a : EStateM ε τ α) post stop :=
  fun s t hst => Or.inl ⟨a, s, t, rfl, rfl, h s t hst⟩

theorem Alike.throw {e : ε} (h : ∀ s t, pre s t → stop s t) :
    Alike pre (throw e : EStateM ε σ α) (throw e : EStateM ε τ α) post stop :=
  fun s t hst => Or.inr ⟨e, s, t, rfl, rfl, h s t hst⟩

theorem Alike.modify {f : σ → σ} {g : τ → τ} (h : ∀ s t, pre s t → post (f s) (g t)) :
    Alike pre (modify f : EStateM ε σ PUnit) (modify g : EStateM ε τ PUnit) post stop :=
  fun s t hst => Or.inl ⟨⟨⟩, f s, g t, rfl, rfl, h s t hst⟩

theorem Alike.bind {m : EStateM ε σ α} {m' : EStateM ε τ α} {f : α → EStateM ε σ β}
    {f' : α → EStateM ε τ β} (hm : Alike pre m m' mid stop)
    (hf : ∀ a, Alike mid (f a) (f' a) post stop) :
    Alike pre (m >>= f) (m' >>= f') post stop := by
  intro s t hst
  rcases hm s t hst with ⟨a, s', t', hs, ht, hmid⟩ | ⟨e, s', t', hs, ht, hstop⟩
  · rw [run_bind_ok hs, run_bind_ok ht]
    exact hf a s' t' hmid
  · rw [run_bind_error hs, run_bind_error ht]
    exact Or.inr ⟨e, s', t', rfl, rfl, hstop⟩

/-- What is read of the states may be used: they are fixed while it is. -/
theorem Alike.get_bind {f : σ → EStateM ε σ α} {f' : τ → EStateM ε τ α}
    (hf : ∀ s t, pre s t → Alike (fun s' t' => s' = s ∧ t' = t) (f s) (f' t) post stop) :
    Alike pre (MonadState.get >>= f) (MonadState.get >>= f') post stop := by
  intro s t hst
  rw [run_bind_ok (EStateM.run_get s), run_bind_ok (EStateM.run_get t)]
  exact hf s t hst s t ⟨rfl, rfl⟩

theorem Alike.conseq {m : EStateM ε σ α} {m' : EStateM ε τ α} {pre' post' stop' : σ → τ → Prop}
    (h : Alike pre m m' post stop) (hpre : ∀ s t, pre' s t → pre s t)
    (hpost : ∀ s t, post s t → post' s t) (hstop : ∀ s t, stop s t → stop' s t) :
    Alike pre' m m' post' stop' := by
  intro s t hst
  rcases h s t (hpre s t hst) with ⟨a, s', t', hs, ht, hp⟩ | ⟨e, s', t', hs, ht, hp⟩
  · exact Or.inl ⟨a, s', t', hs, ht, hpost s' t' hp⟩
  · exact Or.inr ⟨e, s', t', hs, ht, hstop s' t' hp⟩

theorem Alike.ite {c : Prop} [Decidable c] {m n : EStateM ε σ α} {m' n' : EStateM ε τ α}
    (hm : c → Alike pre m m' post stop) (hn : ¬ c → Alike pre n n' post stop) :
    Alike pre (if c then m else n) (if c then m' else n') post stop := by
  split
  · next h => exact hm h
  · next h => exact hn h

theorem Alike.discard {m : EStateM ε σ α} {m' : EStateM ε τ α} (h : Alike pre m m' post stop) :
    Alike pre (discard m : EStateM ε σ PUnit) (discard m' : EStateM ε τ PUnit) post stop := by
  intro s t hst
  rw [run_discard, run_discard]
  rcases h s t hst with ⟨a, s', t', hs, ht, hp⟩ | ⟨e, s', t', hs, ht, hp⟩
  · rw [hs, ht]
    exact Or.inl ⟨⟨⟩, s', t', rfl, rfl, hp⟩
  · rw [hs, ht]
    exact Or.inr ⟨e, s', t', rfl, rfl, hp⟩

theorem Alike.forM {l : List ι} {f : ι → EStateM ε σ PUnit} {f' : ι → EStateM ε τ PUnit}
    (h : ∀ x ∈ l, Alike pre (f x) (f' x) pre stop) : Alike pre (l.forM f) (l.forM f') pre stop := by
  induction l with
  | nil => exact Alike.pure fun _ _ hst => hst
  | cons x rest ih =>
      refine (h x (List.mem_cons_self ..)).bind fun _ => ih ?_
      intro y hy
      exact h y (List.mem_cons_of_mem _ hy)

theorem Alike.foldlM {l : List ι} {f : α → ι → EStateM ε σ α} {f' : α → ι → EStateM ε τ α}
    (h : ∀ a, ∀ x ∈ l, Alike pre (f a x) (f' a x) pre stop) (a : α) :
    Alike pre (l.foldlM f a) (l.foldlM f' a) pre stop := by
  induction l generalizing a with
  | nil => exact Alike.pure fun _ _ hst => hst
  | cons x rest ih =>
      rw [List.foldlM_cons, List.foldlM_cons]
      refine (h a x (List.mem_cons_self ..)).bind fun a' => ih ?_ a'
      intro b y hy
      exact h b y (List.mem_cons_of_mem _ hy)

/-- The same program on a component of two larger states. -/
theorem Alike.zoom {m : EStateM ε σ α} {m' : EStateM ε τ α} {get : σ' → σ} {set : σ → σ' → σ'}
    {get' : τ' → τ} {set' : τ → τ' → τ'} {Pre Post Stop : σ' → τ' → Prop}
    (h : Alike pre m m' post stop) (hpre : ∀ s t, Pre s t → pre (get s) (get' t))
    (hpost : ∀ s t a b, Pre s t → post a b → Post (set a s) (set' b t))
    (hstop : ∀ s t a b, Pre s t → stop a b → Stop (set a s) (set' b t)) :
    Alike Pre (zoom get set m) (zoom get' set' m') Post Stop := by
  intro s t hst
  rw [run_zoom, run_zoom]
  rcases h _ _ (hpre s t hst) with ⟨a, s', t', hs, ht, hp⟩ | ⟨e, s', t', hs, ht, hp⟩
  · rw [hs, ht]
    exact Or.inl ⟨a, _, _, rfl, rfl, hpost s t s' t' hst hp⟩
  · rw [hs, ht]
    exact Or.inr ⟨e, _, _, rfl, rfl, hstop s t s' t' hst hp⟩

end Alike

end Abort

/-! ## Machines -/

namespace Simulation

variable {σ τ ι κ : Type}

/-- If a function takes the steps of one machine to those of another, it takes runs to runs. -/
theorem foldlM_map {step : σ → ι → Option σ} {step' : τ → ι → Option τ} {f : σ → τ}
    (hstep : ∀ s i, (step s i).map f = step' (f s) i) (l : List ι) (s : σ) :
    (l.foldlM step s).map f = l.foldlM step' (f s) := by
  induction l generalizing s with
  | nil => rfl
  | cons i l ih =>
      rw [List.foldlM_cons, List.foldlM_cons, ← hstep]
      cases step s i with
      | none => rfl
      | some s' => exact ih s'

/-- If each step of a machine is matched by some steps of another, a run is matched by a run. -/
theorem foldlM_simulates {step : σ → ι → Option σ} {step' : τ → κ → Option τ} {R : σ → τ → Prop}
    {L : ι → List κ → Prop}
    (hstep : ∀ s t i s', R s t → step s i = some s' →
      ∃ ks t', L i ks ∧ ks.foldlM step' t = some t' ∧ R s' t')
    {l : List ι} {s s' : σ} {t : τ} (hR : R s t) (hrun : l.foldlM step s = some s') :
    ∃ (kss : List (List κ)) (t' : τ), List.Forall₂ L l kss ∧
      kss.flatten.foldlM step' t = some t' ∧ R s' t' := by
  induction l generalizing s t with
  | nil =>
      cases hrun
      exact ⟨[], t, .nil, rfl, hR⟩
  | cons i l ih =>
      rw [List.foldlM_cons, Option.bind_eq_bind, Option.bind_eq_some_iff] at hrun
      obtain ⟨s₁, hs₁, hrun⟩ := hrun
      obtain ⟨ks, t₁, hL, hks, hR₁⟩ := hstep s t i s₁ hR hs₁
      obtain ⟨kss, t', hLs, hkss, hR'⟩ := ih hR₁ hrun
      refine ⟨ks :: kss, t', .cons hL hLs, ?_, hR'⟩
      rw [List.flatten_cons, List.foldlM_append, hks]
      exact hkss

end Simulation
