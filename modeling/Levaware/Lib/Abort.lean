import Mathlib.Control.Basic
import Mathlib.Data.List.Basic

set_option autoImplicit false

/-! # State programs that may stop for good

A program `EStateM ε σ α` transforms a state `σ` and either returns an `α` or stops with a reason
`ε`, keeping the state it had reached. `Abort.Triple` is the program logic for both ways out: one
postcondition for a return, one for a stop. `Abort.zoom` runs a program on a component of a larger
state. Nothing here depends on what the states are. -/

namespace Abort

variable {ε σ τ α β : Type}

/-! ## Running a composition -/

@[simp] theorem run_map (m : EStateM ε σ α) (f : α → β) (s : σ) :
    (f <$> m).run s = match m.run s with
      | .ok a s' => .ok (f a) s'
      | .error e s' => .error e s' := by
  rw [map_eq_pure_bind, EStateM.run_bind]
  rfl

theorem run_discard (m : EStateM ε σ α) (s : σ) :
    (discard m).run s = match m.run s with
      | .ok _ s' => .ok ⟨⟩ s'
      | .error e s' => .error e s' :=
  run_map m (Function.const α PUnit.unit) s

theorem run_ite (c : Prop) [Decidable c] (m n : EStateM ε σ α) (s : σ) :
    (if c then m else n).run s = if c then m.run s else n.run s := by
  split <;> rfl

theorem run_bind_ok {m : EStateM ε σ α} {f : α → EStateM ε σ β} {s s' : σ} {a : α}
    (h : m.run s = .ok a s') : (m >>= f).run s = (f a).run s' := by
  rw [EStateM.run_bind, h]

theorem run_bind_error {m : EStateM ε σ α} {f : α → EStateM ε σ β} {s s' : σ} {e : ε}
    (h : m.run s = .error e s') : (m >>= f).run s = .error e s' := by
  rw [EStateM.run_bind, h]

/-- A composition that returns has returned half-way. -/
theorem run_bind_ok_iff {m : EStateM ε σ α} {f : α → EStateM ε σ β} {s t : σ} {b : β} :
    (m >>= f).run s = .ok b t ↔ ∃ a s', m.run s = .ok a s' ∧ (f a).run s' = .ok b t := by
  rw [EStateM.run_bind]
  cases m.run s <;> simp

/-! ## Triples -/

/-- From every state with `pre`, `m` either returns with `post` or stops with `stop`. -/
def Triple (pre : σ → Prop) (m : EStateM ε σ α) (post : α → σ → Prop) (stop : ε → σ → Prop) :
    Prop :=
  ∀ s, pre s → match m.run s with
    | .ok a s' => post a s'
    | .error e s' => stop e s'

section Rules

variable {pre : σ → Prop} {stop : ε → σ → Prop}

theorem Triple.ok {m : EStateM ε σ α} {post : α → σ → Prop} (h : Triple pre m post stop)
    {s s' : σ} {a : α} (hs : pre s) (hm : m.run s = .ok a s') : post a s' := by
  have := h s hs
  rwa [hm] at this

theorem Triple.error {m : EStateM ε σ α} {post : α → σ → Prop} (h : Triple pre m post stop)
    {s s' : σ} {e : ε} (hs : pre s) (hm : m.run s = .error e s') : stop e s' := by
  have := h s hs
  rwa [hm] at this

theorem Triple.trivial (m : EStateM ε σ α) :
    Triple (fun _ => True) m (fun _ _ => True) (fun _ _ => True) := by
  intro s _
  cases m.run s with
  | ok a s' => exact True.intro
  | error e s' => exact True.intro

theorem Triple.pure {post : α → σ → Prop} {a : α} (h : ∀ s, pre s → post a s) :
    Triple pre (pure a : EStateM ε σ α) post stop :=
  fun s hs => h s hs

theorem Triple.throw {post : α → σ → Prop} {e : ε} (h : ∀ s, pre s → stop e s) :
    Triple pre (throw e : EStateM ε σ α) post stop :=
  fun s hs => h s hs

theorem Triple.get {post : σ → σ → Prop} (h : ∀ s, pre s → post s s) :
    Triple pre (get : EStateM ε σ σ) post stop :=
  fun s hs => h s hs

theorem Triple.modify {post : PUnit → σ → Prop} {f : σ → σ} (h : ∀ s, pre s → post ⟨⟩ (f s)) :
    Triple pre (modify f : EStateM ε σ PUnit) post stop :=
  fun s hs => h s hs

theorem Triple.bind {m : EStateM ε σ α} {f : α → EStateM ε σ β} {mid : α → σ → Prop}
    {post : β → σ → Prop} (hm : Triple pre m mid stop) (hf : ∀ a, Triple (mid a) (f a) post stop) :
    Triple pre (m >>= f) post stop := by
  intro s hs
  cases h : m.run s with
  | ok a s' =>
      rw [run_bind_ok h]
      exact hf a s' (hm.ok hs h)
  | error e s' =>
      rw [run_bind_error h]
      exact hm.error hs h

theorem Triple.discard {m : EStateM ε σ α} {post : σ → Prop}
    (h : Triple pre m (fun _ => post) stop) :
    Triple pre (discard m : EStateM ε σ PUnit) (fun _ => post) stop := by
  intro s hs
  rw [run_discard]
  cases hm : m.run s with
  | ok a s' => exact h.ok hs hm
  | error e s' => exact h.error hs hm

theorem Triple.conseq {m : EStateM ε σ α} {pre' : σ → Prop} {post post' : α → σ → Prop}
    {stop' : ε → σ → Prop} (h : Triple pre m post stop) (hpre : ∀ s, pre' s → pre s)
    (hpost : ∀ a s, post a s → post' a s) (hstop : ∀ e s, stop e s → stop' e s) :
    Triple pre' m post' stop' := by
  intro s hs
  cases hm : m.run s with
  | ok a s' => exact hpost a s' (h.ok (hpre s hs) hm)
  | error e s' => exact hstop e s' (h.error (hpre s hs) hm)

/-- A triple may be proved for one start state at a time. -/
theorem Triple.of_each {m : EStateM ε σ α} {post : α → σ → Prop}
    (h : ∀ s₀, pre s₀ → Triple (fun s => s = s₀) m post stop) : Triple pre m post stop :=
  fun s hs => h s hs s rfl

theorem Triple.ite {c : Prop} [Decidable c] {m n : EStateM ε σ α} {post : α → σ → Prop}
    (hm : c → Triple pre m post stop) (hn : ¬ c → Triple pre n post stop) :
    Triple pre (if c then m else n) post stop := by
  split
  · next h => exact hm h
  · next h => exact hn h

/-- A loop over a list keeps an invariant that may mention the part of the list already done. -/
theorem Triple.forM {l : List α} {f : α → EStateM ε σ PUnit} {I : List α → σ → Prop}
    (hf : ∀ pre x post, l = pre ++ x :: post →
      Triple (I pre) (f x) (fun _ => I (pre ++ [x])) stop) :
    Triple (I []) (l.forM f) (fun _ => I l) stop := by
  suffices h : ∀ (rest done : List α), l = done ++ rest →
      Triple (I done) (rest.forM f) (fun _ => I l) stop from h l [] rfl
  intro rest
  induction rest with
  | nil =>
      intro done hl
      rw [List.append_nil] at hl
      subst hl
      exact Triple.pure fun _ hs => hs
  | cons x rest ih =>
      intro done hl
      have hx := hf done x rest hl
      have hrest := ih (done ++ [x]) (by simpa using hl)
      exact hx.bind fun _ => hrest

end Rules

/-! ## The state a program ends in -/

/-- The state at the return or at the stop. -/
def final (m : EStateM ε σ α) (s : σ) : σ :=
  match m.run s with
  | .ok _ s' => s'
  | .error _ s' => s'

theorem final_ok {m : EStateM ε σ α} {s s' : σ} {a : α} (h : m.run s = .ok a s') :
    final m s = s' := by
  unfold final
  rw [h]

theorem final_error {m : EStateM ε σ α} {s s' : σ} {e : ε} (h : m.run s = .error e s') :
    final m s = s' := by
  unfold final
  rw [h]

theorem final_bind_ok {m : EStateM ε σ α} {f : α → EStateM ε σ β} {s s' : σ} {a : α}
    (h : m.run s = .ok a s') : final (m >>= f) s = final (f a) s' := by
  unfold final
  rw [run_bind_ok h]

theorem Triple.final {pre post : σ → Prop} {m : EStateM ε σ α}
    (h : Triple pre m (fun _ => post) (fun _ => post)) {s : σ} (hs : pre s) :
    post (Abort.final m s) := by
  unfold Abort.final
  cases hm : m.run s with
  | ok a s' => exact h.ok hs hm
  | error e s' => exact h.error hs hm

/-! ## Preserving an invariant -/

/-- `m` keeps `I` when it returns, and leaves `J` when it stops. -/
def Preserves (I J : σ → Prop) (m : EStateM ε σ α) : Prop :=
  Triple I m (fun _ => I) (fun _ => J)

section Preserves

variable {I J : σ → Prop}

theorem Preserves.pure (a : α) : Preserves I J (pure a : EStateM ε σ α) := Triple.pure fun _ h => h

theorem Preserves.throw (h : ∀ s, I s → J s) (e : ε) : Preserves I J (throw e : EStateM ε σ α) :=
  Triple.throw h

theorem Preserves.get : Preserves I J (get : EStateM ε σ σ) := Triple.get fun _ h => h

theorem Preserves.modify {f : σ → σ} (h : ∀ s, I s → I (f s)) :
    Preserves I J (modify f : EStateM ε σ PUnit) := Triple.modify h

theorem Preserves.bind {m : EStateM ε σ α} {f : α → EStateM ε σ β} (hm : Preserves I J m)
    (hf : ∀ a, Preserves I J (f a)) : Preserves I J (m >>= f) := Triple.bind hm hf

theorem Preserves.ite {c : Prop} [Decidable c] {m n : EStateM ε σ α}
    (hm : c → Preserves I J m) (hn : ¬ c → Preserves I J n) :
    Preserves I J (if c then m else n) := Triple.ite hm hn

theorem Preserves.discard {m : EStateM ε σ α} (h : Preserves I J m) :
    Preserves I J (discard m : EStateM ε σ PUnit) := Triple.discard h

theorem Preserves.forM {l : List β} {f : β → EStateM ε σ PUnit}
    (h : ∀ x ∈ l, Preserves I J (f x)) : Preserves I J (l.forM f) := by
  induction l with
  | nil => exact Preserves.pure _
  | cons x rest ih =>
      refine (h x (List.mem_cons_self ..)).bind fun _ => ih ?_
      intro y hy
      exact h y (List.mem_cons_of_mem _ hy)

/-- What is read of the state may be used: the start state is fixed while it is. -/
theorem Preserves.get_bind {f : σ → EStateM ε σ α}
    (hf : ∀ s₀, I s₀ → Triple (fun s => s = s₀) (f s₀) (fun _ => I) (fun _ => J)) :
    Preserves I J (MonadState.get >>= f) := by
  intro s hs
  rw [run_bind_ok (EStateM.run_get s)]
  exact hf s hs s rfl

end Preserves

/-! ## Working on a component of the state -/

/-- Run `m` on the component of the state that `get` reads and `set` writes. -/
def zoom (get : τ → σ) (set : σ → τ → τ) (m : EStateM ε σ α) : EStateM ε τ α := fun t =>
  match m.run (get t) with
  | .ok a s => .ok a (set s t)
  | .error e s => .error e (set s t)

theorem run_zoom (get : τ → σ) (set : σ → τ → τ) (m : EStateM ε σ α) (t : τ) :
    (zoom get set m).run t = match m.run (get t) with
      | .ok a s => .ok a (set s t)
      | .error e s => .error e (set s t) := rfl

theorem run_zoom_ok_iff {get : τ → σ} {set : σ → τ → τ} {m : EStateM ε σ α} {t t' : τ} {a : α} :
    (zoom get set m).run t = .ok a t' ↔ ∃ s, m.run (get t) = .ok a s ∧ t' = set s t := by
  rw [run_zoom]
  cases m.run (get t) <;> simp [eq_comm]

theorem Triple.zoom {get : τ → σ} {set : σ → τ → τ} {m : EStateM ε σ α} {pre : σ → Prop}
    {post : α → σ → Prop} {stop : ε → σ → Prop} (h : Triple pre m post stop)
    (hget : ∀ s t, get (set s t) = s) :
    Triple (fun t => pre (get t)) (Abort.zoom get set m) (fun a t => post a (get t))
      (fun e t => stop e (get t)) := by
  intro t ht
  rw [run_zoom]
  cases hm : m.run (get t) with
  | ok a s =>
      show post a (get (set s t))
      rw [hget]
      exact h.ok ht hm
  | error e s =>
      show stop e (get (set s t))
      rw [hget]
      exact h.error ht hm

end Abort
