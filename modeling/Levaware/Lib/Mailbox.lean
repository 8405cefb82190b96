import Levaware.Lib.WorkQueue

set_option autoImplicit false

/-! # A machine fed through a message queue

Somebody posts messages to a queue of bounded depth, never waiting; a consumer takes them out one at
a time and moves on with each. What the consumer has seen is the start of what was posted and the
queue holds the rest (`run_eq`), so nothing is lost, doubled or taken out of turn, and the consumer
that has caught up depends on what was posted alone. The only limit is how far it may fall behind
(`run_isSome_iff`). -/

namespace Mailbox

variable {α σ : Type} {depth : Nat}

/-- The consumer and the queue before it. -/
structure State (σ α : Type) (depth : Nat) where
  consumer : σ
  queue : MsgQueue α depth

def State.init (s₀ : σ) : State σ α depth := ⟨s₀, .empty α depth⟩

inductive Step (α : Type) where
  | post (x : α)
  | handle
  deriving DecidableEq

/-- One step: a post needs room, the consumer a message. -/
def step (f : σ → α → σ) (s : State σ α depth) : Step α → Option (State σ α depth)
  | .post x => (s.queue.put x).map fun queue => { s with queue }
  | .handle => s.queue.get.map fun got => ⟨f s.consumer got.1, got.2⟩

def run (f : σ → α → σ) (s₀ : σ) (steps : List (Step α)) : Option (State σ α depth) :=
  steps.foldlM (step f) (.init s₀)

/-- What a step posts. -/
def Step.message? : Step α → Option α
  | post x => some x
  | handle => none

def posted (steps : List (Step α)) : List α := steps.filterMap Step.message?

/-- How many messages the consumer has taken. -/
def handled (steps : List (Step α)) : Nat := steps.countP fun a => a.message?.isNone

section Snoc

variable (steps : List (Step α)) (x : α)

@[simp] theorem posted_snoc_post : posted (steps ++ [.post x]) = posted steps ++ [x] := by
  simp [posted, Step.message?]

@[simp] theorem posted_snoc_handle : posted (steps ++ [.handle]) = posted steps := by
  simp [posted, Step.message?]

@[simp] theorem handled_snoc_post : handled (steps ++ [.post x]) = handled steps := by
  simp [handled, Step.message?, List.countP_append]

@[simp] theorem handled_snoc_handle : handled (steps ++ [.handle]) = handled steps + 1 := by
  simp [handled, Step.message?, List.countP_append]

end Snoc

variable {f : σ → α → σ} {s₀ : σ} {steps : List (Step α)} {s s' : State σ α depth}

/-! ## Where everything is -/

/-- The consumer has seen the first of the posted messages, the queue holds the others. -/
structure Delivered (f : σ → α → σ) (s₀ : σ) (steps : List (Step α)) (s : State σ α depth) :
    Prop where
  consumer : s.consumer = ((posted steps).take (handled steps)).foldl f s₀
  queue : s.queue.items = (posted steps).drop (handled steps)
  behind : handled steps ≤ (posted steps).length

theorem Delivered.length (h : Delivered f s₀ steps s) :
    handled steps + s.queue.items.length = (posted steps).length := by
  have hbehind := h.behind
  rw [h.queue, List.length_drop]
  omega

theorem Delivered.step (h : Delivered f s₀ steps s) {a : Step α}
    (hstep : Mailbox.step f s a = some s') : Delivered f s₀ (steps ++ [a]) s' := by
  have hbehind := h.behind
  cases a with
  | post x =>
      obtain ⟨queue, hput, rfl⟩ := Option.map_eq_some_iff.1 hstep
      refine ⟨?_, ?_, ?_⟩
      · rw [posted_snoc_post, handled_snoc_post, List.take_append_of_le_length hbehind]
        exact h.consumer
      · rw [posted_snoc_post, handled_snoc_post, List.drop_append_of_le_length hbehind, ← h.queue]
        exact MsgQueue.items_of_put hput
      · rw [posted_snoc_post, handled_snoc_post, List.length_append]
        omega
  | handle =>
      obtain ⟨⟨x, queue⟩, hget, rfl⟩ := Option.map_eq_some_iff.1 hstep
      have hitems : (posted steps).drop (handled steps) = x :: queue.items := by
        rw [← h.queue]
        exact MsgQueue.items_of_get hget
      have hlt : handled steps < (posted steps).length := by
        by_contra hge
        rw [List.drop_of_length_le (not_lt.1 hge)] at hitems
        cases hitems
      rw [List.drop_eq_getElem_cons hlt] at hitems
      injection hitems with hhead htail
      refine ⟨?_, ?_, ?_⟩
      · rw [posted_snoc_handle, handled_snoc_handle, List.take_add_one,
          List.getElem?_eq_getElem hlt, hhead, Option.toList_some, List.foldl_append, ← h.consumer]
        rfl
      · rw [posted_snoc_handle, handled_snoc_handle]
        exact htail.symm
      · rw [posted_snoc_handle, handled_snoc_handle]
        exact hlt

/-- Nothing is lost, doubled or taken out of turn. -/
theorem run_eq (h : run f s₀ steps = some s) : Delivered f s₀ steps s :=
  History.foldlM_track (R := Delivered f s₀) ⟨rfl, rfl, Nat.le_refl 0⟩
    (fun _ _ _ _ hd hstep => hd.step hstep) h

/-- A consumer that has caught up has seen all that was posted, whatever the schedule was. -/
theorem consumer_of_caughtUp (h : run f s₀ steps = some s) (hempty : s.queue.items = []) :
    s.consumer = (posted steps).foldl f s₀ := by
  have hd := run_eq h
  have hlen := hd.length
  rw [hempty] at hlen
  rw [hd.consumer, List.take_of_length_le (by simpa using hlen.ge)]

/-! ## Which schedules there are -/

/-- The consumer never overtakes the posts, and never falls behind by more than the queue holds. -/
def Keeping (depth : Nat) (steps : List (Step α)) : Prop :=
  handled steps ≤ (posted steps).length ∧ (posted steps).length ≤ handled steps + depth

theorem keeping_of_delivered (h : Delivered f s₀ steps s) : Keeping depth steps := by
  have hfits := s.queue.fits
  have hlen := h.length
  exact ⟨h.behind, by omega⟩

theorem Delivered.step_isSome_iff (h : Delivered f s₀ steps s) (a : Step α) :
    (∃ s', Mailbox.step f s a = some s') ↔ Keeping depth (steps ++ [a]) := by
  constructor
  · rintro ⟨s', hstep⟩
    exact keeping_of_delivered (h.step hstep)
  · intro hkeeping
    have hlen := h.length
    obtain ⟨hover, hbehind⟩ := hkeeping
    cases a with
    | post x =>
        have hroom : s.queue.put x ≠ none := by
          rw [Ne, MsgQueue.put_eq_none_iff]
          rw [posted_snoc_post, handled_snoc_post, List.length_append] at hbehind
          simp only [List.length_singleton] at hbehind
          omega
        obtain ⟨queue, hput⟩ := Option.ne_none_iff_exists'.1 hroom
        exact ⟨_, Option.map_eq_some_iff.2 ⟨queue, hput, rfl⟩⟩
    | handle =>
        obtain ⟨consumer, ⟨items, hfits⟩⟩ := s
        rw [posted_snoc_handle, handled_snoc_handle] at hover
        cases items with
        | nil =>
            simp only [List.length_nil] at hlen
            omega
        | cons x rest => exact ⟨_, rfl⟩

/-- A schedule runs to its end exactly if all along it the consumer keeps up. -/
theorem run_isSome_iff (f : σ → α → σ) (s₀ : σ) (depth : Nat) (steps : List (Step α)) :
    (∃ s : State σ α depth, run f s₀ steps = some s) ↔
      ∀ pre, pre <+: steps → Keeping depth pre := by
  induction steps using List.reverseRecOn with
  | nil =>
      constructor
      · rintro - pre hpre
        rw [List.prefix_nil.1 hpre]
        exact ⟨Nat.le_refl 0, Nat.zero_le _⟩
      · exact fun _ => ⟨.init s₀, rfl⟩
  | append_singleton steps a ih =>
      have hsnoc : ∀ s : State σ α depth, run f s₀ steps = some s →
          run f s₀ (steps ++ [a]) = Mailbox.step f s a := by
        intro s hs
        unfold run at hs ⊢
        rw [List.foldlM_append, hs]
        simp
      constructor
      · rintro ⟨s', hrun⟩ pre hpre
        obtain ⟨s, hs⟩ : ∃ s : State σ α depth, run f s₀ steps = some s := by
          unfold run at hrun ⊢
          rw [List.foldlM_append, Option.bind_eq_bind, Option.bind_eq_some_iff] at hrun
          obtain ⟨s, hs, -⟩ := hrun
          exact ⟨s, hs⟩
        rcases List.prefix_concat_iff.1 hpre with rfl | hpre
        · exact keeping_of_delivered (run_eq hrun)
        · exact ih.1 ⟨s, hs⟩ pre hpre
      · intro hall
        obtain ⟨s, hs⟩ := ih.2 fun pre hpre => hall pre (hpre.trans (List.prefix_append ..))
        obtain ⟨s', hstep⟩ := ((run_eq hs).step_isSome_iff a).2 (hall _ List.prefix_rfl)
        exact ⟨s', (hsnoc s hs).trans hstep⟩

end Mailbox
