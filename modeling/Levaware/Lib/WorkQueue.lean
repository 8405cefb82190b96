import Levaware.Lib.History

set_option autoImplicit false

/-! # Bounded queues and work items

Two things a kernel offers: a message queue with room for a fixed number of messages, and a work
item that a queue of work runs later. Submitting an item that is pending does nothing, so several
submits may lead to one run of its handler. `Wakeup` is the pattern built from the two: items are
posted to a queue, each post submits the work item, and each run of the handler takes one item. Its
law says how many items are left behind (`Wakeup.run_accounts`). -/

/-! ## Message queues -/

/-- A queue of at most `depth` messages, oldest first. -/
structure MsgQueue (α : Type) (depth : Nat) where
  items : List α
  fits : items.length ≤ depth

namespace MsgQueue

variable {α : Type} {depth : Nat} {q q' : MsgQueue α depth} {x : α}

def empty (α : Type) (depth : Nat) : MsgQueue α depth := ⟨[], Nat.zero_le depth⟩

/-- Put a message without waiting: `none` when there is no room. -/
def put (q : MsgQueue α depth) (x : α) : Option (MsgQueue α depth) :=
  if h : q.items.length < depth then
    some ⟨q.items ++ [x], by rw [List.length_append, List.length_singleton]; omega⟩
  else none

/-- Take the oldest message: `none` when there is none. -/
def get (q : MsgQueue α depth) : Option (α × MsgQueue α depth) :=
  match q with
  | ⟨[], _⟩ => none
  | ⟨x :: rest, h⟩ => some (x, ⟨rest, Nat.le_of_succ_le h⟩)

theorem put_eq_none_iff : q.put x = none ↔ q.items.length = depth := by
  have hfits := q.fits
  unfold put
  split
  · simp only [reduceCtorEq, false_iff]
    omega
  · simp only [true_iff]
    omega

theorem items_of_put (h : q.put x = some q') : q'.items = q.items ++ [x] := by
  unfold put at h
  split at h
  · cases h
    rfl
  · cases h

theorem items_of_get (h : q.get = some (x, q')) : q.items = x :: q'.items := by
  obtain ⟨items, hfits⟩ := q
  cases items with
  | nil => cases h
  | cons y rest =>
      cases h
      rfl

end MsgQueue

/-! ## Work items -/

/-- A work item: waiting to be run, and being run. Both at once means that it runs once more. -/
structure WorkItem where
  pending : Bool
  running : Bool
  deriving DecidableEq

namespace WorkItem

def init : WorkItem := ⟨false, false⟩

/-- A submit makes the item pending, or leaves it so. -/
def submit (w : WorkItem) : WorkItem := { w with pending := true }

/-- The thread of the work queue takes the item and calls its handler. -/
def start (w : WorkItem) : Option WorkItem :=
  if w.pending ∧ ¬ w.running then some ⟨false, true⟩ else none

/-- The handler returns. -/
def finish (w : WorkItem) : WorkItem := { w with running := false }

end WorkItem

/-! ## Items handled one a run -/

namespace Wakeup

variable {α : Type}

/-- The queue of items, how many posts have yet to submit the work item, the item, whether the
    running handler has taken its message, and how many submits have found the item pending. -/
structure State (α : Type) where
  queue : List α
  kicks : Nat
  work : WorkItem
  taken : Bool
  coalesced : Nat

def State.init : State α := ⟨[], 0, .init, false, 0⟩

inductive Step (α : Type) where
  | post (x : α)
  | submit
  | start
  | take
  | finish

/-- One step, `none` where it cannot happen: a handler without a message to take waits. -/
def step (s : State α) : Step α → Option (State α)
  | .post x => some { s with queue := s.queue ++ [x], kicks := s.kicks + 1 }
  | .submit =>
      if 0 < s.kicks then
        some { s with
          kicks := s.kicks - 1
          work := s.work.submit
          coalesced := s.coalesced + s.work.pending.toNat }
      else none
  | .start => s.work.start.map fun work => { s with work, taken := false }
  | .take =>
      if s.work.running ∧ ¬ s.taken then
        match s.queue with
        | [] => none
        | _ :: rest => some { s with queue := rest, taken := true }
      else none
  | .finish =>
      if s.work.running ∧ s.taken then some { s with work := s.work.finish, taken := false }
      else none

/-- The runs of the handler that are still to take a message: the ones submits will ask for, the one
    asked for, and the one under way. -/
def State.owed (s : State α) : Nat :=
  s.kicks + s.work.pending.toNat + (s.work.running && !s.taken).toNat

/-- Every item waits for a run that is owed, or its own submit found the work item pending. -/
def Accounts (s : State α) : Prop := s.queue.length = s.coalesced + s.owed

theorem init_accounts : Accounts (State.init : State α) := rfl

/-- A submit either owes a run or is lost; a run that starts takes one message. -/
theorem step_accounts {s s' : State α} {a : Step α} (h : Accounts s) (hstep : step s a = some s') :
    Accounts s' := by
  unfold Accounts State.owed at h ⊢
  cases a with
  | post x =>
      cases hstep
      simp only [List.length_append, List.length_singleton]
      omega
  | submit =>
      -- a pending item makes the submit one that is lost, any other makes it a run to come
      simp only [step] at hstep
      split at hstep
      · cases hstep
        simp only [WorkItem.submit, Bool.toNat_true]
        omega
      · cases hstep
  | start =>
      obtain ⟨work, hwork, rfl⟩ := Option.map_eq_some_iff.1 hstep
      unfold WorkItem.start at hwork
      split at hwork
      · next hready =>
          cases hwork
          simpa [hready.1, hready.2] using h
      · cases hwork
  | take =>
      simp only [step] at hstep
      split at hstep
      · next hrunning =>
          cases hq : s.queue with
          | nil =>
              rw [hq] at hstep
              cases hstep
          | cons x rest =>
              rw [hq] at hstep h
              cases hstep
              simp only [List.length_cons, hrunning.1, hrunning.2, Bool.not_false, Bool.and_self,
                Bool.toNat_true] at h
              simp only [Bool.not_true, Bool.and_false, Bool.toNat_false]
              omega
      · cases hstep
  | finish =>
      simp only [step] at hstep
      split at hstep
      · next hdone =>
          cases hstep
          simpa [WorkItem.finish, hdone.2] using h
      · cases hstep

/-- The state after some steps. -/
def run (s : State α) (steps : List (Step α)) : Option (State α) := steps.foldlM step s

theorem run_accounts {steps : List (Step α)} {s : State α} (h : run .init steps = some s) :
    Accounts s :=
  History.foldlM_track (R := fun _ s => Accounts s) init_accounts
    (fun _ _ _ _ hs hstep => step_accounts hs hstep) h

/-- What is in the queue while the work item is neither pending nor running: the items whose submit
    is to come and those whose submit was lost. -/
theorem length_queue_of_idle {s : State α} (h : Accounts s) (hpending : s.work.pending = false)
    (hrunning : s.work.running = false) : s.queue.length = s.coalesced + s.kicks := by
  simpa [Accounts, State.owed, hpending, hrunning] using h

end Wakeup
