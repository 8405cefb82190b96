import Mathlib.Data.List.Basic
import Mathlib.Data.Option.Basic
import Mathlib.Logic.Function.Basic

set_option autoImplicit false

/-! # Writes that may be cut short

An operation writes values to some places, whatever was there before; when it is cut short, only
part of them get there. Each place then has the last value that got there (`run_apply`). Whatever
a cut leaves behind is gone once the operation has been done again in full, even if others came in
between: all cuts that are made good can be left out (`runAll_of_madeGood`). -/

namespace Redo

variable {κ ν : Type}

/-- What is written, and where. -/
abbrev Writes (κ ν : Type) := κ → Option ν

def apply (s : κ → ν) (w : Writes κ ν) : κ → ν := fun k => (w k).getD (s k)

def run (s : κ → ν) (ws : List (Writes κ ν)) : κ → ν := ws.foldl apply s

/-- Some of the writes `w`. -/
def PartOf (w' w : Writes κ ν) : Prop := ∀ k v, w' k = some v → w k = some v

/-- The last value written to a place. -/
def last (ws : List (Writes κ ν)) (k : κ) : Option ν := (ws.filterMap fun w => w k).getLast?

section Run

variable {s : κ → ν} {w w' : Writes κ ν} {ws : List (Writes κ ν)} {k : κ} {v : ν}

theorem last_cons (w : Writes κ ν) (ws : List (Writes κ ν)) (k : κ) :
    last (w :: ws) k = (last ws k).or (w k) := by
  unfold last
  cases hw : w k with
  | none => simp [hw]
  | some v => cases ht : (ws.filterMap fun w => w k).getLast? <;> simp [hw, List.getLast?_cons, ht]

/-- What is there in the end depends on the last write only. -/
theorem run_apply (s : κ → ν) (ws : List (Writes κ ν)) (k : κ) :
    run s ws k = (last ws k).getD (s k) := by
  induction ws generalizing s with
  | nil => rfl
  | cons w rest ih =>
      show run (apply s w) rest k = _
      rw [ih, last_cons]
      cases last rest k <;> rfl

/-- A place that is written once has a last write. -/
theorem last_isSome (hw : w ∈ ws) (hk : w k = some v) : (last ws k).isSome := by
  unfold last
  rw [List.getLast?_isSome]
  exact List.ne_nil_of_mem (List.mem_filterMap.2 ⟨w, hw, hk⟩)

/-- Part of what is written later anyway makes no difference. -/
theorem run_of_partOf (hw : w ∈ ws) (h : PartOf w' w) : run (apply s w') ws = run s ws := by
  funext k
  rw [run_apply, run_apply]
  unfold apply
  cases hk : w' k with
  | none => rfl
  | some v =>
      obtain ⟨u, hu⟩ := Option.isSome_iff_exists.1 (last_isSome hw (h k v hk))
      rw [hu]
      rfl

end Run

/-! ## Operations that are cut short -/

inductive Attempt (κ ν : Type) where
  | whole (w : Writes κ ν)
  /-- what gets there of an operation that is cut short -/
  | cut (w' : Writes κ ν)

/-- What an attempt gets to its place. -/
def Attempt.writes : Attempt κ ν → Writes κ ν
  | .whole w => w
  | .cut w' => w'

/-- The operations that are done in full. -/
def Attempt.whole? : Attempt κ ν → Option (Writes κ ν)
  | .whole w => some w
  | .cut _ => none

def runAll (s : κ → ν) (as : List (Attempt κ ν)) : κ → ν := run s (as.map Attempt.writes)

/-- Each operation that is cut short is done in full later on. -/
def MadeGood : List (Attempt κ ν) → Prop
  | [] => True
  | .whole _ :: rest => MadeGood rest
  | .cut w' :: rest => (∃ w ∈ rest.filterMap Attempt.whole?, PartOf w' w) ∧ MadeGood rest

/-- Cuts that are made good leave nothing behind. -/
theorem runAll_of_madeGood (s : κ → ν) {as : List (Attempt κ ν)} (h : MadeGood as) :
    runAll s as = run s (as.filterMap Attempt.whole?) := by
  induction as generalizing s with
  | nil => rfl
  | cons a rest ih =>
      cases a with
      | whole w => exact ih (apply s w) h
      | cut w' =>
          obtain ⟨⟨w, hw, hpart⟩, hrest⟩ := h
          calc runAll s (.cut w' :: rest) = run (apply s w') (rest.filterMap Attempt.whole?) :=
                ih (apply s w') hrest
            _ = run s (rest.filterMap Attempt.whole?) := run_of_partOf hw hpart

end Redo
