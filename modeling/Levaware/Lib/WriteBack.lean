import Mathlib.Data.List.Basic
import Mathlib.Logic.Function.Basic

set_option autoImplicit false

/-! # Registers in front of a disk

A bank of registers, each with a value in memory, a value on disk and a mark that the first is to
be written to the second. A crash leaves what is on disk. The registers do not influence each other
(`run_apply`), and what a crash leaves in one is the last value that was marked and then flushed
before anything else happened to it (`disk_of_flushed`). -/

namespace WriteBack

variable {κ ν : Type}

/-! ## One register -/

structure Cell (ν : Type) where
  ram : ν
  dirty : Bool
  disk : ν
  deriving DecidableEq

inductive CellOp (ν : Type) where
  /-- a new value, to be saved or not -/
  | write (v : ν) (mark : Bool)
  | flush
  | crash

namespace Cell

def step (c : Cell ν) : CellOp ν → Cell ν
  | .write v mark => { c with ram := v, dirty := mark }
  | .flush => if c.dirty then { ram := c.ram, dirty := false, disk := c.ram } else c
  | .crash => { ram := c.disk, dirty := false, disk := c.disk }

def run (c : Cell ν) (ops : List (CellOp ν)) : Cell ν := ops.foldl step c

/-- Memory and disk agree, and nothing waits. -/
def synced (v : ν) : Cell ν := ⟨v, false, v⟩

variable {c : Cell ν} {v : ν} {ops : List (CellOp ν)}

theorem run_append (c : Cell ν) (ops rest : List (CellOp ν)) :
    c.run (ops ++ rest) = (c.run ops).run rest := List.foldl_append

@[simp] theorem step_flush_of_clean (h : c.dirty = false) : c.step .flush = c := by
  simp [step, h]

@[simp] theorem step_flush_of_dirty (h : c.dirty = true) : c.step .flush = synced c.ram := by
  simp [step, h, synced]

/-- Writing through. -/
theorem run_through (c : Cell ν) (v : ν) : c.run [.write v true, .flush] = synced v := rfl

/-- Nothing in the list asks for a value to be saved. -/
def Unmarked (ops : List (CellOp ν)) : Prop := ∀ w, CellOp.write w true ∉ ops

/-- Without a mark nothing gets to the disk. -/
theorem run_disk_of_unmarked (h : Unmarked ops) (hclean : c.dirty = false) :
    (c.run ops).disk = c.disk := by
  suffices hboth : (c.run ops).dirty = false ∧ (c.run ops).disk = c.disk from hboth.2
  induction ops generalizing c with
  | nil => exact ⟨hclean, rfl⟩
  | cons op rest ih =>
      have hrest : Unmarked rest := fun w hw => h w (List.mem_cons_of_mem _ hw)
      have hstep : (c.step op).dirty = false ∧ (c.step op).disk = c.disk := by
        cases op with
        | write w mark =>
            cases mark with
            | true => exact absurd (List.mem_cons_self ..) (h w)
            | false => exact ⟨rfl, rfl⟩
        | flush => simp [hclean]
        | crash => exact ⟨rfl, rfl⟩
      obtain ⟨hd, hdisk⟩ := ih hrest hstep.1
      exact ⟨hd, hdisk.trans hstep.2⟩

/-- A value that was marked and flushed survives everything but another mark. -/
theorem disk_of_flushed (c : Cell ν) (ops rest : List (CellOp ν)) (v : ν) (h : Unmarked rest) :
    (c.run (ops ++ .write v true :: .flush :: rest)).disk = v := by
  rw [show ops ++ .write v true :: .flush :: rest
      = (ops ++ [.write v true, .flush]) ++ rest by simp, run_append, run_append, run_through]
  exact run_disk_of_unmarked h rfl

end Cell

/-! ## The bank -/

abbrev Bank (κ ν : Type) := κ → Cell ν

inductive Op (κ ν : Type) where
  | on (k : κ) (op : CellOp ν)
  /-- a crash is one for all -/
  | crash

variable [DecidableEq κ]

def step (s : Bank κ ν) : Op κ ν → Bank κ ν
  | .on k op => Function.update s k ((s k).step op)
  | .crash => fun k => (s k).step .crash

def run (s : Bank κ ν) (ops : List (Op κ ν)) : Bank κ ν := ops.foldl step s

/-- What one register sees of an operation. -/
def Op.seenBy (k : κ) : Op κ ν → Option (CellOp ν)
  | .on k' op => if k' = k then some op else none
  | .crash => some .crash

theorem run_append (s : Bank κ ν) (ops rest : List (Op κ ν)) :
    run s (ops ++ rest) = run (run s ops) rest := List.foldl_append

theorem step_apply (s : Bank κ ν) (op : Op κ ν) (k : κ) :
    step s op k = (s k).run (op.seenBy k).toList := by
  cases op with
  | on k' op =>
      unfold Op.seenBy step
      by_cases h : k' = k
      · subst h
        simp [Cell.run]
      · simp [h, Ne.symm h, Cell.run]
  | crash => rfl

/-- A register is where it would be alone. -/
theorem run_apply (s : Bank κ ν) (ops : List (Op κ ν)) (k : κ) :
    run s ops k = (s k).run (ops.filterMap (Op.seenBy k)) := by
  induction ops generalizing s with
  | nil => rfl
  | cons op rest ih =>
      have hstep : run s (op :: rest) k = run (step s op) rest k := rfl
      rw [hstep, ih, step_apply, ← Cell.run_append]
      cases h : op.seenBy k <;> simp [h]

end WriteBack
