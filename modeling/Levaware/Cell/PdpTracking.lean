import Levaware.Cell.LteRun

set_option autoImplicit false

/-! # The PDP context and the start of the device

The state of the connection manager is determined by the PDP context changes it has seen, the
semaphore is given once, at the first activation, and `main` gets past it only after that
(`lteRun_pdpTracked`). -/

namespace Levaware

open Abort

/-! ## States and PDP context changes -/

/-- The PDP context changes of some turns: `true` for an activation. -/
def pdpChanges (ops : List LteOp) : List Bool := ops.filterMap LteOp.pdp?

/-- The context has been up. -/
def Activated (ops : List LteOp) : Prop := true ∈ pdpChanges ops

instance (ops : List LteOp) : Decidable (Activated ops) :=
  inferInstanceAs (Decidable (true ∈ pdpChanges ops))

/-- A state is what the PDP context changes say: `MODEM_STARTUP` up to the first activation, then
    whatever the last change was. -/
structure FollowsPdp (changes : List Bool) (state : ModemState) : Prop where
  startup : state = .startup ↔ true ∉ changes
  up : state = .pdpUp ↔ changes.getLast? = some true
  down : state = .pdpDown ↔ true ∈ changes ∧ changes.getLast? = some false

theorem FollowsPdp.nil : FollowsPdp [] .startup where
  startup := by simp
  up := by simp
  down := by simp

theorem FollowsPdp.valid {changes : List Bool} {state : ModemState}
    (h : FollowsPdp changes state) : state.Valid := by
  cases state with
  | startup | pdpDown | pdpUp => trivial
  | invalid code =>
      -- the last change of a list with an activation is one of the two
      have hmem : true ∈ changes := by simpa using h.startup
      have hup : changes.getLast? ≠ some true := by simpa using h.up
      have hdown : changes.getLast? ≠ some false := by simpa [hmem] using h.down
      cases hlast : changes.getLast? with
      | none => simp_all
      | some flag => cases flag <;> simp_all

theorem FollowsPdp.next {changes : List Bool} {state : ModemState} (h : FollowsPdp changes state)
    (flag : Bool) : FollowsPdp (changes ++ [flag]) (state.next flag) := by
  obtain ⟨hstartup, hup, hdown⟩ := h
  cases state with
  | startup => constructor <;> cases flag <;> simp_all [ModemState.next]
  | pdpDown => constructor <;> cases flag <;> simp_all [ModemState.next]
  | pdpUp => constructor <;> cases flag <;> simp_all [ModemState.next]
  | invalid code => exact (FollowsPdp.valid ⟨hstartup, hup, hdown⟩).elim

/-! ## Runs -/

variable {lte : Lte} {op : LteOp} {ops : List LteOp}

/-- The connection manager and `main` after some turns. -/
structure PdpTracked (ops : List LteOp) (lte : Lte) : Prop where
  state : FollowsPdp (pdpChanges ops) lte.cblk.state
  gives : lte.lteConnected.gives = if Activated ops then 1 else 0
  /-- the semaphore is free only after it was given -/
  free : 0 < lte.lteConnected.count → Activated ops
  gate : lte.main ≠ .waiting → Activated ops

theorem PdpTracked.init (cblk : ModemControlBlock) : PdpTracked [] (lteConnectInit cblk) where
  state := .nil
  gives := rfl
  free h := absurd h (Nat.lt_irrefl 0)
  gate h := absurd rfl h

theorem pdpChanges_append_none (h : op.pdp? = none) :
    pdpChanges (ops ++ [op]) = pdpChanges ops := by
  simp [pdpChanges, List.filterMap_append, h]

theorem pdpChanges_append_some {flag : Bool} (h : op.pdp? = some flag) :
    pdpChanges (ops ++ [op]) = pdpChanges ops ++ [flag] := by
  simp [pdpChanges, List.filterMap_append, h]

theorem activated_append_none (h : op.pdp? = none) : Activated (ops ++ [op]) ↔ Activated ops := by
  rw [Activated, pdpChanges_append_none h]
  rfl

theorem activated_append_some {flag : Bool} (h : op.pdp? = some flag) :
    Activated (ops ++ [op]) ↔ Activated ops ∨ flag = true := by
  rw [Activated, pdpChanges_append_some h, List.mem_append, List.mem_singleton, eq_comm (a := true)]
  rfl

/-- A PDP context change: the semaphore is given when it is the first activation. -/
theorem PdpTracked.pdpChanged (h : PdpTracked ops lte) {flag : Bool} (hop : op.pdp? = some flag) :
    PdpTracked (ops ++ [op]) (lte.pdpChanged flag) where
  state := by
    rw [pdpChanges_append_some hop]
    exact h.state.next flag
  gives := by
    have hstartup : lte.cblk.state = .startup ↔ ¬Activated ops := h.state.startup
    simp only [Lte.pdpChanged, hstartup, activated_append_some hop]
    have hgives := h.gives
    cases flag with
    | false => simpa using hgives
    | true => by_cases hact : Activated ops <;> simp_all [KSem.give]
  free := by
    intro hfree
    rw [activated_append_some hop]
    cases flag with
    | false => exact Or.inl (h.free (by simpa [Lte.pdpChanged] using hfree))
    | true => exact Or.inr rfl
  gate hmain := (activated_append_some hop).mpr (Or.inl (h.gate hmain))

/-- A turn that leaves the state, the semaphore and `main` alone. -/
theorem PdpTracked.frame (h : PdpTracked ops lte) (hop : op.pdp? = none) {cblk : ModemControlBlock}
    (hstate : cblk.state = lte.cblk.state) :
    PdpTracked (ops ++ [op]) { lte with cblk := cblk } where
  state := by
    rw [pdpChanges_append_none hop]
    exact hstate ▸ h.state
  gives := by
    simp only [activated_append_none hop]
    exact h.gives
  free hfree := (activated_append_none hop).mpr (h.free hfree)
  gate hmain := (activated_append_none hop).mpr (h.gate hmain)

/-- `main` goes on: it takes the semaphore only when that is free, so after an activation. -/
theorem PdpTracked.mainContinued (h : PdpTracked ops lte) (hop : op.pdp? = none) :
    PdpTracked (ops ++ [op]) lte.mainContinued := by
  have hframe : PdpTracked (ops ++ [op]) lte := h.frame hop rfl
  obtain ⟨hstate, hgives, hfree, hgate⟩ := hframe
  unfold Lte.mainContinued
  split
  · split
    · next sem hsem =>
        unfold KSem.take? at hsem
        split at hsem
        · next hcount =>
            cases hsem
            exact ⟨hstate, hgives, fun _ => hfree hcount, fun _ => hfree hcount⟩
        · cases hsem
    · exact ⟨hstate, hgives, hfree, hgate⟩
  · next hmain => exact ⟨hstate, hgives, hfree, fun _ => hgate (by simp [hmain])⟩
  · next hmain => exact ⟨hstate, hgives, hfree, fun _ => hgate (by simp [hmain])⟩
  · next hmain => exact ⟨hstate, hgives, hfree, fun _ => hgate (by simp [hmain])⟩

theorem PdpTracked.effect (h : PdpTracked ops lte) (op : LteOp) :
    PdpTracked (ops ++ [op]) (op.effect lte) := by
  cases op with
  | appConn modem appUp => cases appUp <;> exact h.frame rfl rfl
  | statsClear => exact h.frame rfl rfl
  | statsPrint => exact h.frame rfl rfl
  | pdnEvent cid event reason =>
      cases event with
      | activated => exact h.pdpChanged rfl
      | deactivated => exact h.pdpChanged rfl
      | cnecEsm | ipv6Up | ipv6Down | undefined => exact h.frame rfl rfl
  | lteEvent evt => exact h.frame rfl (lteHandler_frame evt lte.cblk).1
  | main err => exact h.mainContinued rfl

/-- A turn carries the relation on whether it goes through or not, and is never stopped by
    `state_to_string`. -/
theorem PdpTracked.turn (ops : List LteOp) (op : LteOp) :
    Triple (PdpTracked ops) op.run (fun _ => PdpTracked (ops ++ [op]))
      (fun e lte => e ≠ "lte_connect_mgr: invalid state" ∧ PdpTracked (ops ++ [op]) lte) := by
  intro lte h
  have hvalid := h.state.valid
  by_cases hserved : op.Served
  · by_cases hreboots : op.Reboots lte
    · rw [LteOp.run_reboots hserved hreboots]
      exact ⟨by decide, h.effect op⟩
    · rw [LteOp.run_ok hvalid hserved hreboots]
      exact h.effect op
  · rcases LteOp.run_not_served lte hserved with hrun | ⟨e, cblk, hrun, he, hstate⟩
    · rw [hrun]
      exact h.effect op
    · rw [hrun]
      refine ⟨?_, h.frame (LteOp.pdp?_of_not_served hserved) hstate⟩
      rintro rfl
      exact absurd he (by decide)

/-- Over every run, in any order of turns and from any control block: the state follows the PDP
    context changes, `lte_check_pdp_context` tells whether the context is up, the semaphore has been
    given once when there was an activation and never before, and until then `main` stays in
    `lte_connect_init`. A run that ends early has not been ended by `state_to_string`. -/
theorem lteRun_pdpTracked (cblk : ModemControlBlock) (ops : List LteOp) :
    match (lteRun ops).run (lteConnectInit cblk) with
    | .ok _ lte =>
        FollowsPdp (pdpChanges ops) lte.cblk.state ∧
        (lteCheckPdpContext lte.cblk = true ↔ (pdpChanges ops).getLast? = some true) ∧
        lte.lteConnected.gives = (if Activated ops then 1 else 0) ∧
        (lte.main ≠ .waiting → Activated ops)
    | .error e lte =>
        e ≠ "lte_connect_mgr: invalid state" ∧
        ∃ pre, pre <+: ops ∧ lte.lteConnected.gives = (if Activated pre then 1 else 0) ∧
          (lte.main ≠ .waiting → Activated pre) := by
  have hrun : Triple (PdpTracked []) (lteRun ops) (fun _ => PdpTracked ops)
      (fun e lte => e ≠ "lte_connect_mgr: invalid state" ∧
        ∃ pre, pre <+: ops ∧ PdpTracked pre lte) := by
    refine Triple.forM fun pre op post hops => (PdpTracked.turn pre op).conseq (fun _ h => h)
      (fun _ _ h => h) fun e lte h => ⟨h.1, pre ++ [op], ⟨post, by simp [hops]⟩, h.2⟩
  have hinit := hrun (lteConnectInit cblk) (.init cblk)
  cases hres : (lteRun ops).run (lteConnectInit cblk) with
  | ok u lte =>
      rw [hres] at hinit
      refine ⟨hinit.state, ?_, hinit.gives, hinit.gate⟩
      rw [← hinit.state.up, lteCheckPdpContext]
      split <;> simp_all
  | error e lte =>
      rw [hres] at hinit
      obtain ⟨he, pre, hpre, htracked⟩ := hinit
      exact ⟨he, pre, hpre, htracked.gives, htracked.gate⟩

end Levaware
