import Levaware.Cell.LteRun
import Levaware.Lib.History

set_option autoImplicit false

/-! # Rebooting when the cloud is lost

Once the cloud has been reached, the fifth report in a row that it is out of reach reboots the
device. The reports are counted in one of the statistics that the shell can clear, so the law holds
of a run iff no clear makes a report look earlier in its row than it is (`rebootPolicy_iff`). -/

namespace Levaware

open Abort

/-! ## Reports -/

/-- The cloud has been reached. -/
def everUp (ops : List LteOp) : Bool := ops.any LteOp.isUp

/-- The down reports since the last turn that resets their count. -/
def downsSince (resets : LteOp → Bool) (ops : List LteOp) : Nat :=
  ops.foldl (fun n op => if resets op then 0 else if op.isDown then n + 1 else n) 0

/-- The down reports in a row. -/
def downsSinceUp : List LteOp → Nat := downsSince LteOp.isUp

/-- The down reports in a row that were not cleared. -/
def downsSinceUpOrClear : List LteOp → Nat := downsSince fun op => op.isUp || op.isClear

/-- The device is due for a reboot at the next down report, but a clear hides this. -/
def Masked (ops : List LteOp) : Prop :=
  everUp ops = true ∧ 4 ≤ downsSinceUp ops ∧ downsSinceUpOrClear ops < 4

instance (ops : List LteOp) : Decidable (Masked ops) :=
  inferInstanceAs (Decidable
    (everUp ops = true ∧ 4 ≤ downsSinceUp ops ∧ downsSinceUpOrClear ops < 4))

section Reports

variable {ops : List LteOp} {op : LteOp}

theorem everUp_append_singleton : everUp (ops ++ [op]) = (everUp ops || op.isUp) := by
  simp [everUp]

theorem downsSince_eq (resets : LteOp → Bool) (ops : List LteOp) :
    downsSince resets ops = History.countSince resets LteOp.isDown ops :=
  History.countSince_eq_foldl.symm

theorem downsSince_append_singleton (resets : LteOp → Bool) :
    downsSince resets (ops ++ [op]) =
      if resets op then 0 else if op.isDown then downsSince resets ops + 1
      else downsSince resets ops := by
  rw [downsSince_eq, downsSince_eq, History.countSince_snoc]

theorem downsSinceUp_append_singleton :
    downsSinceUp (ops ++ [op]) =
      if op.isUp then 0 else if op.isDown then downsSinceUp ops + 1 else downsSinceUp ops :=
  downsSince_append_singleton _

theorem downsSinceUpOrClear_append_singleton :
    downsSinceUpOrClear (ops ++ [op]) =
      if op.isUp || op.isClear then 0 else if op.isDown then downsSinceUpOrClear ops + 1
      else downsSinceUpOrClear ops :=
  downsSince_append_singleton _

theorem downsSinceUp_append_down (h : op.isDown = true) :
    downsSinceUp (ops ++ [op]) = downsSinceUp ops + 1 := by
  have hup : op.isUp = false := by
    cases op with
    | appConn modem appUp => simpa [LteOp.isDown, LteOp.isUp] using h
    | statsClear | statsPrint | pdnEvent | lteEvent | main => rfl
  simp [downsSinceUp_append_singleton, h, hup]

/-- More resets leave fewer reports. -/
theorem downsSinceUpOrClear_le (ops : List LteOp) :
    downsSinceUpOrClear ops ≤ downsSinceUp ops := by
  unfold downsSinceUpOrClear downsSinceUp
  rw [downsSince_eq, downsSince_eq]
  exact History.countSince_le_of_imp fun _ hup => Bool.or_eq_true_iff.2 (Or.inl hup)

/-- Where nothing is masked, the reports that were cleared do not matter. -/
theorem four_le_iff_of_not_masked (hup : everUp ops = true) (h : ¬Masked ops) :
    4 ≤ downsSinceUpOrClear ops ↔ 4 ≤ downsSinceUp ops := by
  have hle := downsSinceUpOrClear_le ops
  constructor
  · exact fun h4 => h4.trans hle
  · intro h4
    by_contra hlt
    exact h ⟨hup, h4, Nat.lt_of_not_le hlt⟩

/-- The same turns without the clears. -/
def withoutClears (ops : List LteOp) : List LteOp := ops.filter fun op => !op.isClear

theorem withoutClears_append_singleton :
    withoutClears (ops ++ [op]) =
      if op.isClear then withoutClears ops else withoutClears ops ++ [op] := by
  cases h : op.isClear <;> simp [withoutClears, List.filter_append, h]

theorem everUp_withoutClears (ops : List LteOp) : everUp (withoutClears ops) = everUp ops := by
  induction ops using List.reverseRecOn with
  | nil => rfl
  | append_singleton ops op ih =>
      rw [withoutClears_append_singleton, everUp_append_singleton]
      cases op with
      | statsClear => simpa [LteOp.isClear, LteOp.isUp] using ih
      | appConn | statsPrint | pdnEvent | lteEvent | main =>
          simp [LteOp.isClear, everUp_append_singleton, ih]

/-- Without the clears every report in the row counts. -/
theorem downsSinceUpOrClear_withoutClears (ops : List LteOp) :
    downsSinceUpOrClear (withoutClears ops) = downsSinceUp ops := by
  induction ops using List.reverseRecOn with
  | nil => rfl
  | append_singleton ops op ih =>
      rw [withoutClears_append_singleton, downsSinceUp_append_singleton]
      cases op with
      | statsClear => simpa [LteOp.isClear, LteOp.isUp, LteOp.isDown] using ih
      | appConn modem appUp =>
          cases appUp <;>
            simp [LteOp.isUp, LteOp.isClear, LteOp.isDown, downsSinceUpOrClear_append_singleton,
              ih]
      | statsPrint | pdnEvent | lteEvent | main =>
          simp [LteOp.isUp, LteOp.isClear, LteOp.isDown, downsSinceUpOrClear_append_singleton,
              ih]

end Reports

/-! ## Runs -/

/-- The device is up after some turns. -/
def Survives (cblk : ModemControlBlock) (ops : List LteOp) : Prop :=
  ∃ lte, (lteRun ops).run (lteConnectInit cblk) = .ok () lte

/-- It is up after the turns `pre`, and the turn `op` then reboots it. -/
def RebootsAt (cblk : ModemControlBlock) (pre : List LteOp) (op : LteOp) : Prop :=
  ∃ lte lte', (lteRun pre).run (lteConnectInit cblk) = .ok () lte ∧
    op.run.run lte = .error rebootReason lte'

/-- The control block of a device that has been served in all its turns. -/
structure RebootTracked (ops : List LteOp) (lte : Lte) : Prop where
  valid : lte.cblk.state.Valid
  up : lte.cblk.appConnectivityUp = everUp ops
  downs : lte.cblk.linkDownCnt = Int32.ofNat (downsSinceUpOrClear ops)
  /-- or it would have rebooted -/
  few : everUp ops = true → downsSinceUpOrClear ops ≤ 4

/-- The reboot in terms of the turns. -/
def RebootDue (ops : List LteOp) (op : LteOp) : Prop :=
  op.isDown = true ∧ everUp ops = true ∧ 4 ≤ downsSinceUpOrClear ops

variable {cblk : ModemControlBlock} {ops : List LteOp} {op : LteOp} {lte : Lte}

theorem RebootTracked.init (cblk : ModemControlBlock) : RebootTracked [] (lteConnectInit cblk) where
  valid := trivial
  up := rfl
  downs := rfl
  few h := absurd h (by decide)

/-- The counter decides like the number of reports it stands for. -/
theorem count_gt_iff : ∀ n ≤ 4, Int32.ofNat n + 1 > lteMaxLinkDown ↔ 4 ≤ n := by decide

theorem RebootTracked.reboots_iff (h : RebootTracked ops lte) :
    op.Reboots lte ↔ RebootDue ops op := by
  cases op with
  | appConn modem appUp =>
      cases appUp with
      | true => simp [LteOp.Reboots, RebootDue, LteOp.isDown]
      | false =>
          simp only [LteOp.Reboots, RebootDue, LteOp.isDown, h.up, h.downs, Bool.not_false,
            true_and]
          exact and_congr_right fun hup => count_gt_iff _ (h.few hup)
  | statsClear | statsPrint | pdnEvent | lteEvent | main =>
      simp [LteOp.Reboots, RebootDue, LteOp.isDown]

/-- The three fields the law reads, after a turn. -/
theorem LteOp.effect_reports (lte : Lte) (op : LteOp) :
    (op.effect lte).cblk.appConnectivityUp = (lte.cblk.appConnectivityUp || op.isUp) ∧
    (op.effect lte).cblk.linkDownCnt =
      if op.isUp || op.isClear then 0 else if op.isDown then lte.cblk.linkDownCnt + 1
      else lte.cblk.linkDownCnt := by
  cases op with
  | appConn modem appUp =>
      cases appUp <;> simp [effect, isUp, isDown, isClear, ModemControlBlock.linkDown]
  | statsClear => simp [effect, isUp, isClear, lteStatsClear]
  | statsPrint => simp [effect, isUp, isDown, isClear]
  | pdnEvent cid event reason =>
      cases event <;> simp [effect, isUp, isDown, isClear, PdnEvent.pdp?, Lte.pdpChanged]
  | lteEvent evt =>
      have hframe := lteHandler_frame evt lte.cblk
      simp [effect, isUp, isDown, isClear, hframe]
  | main err => simp [effect, isUp, isDown, isClear, Lte.mainContinued_cblk]

theorem RebootTracked.effect (h : RebootTracked ops lte) (hdue : ¬RebootDue ops op) :
    RebootTracked (ops ++ [op]) (op.effect lte) where
  valid := LteOp.effect_valid h.valid
  up := by rw [(LteOp.effect_reports lte op).1, h.up, everUp_append_singleton]
  downs := by
    rw [(LteOp.effect_reports lte op).2, h.downs, downsSinceUpOrClear_append_singleton]
    split
    · rfl
    · split
      · rw [Int32.ofNat_add]
        rfl
      · rfl
  few := by
    rw [everUp_append_singleton, downsSinceUpOrClear_append_singleton]
    intro hup
    split
    · exact Nat.zero_le 4
    · next hreset =>
        have hever : everUp ops = true := by simp_all
        split
        · next hdown =>
            have hfour : ¬4 ≤ downsSinceUpOrClear ops := fun h4 => hdue ⟨hdown, hever, h4⟩
            omega
        · exact h.few hever

theorem RebootTracked.turn (hserved : op.Served) (ops : List LteOp) :
    Triple (RebootTracked ops) op.run (fun _ => RebootTracked (ops ++ [op])) (fun _ _ => True) := by
  intro lte h
  by_cases hdue : RebootDue ops op
  · rw [LteOp.run_reboots hserved (h.reboots_iff.mpr hdue)]
    trivial
  · rw [LteOp.run_ok h.valid hserved (mt h.reboots_iff.mp hdue)]
    exact h.effect hdue

theorem lteRun_rebootTracked (hserved : ∀ op ∈ ops, op.Served)
    (hrun : (lteRun ops).run (lteConnectInit cblk) = .ok () lte) : RebootTracked ops lte := by
  have htriple : Triple (RebootTracked []) (lteRun ops) (fun _ => RebootTracked ops)
      (fun _ _ => True) :=
    Triple.forM fun pre op post hops =>
      RebootTracked.turn (hserved op (by simp [hops])) pre
  exact htriple.ok (.init cblk) hrun

/-- A turn reboots a device that is up iff a reboot is due. -/
theorem rebootsAt_iff (hserved : ∀ o ∈ ops ++ [op], o.Served) (hrun : Survives cblk ops) :
    RebootsAt cblk ops op ↔ RebootDue ops op := by
  obtain ⟨lte, hlte⟩ := hrun
  have htracked := lteRun_rebootTracked (fun o ho => hserved o (by simp [ho])) hlte
  have hop : op.Served := hserved op (by simp)
  rw [← htracked.reboots_iff]
  constructor
  · rintro ⟨lte', lte'', hlte', hstop⟩
    rw [hlte] at hlte'
    cases hlte'
    by_contra hreboots
    rw [LteOp.run_ok htracked.valid hop hreboots] at hstop
    cases hstop
  · exact fun hreboots => ⟨lte, _, hlte, LteOp.run_reboots hop hreboots⟩

theorem Survives.of_append (rest : List LteOp) (h : Survives cblk (ops ++ rest)) :
    Survives cblk ops := by
  obtain ⟨lte, hlte⟩ := h
  rw [lteRun_append] at hlte
  cases hops : (lteRun ops).run (lteConnectInit cblk) with
  | ok u lte' => exact ⟨lte', hops⟩
  | error e lte' =>
      rw [run_bind_error hops] at hlte
      cases hlte

theorem survives_append_singleton (hserved : ∀ o ∈ ops ++ [op], o.Served) :
    Survives cblk (ops ++ [op]) ↔ Survives cblk ops ∧ ¬RebootDue ops op := by
  constructor
  · rintro hsurvives
    refine ⟨hsurvives.of_append [op], ?_⟩
    intro hdue
    obtain ⟨lte, lte', hlte, hstop⟩ := (rebootsAt_iff hserved (hsurvives.of_append [op])).mpr hdue
    obtain ⟨lte'', hlte''⟩ := hsurvives
    rw [lteRun_append_singleton, run_bind_ok hlte, hstop] at hlte''
    cases hlte''
  · rintro ⟨⟨lte, hlte⟩, hdue⟩
    have htracked := lteRun_rebootTracked (fun o ho => hserved o (by simp [ho])) hlte
    refine ⟨op.effect lte, ?_⟩
    rw [lteRun_append_singleton, run_bind_ok hlte]
    exact LteOp.run_ok htracked.valid (hserved op (by simp)) (mt htracked.reboots_iff.mp hdue)

/-! ## The law -/

/-- A turn reboots the device iff it is a down report, the cloud has been reached before it and it
    is at least the fifth such report since; and up to any turn the device has rebooted iff it had
    done so without the clears. -/
structure RebootPolicy (cblk : ModemControlBlock) (ops : List LteOp) : Prop where
  law : ∀ pre op post, ops = pre ++ op :: post →
    (RebootsAt cblk pre op ↔
      op.isDown = true ∧ everUp pre = true ∧ 5 ≤ downsSinceUp (pre ++ [op]))
  clears : ∀ pre, pre <+: ops → (Survives cblk pre ↔ Survives cblk (withoutClears pre))

/-- Where no clear hides a due reboot, the reboot is due in the same turns without the clears. -/
theorem rebootDue_withoutClears (h : op.isDown = true → ¬Masked ops) :
    RebootDue (withoutClears ops) op ↔ RebootDue ops op := by
  simp only [RebootDue, everUp_withoutClears, downsSinceUpOrClear_withoutClears]
  refine and_congr_right fun hdown => and_congr_right fun hup => ?_
  exact (four_le_iff_of_not_masked hup (h hdown)).symm

theorem survives_withoutClears (hserved : ∀ op ∈ ops, op.Served)
    (h : ∀ pre op post, ops = pre ++ op :: post → op.isDown = true → ¬Masked pre) :
    Survives cblk ops ↔ Survives cblk (withoutClears ops) := by
  induction ops using List.reverseRecOn with
  | nil => rfl
  | append_singleton ops op ih =>
      have hprefix := ih (fun o ho => hserved o (by simp [ho])) fun pre o post hops =>
        h pre o (post ++ [op]) (by simp [hops])
      have hmasked : op.isDown = true → ¬Masked ops := h ops op [] rfl
      rw [survives_append_singleton hserved, withoutClears_append_singleton, hprefix]
      split
      · next hclear =>
          -- a clear is no report
          have hdue : ¬RebootDue ops op := by
            cases op with
            | statsClear => simp [RebootDue, LteOp.isDown]
            | appConn | statsPrint | pdnEvent | lteEvent | main => cases hclear
          exact and_iff_left hdue
      · rw [survives_append_singleton, rebootDue_withoutClears hmasked]
        intro o ho
        refine hserved o ?_
        simp only [withoutClears, List.mem_append, List.mem_filter] at ho ⊢
        exact ho.imp And.left id

/-- The device reboots by the law, over a run in which the modem does what it is asked, iff no clear
    hides a due reboot from a down report. -/
theorem rebootPolicy_iff (cblk : ModemControlBlock) {ops : List LteOp}
    (hserved : ∀ op ∈ ops, op.Served) (hrun : Survives cblk ops.dropLast) :
    RebootPolicy cblk ops ↔
      ∀ pre op post, ops = pre ++ op :: post → op.isDown = true → ¬Masked pre := by
  have hreboots (pre : List LteOp) (op : LteOp) (post : List LteOp)
      (hops : ops = pre ++ op :: post) : RebootsAt cblk pre op ↔ RebootDue pre op := by
    refine rebootsAt_iff (fun o ho => hserved o ?_) (Survives.of_append (op :: post).dropLast ?_)
    · rw [hops, List.mem_append, List.mem_cons]
      rw [List.mem_append, List.mem_singleton] at ho
      exact ho.imp id Or.inl
    · rwa [hops, List.dropLast_append_of_ne_nil (List.cons_ne_nil op post)] at hrun
  constructor
  · rintro ⟨hlaw, -⟩ pre op post hops hdown ⟨hup, hdowns, hcleared⟩
    have hdue := (hreboots pre op post hops).mp ((hlaw pre op post hops).mpr
      ⟨hdown, hup, by rw [downsSinceUp_append_down hdown]; omega⟩)
    exact absurd hdue.2.2 (Nat.not_le_of_lt hcleared)
  · intro h
    constructor
    · intro pre op post hops
      rw [hreboots pre op post hops]
      refine and_congr_right fun hdown => and_congr_right fun hup => ?_
      rw [downsSinceUp_append_down hdown, four_le_iff_of_not_masked hup (h pre op post hops hdown)]
      exact Nat.succ_le_succ_iff.symm
    · intro pre hpre
      obtain ⟨rest, hops⟩ := hpre
      refine survives_withoutClears (fun o ho => hserved o (by simp [← hops, ho])) ?_
      intro p o post hp
      exact h p o (post ++ rest) (by simp [← hops, hp])

/-- The control block of a device that has just been powered. -/
def poweredBlk : ModemControlBlock where
  state := .startup
  scanCnt := 0
  lostRegCnt := 0
  homeRegCnt := 0
  roamRegCnt := 0
  cellChgCnt := 0
  pdpContextUp := 0
  pdpContextDown := 0
  offlineCnt := 0
  linkDownCnt := 0
  linkDownTotal := 0
  appConnectivityUp := false

/-- A report to a modem in its normal mode. -/
def LteOp.report (appUp : Bool) : LteOp := .appConn { get := .ok .normal, set := 0 } appUp

/-- A clear right after the up report hides nothing from the five down reports that follow. -/
def clearedFirst : List LteOp :=
  [.report true, .statsClear, .report false, .report false, .report false, .report false,
    .report false]

theorem rebootPolicy_iff_clearedFirst : RebootPolicy poweredBlk clearedFirst := by
  refine (rebootPolicy_iff poweredBlk ?_ ⟨_, rfl⟩).mpr ?_
  · simp [clearedFirst, LteOp.report, LteOp.Served, FuncModeAnswers.Succeed]
  · intro pre op post hops _
    have htake : pre = clearedFirst.take pre.length := by rw [hops, List.take_left]
    have hlength : pre.length < clearedFirst.length := by simp [hops]
    have hprefixes : ∀ n < clearedFirst.length, ¬Masked (clearedFirst.take n) := by decide
    rw [htake]
    exact hprefixes _ hlength

/-- The fifth down report after an up report reboots the device, unless the statistics have been
    cleared just before it. -/
theorem cleared_not_rebooted :
    RebootsAt poweredBlk
      [.report true, .report false, .report false, .report false, .report false]
      (.report false) ∧
    Survives poweredBlk
      [.report true, .report false, .report false, .report false, .report false, .statsClear,
        .report false] :=
  ⟨⟨_, _, rfl, rfl⟩, ⟨_, rfl⟩⟩

end Levaware
