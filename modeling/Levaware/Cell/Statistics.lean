import Levaware.Cell.LteRun
import Levaware.Lib.History

set_option autoImplicit false

/-! # The LTE statistics

The ten counters of the control block are raised in five functions and cleared in a sixth. What
they count is said by `lteStats`, in terms of the turns alone; over every run the control block
shows these numbers (`lte_statistics_exact`). -/

namespace Levaware

open Abort History

/-! ## What is counted -/

namespace LteOp

/-- The registration status that a turn brings. -/
def regStatus? : LteOp → Option LteLcNwRegStatus
  | .lteEvent (.nwRegStatus status) => some status
  | _ => none

def isSearching (op : LteOp) : Bool := op.regStatus? = some .searching

/-- Any status in which there is no registration. -/
def isLostReg (op : LteOp) : Bool :=
  op.regStatus? = some .notRegistered ∨ op.regStatus? = some .searching ∨
    op.regStatus? = some .registrationDenied ∨ op.regStatus? = some .unknown

def isHomeReg (op : LteOp) : Bool := op.regStatus? = some .registeredHome

def isRoamReg (op : LteOp) : Bool := op.regStatus? = some .registeredRoaming

def isCellChg : LteOp → Bool
  | .lteEvent .cellUpdate => true
  | _ => false

def isPdpUp (op : LteOp) : Bool := op.pdp? = some true

def isPdpDown (op : LteOp) : Bool := op.pdp? = some false

/-- A report that the cloud is out of reach, while the modem is offline. -/
def isOffline : LteOp → Bool
  | .appConn modem false => modem.get = .ok .offline
  | _ => false

/-- A report that the cloud has been reached, or a clear. -/
def endsLinkDown (op : LteOp) : Bool := op.isUp || op.isClear

end LteOp

/-- The statistics of some turns. -/
structure LteStats where
  scanCnt : Nat
  lostRegCnt : Nat
  homeRegCnt : Nat
  roamRegCnt : Nat
  cellChgCnt : Nat
  pdpContextUp : Nat
  pdpContextDown : Nat
  offlineCnt : Nat
  linkDownCnt : Nat
  linkDownTotal : Nat

/-- The statistics that there should be: everything since the last clear, but for the reports of a
    lost connection, which are also counted since the last report of a connection. -/
def lteStats (ops : List LteOp) : LteStats where
  scanCnt := countSince LteOp.isClear LteOp.isSearching ops
  lostRegCnt := countSince LteOp.isClear LteOp.isLostReg ops
  homeRegCnt := countSince LteOp.isClear LteOp.isHomeReg ops
  roamRegCnt := countSince LteOp.isClear LteOp.isRoamReg ops
  cellChgCnt := countSince LteOp.isClear LteOp.isCellChg ops
  pdpContextUp := countSince LteOp.isClear LteOp.isPdpUp ops
  pdpContextDown := countSince LteOp.isClear LteOp.isPdpDown ops
  offlineCnt := countSince LteOp.isClear LteOp.isOffline ops
  linkDownCnt := countSince LteOp.endsLinkDown LteOp.isDown ops
  linkDownTotal := countSince LteOp.isClear LteOp.isDown ops

/-- The counter shows the number, if an `int` can. -/
def Shows (counter : Int32) (n : Nat) : Prop := n < 2 ^ 31 → counter.toInt = n

/-- The counters of the control block show the statistics. -/
structure ShowsStats (cblk : ModemControlBlock) (stats : LteStats) : Prop where
  scanCnt : Shows cblk.scanCnt stats.scanCnt
  lostRegCnt : Shows cblk.lostRegCnt stats.lostRegCnt
  homeRegCnt : Shows cblk.homeRegCnt stats.homeRegCnt
  roamRegCnt : Shows cblk.roamRegCnt stats.roamRegCnt
  cellChgCnt : Shows cblk.cellChgCnt stats.cellChgCnt
  pdpContextUp : Shows cblk.pdpContextUp stats.pdpContextUp
  pdpContextDown : Shows cblk.pdpContextDown stats.pdpContextDown
  offlineCnt : Shows cblk.offlineCnt stats.offlineCnt
  linkDownCnt : Shows cblk.linkDownCnt stats.linkDownCnt
  linkDownTotal : Shows cblk.linkDownTotal stats.linkDownTotal

/-! ## One counter -/

theorem Shows.zero : Shows 0 0 := fun _ => rfl

/-- A counter that is raised by what is counted, and cleared by what resets, goes on showing the
    count. -/
theorem Shows.snoc {resets counts : LteOp → Bool} {ops : List LteOp} {op : LteOp}
    {counter counter' : Int32} (h : Shows counter (countSince resets counts ops))
    (hnext : counter' = if resets op then 0 else if counts op then counter + 1 else counter) :
    Shows counter' (countSince resets counts (ops ++ [op])) := by
  rw [countSince_snoc]
  subst hnext
  split
  · exact Shows.zero
  · split
    · intro hlt
      have hshows := h (by omega)
      have hone : (1 : Int32).toInt = 1 := rfl
      rw [Int32.toInt_add, hshows, hone]
      exact Int.bmod_eq_of_le (by norm_num; omega) (by norm_num; omega)
    · exact h

/-! ## A turn -/

/-- `counter'` is `counter` after the turn. -/
def Counted (resets counts : LteOp → Bool) (op : LteOp) (counter counter' : Int32) : Prop :=
  counter' = if resets op then 0 else if counts op then counter + 1 else counter

/-- What a turn owes the statistics. -/
structure CountsTurn (op : LteOp) (cblk cblk' : ModemControlBlock) : Prop where
  scanCnt : Counted LteOp.isClear LteOp.isSearching op cblk.scanCnt cblk'.scanCnt
  lostRegCnt : Counted LteOp.isClear LteOp.isLostReg op cblk.lostRegCnt cblk'.lostRegCnt
  homeRegCnt : Counted LteOp.isClear LteOp.isHomeReg op cblk.homeRegCnt cblk'.homeRegCnt
  roamRegCnt : Counted LteOp.isClear LteOp.isRoamReg op cblk.roamRegCnt cblk'.roamRegCnt
  cellChgCnt : Counted LteOp.isClear LteOp.isCellChg op cblk.cellChgCnt cblk'.cellChgCnt
  pdpContextUp : Counted LteOp.isClear LteOp.isPdpUp op cblk.pdpContextUp cblk'.pdpContextUp
  pdpContextDown :
    Counted LteOp.isClear LteOp.isPdpDown op cblk.pdpContextDown cblk'.pdpContextDown
  offlineCnt : Counted LteOp.isClear LteOp.isOffline op cblk.offlineCnt cblk'.offlineCnt
  linkDownCnt : Counted LteOp.endsLinkDown LteOp.isDown op cblk.linkDownCnt cblk'.linkDownCnt
  linkDownTotal :
    Counted LteOp.isClear LteOp.isDown op cblk.linkDownTotal cblk'.linkDownTotal

/-- A turn that leaves the block alone, and is not counted. -/
theorem CountsTurn.refl {op : LteOp} {cblk : ModemControlBlock} (hends : op.endsLinkDown = false)
    (hreg : op.regStatus? = none) (hcell : op.isCellChg = false) (hpdp : op.pdp? = none)
    (hdown : op.isDown = false) : CountsTurn op cblk cblk := by
  have hclear : op.isClear = false := (Bool.or_eq_false_iff.1 hends).2
  have hoffline : op.isOffline = false := by
    cases op with
    | appConn modem appUp => cases appUp <;> first | rfl | cases hdown
    | _ => rfl
  constructor <;>
    simp [Counted, hclear, hends, hcell, hdown, hoffline, hreg, hpdp, LteOp.isSearching,
      LteOp.isLostReg, LteOp.isHomeReg, LteOp.isRoamReg, LteOp.isPdpUp, LteOp.isPdpDown]

theorem countsTurn_nwRegStatus (status : LteLcNwRegStatus) (cblk : ModemControlBlock) :
    CountsTurn (.lteEvent (.nwRegStatus status)) cblk (procRegistrationMsgs status cblk) := by
  cases status <;> constructor <;> rfl

theorem countsTurn_lteEvent (evt : LteLcEvt) (cblk : ModemControlBlock) :
    CountsTurn (.lteEvent evt) cblk (lteHandler evt cblk) := by
  cases evt with
  | nwRegStatus status => exact countsTurn_nwRegStatus status cblk
  | cellUpdate => constructor <;> rfl
  | psmUpdate | edrxUpdate | rrcUpdate | lteModeUpdate | modemSleepEnter | modemSleepExit
  | modemSleepExitPreWarning | other => exact .refl rfl rfl rfl rfl rfl

theorem LteOp.effect_countsTurn (lte : Lte) (op : LteOp) :
    CountsTurn op lte.cblk (op.effect lte).cblk := by
  cases op with
  | appConn modem appUp =>
      cases appUp with
      | true => constructor <;> rfl
      | false =>
          refine ⟨rfl, rfl, rfl, rfl, rfl, rfl, rfl, ?_, rfl, rfl⟩
          simp [Counted, isClear, isOffline, effect, ModemControlBlock.linkDown]
  | statsClear => constructor <;> rfl
  | statsPrint => exact .refl rfl rfl rfl rfl rfl
  | pdnEvent cid event reason =>
      cases event with
      | activated | deactivated => constructor <;> rfl
      | cnecEsm | ipv6Up | ipv6Down | undefined => exact .refl rfl rfl rfl rfl rfl
  | lteEvent evt => exact countsTurn_lteEvent evt lte.cblk
  | main err =>
      show CountsTurn _ lte.cblk lte.mainContinued.cblk
      rw [lte.mainContinued_cblk]
      exact .refl rfl rfl rfl rfl rfl

theorem ShowsStats.turn {ops : List LteOp} {op : LteOp} {cblk cblk' : ModemControlBlock}
    (h : ShowsStats cblk (lteStats ops)) (hturn : CountsTurn op cblk cblk') :
    ShowsStats cblk' (lteStats (ops ++ [op])) where
  scanCnt := h.scanCnt.snoc hturn.scanCnt
  lostRegCnt := h.lostRegCnt.snoc hturn.lostRegCnt
  homeRegCnt := h.homeRegCnt.snoc hturn.homeRegCnt
  roamRegCnt := h.roamRegCnt.snoc hturn.roamRegCnt
  cellChgCnt := h.cellChgCnt.snoc hturn.cellChgCnt
  pdpContextUp := h.pdpContextUp.snoc hturn.pdpContextUp
  pdpContextDown := h.pdpContextDown.snoc hturn.pdpContextDown
  offlineCnt := h.offlineCnt.snoc hturn.offlineCnt
  linkDownCnt := h.linkDownCnt.snoc hturn.linkDownCnt
  linkDownTotal := h.linkDownTotal.snoc hturn.linkDownTotal

/-! ## Runs -/

/-- A turn that is not stopped has its effect. -/
theorem LteOp.eq_effect {op : LteOp} {lte lte' : Lte} (hvalid : lte.cblk.state.Valid)
    (hrun : op.run.run lte = .ok () lte') : lte' = op.effect lte := by
  by_cases hserved : op.Served
  · by_cases hreboots : op.Reboots lte
    · rw [run_reboots hserved hreboots] at hrun
      cases hrun
    · rw [run_ok hvalid hserved hreboots] at hrun
      cases hrun
      rfl
  · rcases run_not_served lte hserved with hok | ⟨e, cblk, herror, -⟩
    · rw [hok] at hrun
      cases hrun
      rfl
    · rw [herror] at hrun
      cases hrun

theorem lteRun_showsStats (ops : List LteOp) :
    Triple (fun lte : Lte => lte.cblk.state.Valid ∧ ShowsStats lte.cblk (lteStats []))
      (lteRun ops) (fun _ lte => lte.cblk.state.Valid ∧ ShowsStats lte.cblk (lteStats ops))
      (fun _ _ => True) := by
  refine Triple.forM (I := fun ops (lte : Lte) =>
    lte.cblk.state.Valid ∧ ShowsStats lte.cblk (lteStats ops)) fun pre op post _ => ?_
  rintro lte ⟨hvalid, hshows⟩
  cases hrun : op.run.run lte with
  | error e lte' => trivial
  | ok _ lte' =>
      rw [LteOp.eq_effect hvalid hrun]
      exact ⟨LteOp.effect_valid hvalid, hshows.turn (op.effect_countsTurn lte)⟩

theorem linkDownCnt_le_total (ops : List LteOp) :
    (lteStats ops).linkDownCnt ≤ (lteStats ops).linkDownTotal := by
  refine countSince_le_of_imp fun op hop => ?_
  exact Bool.or_eq_true_iff.2 (Or.inr hop)

/-- Whatever the block held before `lte_connect_init`, and in whatever order events, reports, clears
    and the other turns come: a run that no abort ends leaves every counter showing what there was
    to count, and the transient count of lost connections at most the total one. A further turn
    raises the counters it is counted in, clears those it resets and leaves the others alone. -/
theorem lte_statistics_exact (cblk : ModemControlBlock) (ops : List LteOp) (lte : Lte)
    (hrun : (lteRun ops).run (lteConnectInit cblk) = .ok () lte) :
    ShowsStats lte.cblk (lteStats ops) ∧
      ((lteStats ops).linkDownTotal < 2 ^ 31 →
        lte.cblk.linkDownCnt.toInt ≤ lte.cblk.linkDownTotal.toInt) ∧
      ∀ op lte', op.run.run lte = .ok () lte' → CountsTurn op lte.cblk lte'.cblk := by
  have hinit : ShowsStats (lteConnectInit cblk).cblk (lteStats []) := by
    constructor <;> exact Shows.zero
  have hstartup : (lteConnectInit cblk).cblk.state.Valid := trivial
  obtain ⟨hvalid, hshows⟩ := (lteRun_showsStats ops).ok ⟨hstartup, hinit⟩ hrun
  refine ⟨hshows, ?_, ?_⟩
  · intro hlt
    have hle := linkDownCnt_le_total ops
    rw [hshows.linkDownCnt (by omega), hshows.linkDownTotal hlt]
    exact_mod_cast hle
  · intro op lte' hop
    rw [LteOp.eq_effect hvalid hop]
    exact op.effect_countsTurn lte

/-- A modem that answers that it is offline, and comes back when asked to. -/
def offlineModem : FuncModeAnswers := ⟨.ok .offline, 0⟩

/-- A search, an activation in each state, a cell change, two lost connections with the modem
    offline, and a clear between them. -/
def sampleTurns : List LteOp :=
  [.lteEvent (.nwRegStatus .searching), .pdnEvent 0 .activated 0, .pdnEvent 0 .activated 0,
    .appConn offlineModem false, .statsClear, .lteEvent .cellUpdate, .pdnEvent 0 .deactivated 0,
    .appConn offlineModem false]

theorem lte_statistics_exact_sampleTurns :
    let cblk : ModemControlBlock := ⟨.pdpUp, 7, 7, 7, 7, 7, 7, 7, 7, 7, 7, true⟩
    ∃ lte, (lteRun sampleTurns).run (lteConnectInit cblk) = .ok () lte ∧
      ShowsStats lte.cblk (lteStats sampleTurns) ∧ (lteStats sampleTurns).cellChgCnt = 1 ∧
      (lteStats sampleTurns).offlineCnt = 1 ∧ (lteStats sampleTurns).scanCnt = 0 := by
  intro cblk
  exact ⟨_, rfl, (lte_statistics_exact cblk sampleTurns _ rfl).1, rfl, rfl, rfl⟩

end Levaware
