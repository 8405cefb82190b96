import Levaware.Cell.LteConnectMgr

set_option autoImplicit false

/-! # Runs of the connection manager

The callbacks of the modem, the reports of the cloud module, the shell and `main` take turns in any
order. `LteOp.run_ok` says once what a turn that returns does, and `LteOp.run_reboots` and
`LteOp.run_not_served` what stops a turn. -/

namespace Levaware

open Abort

/-- A turn. -/
inductive LteOp where
  /-- a report on the cloud connectivity, and the modem's answers to it -/
  | appConn (modem : FuncModeAnswers) (appUp : Bool)
  /-- `lte clear` in the shell -/
  | statsClear
  /-- `lte display` in the shell -/
  | statsPrint
  | pdnEvent (cid : UInt8) (event : PdnEvent) (reason : Int32)
  | lteEvent (evt : LteLcEvt)
  /-- `main`, with the answer of `sms_register_listener` -/
  | main (smsRegisterListener : Int32)

/-- What a turn runs. -/
def LteOp.run : LteOp → LteM Unit
  | .appConn modem appUp => lteApplicationConnUp modem appUp
  | .statsClear => onCblk lteStatsClear
  | .statsPrint => lteStatsPrint
  | .pdnEvent cid event reason => pdnEventHandler lteProcPdpStatus cid event reason
  | .lteEvent evt => onCblk (lteHandler evt)
  | .main smsRegisterListener => mainContinues smsRegisterListener

/-- Some turns, one after the other. -/
def lteRun (ops : List LteOp) : LteM Unit := ops.forM LteOp.run

theorem lteRun_append (ops rest : List LteOp) :
    lteRun (ops ++ rest) = lteRun ops >>= fun _ => lteRun rest := by
  simp [lteRun]

theorem lteRun_append_singleton (ops : List LteOp) (op : LteOp) :
    lteRun (ops ++ [op]) = lteRun ops >>= fun _ => op.run := by
  simp [lteRun]

/-! ## What a turn does -/

/-- A state that the code knows. -/
def ModemState.Valid : ModemState → Prop
  | startup | pdpDown | pdpUp => True
  | invalid _ => False

/-- The state after a PDP context change. -/
def ModemState.next : ModemState → Bool → ModemState
  | startup, false => startup
  | pdpDown, false | pdpUp, false => pdpDown
  | startup, true | pdpDown, true | pdpUp, true => pdpUp
  | invalid code, _ => invalid code

/-- The manager after a PDP context change. -/
def Lte.pdpChanged (lte : Lte) (flag : Bool) : Lte :=
  { lte with
    cblk := { lte.cblk with
      state := lte.cblk.state.next flag
      pdpContextUp := if flag then lte.cblk.pdpContextUp + 1 else lte.cblk.pdpContextUp
      pdpContextDown := if flag then lte.cblk.pdpContextDown else lte.cblk.pdpContextDown + 1 }
    lteConnected :=
      if lte.cblk.state = .startup ∧ flag = true then lte.lteConnected.give else lte.lteConnected }

/-- The block after a report that the cloud is out of reach. -/
def ModemControlBlock.linkDown (cblk : ModemControlBlock) (modem : FuncModeAnswers) :
    ModemControlBlock :=
  { cblk with
    offlineCnt := if modem.get = .ok .offline then cblk.offlineCnt + 1 else cblk.offlineCnt
    linkDownCnt := cblk.linkDownCnt + 1
    linkDownTotal := cblk.linkDownTotal + 1 }

/-- The PDP context change a PDN event stands for. -/
def PdnEvent.pdp? : PdnEvent → Option Bool
  | activated => some true
  | deactivated => some false
  | cnecEsm | ipv6Up | ipv6Down | undefined _ => none

/-- How far `main` comes in its turn. -/
def Lte.mainContinued (lte : Lte) : Lte :=
  match lte.main with
  | .waiting =>
      match lte.lteConnected.take? with
      | some sem => { lte with lteConnected := sem, main := .unblocked }
      | none => lte
  | .unblocked => { lte with main := .lteStarted }
  | .lteStarted | .awsStarted => { lte with main := .awsStarted }

/-- The manager after a turn that nothing stops. -/
def LteOp.effect (lte : Lte) : LteOp → Lte
  | .appConn _ true =>
      { lte with cblk := { lte.cblk with appConnectivityUp := true, linkDownCnt := 0 } }
  | .appConn modem false => { lte with cblk := lte.cblk.linkDown modem }
  | .statsClear => { lte with cblk := lteStatsClear lte.cblk }
  | .statsPrint => lte
  | .pdnEvent _ event _ => (event.pdp?.map lte.pdpChanged).getD lte
  | .lteEvent evt => { lte with cblk := lteHandler evt lte.cblk }
  | .main _ => lte.mainContinued

/-- The mode query succeeds, and so does the mode set where there is one. -/
def FuncModeAnswers.Succeed (modem : FuncModeAnswers) : Prop :=
  ∃ mode, modem.get = .ok mode ∧ (mode = .offline → modem.set = 0)

/-- Whether the modem and the SMS service do what they are asked in a turn. -/
def LteOp.Served : LteOp → Prop
  | .appConn modem false => modem.Succeed
  | .main smsRegisterListener => smsRegisterListener = 0
  | _ => True

/-- The PDP context change of a turn. -/
def LteOp.pdp? : LteOp → Option Bool
  | .pdnEvent _ event _ => event.pdp?
  | _ => none

/-- A report that the cloud has been reached. -/
def LteOp.isUp : LteOp → Bool
  | appConn _ appUp => appUp
  | _ => false

/-- A report that the cloud is out of reach. -/
def LteOp.isDown : LteOp → Bool
  | appConn _ appUp => !appUp
  | _ => false

def LteOp.isClear : LteOp → Bool
  | statsClear => true
  | _ => false

/-- The turn is a report of lost connectivity that reboots the device. -/
def LteOp.Reboots (lte : Lte) : LteOp → Prop
  | .appConn _ false =>
      lte.cblk.appConnectivityUp = true ∧ lte.cblk.linkDownCnt + 1 > lteMaxLinkDown
  | _ => False

/-- The reason of that reboot. -/
def rebootReason : String := "lte_connect_mgr: AWS connection down for too many times, rebooting"

variable {lte : Lte} {op : LteOp}

@[simp] theorem onCblk_run (f : ModemControlBlock → ModemControlBlock) (lte : Lte) :
    (onCblk f).run lte = .ok () { lte with cblk := f lte.cblk } := rfl

theorem stateToString_run {state : ModemState} (hvalid : state.Valid) (lte : Lte) :
    ∃ text, (stateToString state).run lte = .ok text lte := by
  cases state with
  | startup => exact ⟨_, rfl⟩
  | pdpDown => exact ⟨_, rfl⟩
  | pdpUp => exact ⟨_, rfl⟩
  | invalid code => exact hvalid.elim

theorem ModemState.Valid.next {state : ModemState} (h : state.Valid) (flag : Bool) :
    (state.next flag).Valid := by
  cases state <;> cases flag <;> exact h

theorem lteProcPdpStatus_run (hvalid : lte.cblk.state.Valid) (flag : Bool) :
    (lteProcPdpStatus flag).run lte = .ok () (lte.pdpChanged flag) := by
  obtain ⟨⟨state, _, _, _, _, _, _, _, _, _, _, _⟩, _, _⟩ := lte
  cases state with
  | invalid code => exact hvalid.elim
  | startup => cases flag <;> rfl
  | pdpDown => cases flag <;> rfl
  | pdpUp => cases flag <;> rfl

theorem lteApplicationConnUp_up_run (modem : FuncModeAnswers) :
    (lteApplicationConnUp modem true).run lte = .ok ()
      { lte with cblk := { lte.cblk with appConnectivityUp := true, linkDownCnt := 0 } } := rfl

theorem lteApplicationConnUp_down_run {modem : FuncModeAnswers} (h : modem.Succeed) :
    (lteApplicationConnUp modem false).run lte =
      if lte.cblk.appConnectivityUp = true ∧ lte.cblk.linkDownCnt + 1 > lteMaxLinkDown then
        .error rebootReason { lte with cblk := lte.cblk.linkDown modem }
      else .ok () { lte with cblk := lte.cblk.linkDown modem } := by
  obtain ⟨mode, hget, hset⟩ := h
  obtain ⟨get, set⟩ := modem
  dsimp only at hget hset
  subst hget
  by_cases hup : lte.cblk.appConnectivityUp = true
  · by_cases hcnt : lteMaxLinkDown < lte.cblk.linkDownCnt + 1 <;>
      cases mode <;>
      simp [lteApplicationConnUp, EStateM.run_bind, ModemControlBlock.linkDown, erabort,
        rebootReason, hup, hcnt, hset]
  · cases mode <;>
      simp [lteApplicationConnUp, EStateM.run_bind, ModemControlBlock.linkDown, hup, hset]

/-- The reasons for which a failing modem or SMS service stops a turn. -/
def serviceFailures : List String :=
  ["lte_connect_mrg - failed to get mode", "lte_connect_mgr - unable to change mode",
    "lte_connect_mgr: failed to register SMS callback"]

theorem lteApplicationConnUp_down_fails {modem : FuncModeAnswers} (h : ¬modem.Succeed) :
    ∃ e cblk, (lteApplicationConnUp modem false).run lte = .error e { lte with cblk := cblk } ∧
      e ∈ serviceFailures ∧ cblk.state = lte.cblk.state := by
  obtain ⟨get, set⟩ := modem
  cases get with
  | error err => exact ⟨_, lte.cblk, rfl, by simp [serviceFailures], rfl⟩
  | ok mode =>
      have hoffline : mode = .offline ∧ set ≠ 0 := by
        by_contra hset
        exact h ⟨mode, rfl, fun hmode => by_contra fun h0 => hset ⟨hmode, h0⟩⟩
      obtain ⟨rfl, hset⟩ := hoffline
      refine ⟨"lte_connect_mgr - unable to change mode",
        { lte.cblk with offlineCnt := lte.cblk.offlineCnt + 1 }, ?_, by simp [serviceFailures], rfl⟩
      simp [lteApplicationConnUp, EStateM.run_bind, erabort, hset]

/-- `main` stops only where it registers for SMS. -/
theorem mainContinues_run (err : Int32) :
    (mainContinues err).run lte =
      if lte.main = .unblocked ∧ err ≠ 0 then
        .error "lte_connect_mgr: failed to register SMS callback" lte
      else .ok () lte.mainContinued := by
  obtain ⟨cblk, sem, main⟩ := lte
  cases main with
  | waiting =>
      cases hsem : sem.take? <;>
        simp [mainContinues, Lte.mainContinued, EStateM.run_bind, hsem]
  | unblocked => by_cases h : err = 0 <;> simp [mainContinues, Lte.mainContinued, erabort,
      EStateM.run_bind, h]
  | lteStarted => rfl
  | awsStarted => rfl

theorem pdnEvent_run (hvalid : lte.cblk.state.Valid) (cid : UInt8) (event : PdnEvent)
    (reason : Int32) :
    (LteOp.pdnEvent cid event reason).run.run lte =
      .ok () (LteOp.effect lte (.pdnEvent cid event reason)) := by
  cases event with
  | activated => exact lteProcPdpStatus_run hvalid true
  | deactivated => exact lteProcPdpStatus_run hvalid false
  | cnecEsm | ipv6Up | ipv6Down | undefined => rfl

/-- A turn that is served and does not reboot. -/
theorem LteOp.run_ok (hvalid : lte.cblk.state.Valid) (hserved : op.Served)
    (h : ¬op.Reboots lte) : op.run.run lte = .ok () (op.effect lte) := by
  cases op with
  | appConn modem appUp =>
      cases appUp with
      | true => exact lteApplicationConnUp_up_run modem
      | false => exact (lteApplicationConnUp_down_run hserved).trans (if_neg h)
  | statsClear => rfl
  | statsPrint =>
      obtain ⟨text, htext⟩ := stateToString_run hvalid lte
      unfold LteOp.run lteStatsPrint
      simp [EStateM.run_bind, run_discard, htext, LteOp.effect]
  | pdnEvent cid event reason => exact pdnEvent_run hvalid cid event reason
  | lteEvent evt => rfl
  | main err => exact (mainContinues_run err).trans (if_neg fun herr => herr.2 hserved)

theorem LteOp.run_reboots (hserved : op.Served) (h : op.Reboots lte) :
    op.run.run lte = .error rebootReason (op.effect lte) := by
  cases op with
  | appConn modem appUp =>
      cases appUp with
      | true => exact h.elim
      | false => exact (lteApplicationConnUp_down_run hserved).trans (if_pos h)
  | statsClear | statsPrint | pdnEvent | lteEvent | main => exact h.elim

/-- A turn that is not served goes through or stops with the reason, in the same PDP state. -/
theorem LteOp.run_not_served (lte : Lte) (hserved : ¬op.Served) :
    op.run.run lte = .ok () (op.effect lte) ∨
      ∃ e cblk, op.run.run lte = .error e { lte with cblk := cblk } ∧ e ∈ serviceFailures ∧
        cblk.state = lte.cblk.state := by
  cases op with
  | appConn modem appUp =>
      cases appUp with
      | true => exact absurd trivial hserved
      | false => exact Or.inr (lteApplicationConnUp_down_fails hserved)
  | main err =>
      by_cases hmain : lte.main = .unblocked
      · have hrun := (mainContinues_run err).trans (if_pos ⟨hmain, hserved⟩)
        exact Or.inr ⟨_, lte.cblk, hrun, by simp [serviceFailures], rfl⟩
      · exact Or.inl ((mainContinues_run err).trans (if_neg fun h => hmain h.1))
  | statsClear | statsPrint | pdnEvent | lteEvent => exact absurd trivial hserved

theorem LteOp.pdp?_of_not_served (h : ¬op.Served) : op.pdp? = none := by
  cases op with
  | pdnEvent cid event reason => exact absurd trivial h
  | _ => rfl

/-! ## What a turn changes -/

theorem procRegistrationMsgs_frame (status : LteLcNwRegStatus) (cblk : ModemControlBlock) :
    (procRegistrationMsgs status cblk).state = cblk.state ∧
    (procRegistrationMsgs status cblk).linkDownCnt = cblk.linkDownCnt ∧
    (procRegistrationMsgs status cblk).appConnectivityUp = cblk.appConnectivityUp := by
  cases status <;> exact ⟨rfl, rfl, rfl⟩

theorem lteHandler_frame (evt : LteLcEvt) (cblk : ModemControlBlock) :
    (lteHandler evt cblk).state = cblk.state ∧
    (lteHandler evt cblk).linkDownCnt = cblk.linkDownCnt ∧
    (lteHandler evt cblk).appConnectivityUp = cblk.appConnectivityUp := by
  cases evt with
  | nwRegStatus status => exact procRegistrationMsgs_frame status cblk
  | _ => exact ⟨rfl, rfl, rfl⟩

theorem Lte.mainContinued_cblk (lte : Lte) : lte.mainContinued.cblk = lte.cblk := by
  unfold Lte.mainContinued
  split
  · split <;> rfl
  · rfl
  · rfl
  · rfl

theorem LteOp.effect_state (lte : Lte) (op : LteOp) :
    (op.effect lte).cblk.state =
      (op.pdp?.map lte.cblk.state.next).getD lte.cblk.state := by
  cases op with
  | appConn modem appUp => cases appUp <;> rfl
  | pdnEvent cid event reason => cases event <;> rfl
  | lteEvent evt => exact (lteHandler_frame evt lte.cblk).1
  | main err => exact congrArg ModemControlBlock.state lte.mainContinued_cblk
  | statsClear | statsPrint => rfl

theorem LteOp.effect_valid (hvalid : lte.cblk.state.Valid) : (op.effect lte).cblk.state.Valid := by
  rw [effect_state]
  cases op.pdp? with
  | none => exact hvalid
  | some flag => exact hvalid.next flag

end Levaware
