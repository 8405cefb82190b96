import Levaware.Bsp.Modem

set_option autoImplicit false

/-! # The LTE connection manager

`lte_connect_mgr.c`: one control block, touched by the callbacks of the modem, by the cloud module's
reports on its connectivity and by the shell, and the semaphore that keeps `main` in
`lte_connect_init` until the PDP context is up. Logging is left out, and so is the set-up of the
modem inside `lte_connect_init`. -/

namespace Levaware

open Abort

/-! ## State -/

/-- `enum modem_state`. In C an enum object can hold other numbers; `invalid` is one of those. -/
inductive ModemState where
  | startup | pdpDown | pdpUp
  | invalid (code : Nat)
  deriving DecidableEq, Repr

/-- `struct modem_control_block`. -/
structure ModemControlBlock where
  state : ModemState
  scanCnt : Int32
  lostRegCnt : Int32
  homeRegCnt : Int32
  roamRegCnt : Int32
  cellChgCnt : Int32
  pdpContextUp : Int32
  pdpContextDown : Int32
  offlineCnt : Int32
  linkDownCnt : Int32
  linkDownTotal : Int32
  appConnectivityUp : Bool
  deriving DecidableEq, Repr

/-- A `k_sem`, and how often it has been given, which the kernel does not keep. -/
structure KSem where
  count : Nat
  limit : Nat
  gives : Nat
  deriving DecidableEq, Repr

/-- `k_sem_give`. -/
def KSem.give (sem : KSem) : KSem :=
  { sem with count := min (sem.count + 1) sem.limit, gives := sem.gives + 1 }

/-- `k_sem_take`, when the semaphore is free. -/
def KSem.take? (sem : KSem) : Option KSem :=
  if 0 < sem.count then some { sem with count := sem.count - 1 } else none

/-- How far `main` has come. -/
inductive MainThread where
  /-- in `lte_connect_init`, before its `k_sem_take` returns -/
  | waiting
  /-- in `lte_connect_init`, after it -/
  | unblocked
  /-- `lte_connect_init` has returned -/
  | lteStarted
  /-- `aws_connector_init` has been called -/
  | awsStarted
  deriving DecidableEq, Repr

/-- What the connection manager and `main` share. -/
structure Lte where
  cblk : ModemControlBlock
  lteConnected : KSem
  main : MainThread
  deriving DecidableEq, Repr

abbrev LteM := EStateM String Lte

/-- Update the control block. -/
def onCblk (f : ModemControlBlock → ModemControlBlock) : LteM Unit :=
  modify fun lte => { lte with cblk := f lte.cblk }

/-! ## Statistics and start -/

/-- `lte_stats_clear`. -/
def lteStatsClear (cblk : ModemControlBlock) : ModemControlBlock :=
  { cblk with
    scanCnt := 0
    lostRegCnt := 0
    homeRegCnt := 0
    roamRegCnt := 0
    cellChgCnt := 0
    pdpContextUp := 0
    pdpContextDown := 0
    offlineCnt := 0
    linkDownCnt := 0
    linkDownTotal := 0 }

/-- What `lte_connect_init` does before any callback is registered, with the semaphore as
    `K_SEM_DEFINE` makes it. -/
def lteConnectInit (cblk : ModemControlBlock) : Lte where
  cblk := { lteStatsClear { cblk with state := .startup } with appConnectivityUp := false }
  lteConnected := { count := 0, limit := 1, gives := 0 }
  main := .waiting

/-- `main` going on from `k_sem_take`, when it is scheduled: `smsRegisterListener` is what
    `sms_register_listener` returns. -/
def mainContinues (smsRegisterListener : Int32) : LteM Unit := do
  let lte ← get
  match lte.main with
  | .waiting =>
      match lte.lteConnected.take? with
      | some sem => set { lte with lteConnected := sem, main := .unblocked }
      | none => pure ()
  | .unblocked =>
      if smsRegisterListener ≠ 0 then
        erabort "lte_connect_mgr: failed to register SMS callback"
      set { lte with main := .lteStarted }
  | .lteStarted => set { lte with main := .awsStarted }
  | .awsStarted => pure ()

/-! ## Application connectivity -/

/-- `LTE_MAX_LINK_DOWN`. -/
def lteMaxLinkDown : Int32 := 4

/-- The functional modes of the modem that matter here. -/
inductive LteLcFuncMode where
  | normal | offline
  | other (mode : Nat)
  deriving DecidableEq, Repr

/-- What the modem answers while a report is processed: `lte_lc_func_mode_get` gives the mode or an
    error, `lte_lc_func_mode_set` an error or 0. -/
structure FuncModeAnswers where
  get : Except Int32 LteLcFuncMode
  set : Int32

/-- `lte_application_conn_up`. -/
def lteApplicationConnUp (modem : FuncModeAnswers) (appUp : Bool) : LteM Unit :=
  if appUp then
    onCblk fun cblk => { cblk with appConnectivityUp := true, linkDownCnt := 0 }
  else do
    match modem.get with
    | .error _ => erabort "lte_connect_mrg - failed to get mode"
    | .ok mode =>
        if mode = .offline then
          onCblk fun cblk => { cblk with offlineCnt := cblk.offlineCnt + 1 }
          if modem.set ≠ 0 then
            erabort "lte_connect_mgr - unable to change mode"
    onCblk fun cblk => { cblk with
      linkDownCnt := cblk.linkDownCnt + 1
      linkDownTotal := cblk.linkDownTotal + 1 }
    let cblk := (← get).cblk
    if cblk.appConnectivityUp then
      if cblk.linkDownCnt > lteMaxLinkDown then
        erabort "lte_connect_mgr: AWS connection down for too many times, rebooting"

/-! ## PDP context -/

/-- `lte_check_pdp_context`. -/
def lteCheckPdpContext (cblk : ModemControlBlock) : Bool :=
  if cblk.state = .pdpUp then true else false

/-- `state_to_string`. -/
def stateToString : ModemState → LteM String
  | .startup => pure "Startup"
  | .pdpDown => pure "PDP_Down"
  | .pdpUp => pure "PDP_Up"
  | .invalid _ => erabort "lte_connect_mgr: invalid state"

/-- `lte_stats_print`, of which only `state_to_string` can fail. -/
def lteStatsPrint : LteM Unit := do
  discard <| stateToString (← get).cblk.state

/-- `proc_startup`. -/
def procStartup (pdpContextFlag : Bool) : LteM Unit :=
  if pdpContextFlag then
    modify fun lte =>
      { lte with
        cblk := { lte.cblk with state := .pdpUp, pdpContextUp := lte.cblk.pdpContextUp + 1 }
        lteConnected := lte.lteConnected.give }
  else
    onCblk fun cblk =>
      { cblk with state := .startup, pdpContextDown := cblk.pdpContextDown + 1 }

/-- `proc_pdp_down`. -/
def procPdpDown (pdpContextFlag : Bool) : LteM Unit :=
  if pdpContextFlag then
    onCblk fun cblk => { cblk with state := .pdpUp, pdpContextUp := cblk.pdpContextUp + 1 }
  else
    onCblk fun cblk => { cblk with pdpContextDown := cblk.pdpContextDown + 1 }

/-- `proc_pdp_up`. -/
def procPdpUp (pdpContextFlag : Bool) : LteM Unit :=
  if pdpContextFlag then
    onCblk fun cblk => { cblk with pdpContextUp := cblk.pdpContextUp + 1 }
  else
    onCblk fun cblk =>
      { cblk with pdpContextDown := cblk.pdpContextDown + 1, state := .pdpDown }

/-- `lte_proc_pdp_status`. The strings are only logged. -/
def lteProcPdpStatus (pdpContextFlag : Bool) : LteM Unit := do
  let currentState := (← get).cblk.state
  match currentState with
  | .startup => procStartup pdpContextFlag
  | .pdpDown => procPdpDown pdpContextFlag
  | .pdpUp => procPdpUp pdpContextFlag
  | .invalid _ => pure ()
  let newState := (← get).cblk.state
  discard <| stateToString currentState
  discard <| stateToString newState

/-! ## Link control events -/

/-- `enum lte_lc_nw_reg_status`. -/
inductive LteLcNwRegStatus where
  | notRegistered | registeredHome | searching | registrationDenied | unknown
  | registeredRoaming | registeredEmergency | uiccFail
  | other (status : Nat)
  deriving DecidableEq, Repr

/-- `struct lte_lc_evt`, without what is only logged. -/
inductive LteLcEvt where
  | nwRegStatus (nwRegStatus : LteLcNwRegStatus)
  | psmUpdate | edrxUpdate | rrcUpdate | cellUpdate | lteModeUpdate
  | modemSleepEnter | modemSleepExit | modemSleepExitPreWarning
  | other (type : Nat)
  deriving DecidableEq, Repr

/-- `proc_registration_msgs`. -/
def procRegistrationMsgs (status : LteLcNwRegStatus) (cblk : ModemControlBlock) :
    ModemControlBlock :=
  match status with
  | .notRegistered => { cblk with lostRegCnt := cblk.lostRegCnt + 1 }
  | .registeredHome => { cblk with homeRegCnt := cblk.homeRegCnt + 1 }
  -- falls through to the next case
  | .searching => { cblk with scanCnt := cblk.scanCnt + 1, lostRegCnt := cblk.lostRegCnt + 1 }
  | .registrationDenied | .unknown => { cblk with lostRegCnt := cblk.lostRegCnt + 1 }
  | .registeredRoaming => { cblk with roamRegCnt := cblk.roamRegCnt + 1 }
  | .registeredEmergency | .uiccFail | .other _ => cblk

/-- `lte_handler`. -/
def lteHandler (evt : LteLcEvt) (cblk : ModemControlBlock) : ModemControlBlock :=
  match evt with
  | .nwRegStatus status => procRegistrationMsgs status cblk
  | .cellUpdate => { cblk with cellChgCnt := cblk.cellChgCnt + 1 }
  | .psmUpdate | .edrxUpdate | .rrcUpdate | .lteModeUpdate | .modemSleepEnter | .modemSleepExit
  | .modemSleepExitPreWarning | .other _ => cblk

end Levaware
