import Levaware.Bsp.Apn
import Levaware.Bsp.Led
import Levaware.Cell.LteRun
import Levaware.Cell.SmsReboot
import Levaware.Connectors.AwsCallbacks
import Levaware.Lib.Lives

set_option autoImplicit false

/-! # The whole firmware

`main` starts the parts one after the other; from then on the callbacks of the modem and of the nRF
client, the listener for SMS, the timer, the shell, `main` and the thread of the connector take
turns in any order. Whatever aborts, the device reboots and starts again with `main` on the flash as
it is: `firmware` is the machine (`Lives.Machine`) of these turns and this start. -/

namespace Levaware

open Abort

/-! ## State -/

/-- What the firmware meets on its board and in the libraries. -/
structure Hardware where
  platform : Platform
  led : LedLib
  lte : LteLib
  sameModem : lte.modem = platform.modem
  /-- what `aws_iot_init` returns -/
  awsIotInit : Int
  /-- the buffer of `lte_connect_init` as it is on the stack -/
  iccid : CBuf iccidLen

/-- `struct aws_iot_config`, as far as the connector fills it in. -/
structure AwsIotConfig where
  clientId : List UInt8
  clientIdLen : Nat
  deriving DecidableEq

structure Firmware where
  device : Device
  leds : Leds
  modem : ModemVars Unit
  lte : Lte
  /-- the connector, from `aws_connector_init` on -/
  connector : Option AwsConnector
  /-- `aws_iot`, from `aws_iot_init` on -/
  awsIot : Option AwsIotConfig
  /-- callbacks that have decoded shadow data and are to queue their event -/
  decoded : Nat
  rebootDelayTimer : KTimer
  /-- ms since `reboot_delay_timer` was started last -/
  elapsed : Nat

abbrev FirmwareM := EStateM String Firmware

def Firmware.board (fw : Firmware) : Board := fw.device.board

section Parts

variable {α : Type}

def atDevice (m : DevM α) : FirmwareM α :=
  zoom Firmware.device (fun device fw => { fw with device }) m

def atBoard (m : Fw α) : FirmwareM α := atDevice (onBoard m)

def atLeds (m : LedM α) : FirmwareM α := zoom Firmware.leds (fun leds fw => { fw with leds }) m

def atLte (m : LteM α) : FirmwareM α := zoom Firmware.lte (fun lte fw => { fw with lte }) m

/-- There is one SIM: the board's. -/
def atModem (m : EStateM String (ModemVars Unit) α) : FirmwareM α :=
  zoom (fun fw => { fw.modem with uicc := fw.board.modem })
    (fun modem fw => { fw with
      modem
      device := { fw.device with board := { fw.board with modem := modem.uicc } } }) m

/-- Before `aws_connector_init` nobody touches the connector. -/
def atConnector (m : EStateM String AwsConnector α) : FirmwareM α :=
  zoom (fun fw => fw.connector.getD .init) (fun c fw => { fw with connector := some c }) m

end Parts

/-! ## Start -/

/-- RAM as a reboot leaves it: the files are all there is. -/
def Firmware.cleared (b : Board) : Firmware where
  device := { board := b.powerCycle, outstanding := [] }
  leds := .unbound
  modem := .boot .off
  lte := {
    cblk := ⟨.startup, 0, 0, 0, 0, 0, 0, 0, 0, 0, 0, false⟩
    lteConnected := { count := 0, limit := 1, gives := 0 }
    main := .waiting }
  connector := none
  awsIot := none
  decoded := 0
  rebootDelayTimer := ⟨[]⟩
  elapsed := 0

/-- `lte_connect_init` up to its `k_sem_take`. The errors of the link controller are only logged.
    The callback it registers is `lte_proc_pdp_status`. -/
def lteConnectInitStart (hw : Hardware) : FirmwareM Unit := do
  modify fun fw => { fw with lte := lteConnectInit fw.lte.cblk }
  atModem (lteConnectInitModem hw.lte apnLookupTable hw.iccid ())

/-- `main` up to there. The answer of `modem_info_init` is not looked at, and `encoding_init` has
    nothing to set up but the allocator of cJSON. -/
def mainStart (hw : Hardware) : FirmwareM Unit := do
  atLeds (ledsAtStart hw.led)
  atBoard (configInit hw.platform)
  lteConnectInitStart hw

/-- A reboot; `none` when `main` aborts, and so will abort every time. -/
def boot (hw : Hardware) (b : Board) : Option Firmware :=
  match (mainStart hw).run (.cleared b) with
  | .ok _ fw => some fw
  | .error _ _ => none

/-! ## Turns -/

inductive Turn where
  /-- a turn of the connection manager, or of `main` -/
  | lte (op : LteOp)
  /-- an SMS, and the buffer of the listener as it is on the stack -/
  | sms (serialNum : CBuf serialNumberLen) (datap : SmsData)
  /-- a millisecond passes -/
  | tick
  /-- a callback of the client, up to where it queues the event of shadow data -/
  | callback (evtp : AwsIotEvt)
  /-- a callback that has decoded shadow data queues its event -/
  | queueDecoded
  /-- the thread of the connector -/
  | connectorTask
  | powerLoss

/-- `lte_reboot_tmr_exp`. -/
def lteRebootTmrExp : FirmwareM Unit := erabort "lte_connection_mgr: SMS reboot"

/-- The timer expires. -/
def Firmware.timerExpires (fw : Firmware) : Bool :=
  match fw.rebootDelayTimer.starts.getLast? with
  | some (duration, _) => duration ≤ fw.elapsed
  | none => false

/-- The start of `aws_connector_task_entry`. An error of `aws_iot_connect` is only logged. -/
def awsConnectorTaskStart (hw : Hardware) : FirmwareM Unit := do
  let clientId := configGetSerialNumber (← get).board
  if hw.awsIotInit ≠ 0 then erabort "aws_connect - aws_iot_init failed"
  modify fun fw => { fw with awsIot := some { clientId, clientIdLen := clientId.length } }

/-- What a turn runs. -/
def Turn.run (hw : Hardware) : Turn → FirmwareM Unit
  | .lte op => do
      let main := (← get).lte.main
      atLte op.run
      match op, main with
      -- `main` returns from `lte_connect_init` and calls `aws_connector_init`
      | .main _, .lteStarted => modify fun fw => { fw with connector := some .init }
      | _, _ => pure ()
  | .sms serialNum datap => modify fun fw =>
      let timer := lteSmsListener fw.board serialNum datap fw.rebootDelayTimer
      { fw with
        rebootDelayTimer := timer
        elapsed := if timer.starts = fw.rebootDelayTimer.starts then fw.elapsed else 0 }
  | .tick => do
      modify fun fw => { fw with elapsed := fw.elapsed + 1 }
      if (← get).timerExpires then lteRebootTmrExp
  | .callback evtp =>
      match evtp.shadowData? with
      | some msg => do
          atDevice (awsDecodeShadowMsg hw.platform msg)
          modify fun fw => { fw with decoded := fw.decoded + 1 }
      | none =>
          match evtp.code? with
          | some event => atConnector (awsQueueEvent event)
          | none => pure ()
  | .queueDecoded => do
      modify fun fw => { fw with decoded := fw.decoded - 1 }
      atConnector (awsQueueEvent .shadowReceived)
  | .connectorTask => do
      let fw ← get
      match fw.awsIot with
      | none => awsConnectorTaskStart hw
      | some _ =>
          match fw.connector.bind AwsConnector.taskLoop with
          | some c => set { fw with connector := some c }
          | none => pure ()
  | .powerLoss => throw "power loss"

/-- Whether a turn can come. The listener is registered when `main` is past `sms_register_listener`,
    the client calls back when it has been initialized, and the thread runs from its creation on as
    long as it has something to do. -/
def Firmware.possible (fw : Firmware) : Turn → Bool
  | .lte _ | .tick | .powerLoss => true
  | .sms _ _ => fw.lte.main = .lteStarted ∨ fw.lte.main = .awsStarted
  | .callback _ => fw.awsIot.isSome
  | .queueDecoded => 0 < fw.decoded
  | .connectorTask =>
      match fw.connector with
      | some c => fw.awsIot.isNone ∨ c.connectorEventQueue.items ≠ []
      | none => false

/-- The firmware, from one reboot to the next. -/
def firmware (hw : Hardware) : Lives.Machine String Firmware Turn where
  possible := Firmware.possible
  turn := Turn.run hw
  start fw := boot hw fw.board

/-! ## Callbacks in one piece -/

/-- The part of the firmware that the callbacks work on. -/
def atCloud {α : Type} (m : CloudM α) : FirmwareM α :=
  zoom (fun fw => ⟨fw.device, fw.connector.getD .init⟩)
    (fun c fw => { fw with device := c.device, connector := some c.connector }) m

/-- The turns of a callback that nothing comes between. -/
def callbackTurns (hw : Hardware) (evtp : AwsIotEvt) : FirmwareM Unit :=
  match evtp.shadowData? with
  | some _ => do
      Turn.run hw (.callback evtp)
      Turn.run hw .queueDecoded
  | none => Turn.run hw (.callback evtp)

/-- They are the handler. -/
theorem callbackTurns_run (hw : Hardware) (evtp : AwsIotEvt) {fw : Firmware} {c : AwsConnector}
    (hc : fw.connector = some c) :
    (callbackTurns hw evtp).run fw = (atCloud (awsIotEventHandler hw.platform evtp)).run fw := by
  have hqueue : ∀ (event : EventCode) (fw : Firmware), fw.connector = some c →
      (atConnector (awsQueueEvent event)).run fw
        = (atCloud (onConnector (awsQueueEvent event))).run fw := by
    intro event fw hc
    unfold atConnector atCloud onConnector
    rw [run_zoom, run_zoom, run_zoom]
    cases (awsQueueEvent event).run (fw.connector.getD .init) <;> rfl
  have hnone : ∀ fw : Firmware, fw.connector = some c →
      (pure () : FirmwareM Unit).run fw = (atCloud (pure ())).run fw := by
    rintro ⟨device, leds, modem, lte, connector, awsIot, decoded, timer, elapsed⟩ hc
    dsimp only at hc
    subst hc
    rfl
  cases evtp with
  | connecting | ready | disconnected => exact hqueue _ fw hc
  | connected persistentSession => exact hqueue _ fw hc
  | dataReceived msg =>
      obtain ⟨device, leds, modem, lte, connector, awsIot, decoded, timer, elapsed⟩ := fw
      dsimp only at hc
      subst hc
      unfold callbackTurns Turn.run awsIotEventHandler atDevice atConnector atCloud onDevice
        onConnector
      simp only [AwsIotEvt.shadowData?, EStateM.run_bind, run_zoom]
      cases (awsDecodeShadowMsg hw.platform msg).run device with
      | error e d => rfl
      | ok u d =>
          simp only [EStateM.run_modify, Option.getD_some, Nat.add_sub_cancel]
          cases (awsQueueEvent .shadowReceived).run c <;> rfl
  | _ => exact hnone fw hc

end Levaware
