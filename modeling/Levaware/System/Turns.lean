import Levaware.System.Firmware

set_option autoImplicit false

/-! # What a turn of the firmware does

`Goes` and `Stops` list what can come of each turn, and `Turn.run_cases` says that there is nothing
else. Everything about runs of the firmware is derived from these lists. -/

namespace Levaware

open Abort

/-- `main` goes on from `lte_connect_init`. -/
def LteOp.startsConnector (lte : Lte) : LteOp → Prop
  | .main _ => lte.main = .lteStarted
  | _ => False

instance (lte : Lte) (op : LteOp) : Decidable (op.startsConnector lte) := by
  cases op <;> unfold LteOp.startsConnector <;> infer_instance

/-- The timer after an SMS, and the ms since its start. -/
def Firmware.smsReceived (fw : Firmware) (serialNum : CBuf serialNumberLen) (datap : SmsData) :
    Firmware :=
  let timer := lteSmsListener fw.board serialNum datap fw.rebootDelayTimer
  { fw with
    rebootDelayTimer := timer
    elapsed := if timer.starts = fw.rebootDelayTimer.starts then fw.elapsed else 0 }

/-- A millisecond later. -/
def Firmware.ticked (fw : Firmware) : Firmware := { fw with elapsed := fw.elapsed + 1 }

/-- The connector, a new one if there is none. -/
def Firmware.theConnector (fw : Firmware) : AwsConnector := fw.connector.getD .init

/-- The client has been initialized. -/
def Firmware.clientStarted (fw : Firmware) : Firmware :=
  let clientId := configGetSerialNumber fw.board
  { fw with awsIot := some { clientId, clientIdLen := clientId.length } }

/-- An event has been queued. -/
def Firmware.queued (fw : Firmware) (q : MsgQueue EventCode msgQueueSz) : Firmware :=
  { fw with connector := some { fw.theConnector with connectorEventQueue := q } }

variable (hw : Hardware)

/-- A turn that does not stop. -/
inductive Goes (fw : Firmware) : Turn → Firmware → Prop
  | lte {op : LteOp} {lte : Lte} (hrun : op.run.run fw.lte = .ok () lte) :
      Goes fw (.lte op) { fw with
        lte
        connector := if op.startsConnector fw.lte then some .init else fw.connector }
  | sms {serialNum : CBuf serialNumberLen} {datap : SmsData} :
      Goes fw (.sms serialNum datap) (fw.smsReceived serialNum datap)
  | tick (hearly : fw.ticked.timerExpires = false) : Goes fw .tick fw.ticked
  | decoded {evtp : AwsIotEvt} {msg : List UInt8} {device : Device}
      (hdata : evtp.shadowData? = some msg)
      (hrun : (awsDecodeShadowMsg hw.platform msg).run fw.device = .ok () device) :
      Goes fw (.callback evtp) { fw with device, decoded := fw.decoded + 1 }
  | queued {evtp : AwsIotEvt} {event : EventCode} {q : MsgQueue EventCode msgQueueSz}
      (hdata : evtp.shadowData? = none) (hcode : evtp.code? = some event)
      (hput : fw.theConnector.connectorEventQueue.put event = some q) :
      Goes fw (.callback evtp) (fw.queued q)
  | ignored {evtp : AwsIotEvt} (hdata : evtp.shadowData? = none) (hcode : evtp.code? = none) :
      Goes fw (.callback evtp) fw
  | queuedDecoded {q : MsgQueue EventCode msgQueueSz}
      (hput : fw.theConnector.connectorEventQueue.put .shadowReceived = some q) :
      Goes fw .queueDecoded { fw.queued q with decoded := fw.decoded - 1 }
  | clientStarted (hstart : fw.awsIot = none) (hinit : hw.awsIotInit = 0) :
      Goes fw .connectorTask fw.clientStarted
  | handled {c c' : AwsConnector} (hclient : fw.awsIot.isSome) (hc : fw.connector = some c)
      (hloop : c.taskLoop = some c') :
      Goes fw .connectorTask { fw with connector := some c' }

/-- A turn that stops, the reason, and the firmware at the stop. -/
inductive Stops (fw : Firmware) : Turn → String → Firmware → Prop
  | lte {op : LteOp} {reason : String} {lte : Lte}
      (hrun : op.run.run fw.lte = .error reason lte) :
      Stops fw (.lte op) reason { fw with lte }
  | timer (hexpires : fw.ticked.timerExpires = true) :
      Stops fw .tick "lte_connection_mgr: SMS reboot" fw.ticked
  | decoding {evtp : AwsIotEvt} {msg : List UInt8} {reason : String} {device : Device}
      (hdata : evtp.shadowData? = some msg)
      (hrun : (awsDecodeShadowMsg hw.platform msg).run fw.device = .error reason device) :
      Stops fw (.callback evtp) reason { fw with device }
  | queueFull {evtp : AwsIotEvt} {event : EventCode} (hdata : evtp.shadowData? = none)
      (hcode : evtp.code? = some event)
      (hput : fw.theConnector.connectorEventQueue.put event = none) :
      Stops fw (.callback evtp) "aws_queue_event" { fw with connector := some fw.theConnector }
  | queueFullDecoded (hput : fw.theConnector.connectorEventQueue.put .shadowReceived = none) :
      Stops fw .queueDecoded "aws_queue_event"
        { fw with connector := some fw.theConnector, decoded := fw.decoded - 1 }
  | clientFails (hstart : fw.awsIot = none) (hinit : hw.awsIotInit ≠ 0) :
      Stops fw .connectorTask "aws_connect - aws_iot_init failed" fw
  | powerLoss : Stops fw .powerLoss "power loss" fw

variable {hw} {fw : Firmware}

/-! ## There is nothing else -/

theorem lteTurn_run (hw : Hardware) (fw : Firmware) (op : LteOp) :
    (∃ lte, op.run.run fw.lte = .ok () lte ∧ (Turn.run hw (.lte op)).run fw = .ok () { fw with
      lte
      connector := if op.startsConnector fw.lte then some .init else fw.connector }) ∨
    ∃ reason lte, op.run.run fw.lte = .error reason lte ∧
      (Turn.run hw (.lte op)).run fw = .error reason { fw with lte } := by
  unfold Turn.run
  rw [run_bind_ok (EStateM.run_get fw)]
  cases hrun : op.run.run fw.lte with
  | ok u lte =>
      have hat : (atLte op.run).run fw = .ok () { fw with lte } := by
        rw [atLte, run_zoom, hrun]
      refine Or.inl ⟨lte, rfl, ?_⟩
      rw [run_bind_ok hat]
      cases op with
      | main err => cases hmain : fw.lte.main <;> simp [LteOp.startsConnector, hmain]
      | appConn | statsClear | statsPrint | pdnEvent | lteEvent => rfl
  | error reason lte =>
      have hat : (atLte op.run).run fw = .error reason { fw with lte } := by
        rw [atLte, run_zoom, hrun]
      exact Or.inr ⟨reason, lte, rfl, run_bind_error hat⟩

theorem tick_run :
    (Turn.run hw .tick).run fw = if fw.ticked.timerExpires = true then
      .error "lte_connection_mgr: SMS reboot" fw.ticked else .ok () fw.ticked := by
  have hget : (get : FirmwareM Firmware).run fw.ticked = .ok fw.ticked fw.ticked := rfl
  unfold Turn.run
  rw [run_bind_ok (EStateM.run_modify _ fw)]
  show ((get : FirmwareM Firmware) >>= _).run fw.ticked = _
  rw [run_bind_ok hget, run_ite]
  rfl

theorem atConnector_queue_run (event : EventCode) (fw : Firmware) :
    (atConnector (awsQueueEvent event)).run fw =
      match fw.theConnector.connectorEventQueue.put event with
      | some q => .ok () (fw.queued q)
      | none => .error "aws_queue_event" { fw with connector := some fw.theConnector } := by
  unfold atConnector
  rw [run_zoom, awsQueueEvent_run]
  unfold Firmware.queued Firmware.theConnector
  cases (fw.connector.getD .init).connectorEventQueue.put event <;> rfl

/-- A turn that can come goes through or stops in one of the ways listed. -/
theorem Turn.run_cases (hw : Hardware) {turn : Turn} (hpossible : fw.possible turn = true) :
    (∃ fw', (turn.run hw).run fw = .ok () fw' ∧ Goes hw fw turn fw') ∨
    ∃ reason fw', (turn.run hw).run fw = .error reason fw' ∧ Stops hw fw turn reason fw' := by
  cases turn with
  | lte op =>
      rcases lteTurn_run hw fw op with ⟨lte, hrun, hturn⟩ | ⟨e, lte, hrun, hturn⟩
      · exact Or.inl ⟨_, hturn, .lte hrun⟩
      · exact Or.inr ⟨_, _, hturn, .lte hrun⟩
  | sms serialNum datap => exact Or.inl ⟨_, rfl, .sms⟩
  | tick =>
      rw [tick_run]
      cases hexpires : fw.ticked.timerExpires with
      | true => exact Or.inr ⟨_, _, rfl, .timer hexpires⟩
      | false => exact Or.inl ⟨_, rfl, .tick hexpires⟩
  | callback evtp =>
      cases hdata : evtp.shadowData? with
      | some msg =>
          have hturn : Turn.run hw (.callback evtp) = (do
              atDevice (awsDecodeShadowMsg hw.platform msg)
              modify fun fw => { fw with decoded := fw.decoded + 1 } : FirmwareM Unit) := by
            simp only [Turn.run, hdata]
          rw [hturn]
          cases hrun : (awsDecodeShadowMsg hw.platform msg).run fw.device with
          | ok u device =>
              have hat : (atDevice (awsDecodeShadowMsg hw.platform msg)).run fw
                  = .ok () { fw with device } := by rw [atDevice, run_zoom, hrun]
              rw [run_bind_ok hat]
              exact Or.inl ⟨_, rfl, .decoded hdata hrun⟩
          | error e device =>
              have hat : (atDevice (awsDecodeShadowMsg hw.platform msg)).run fw
                  = .error e { fw with device } := by rw [atDevice, run_zoom, hrun]
              rw [run_bind_error hat]
              exact Or.inr ⟨_, _, rfl, .decoding hdata hrun⟩
      | none =>
          cases hcode : evtp.code? with
          | none =>
              have hturn : Turn.run hw (.callback evtp) = pure () := by
                simp only [Turn.run, hdata, hcode]
              rw [hturn]
              exact Or.inl ⟨fw, rfl, .ignored hdata hcode⟩
          | some event =>
              have hturn : Turn.run hw (.callback evtp) = atConnector (awsQueueEvent event) := by
                simp only [Turn.run, hdata, hcode]
              rw [hturn, atConnector_queue_run]
              cases hput : fw.theConnector.connectorEventQueue.put event with
              | some q => exact Or.inl ⟨_, rfl, .queued hdata hcode hput⟩
              | none => exact Or.inr ⟨_, _, rfl, .queueFull hdata hcode hput⟩
  | queueDecoded =>
      have hsame : ({ fw with decoded := fw.decoded - 1 } : Firmware).theConnector
          = fw.theConnector := rfl
      unfold Turn.run
      rw [run_bind_ok (EStateM.run_modify _ fw), atConnector_queue_run, hsame]
      cases hput : fw.theConnector.connectorEventQueue.put .shadowReceived with
      | some q => exact Or.inl ⟨_, rfl, .queuedDecoded hput⟩
      | none => exact Or.inr ⟨_, _, rfl, .queueFullDecoded hput⟩
  | connectorTask =>
      unfold Turn.run
      rw [run_bind_ok (EStateM.run_get fw)]
      cases hclient : fw.awsIot with
      | none =>
          dsimp only
          unfold awsConnectorTaskStart
          rw [run_bind_ok (EStateM.run_get fw)]
          by_cases hinit : hw.awsIotInit = 0
          · rw [if_neg (not_not.2 hinit)]
            exact Or.inl ⟨_, rfl, .clientStarted hclient hinit⟩
          · rw [if_pos hinit]
            exact Or.inr ⟨_, _, rfl, .clientFails hclient hinit⟩
      | some cfg =>
          -- the turn is possible only with an event to handle
          unfold Firmware.possible at hpossible
          cases hc : fw.connector with
          | none =>
              rw [hc] at hpossible
              cases hpossible
          | some c =>
              have hitems : c.connectorEventQueue.items ≠ [] := by
                simpa [hc, hclient] using hpossible
              cases hloop : c.taskLoop with
              | none =>
                  obtain ⟨cblk, ⟨items, hfits⟩⟩ := c
                  cases items with
                  | nil => exact absurd rfl hitems
                  | cons event rest => cases hloop
              | some c' =>
                  have hbind : (some c).bind AwsConnector.taskLoop = some c' := hloop
                  dsimp only
                  rw [hbind]
                  refine Or.inl ⟨{ fw with connector := some c' }, ?_,
                    .handled (by rw [hclient]; rfl) hc hloop⟩
                  rw [← hclient]
                  rfl
  | powerLoss => exact Or.inr ⟨_, _, rfl, .powerLoss⟩

/-! ## One turn of a life, and the turns of every life -/

variable {turn : Turn} {fw' : Firmware}

theorem goes_of_goesOn (h : (firmware hw).goesOn fw turn = some fw') :
    fw.possible turn = true ∧ Goes hw fw turn fw' := by
  obtain ⟨hpossible, hrun⟩ := Lives.Machine.goesOn_iff.1 h
  refine ⟨hpossible, ?_⟩
  rcases Turn.run_cases hw hpossible with ⟨fw₁, hrun₁, hgoes⟩ | ⟨e, fw₁, hrun₁, -⟩
  · have heq := hrun.symm.trans hrun₁
    cases heq
    exact hgoes
  · have heq := hrun.symm.trans hrun₁
    cases heq

theorem firmware_step_cases (h : (firmware hw).step fw turn = some fw') :
    fw.possible turn = true ∧ (Goes hw fw turn fw' ∨
      ∃ reason fw₁, Stops hw fw turn reason fw₁ ∧ boot hw fw₁.board = some fw') := by
  obtain ⟨hpossible, hcase⟩ := Lives.Machine.step_cases h
  refine ⟨hpossible, ?_⟩
  rcases Turn.run_cases hw hpossible with ⟨fw₁, hrun, hgoes⟩ | ⟨e, fw₁, hrun, hstops⟩
  · rcases hcase with hok | ⟨e, fw₂, herror, -⟩
    · have heq := hok.symm.trans hrun
      cases heq
      exact Or.inl hgoes
    · have heq := herror.symm.trans hrun
      cases heq
  · rcases hcase with hok | ⟨e', fw₂, herror, hboot⟩
    · have heq := hok.symm.trans hrun
      cases heq
    · have heq := herror.symm.trans hrun
      cases heq
      exact Or.inr ⟨e, fw₁, hstops, hboot⟩

/-- What is to be shown of the turns for something to hold in every life. -/
theorem firmware_keeps {I D : Firmware → Prop}
    (hgoes : ∀ fw turn fw', I fw → fw.possible turn = true → Goes hw fw turn fw' → I fw')
    (hstops : ∀ fw turn reason fw', I fw → fw.possible turn = true →
      Stops hw fw turn reason fw' → D fw')
    (hboot : ∀ fw fw', D fw → boot hw fw.board = some fw' → I fw') : (firmware hw).Keeps I D := by
  refine ⟨fun turn => ?_, hboot⟩
  rintro fw ⟨hI, hpossible⟩
  have hturn : ((firmware hw).turn turn).run fw = (turn.run hw).run fw := rfl
  rw [hturn]
  rcases Turn.run_cases hw hpossible with ⟨fw', hrun, hgo⟩ | ⟨e, fw', hrun, hstop⟩
  · rw [hrun]
    exact hgoes fw turn fw' hI hpossible hgo
  · rw [hrun]
    exact hstops fw turn e fw' hI hpossible hstop

end Levaware
