import Mathlib.Data.List.Infix
import Levaware.Connectors.AwsConnector
import Levaware.Encoding.AwsDecoding
import Levaware.Lib.Mailbox
import Levaware.Lib.Simulation

set_option autoImplicit false

/-! # The connector's thread and the callbacks of the client

The nRF client calls `aws_iot_event_handler` (`aws_callbacks.c`) in threads of its own. The handler
decodes shadow data on the spot and queues an event code; the thread of `aws_connector.c` takes the
codes from the queue. The queue has room for five: the connector runs on exactly as long as its
thread is at most five events behind, and then nothing is lost (`connector_schedule_iff`). -/

namespace Levaware

open Abort

/-! ## The queue of events -/

/-- `MSG_QUEUE_SZ`. -/
def msgQueueSz : Nat := 5

/-- `struct aws_control_blk`, its queue included. -/
structure AwsConnector where
  cblk : AwsControlBlk
  connectorEventQueue : MsgQueue EventCode msgQueueSz

namespace AwsConnector

/-- `aws_connector_init`. -/
def init : AwsConnector where
  cblk := .init
  connectorEventQueue := .empty _ _

/-- The body of the loop in `aws_connector_task_entry`; `none` while it waits for an event. -/
def taskLoop (c : AwsConnector) : Option AwsConnector :=
  c.connectorEventQueue.get.map fun (event, connectorEventQueue) =>
    { cblk := c.cblk.awsProcessEvent event, connectorEventQueue }

end AwsConnector

/-- `aws_queue_event`. -/
def awsQueueEvent (event : EventCode) : EStateM String AwsConnector Unit := do
  match (← get).connectorEventQueue.put event with
  | some connectorEventQueue => modify fun c => { c with connectorEventQueue }
  | none => erabort "aws_queue_event"

/-! ## The callback -/

/-- `struct aws_iot_evt`, with what the handler reads of the data. -/
inductive AwsIotEvt where
  | connecting
  | connected (persistentSession : Bool)
  | ready
  | disconnected
  | dataReceived (msg : List UInt8)
  | fotaStart | fotaErasePending | fotaEraseDone | fotaDone
  | fotaDlProgress (fotaProgress : Int32)
  | pingresp | puback
  | error (err : Int32)
  | fotaError
  | other (type : Nat)
  deriving DecidableEq

/-- What the callbacks work on: the configuration, and the connector. -/
structure Cloud where
  device : Device
  connector : AwsConnector

abbrev CloudM := EStateM String Cloud

def onDevice {α : Type} (m : DevM α) : CloudM α :=
  zoom Cloud.device (fun device c => { c with device }) m

def onConnector {α : Type} (m : EStateM String AwsConnector α) : CloudM α :=
  zoom Cloud.connector (fun connector c => { c with connector }) m

/-- `aws_iot_event_handler`. -/
def awsIotEventHandler (P : Platform) : AwsIotEvt → CloudM Unit
  | .connecting => onConnector (awsQueueEvent .connecting)
  | .connected _ => onConnector (awsQueueEvent .connected)
  | .ready => onConnector (awsQueueEvent .ready)
  | .disconnected => onConnector (awsQueueEvent .disconnected)
  | .dataReceived msg => do
      onDevice (awsDecodeShadowMsg P msg)
      onConnector (awsQueueEvent .shadowReceived)
  -- the firmware update is not handled yet, and the rest is only logged
  | .fotaStart | .fotaErasePending | .fotaEraseDone | .fotaDone | .fotaDlProgress _ | .pingresp
  | .puback | .error _ | .fotaError | .other _ => pure ()

/-- The shadow data an event brings. -/
def AwsIotEvt.shadowData? : AwsIotEvt → Option (List UInt8)
  | .dataReceived msg => some msg
  | _ => none

/-- The code an event is queued as. -/
def AwsIotEvt.code? : AwsIotEvt → Option EventCode
  | .connecting => some .connecting
  | .connected _ => some .connected
  | .ready => some .ready
  | .disconnected => some .disconnected
  | .dataReceived _ => some .shadowReceived
  | _ => none

theorem awsQueueEvent_run (event : EventCode) (c : AwsConnector) :
    (awsQueueEvent event).run c = match c.connectorEventQueue.put event with
      | some connectorEventQueue => .ok () { c with connectorEventQueue }
      | none => .error "aws_queue_event" c := by
  unfold awsQueueEvent
  rw [run_bind_ok (EStateM.run_get c)]
  cases c.connectorEventQueue.put event <;> rfl

/-! ## The thread and the callbacks together -/

/-- A code is queued, or the thread goes round its loop; `none` when the device reboots, or the
    thread has to wait. -/
def AwsConnector.turn (c : AwsConnector) : Mailbox.Step EventCode → Option AwsConnector
  | .post event =>
      match (awsQueueEvent event).run c with
      | .ok _ c' => some c'
      | .error _ _ => none
  | .handle => c.taskLoop

/-- The connector after some turns, from `aws_connector_init` on. -/
def connectorRun (turns : List (Mailbox.Step EventCode)) : Option AwsConnector :=
  turns.foldlM AwsConnector.turn .init

/-- The connector is its state machine behind a mailbox. -/
def AwsConnector.mailbox (c : AwsConnector) : Mailbox.State AwsControlBlk EventCode msgQueueSz :=
  ⟨c.cblk, c.connectorEventQueue⟩

theorem AwsConnector.turn_mailbox (c : AwsConnector) (a : Mailbox.Step EventCode) :
    (c.turn a).map AwsConnector.mailbox =
      Mailbox.step AwsControlBlk.awsProcessEvent c.mailbox a := by
  cases a with
  | post event =>
      show ((match (awsQueueEvent event).run c with
        | .ok _ c' => some c'
        | .error _ _ => none).map AwsConnector.mailbox) =
          (c.connectorEventQueue.put event).map _
      rw [awsQueueEvent_run]
      cases c.connectorEventQueue.put event <;> rfl
  | handle =>
      show (c.connectorEventQueue.get.map _).map _ = c.connectorEventQueue.get.map _
      cases c.connectorEventQueue.get <;> rfl

theorem connectorRun_mailbox (turns : List (Mailbox.Step EventCode)) :
    (connectorRun turns).map AwsConnector.mailbox =
      Mailbox.run AwsControlBlk.awsProcessEvent .init turns :=
  Simulation.foldlM_map AwsConnector.turn_mailbox turns .init

theorem connectorRun_delivered {turns : List (Mailbox.Step EventCode)} {c : AwsConnector}
    (h : connectorRun turns = some c) :
    Mailbox.Delivered AwsControlBlk.awsProcessEvent .init turns c.mailbox := by
  have hrun := connectorRun_mailbox turns
  rw [h] at hrun
  exact Mailbox.run_eq hrun.symm

/-- For every order in which the client's events and the rounds of the thread fall: none of them
    reboots the device or waits for ever exactly if all along the thread handles no more than there
    is and is at most five events behind. Then the connector is where its state machine is after the
    events handled, the queue holds the others in their order, and once the queue is empty the
    connector is where it would be if every event had been handled at once. -/
theorem connector_schedule_iff (turns : List (Mailbox.Step EventCode)) :
    ((∃ c, connectorRun turns = some c) ↔
      ∀ pre, pre <+: turns → Mailbox.handled pre ≤ (Mailbox.posted pre).length ∧
        (Mailbox.posted pre).length ≤ Mailbox.handled pre + msgQueueSz) ∧
    ∀ c, connectorRun turns = some c →
      c.cblk = awsRun ((Mailbox.posted turns).take (Mailbox.handled turns)) ∧
      c.connectorEventQueue.items = (Mailbox.posted turns).drop (Mailbox.handled turns) ∧
      (c.connectorEventQueue.items = [] → c.cblk = awsRun (Mailbox.posted turns)) := by
  constructor
  · have hiff := Mailbox.run_isSome_iff AwsControlBlk.awsProcessEvent .init msgQueueSz turns
    rw [← connectorRun_mailbox] at hiff
    refine Iff.trans ?_ hiff
    constructor
    · rintro ⟨c, hc⟩
      exact ⟨c.mailbox, by rw [hc]; rfl⟩
    · rintro ⟨s, hs⟩
      obtain ⟨c, hc, -⟩ := Option.map_eq_some_iff.1 hs
      exact ⟨c, hc⟩
  · intro c hc
    have hd := connectorRun_delivered hc
    have hrun := connectorRun_mailbox turns
    rw [hc] at hrun
    exact ⟨hd.consumer, hd.queue, Mailbox.consumer_of_caughtUp hrun.symm⟩

/-- A connection, with the thread now up with the callbacks and now behind. -/
def connectionTurns : List (Mailbox.Step EventCode) :=
  [.post .connecting, .handle, .post .connected, .post .ready, .handle, .handle]

/-- The connection goes through; a burst of six events reboots the device. -/
theorem connector_schedule_iff_connection :
    (∃ c, connectorRun connectionTurns = some c ∧
      c.cblk = awsRun [.connecting, .connected, .ready] ∧ c.connectorEventQueue.items = []) ∧
    ¬ ∃ c, connectorRun (List.replicate 6 (.post .ready)) = some c := by
  constructor
  · obtain ⟨hruns, hresult⟩ := connector_schedule_iff connectionTurns
    have hall : ∀ pre ∈ connectionTurns.inits, Mailbox.handled pre ≤ (Mailbox.posted pre).length ∧
        (Mailbox.posted pre).length ≤ Mailbox.handled pre + msgQueueSz := by decide
    obtain ⟨c, hc⟩ := hruns.2 fun pre hpre => hall pre ((List.mem_inits _ _).2 hpre)
    exact ⟨c, hc, (hresult c hc).1, (hresult c hc).2.1⟩
  · rw [(connector_schedule_iff _).1]
    intro h
    exact absurd (h _ List.prefix_rfl).2 (by decide)

end Levaware
