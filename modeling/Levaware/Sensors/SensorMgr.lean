import Levaware.Bsp.Modem
import Levaware.Lib.WorkQueue

set_option autoImplicit false

/-! # The sensor manager

`sensor_queue_request` puts the request on one message queue and an event on another, then submits
the work item whose handler `sensor_request_work_process` takes one event. The handlers of three of
the states are called but defined nowhere in the repository; `StateHandlers` holds them. -/

namespace Levaware

/-! ## The module -/

inductive SensorType where
  | type1 | type2
  deriving DecidableEq

namespace SensorMgr

/-- `enum event_code` of the sensor manager. -/
inductive EventCode where
  | newRequest | timerExpiry1Ms | timerExpiry2Secs | packetsReceived
  deriving DecidableEq

inductive States where
  | idle | powerOnDelay | voltageSettle | waitingForCharacter
  deriving DecidableEq

/-- `struct sensor_mgr_request`, the pointers as addresses. -/
structure Request where
  sensorId : SensorType
  sensorValue : Int32
  sensorRequestCallback : Nat
  userp : Nat
  deriving DecidableEq

structure EventMsg where
  event : EventCode
  deriving DecidableEq

/-- `SENSOR_MGR_QUEUE_DEPTH`; both queues are initialized with it. -/
def queueDepth : Nat := 6

end SensorMgr

structure SensorMgr where
  requestQueue : MsgQueue SensorMgr.Request SensorMgr.queueDepth
  eventQueue : MsgQueue SensorMgr.EventMsg SensorMgr.queueDepth
  sensorRequestWorker : WorkItem
  currState : SensorMgr.States
  /-- what `power_reg_external_power_on` was called with, oldest first -/
  powerOns : List SensorType

namespace SensorMgr

/-- `sensor_request_work_init`. -/
def sensorRequestWorkInit : SensorMgr where
  requestQueue := .empty _ _
  eventQueue := .empty _ _
  sensorRequestWorker := .init
  currState := .idle
  powerOns := []

/-! ## Queueing a request -/

/-- `k_msgq_put(&request_queue, &sensor_rqst, K_NO_WAIT)` and what follows an error. -/
def putRequest (sensorRqst : Request) : EStateM String SensorMgr Unit := do
  match (← get).requestQueue.put sensorRqst with
  | none => erabort "Request queue full"
  | some requestQueue => modify fun mgr => { mgr with requestQueue }

/-- `k_msgq_put(&event_queue, &event_blk, K_NO_WAIT)`; nobody looks at its error. -/
def putEvent (mgr : SensorMgr) : SensorMgr :=
  match mgr.eventQueue.put ⟨.newRequest⟩ with
  | none => mgr
  | some eventQueue => { mgr with eventQueue }

/-- `k_work_submit(&sensor_request_worker)`. -/
def submit (mgr : SensorMgr) : SensorMgr :=
  { mgr with sensorRequestWorker := mgr.sensorRequestWorker.submit }

/-- `sensor_queue_request`. The value argument goes nowhere: that field of the request keeps what is
    on the stack. -/
def sensorQueueRequest (onStack : Int32) (sensorId : SensorType) (_sensorVal : Int32)
    (callbackp userp : Nat) : EStateM String SensorMgr Unit := do
  putRequest ⟨sensorId, onStack, callbackp, userp⟩
  modify putEvent
  modify submit

/-! ## The worker -/

/-- `process_power_on_delay_state`, `process_voltage_settle_state` and
    `process_waiting_on_character_state`. -/
structure StateHandlers where
  powerOnDelay : EventMsg → SensorMgr → SensorMgr
  voltageSettle : EventMsg → SensorMgr → SensorMgr
  waitingOnCharacter : EventMsg → SensorMgr → SensorMgr

def processIdleState (evtBlk : EventMsg) (mgr : SensorMgr) : SensorMgr :=
  match evtBlk.event with
  | .newRequest => { mgr with powerOns := mgr.powerOns ++ [.type1] }
  | .timerExpiry1Ms | .timerExpiry2Secs | .packetsReceived => mgr

/-- `sensor_request_work_process`. `none`: it waits, since `K_FOREVER` has it wait for an event
    rather than return an error. -/
def sensorRequestWorkProcess (H : StateHandlers) (mgr : SensorMgr) : Option SensorMgr :=
  match mgr.eventQueue.get with
  | none => none
  | some (eventBlock, eventQueue) =>
      let mgr := { mgr with eventQueue }
      match mgr.currState with
      | .idle => some (processIdleState eventBlock mgr)
      | .powerOnDelay => some (H.powerOnDelay eventBlock mgr)
      | .voltageSettle => some (H.voltageSettle eventBlock mgr)
      | .waitingForCharacter => some (H.waitingOnCharacter eventBlock mgr)

/-! ### What they do, each in its states -/

theorem putRequest_run (mgr : SensorMgr) (sensorRqst : Request) :
    (putRequest sensorRqst).run mgr =
      match mgr.requestQueue.put sensorRqst with
      | none => .error "Request queue full" mgr
      | some requestQueue => .ok ⟨⟩ { mgr with requestQueue } := by
  simp only [putRequest, EStateM.run_bind, EStateM.run_get]
  cases mgr.requestQueue.put sensorRqst <;> rfl

theorem sensorRequestWorkProcess_waits {H : StateHandlers} {mgr : SensorMgr}
    (hget : mgr.eventQueue.get = none) : sensorRequestWorkProcess H mgr = none := by
  unfold sensorRequestWorkProcess
  rw [hget]

theorem sensorRequestWorkProcess_idle {H : StateHandlers} {mgr : SensorMgr}
    {eventBlock : EventMsg} {eventQueue : MsgQueue EventMsg queueDepth}
    (hidle : mgr.currState = .idle) (hget : mgr.eventQueue.get = some (eventBlock, eventQueue)) :
    sensorRequestWorkProcess H mgr =
      some (processIdleState eventBlock { mgr with eventQueue }) := by
  unfold sensorRequestWorkProcess
  simp only [hget, hidle]

section Process

variable {evtBlk : EventMsg} {mgr : SensorMgr}

@[simp] theorem processIdleState_requestQueue :
    (processIdleState evtBlk mgr).requestQueue = mgr.requestQueue := by
  unfold processIdleState
  split <;> rfl

@[simp] theorem processIdleState_eventQueue :
    (processIdleState evtBlk mgr).eventQueue = mgr.eventQueue := by
  unfold processIdleState
  split <;> rfl

@[simp] theorem processIdleState_sensorRequestWorker :
    (processIdleState evtBlk mgr).sensorRequestWorker = mgr.sensorRequestWorker := by
  unfold processIdleState
  split <;> rfl

@[simp] theorem processIdleState_currState :
    (processIdleState evtBlk mgr).currState = mgr.currState := by
  unfold processIdleState
  split <;> rfl

end Process

end SensorMgr

end Levaware
