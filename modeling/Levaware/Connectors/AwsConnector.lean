import Levaware.Lib.History

set_option autoImplicit false

/-! # The AWS connector's state machine

`aws_connector.c`: the thread takes event codes from its queue and gives them to
`aws_process_event`, which dispatches on the state. The events come from the callbacks of the nRF
client and carry nothing but their code. -/

namespace Levaware

/-- `enum event_code`. -/
inductive EventCode where
  | connecting | connected | ready | disconnected | shadowReceived | lteEvent
  deriving DecidableEq, Repr

/-- `enum aws_state_code`. In C an enum object can hold other numbers; `invalid` is one of those. -/
inductive AwsStateCode where
  | offline | connecting | connected | ready | disconnecting
  | invalid (code : Nat)
  deriving DecidableEq, Repr

/-- The enumerator's number. -/
def EventCode.toNat : EventCode → Nat
  | connecting => 0
  | connected => 1
  | ready => 2
  | disconnected => 3
  | shadowReceived => 4
  | lteEvent => 5

/-- The state code with a number. -/
def AwsStateCode.ofNat : Nat → AwsStateCode
  | 0 => offline
  | 1 => connecting
  | 2 => connected
  | 3 => ready
  | 4 => disconnecting
  | n => invalid n

/-- The number of `AWS_EVENT_READY` is the number of `AWS_STATE_CONNECTED`. -/
@[simp] theorem AwsStateCode.ofNat_ready : AwsStateCode.ofNat EventCode.ready.toNat = .connected :=
  rfl

/-- `struct aws_control_blk` without its queue, and a count the code does not keep: how often
    `aws_shadow_request` has been called. -/
structure AwsControlBlk where
  state : AwsStateCode
  shadowRequests : Nat
  deriving DecidableEq, Repr

namespace AwsControlBlk

/-- `aws_connector_init`. -/
def init : AwsControlBlk := { state := .offline, shadowRequests := 0 }

/-- `aws_shadow_request`. The answer of `aws_iot_send` is only logged. -/
def awsShadowRequest (cblk : AwsControlBlk) : AwsControlBlk :=
  { cblk with shadowRequests := cblk.shadowRequests + 1 }

/-- `aws_offline_state`. -/
def awsOfflineState (cblk : AwsControlBlk) : EventCode → AwsControlBlk
  | .connecting => { cblk with state := .connecting }
  | .connected => { cblk with state := .connected }
  -- the source stores the event code `AWS_EVENT_READY`, not `AWS_STATE_READY`
  | .ready => { cblk with state := .ofNat EventCode.ready.toNat }
  | .shadowReceived | .disconnected | .lteEvent => cblk

/-- `aws_connecting_state`. -/
def awsConnectingState (cblk : AwsControlBlk) : EventCode → AwsControlBlk
  | .connecting => { cblk with state := .connecting }
  | .connected => { cblk with state := .connected }
  | .ready => { cblk with state := .ofNat EventCode.ready.toNat }
  | .shadowReceived | .disconnected | .lteEvent => cblk

/-- `aws_connected_state`. -/
def awsConnectedState (cblk : AwsControlBlk) : EventCode → AwsControlBlk
  | .connecting => { cblk with state := .connecting }
  | .connected => { cblk with state := .connecting }
  | .ready => { cblk.awsShadowRequest with state := .ready }
  | .shadowReceived | .disconnected | .lteEvent => cblk

/-- `aws_ready_state`. -/
def awsReadyState (cblk : AwsControlBlk) (_ : EventCode) : AwsControlBlk := cblk

/-- `aws_process_event`. -/
def awsProcessEvent (cblk : AwsControlBlk) (event : EventCode) : AwsControlBlk :=
  match cblk.state with
  | .offline => cblk.awsOfflineState event
  | .connecting => cblk.awsConnectingState event
  | .connected => cblk.awsConnectedState event
  | .ready => cblk.awsReadyState event
  -- "Bad state": `AWS_STATE_DISCONNECTING` has no case of its own
  | .disconnecting | .invalid _ => cblk

end AwsControlBlk

open AwsControlBlk

/-- The control block after some events, from `aws_connector_init` on. -/
def awsRun (events : List EventCode) : AwsControlBlk := events.foldl awsProcessEvent init

@[simp] theorem awsRun_append_singleton (events : List EventCode) (e : EventCode) :
    awsRun (events ++ [e]) = awsProcessEvent (awsRun events) e := by
  simp [awsRun]

/-! ## What one event does -/

section Step

variable {cblk : AwsControlBlk}

/-- The first two handlers do the same. -/
theorem awsConnectingState_eq_awsOfflineState (e : EventCode) :
    cblk.awsConnectingState e = cblk.awsOfflineState e := by
  cases e <;> rfl

/-- Nothing leads out of `AWS_STATE_READY`. -/
theorem awsProcessEvent_of_ready (h : cblk.state = .ready) (e : EventCode) :
    awsProcessEvent cblk e = cblk := by
  simp [awsProcessEvent, h, awsReadyState]

/-- The shadow is requested on `READY` in `AWS_STATE_CONNECTED`, and nowhere else. -/
theorem awsProcessEvent_shadowRequests (cblk : AwsControlBlk) (e : EventCode) :
    (awsProcessEvent cblk e).shadowRequests =
      cblk.shadowRequests + if cblk.state = .connected ∧ e = .ready then 1 else 0 := by
  unfold awsProcessEvent
  split <;> rename_i h <;> rw [h] <;> cases e <;> rfl

end Step

end Levaware
