import Levaware.Connectors.AwsConnector

set_option autoImplicit false

/-! # The connector's state and the link

The states are named after what the client last reported of its link. They agree with it only as
long as the link comes up by `CONNECTED` and then `READY`, each once, and never goes down
(`tracksLink_iff`): `READY` in the first two states is stored as an event code, a second
`CONNECTED` goes back, and `DISCONNECTED` is ignored everywhere. -/

namespace Levaware

open AwsControlBlk

/-! ## What the client reports -/

/-- The state an event reports, for those that report the link. -/
def EventCode.link? : EventCode → Option AwsStateCode
  | connecting => some .connecting
  | connected => some .connected
  | ready => some .ready
  | disconnected => some .offline
  | shadowReceived | lteEvent => none

/-- The state reported last, `AWS_STATE_OFFLINE` when there was no report. -/
def linkState (events : List EventCode) : AwsStateCode :=
  (events.filterMap EventCode.link?).getLast?.getD .offline

/-- The connector's state is the one reported last, after every event of a run. -/
def TracksLink (events : List EventCode) : Prop :=
  ∀ pre, pre <+: events → (awsRun pre).state = linkState pre

/-- The events whose report the handler of a state follows. -/
def Followed : AwsStateCode → EventCode → Prop
  | .offline, e => e ≠ .ready
  | .connecting, e => e ≠ .ready ∧ e ≠ .disconnected
  | .connected, e => e ≠ .connected ∧ e ≠ .disconnected
  | .ready, e => e = .ready ∨ e = .shadowReceived ∨ e = .lteEvent
  | .disconnecting, e | .invalid _, e => e = .shadowReceived ∨ e = .lteEvent

theorem linkState_append_singleton (events : List EventCode) (e : EventCode) :
    linkState (events ++ [e]) = e.link?.getD (linkState events) := by
  cases h : e.link? <;> simp [linkState, List.filterMap_append, h]

/-! ## What one event does to the agreement -/

/-- The state after an event is the reported one iff the event is one the handler follows. -/
theorem awsProcessEvent_state_iff (cblk : AwsControlBlk) (e : EventCode) :
    (awsProcessEvent cblk e).state = e.link?.getD cblk.state ↔ Followed cblk.state e := by
  unfold awsProcessEvent
  split <;> rename_i h <;> rw [h]
  case h_1 => cases e <;> simp [awsOfflineState, EventCode.link?, Followed, h]
  case h_2 =>
      rw [awsConnectingState_eq_awsOfflineState]
      cases e <;> simp [awsOfflineState, EventCode.link?, Followed, h]
  case h_3 => cases e <;> simp [awsConnectedState, EventCode.link?, Followed, h]
  case h_4 => cases e <;> simp [awsReadyState, EventCode.link?, Followed, h]
  case h_5 | h_6 => cases e <;> simp [EventCode.link?, Followed]

/-! ## Runs -/

/-- The connector tracks the link over a run iff every event is one the last report admits. -/
theorem tracksLink_iff (events : List EventCode) :
    TracksLink events ↔
      ∀ pre e post, events = pre ++ e :: post → Followed (linkState pre) e := by
  refine History.prefixes_iff (R := fun pre => (awsRun pre).state = linkState pre) rfl ?_ events
  intro pre e hpre
  rw [awsRun_append_singleton, linkState_append_singleton, ← hpre]
  exact awsProcessEvent_state_iff _ e

/-- `READY` without `CONNECTED` leaves the connector in `AWS_STATE_CONNECTED`, a second `CONNECTED`
    takes it back to `AWS_STATE_CONNECTING`, and it stays in `AWS_STATE_READY` after a
    disconnect. -/
theorem tracksLink_fails :
    (awsRun [.ready]).state = .connected ∧ linkState [.ready] = .ready ∧
    (awsRun [.connected, .connected]).state = .connecting ∧
    linkState [.connected, .connected] = .connected ∧
    (awsRun [.connected, .ready, .disconnected]).state = .ready ∧
    linkState [.connected, .ready, .disconnected] = .offline := by
  decide

end Levaware
