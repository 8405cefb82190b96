import Levaware.Lib.History
import Levaware.Sensors.SensorMgr

set_option autoImplicit false

/-! # Sensor requests and the worker, interleaved

Any number of calls of `sensor_queue_request` are under way at a time, each between two of its
kernel calls, and the worker runs when it can. `step_moves` says once what each step does. -/

namespace Levaware

/-- The module while calls of `sensor_queue_request` and runs of its worker are under way. -/
structure SensorSys where
  mgr : SensorMgr
  /-- calls that have put their request and are to put their event -/
  queued : Nat
  /-- calls that have put their event and are to submit the work item -/
  posted : Nat
  /-- the worker is past its `k_msgq_get` -/
  taken : Bool
  /-- requests put so far -/
  accepted : Nat
  /-- events the worker has processed so far -/
  processed : Nat
  /-- why `erabort` was called -/
  aborted : Option String

/-- What happens next: one of the calls gets one call of the kernel further, or the worker does. -/
inductive SensorStep where
  | putRequest (sensorRqst : SensorMgr.Request)
  | putEvent
  | submit
  | workStart
  | workTake
  | workFinish
  deriving DecidableEq

namespace SensorSys

open SensorMgr

def init : SensorSys where
  mgr := sensorRequestWorkInit
  queued := 0
  posted := 0
  taken := false
  accepted := 0
  processed := 0
  aborted := none

/-- The step of a system that is up, `none` where it cannot be taken. -/
def act (H : StateHandlers) (sys : SensorSys) : SensorStep → Option SensorSys
  | .putRequest sensorRqst =>
      match (SensorMgr.putRequest sensorRqst).run sys.mgr with
      | .ok _ mgr =>
          some { sys with mgr, queued := sys.queued + 1, accepted := sys.accepted + 1 }
      | .error reason mgr => some { sys with mgr, aborted := some reason }
  | .putEvent =>
      if 0 < sys.queued then
        some { sys with
          mgr := sys.mgr.putEvent
          queued := sys.queued - 1
          posted := sys.posted + 1 }
      else none
  | .submit =>
      if 0 < sys.posted then some { sys with mgr := sys.mgr.submit, posted := sys.posted - 1 }
      else none
  | .workStart =>
      sys.mgr.sensorRequestWorker.start.map fun sensorRequestWorker =>
        { sys with mgr := { sys.mgr with sensorRequestWorker }, taken := false }
  | .workTake =>
      if sys.mgr.sensorRequestWorker.running ∧ ¬ sys.taken then
        (sensorRequestWorkProcess H sys.mgr).map fun mgr =>
          { sys with mgr, taken := true, processed := sys.processed + 1 }
      else none
  | .workFinish =>
      if sys.mgr.sensorRequestWorker.running ∧ sys.taken then
        some { sys with
          mgr := { sys.mgr with sensorRequestWorker := sys.mgr.sensorRequestWorker.finish }
          taken := false }
      else none

/-- One step. Nothing happens after `erabort`. -/
def step (H : StateHandlers) (sys : SensorSys) (a : SensorStep) : Option SensorSys :=
  match sys.aborted with
  | none => act H sys a
  | some _ => none

/-- The system after some steps from `sensor_request_work_init` on. -/
def run (H : StateHandlers) (steps : List SensorStep) : Option SensorSys :=
  steps.foldlM (step H) init

/-- The three steps of a call that nothing interrupts are the call. -/
theorem sensorQueueRequest_steps (H : StateHandlers) {sys : SensorSys} (hup : sys.aborted = none)
    {onStack sensorVal : Int32} {sensorId : SensorType} {callbackp userp : Nat} {mgr : SensorMgr}
    (hcall : (sensorQueueRequest onStack sensorId sensorVal callbackp userp).run sys.mgr =
      .ok ⟨⟩ mgr) :
    [.putRequest ⟨sensorId, onStack, callbackp, userp⟩, .putEvent, .submit].foldlM (step H) sys =
      some { sys with mgr, accepted := sys.accepted + 1 } := by
  unfold sensorQueueRequest at hcall
  cases hput : (SensorMgr.putRequest ⟨sensorId, onStack, callbackp, userp⟩).run sys.mgr with
  | error reason mgr' =>
      rw [Abort.run_bind_error hput] at hcall
      cases hcall
  | ok _ mgr' =>
      rw [Abort.run_bind_ok hput] at hcall
      cases hcall
      simp [List.foldlM, step, act, hup, hput]

/-- A call that aborts does so at its first step. -/
theorem sensorQueueRequest_aborts (H : StateHandlers) {sys : SensorSys} (hup : sys.aborted = none)
    {onStack sensorVal : Int32} {sensorId : SensorType} {callbackp userp : Nat} {mgr : SensorMgr}
    {reason : String}
    (hcall : (sensorQueueRequest onStack sensorId sensorVal callbackp userp).run sys.mgr =
      .error reason mgr) :
    step H sys (.putRequest ⟨sensorId, onStack, callbackp, userp⟩) =
      some { sys with mgr, aborted := some reason } := by
  unfold sensorQueueRequest at hcall
  cases hput : (SensorMgr.putRequest ⟨sensorId, onStack, callbackp, userp⟩).run sys.mgr with
  | error reason' mgr' =>
      rw [Abort.run_bind_error hput] at hcall
      cases hcall
      simp [step, act, hup, hput]
  | ok _ mgr' =>
      rw [Abort.run_bind_ok hput] at hcall
      cases hcall

/-! ## What the steps do -/

/-- Every accepted request is in its queue; its event is to be put, in its queue, or processed. The
    state never leaves `IDLE_STATE`. -/
structure Tallied (sys : SensorSys) : Prop where
  requests : sys.mgr.requestQueue.items.length = sys.accepted
  events : sys.mgr.eventQueue.items.length + sys.queued + sys.processed = sys.accepted
  idle : sys.mgr.currState = .idle

/-- What a step does while the counts are right: no event is lost for want of room, and every event
    is processed in `IDLE_STATE`. -/
inductive Moves (sys : SensorSys) : SensorStep → SensorSys → Prop
  | requestPut {sensorRqst : Request} {requestQueue : MsgQueue Request queueDepth}
      (hput : sys.mgr.requestQueue.put sensorRqst = some requestQueue) :
      Moves sys (.putRequest sensorRqst) { sys with
        mgr := { sys.mgr with requestQueue }
        queued := sys.queued + 1
        accepted := sys.accepted + 1 }
  | requestQueueFull {sensorRqst : Request}
      (hfull : sys.mgr.requestQueue.put sensorRqst = none) :
      Moves sys (.putRequest sensorRqst) { sys with aborted := some "Request queue full" }
  | eventPut {eventQueue : MsgQueue EventMsg queueDepth} (hqueued : 0 < sys.queued)
      (hput : sys.mgr.eventQueue.put ⟨.newRequest⟩ = some eventQueue) :
      Moves sys .putEvent { sys with
        mgr := { sys.mgr with eventQueue }
        queued := sys.queued - 1
        posted := sys.posted + 1 }
  | submitted (hposted : 0 < sys.posted) :
      Moves sys .submit { sys with mgr := sys.mgr.submit, posted := sys.posted - 1 }
  | started {sensorRequestWorker : WorkItem}
      (hstart : sys.mgr.sensorRequestWorker.start = some sensorRequestWorker) :
      Moves sys .workStart
        { sys with mgr := { sys.mgr with sensorRequestWorker }, taken := false }
  | processed {eventBlock : EventMsg} {eventQueue : MsgQueue EventMsg queueDepth}
      (hrunning : sys.mgr.sensorRequestWorker.running ∧ ¬ sys.taken)
      (hget : sys.mgr.eventQueue.get = some (eventBlock, eventQueue)) :
      Moves sys .workTake { sys with
        mgr := processIdleState eventBlock { sys.mgr with eventQueue }
        taken := true
        processed := sys.processed + 1 }
  | finished (hrunning : sys.mgr.sensorRequestWorker.running ∧ sys.taken) :
      Moves sys .workFinish { sys with
        mgr := { sys.mgr with sensorRequestWorker := sys.mgr.sensorRequestWorker.finish }
        taken := false }

variable {H : StateHandlers} {sys sys' : SensorSys} {a : SensorStep} {steps : List SensorStep}

/-- The event queue is never full when a call is to put its event: each request in the queue of the
    requests has one event at most. -/
theorem Tallied.event_fits (h : Tallied sys) (hqueued : 0 < sys.queued) :
    ∃ eventQueue, sys.mgr.eventQueue.put ⟨.newRequest⟩ = some eventQueue := by
  rw [← Option.ne_none_iff_exists', Ne, MsgQueue.put_eq_none_iff]
  have hrequests := h.requests
  have hevents := h.events
  have hfits := sys.mgr.requestQueue.fits
  omega

theorem step_moves (h : Tallied sys) (hstep : step H sys a = some sys') :
    sys.aborted = none ∧ Moves sys a sys' := by
  cases hup : sys.aborted with
  | some reason =>
      simp only [step, hup] at hstep
      cases hstep
  | none =>
      simp only [step, hup] at hstep
      refine ⟨rfl, ?_⟩
      cases a with
      | putRequest sensorRqst =>
          simp only [act, putRequest_run] at hstep
          cases hput : sys.mgr.requestQueue.put sensorRqst with
          | none =>
              rw [hput] at hstep
              cases hstep
              exact .requestQueueFull hput
          | some requestQueue =>
              rw [hput] at hstep
              cases hstep
              exact .requestPut hput
      | putEvent =>
          simp only [act] at hstep
          split at hstep
          · next hqueued =>
              obtain ⟨eventQueue, hput⟩ := h.event_fits hqueued
              simp only [SensorMgr.putEvent, hput] at hstep
              cases hstep
              exact .eventPut hqueued hput
          · cases hstep
      | submit =>
          simp only [act] at hstep
          split at hstep
          · next hposted =>
              cases hstep
              exact .submitted hposted
          · cases hstep
      | workStart =>
          obtain ⟨worker, hstart, rfl⟩ := Option.map_eq_some_iff.1 hstep
          exact .started hstart
      | workTake =>
          -- without an event the worker waits, so that this is no step
          simp only [act] at hstep
          split at hstep
          · next hrunning =>
              obtain ⟨mgr, hprocess, rfl⟩ := Option.map_eq_some_iff.1 hstep
              cases hget : sys.mgr.eventQueue.get with
              | none =>
                  rw [sensorRequestWorkProcess_waits hget] at hprocess
                  cases hprocess
              | some message =>
                  rw [sensorRequestWorkProcess_idle h.idle hget] at hprocess
                  cases hprocess
                  exact .processed hrunning hget
          · cases hstep
      | workFinish =>
          simp only [act] at hstep
          split at hstep
          · next hrunning =>
              cases hstep
              exact .finished hrunning
          · cases hstep

theorem init_tallied : Tallied init := ⟨rfl, rfl, rfl⟩

theorem Tallied.move (h : Tallied sys) (hm : Moves sys a sys') : Tallied sys' := by
  obtain ⟨hrequests, hevents, hidle⟩ := h
  cases hm with
  | requestPut hput =>
      -- one more request in its queue, one more event to come
      refine ⟨?_, ?_, hidle⟩
      · simp only [MsgQueue.items_of_put hput, List.length_append, List.length_singleton, hrequests]
      · simp only
        omega
  | requestQueueFull => exact ⟨hrequests, hevents, hidle⟩
  | eventPut hqueued hput =>
      refine ⟨hrequests, ?_, hidle⟩
      simp only [MsgQueue.items_of_put hput, List.length_append, List.length_singleton]
      omega
  | submitted | started | finished => exact ⟨hrequests, hevents, hidle⟩
  | processed hrunning hget =>
      rw [MsgQueue.items_of_get hget, List.length_cons] at hevents
      refine ⟨by simpa using hrequests, ?_, by simpa using hidle⟩
      simp only [processIdleState_eventQueue]
      omega

/-- The counts are right all along every run. -/
theorem run_tallied (hrun : run H steps = some sys) : Tallied sys :=
  History.foldlM_track (R := fun _ sys => Tallied sys) init_tallied
    (fun _ _ _ _ h hstep => h.move (step_moves h hstep).2) hrun

/-! ## One call and one run of the worker -/

/-- Handlers for the states that no run gets to. -/
def inertHandlers : StateHandlers := ⟨fun _ mgr => mgr, fun _ mgr => mgr, fun _ mgr => mgr⟩

def sampleRequest : Request := ⟨.type1, 0, 0, 0⟩

def sampleCall : List SensorStep := [.putRequest sampleRequest, .putEvent, .submit]

def workerRun : List SensorStep := [.workStart, .workTake, .workFinish]

end SensorSys

end Levaware
