import Levaware.Sensors.SensorSys

set_option autoImplicit false

/-! # The slots of the request queue

Nothing takes a request from its queue: the queue holds every request that was ever accepted, and
the seventh aborts (`run_slotsTracked`). So its entries are the requests that wait for the worker
only until the worker has processed an event (`request_slots_iff`). -/

namespace Levaware

def SensorStep.isRequest : SensorStep → Bool
  | .putRequest _ => true
  | .putEvent | .submit | .workStart | .workTake | .workFinish => false

/-- The request a step makes. -/
def SensorStep.request? : SensorStep → Option SensorMgr.Request
  | .putRequest sensorRqst => some sensorRqst
  | .putEvent | .submit | .workStart | .workTake | .workFinish => none

namespace SensorSys

open SensorMgr History

variable {H : StateHandlers} {sys sys' : SensorSys} {a : SensorStep} {steps : List SensorStep}

/-- How many requests were made. -/
def requests (steps : List SensorStep) : Nat := steps.countP SensorStep.isRequest

/-- At most six requests are unprocessed at a time: one is made only while fewer are. -/
def SixAtATime (H : StateHandlers) (steps : List SensorStep) : Prop :=
  EveryStep (step H) init
    (fun sys a => a.isRequest → sys.accepted - sys.processed < queueDepth) steps

instance (H : StateHandlers) (steps : List SensorStep) : Decidable (SixAtATime H steps) :=
  inferInstanceAs (Decidable (EveryStep _ _ _ _))

/-- The entries of the queue are the accepted requests that are yet to be processed, and six at a
    time never make the firmware abort. -/
structure SlotsReclaimed (H : StateHandlers) (steps : List SensorStep) (sys : SensorSys) :
    Prop where
  entries : sys.mgr.requestQueue.items.length = sys.accepted - sys.processed
  up : SixAtATime H steps → sys.aborted = none

/-! ## Runs -/

/-- The counts of a run, and why it aborted. -/
structure SlotsTracked (H : StateHandlers) (steps : List SensorStep) (sys : SensorSys) : Prop where
  processed : sys.processed = steps.count .workTake
  made : requests steps = sys.accepted + sys.aborted.isSome.toNat
  /-- the queue was full … -/
  full : sys.aborted ≠ none → sys.accepted = queueDepth
  /-- … and not of requests that wait, if there are six of these at most -/
  processedFirst : sys.aborted ≠ none → SixAtATime H steps → 0 < sys.processed

theorem init_slotsTracked : SlotsTracked H [] init where
  processed := rfl
  made := rfl
  full h := absurd rfl h
  processedFirst h := absurd rfl h

theorem SlotsTracked.move (h : SlotsTracked H steps sys) (htallied : Tallied sys)
    (hrun : run H steps = some sys) (hup : sys.aborted = none) (hm : Moves sys a sys') :
    SlotsTracked H (steps ++ [a]) sys' := by
  obtain ⟨hprocessed, hmade, -, -⟩ := h
  rw [hup] at hmade
  cases hm with
  | requestPut hput =>
      refine ⟨?_, ?_, fun h => absurd hup h, fun h => absurd hup h⟩
      · simpa [List.count_append] using hprocessed
      · simpa [requests, List.countP_append, SensorStep.isRequest, hup] using hmade
  | requestQueueFull hfull =>
      rw [MsgQueue.put_eq_none_iff, htallied.requests] at hfull
      refine ⟨?_, ?_, fun _ => hfull, ?_⟩
      · simpa [List.count_append] using hprocessed
      · simpa [requests, List.countP_append, SensorStep.isRequest] using hmade
      · -- fewer than six of the six are unprocessed
        intro _ hsix
        have hlast := ((everyStep_snoc_iff hrun).1 hsix).2 rfl
        simp only
        omega
  | processed =>
      refine ⟨?_, ?_, fun h => absurd hup h, fun h => absurd hup h⟩
      · simpa [List.count_append] using hprocessed
      · simpa [requests, List.countP_append, SensorStep.isRequest, hup] using hmade
  | eventPut | submitted | started | finished =>
      refine ⟨?_, ?_, fun h => absurd hup h, fun h => absurd hup h⟩
      · simpa [List.count_append] using hprocessed
      · simpa [requests, List.countP_append, SensorStep.isRequest, hup] using hmade

theorem run_slotsTracked (hrun : run H steps = some sys) : SlotsTracked H steps sys := by
  refine foldlM_track_run (R := SlotsTracked H) init_slotsTracked ?_ hrun
  intro before sys a sys' hbefore htracked hstep
  have htallied := run_tallied hbefore
  obtain ⟨hup, hm⟩ := step_moves htallied hstep
  exact htracked.move htallied hbefore hup hm

/-- Up to the first event the worker processes, the entries of the request queue are the requests
    that wait for it; from then on they never are again. The firmware aborts at the seventh request,
    however far apart the requests are. -/
theorem request_slots_iff (hrun : run H steps = some sys) :
    (SlotsReclaimed H steps sys ↔ .workTake ∉ steps) ∧
      (sys.aborted = none ↔ requests steps ≤ queueDepth) := by
  have htallied := run_tallied hrun
  have htracked := run_slotsTracked hrun
  have hlength := htallied.requests
  have hevents := htallied.events
  have hfits := sys.mgr.requestQueue.fits
  have hnone : .workTake ∉ steps ↔ sys.processed = 0 := by
    rw [htracked.processed, List.count_eq_zero]
  rw [hnone]
  refine ⟨⟨?_, ?_⟩, ?_⟩
  · rintro ⟨hentries, -⟩
    omega
  · intro hzero
    refine ⟨by omega, fun hsix => ?_⟩
    by_contra haborted
    have hpos := htracked.processedFirst haborted hsix
    omega
  · rw [htracked.made]
    rcases haborted : sys.aborted with _ | reason
    · simp only [Option.isSome_none, Bool.toNat_false, true_iff]
      omega
    · have hfull := htracked.full (by simp [haborted])
      simp only [Option.isSome_some, Bool.toNat_true, reduceCtorEq, false_iff]
      omega

/-- Six calls, each processed before the next, and a seventh. -/
def sevenCalls : List SensorStep :=
  (List.replicate 6 (sampleCall ++ workerRun)).flatten ++ [.putRequest sampleRequest]

theorem request_slots_iff_sampleCall :
    ∃ sys, run inertHandlers sampleCall = some sys ∧ SlotsReclaimed inertHandlers sampleCall sys ∧
      sys.aborted = none := by
  obtain ⟨hslots, haborted⟩ := @request_slots_iff inertHandlers _ sampleCall rfl
  exact ⟨_, rfl, hslots.2 (by decide), haborted.2 (by decide)⟩

/-- The queue is full of requests that were processed long before. -/
theorem seventhCall_aborts :
    ∃ sys, run inertHandlers sevenCalls = some sys ∧
      SixAtATime inertHandlers sevenCalls ∧ sys.accepted = 6 ∧ sys.processed = 6 ∧
      sys.aborted = some "Request queue full" ∧
      ¬ SlotsReclaimed inertHandlers sevenCalls sys := by
  refine ⟨_, rfl, by decide +kernel, rfl, rfl, rfl, fun hslots => ?_⟩
  exact absurd hslots.entries (by decide)

/-! ## What the requests come to -/

/-- The requests made, oldest first. -/
def requestsMade (steps : List SensorStep) : List Request := steps.filterMap SensorStep.request?

theorem requestsMade_snoc :
    requestsMade (steps ++ [a]) = requestsMade steps ++ a.request?.toList := by
  unfold requestsMade
  rw [List.filterMap_append]
  cases h : a.request? <;> simp [h]

/-- The queue keeps the first requests that were made, and each event turns the one regulator on. -/
structure KeepsFirst (steps : List SensorStep) (sys : SensorSys) : Prop where
  requests : sys.mgr.requestQueue.items = (requestsMade steps).take queueDepth
  powerOns : sys.mgr.powerOns = List.replicate sys.processed .type1

theorem init_keepsFirst : KeepsFirst [] init := ⟨rfl, rfl⟩

theorem powerOns_processIdleState_newRequest (mgr : SensorMgr) :
    (processIdleState ⟨.newRequest⟩ mgr).powerOns = mgr.powerOns ++ [.type1] := rfl

/-- Nothing but new requests is ever in the event queue. -/
def OnlyNewRequests (sys : SensorSys) : Prop :=
  ∀ eventBlock ∈ sys.mgr.eventQueue.items, eventBlock = ⟨.newRequest⟩

theorem OnlyNewRequests.move (h : OnlyNewRequests sys) (hm : Moves sys a sys') :
    OnlyNewRequests sys' := by
  cases hm with
  | requestPut | requestQueueFull | submitted | started | finished => exact h
  | eventPut hqueued hput =>
      intro eventBlock hmem
      rw [MsgQueue.items_of_put hput, List.mem_append, List.mem_singleton] at hmem
      exact hmem.elim (h eventBlock) id
  | processed hrunning hget =>
      intro eventBlock hmem
      rw [processIdleState_eventQueue] at hmem
      refine h eventBlock ?_
      rw [MsgQueue.items_of_get hget]
      exact List.mem_cons_of_mem _ hmem

theorem KeepsFirst.move (h : KeepsFirst steps sys) (hevents : OnlyNewRequests sys)
    (hm : Moves sys a sys') : KeepsFirst (steps ++ [a]) sys' := by
  obtain ⟨hrequests, hpowerOns⟩ := h
  cases hm with
  | requestPut hput =>
      -- the requests so far are fewer than six: they are all in the queue
      have hroom : sys.mgr.requestQueue.items.length < queueDepth := by
        have hfits := sys.mgr.requestQueue.fits
        have hne : sys.mgr.requestQueue.items.length ≠ queueDepth := fun hfull => by
          rw [MsgQueue.put_eq_none_iff.2 hfull] at hput
          cases hput
        omega
      have hall : (requestsMade steps).length < queueDepth := by
        rw [hrequests, List.length_take] at hroom
        omega
      refine ⟨?_, hpowerOns⟩
      rw [requestsMade_snoc, MsgQueue.items_of_put hput, hrequests,
        List.take_of_length_le (Nat.le_of_lt hall)]
      refine (List.take_of_length_le ?_).symm
      rw [List.length_append]
      exact hall
  | requestQueueFull hfull =>
      rw [MsgQueue.put_eq_none_iff, hrequests, List.length_take] at hfull
      refine ⟨?_, hpowerOns⟩
      rw [requestsMade_snoc, List.take_append_of_le_length (by omega)]
      exact hrequests
  | processed hrunning hget =>
      have hevent := hevents _ (by rw [MsgQueue.items_of_get hget]; exact List.mem_cons_self ..)
      subst hevent
      refine ⟨?_, ?_⟩
      · rw [requestsMade_snoc, processIdleState_requestQueue]
        simpa [SensorStep.request?] using hrequests
      · rw [powerOns_processIdleState_newRequest]
        simp only [hpowerOns, List.replicate_succ']
  | eventPut | submitted | started | finished =>
      refine ⟨?_, hpowerOns⟩
      rw [requestsMade_snoc]
      exact hrequests.trans (congrArg _ (List.append_nil _).symm)

theorem run_keepsFirst (hrun : run H steps = some sys) :
    KeepsFirst steps sys ∧ OnlyNewRequests sys := by
  refine foldlM_track_run (R := fun steps sys => KeepsFirst steps sys ∧ OnlyNewRequests sys)
    ⟨init_keepsFirst, fun _ hmem => absurd hmem List.not_mem_nil⟩ ?_ hrun
  rintro before sys a sys' hbefore ⟨hkeeps, hevents⟩ hstep
  obtain ⟨-, hm⟩ := step_moves (run_tallied hbefore) hstep
  exact ⟨hkeeps.move hevents hm, hevents.move hm⟩

/-- However the calls and the worker interleave, and whatever the handlers do: the request queue
    holds the first six requests ever made, in their order and for good. All that comes of a request
    is that the regulator is turned on, for the first type of sensor whichever was asked for, once
    for each event processed and so six times at most; the state never leaves `IDLE_STATE`. -/
theorem sensor_firstSix (hrun : run H steps = some sys) :
    sys.mgr.requestQueue.items = (requestsMade steps).take queueDepth ∧
    sys.mgr.powerOns = List.replicate (steps.count .workTake) .type1 ∧
    steps.count .workTake ≤ min (requests steps) queueDepth ∧ sys.mgr.currState = .idle := by
  have htallied := run_tallied hrun
  have htracked := run_slotsTracked hrun
  have hkeeps := (run_keepsFirst hrun).1
  have hevents := htallied.events
  have hrequests := htallied.requests
  have hmade := htracked.made
  have hfits := sys.mgr.requestQueue.fits
  rw [← htracked.processed]
  exact ⟨hkeeps.requests, hkeeps.powerOns, by omega, htallied.idle⟩

theorem sensor_firstSix_sevenCalls :
    ∃ sys, run inertHandlers sevenCalls = some sys ∧
      sys.mgr.requestQueue.items = List.replicate 6 sampleRequest ∧
      sys.mgr.powerOns = List.replicate 6 .type1 ∧ sys.mgr.currState = .idle := by
  obtain ⟨hitems, hpowerOns, -, hidle⟩ := @sensor_firstSix inertHandlers _ sevenCalls rfl
  exact ⟨_, rfl, hitems, hpowerOns, hidle⟩

end SensorSys

end Levaware
