import Levaware.Sensors.SensorSys

set_option autoImplicit false

/-! # Sensor events left behind

The event queue and the work item are an instance of `Wakeup`: each call posts an event and submits
the item, each run of the worker takes one event (`run_wakeup`). So while the worker is at rest, the
queue holds the events whose call found the item pending and those whose call is yet to submit it
(`stranded_events_iff`). -/

namespace Levaware

/-- What a step is for the events and the work item; putting a request is nothing to them. -/
def SensorStep.wakeup? : SensorStep → Option (Wakeup.Step SensorMgr.EventMsg)
  | .putRequest _ => none
  | .putEvent => some (.post ⟨.newRequest⟩)
  | .submit => some .submit
  | .workStart => some .start
  | .workTake => some .take
  | .workFinish => some .finish

namespace SensorSys

open SensorMgr History

variable {H : StateHandlers} {sys sys' : SensorSys} {a : SensorStep} {steps : List SensorStep}

/-- The events, the work item, and how many submits have found it pending. -/
def wakeup (sys : SensorSys) (coalesced : Nat) : Wakeup.State EventMsg where
  queue := sys.mgr.eventQueue.items
  kicks := sys.posted
  work := sys.mgr.sensorRequestWorker
  taken := sys.taken
  coalesced := coalesced

/-- A step that does not submit a work item that is pending. -/
def Wakes (sys : SensorSys) (a : SensorStep) : Prop :=
  a = .submit → sys.mgr.sensorRequestWorker.pending = false

instance (sys : SensorSys) (a : SensorStep) : Decidable (Wakes sys a) :=
  inferInstanceAs (Decidable (_ → _))

/-- A step is a step of `Wakeup`, or none of its business; only a submit can be lost. -/
theorem Moves.wakeup (hm : Moves sys a sys') (coalesced : Nat) :
    ∃ lost, (lost = 0 ↔ Wakes sys a) ∧
      a.wakeup?.toList.foldlM Wakeup.step (sys.wakeup coalesced) =
        some (sys'.wakeup (coalesced + lost)) := by
  -- the submit is the only step that loses anything
  cases hm with
  | requestPut | requestQueueFull => exact ⟨0, by simp [Wakes], rfl⟩
  | eventPut hqueued hput =>
      refine ⟨0, by simp [Wakes], ?_⟩
      simp [SensorStep.wakeup?, Wakeup.step, SensorSys.wakeup, MsgQueue.items_of_put hput]
  | submitted hposted =>
      refine ⟨sys.mgr.sensorRequestWorker.pending.toNat, ?_, ?_⟩
      · simp [Wakes]
      · simp [SensorStep.wakeup?, Wakeup.step, SensorSys.wakeup, SensorMgr.submit, hposted]
  | started hstart =>
      refine ⟨0, by simp [Wakes], ?_⟩
      simp [SensorStep.wakeup?, Wakeup.step, SensorSys.wakeup, hstart]
  | processed hrunning hget =>
      refine ⟨0, by simp [Wakes], ?_⟩
      simp [SensorStep.wakeup?, Wakeup.step, SensorSys.wakeup, hrunning,
        MsgQueue.items_of_get hget]
  | finished hrunning =>
      refine ⟨0, by simp [Wakes], ?_⟩
      simp [SensorStep.wakeup?, Wakeup.step, SensorSys.wakeup, hrunning]

/-- Every run of the sensor manager is one of `Wakeup`, which loses no submit iff the run finds no
    work item pending. -/
theorem run_wakeup (hrun : run H steps = some sys) :
    ∃ coalesced, (coalesced = 0 ↔ EveryStep (step H) init Wakes steps) ∧
      Wakeup.run .init (steps.filterMap SensorStep.wakeup?) = some (sys.wakeup coalesced) := by
  refine foldlM_track_run
    (R := fun steps sys => ∃ coalesced, (coalesced = 0 ↔ EveryStep (step H) init Wakes steps) ∧
      Wakeup.run .init (steps.filterMap SensorStep.wakeup?) = some (sys.wakeup coalesced))
    ?_ ?_ hrun
  · exact ⟨0, by simp [everyStep_nil], rfl⟩
  · rintro before sys a sys' hbefore ⟨coalesced, hnone, hwakeup⟩ hstep
    obtain ⟨-, hm⟩ := step_moves (run_tallied hbefore) hstep
    obtain ⟨lost, hlost, hmove⟩ := hm.wakeup coalesced
    refine ⟨coalesced + lost, ?_, ?_⟩
    · rw [everyStep_snoc_iff hbefore, ← hnone, ← hlost, Nat.add_eq_zero_iff]
    · unfold Wakeup.run at hwakeup ⊢
      rw [List.filterMap_append, List.foldlM_append, hwakeup, Option.bind_eq_bind,
        Option.bind_some, ← hmove]
      cases hkind : a.wakeup? <;> simp [hkind]

/-- While the worker is at rest, no event is left in its queue iff no submit so far has found the
    work item pending, and no call is yet to submit it. -/
theorem stranded_events_iff (hrun : run H steps = some sys)
    (hpending : sys.mgr.sensorRequestWorker.pending = false)
    (hrunning : sys.mgr.sensorRequestWorker.running = false) :
    sys.mgr.eventQueue.items = [] ↔
      EveryStep (step H) init Wakes steps ∧ sys.posted = 0 := by
  obtain ⟨coalesced, hnone, hwakeup⟩ := run_wakeup hrun
  have hlength : sys.mgr.eventQueue.items.length = coalesced + sys.posted :=
    Wakeup.length_queue_of_idle (Wakeup.run_accounts hwakeup) hpending hrunning
  rw [← List.length_eq_zero_iff, hlength, Nat.add_eq_zero_iff, hnone]

theorem stranded_events_iff_sampleCall :
    ∃ sys, run inertHandlers (sampleCall ++ workerRun) = some sys ∧
      sys.mgr.sensorRequestWorker = .init ∧ sys.mgr.eventQueue.items = [] := by
  refine ⟨_, rfl, rfl, ?_⟩
  exact (@stranded_events_iff inertHandlers _ (sampleCall ++ workerRun) rfl rfl rfl).2
    ⟨by decide, rfl⟩

/-- Two calls before the worker gets to run, and it runs once: one event stays behind, with nobody
    left to ask for a run. -/
theorem twoCalls_one_stranded :
    ∃ sys, run inertHandlers (sampleCall ++ sampleCall ++ workerRun) = some sys ∧
      sys.mgr.sensorRequestWorker = .init ∧ sys.queued = 0 ∧ sys.posted = 0 ∧
      sys.mgr.eventQueue.items = [⟨.newRequest⟩] :=
  ⟨_, rfl, rfl, rfl, rfl, rfl⟩

end SensorSys

end Levaware
