import Levaware.System.Life

set_option autoImplicit false

/-! # Events from the client to the connector

Since the last reboot every event of the client is queued once, in the order of the callbacks, and
the connector has handled the first of them: `firmware_events` says so of every run of the firmware,
with the connector in it as the mailbox it is. -/

namespace Levaware

open Abort

variable {hw : Hardware} {fw fw' fw₀ : Firmware} {turn : Turn} {turns : List Turn}
  {steps : List (Mailbox.Step EventCode)}

/-- The event that a turn queues. -/
def Turn.event? : Turn → Option EventCode
  | .callback evtp => if evtp.shadowData?.isSome then none else evtp.code?
  | .queueDecoded => some .shadowReceived
  | _ => none

/-- The events queued in some turns. -/
def queuedEvents (turns : List Turn) : List EventCode := turns.filterMap Turn.event?

/-- A turn brings shadow data. -/
def Turn.isData : Turn → Bool
  | .callback evtp => evtp.shadowData?.isSome
  | _ => false

def Turn.isTask : Turn → Bool
  | .connectorTask => true
  | _ => false

theorem queuedEvents_snoc_some {event : EventCode} (h : turn.event? = some event) :
    queuedEvents (turns ++ [turn]) = queuedEvents turns ++ [event] := by
  simp [queuedEvents, List.filterMap_append, h]

theorem queuedEvents_snoc_none (h : turn.event? = none) :
    queuedEvents (turns ++ [turn]) = queuedEvents turns := by
  simp [queuedEvents, List.filterMap_append, h]

theorem connectorRun_snoc {c c' : AwsConnector} (h : connectorRun steps = some c)
    {a : Mailbox.Step EventCode} (hturn : c.turn a = some c') :
    connectorRun (steps ++ [a]) = some c' := by
  unfold connectorRun at h ⊢
  rw [List.foldlM_append, h]
  simpa using hturn

/-- Queueing is a turn of the connector. -/
theorem turn_post {event : EventCode} {q : MsgQueue EventCode msgQueueSz} {c : AwsConnector}
    (hput : c.connectorEventQueue.put event = some q) :
    c.turn (.post event) = some { c with connectorEventQueue := q } := by
  unfold AwsConnector.turn
  simp only [awsQueueEvent_run, hput]

/-- The connector after some turns since a start. -/
structure Accounted (turns : List Turn) (fw : Firmware) (steps : List (Mailbox.Step EventCode)) :
    Prop where
  run : connectorRun steps = some fw.theConnector
  posted : Mailbox.posted steps = queuedEvents turns
  /-- the thread's first turn is `aws_connect` -/
  handled : Mailbox.handled steps + (if fw.awsIot.isSome then 1 else 0) = turns.countP Turn.isTask
  fresh : fw.awsIot = none → turns.countP Turn.isTask = 0
  data : turns.countP Turn.isData = (queuedEvents turns).count .shadowReceived + fw.decoded

/-- A turn that has nothing to do with the connector. -/
theorem Accounted.frame (h : Accounted turns fw steps)
    (hconnector : fw'.theConnector = fw.theConnector) (hclient : fw'.awsIot = fw.awsIot)
    (hdecoded : fw'.decoded = fw.decoded) (hevent : turn.event? = none)
    (hdata : turn.isData = false) (htask : turn.isTask = false) :
    Accounted (turns ++ [turn]) fw' steps := by
  have hcount : (turns ++ [turn]).countP Turn.isTask = turns.countP Turn.isTask := by
    simp [List.countP_append, htask]
  refine ⟨hconnector ▸ h.run, ?_, ?_, ?_, ?_⟩
  · rw [queuedEvents_snoc_none hevent, h.posted]
  · rw [hclient, h.handled, hcount]
  · rw [hclient, hcount]
    exact h.fresh
  · rw [queuedEvents_snoc_none hevent, hdecoded, ← h.data, List.countP_append]
    simp [hdata]

theorem Started.accounted {b : Board} (h : Started hw b fw) : Accounted [] fw [] := by
  have hconnector : fw.theConnector = .init := by
    rw [Firmware.theConnector, h.connector]
    rfl
  refine ⟨by rw [hconnector]; rfl, rfl, ?_, fun _ => rfl, ?_⟩
  · rw [h.awsIot]
    rfl
  · rw [h.decoded]
    rfl

theorem Goes.accounted (h : Goes hw fw turn fw') (hpossible : fw.possible turn = true)
    (hrisen : Risen fw) (hfw : Accounted turns fw steps) :
    ∃ steps', Accounted (turns ++ [turn]) fw' steps' := by
  have hnone {p : Prop} (hclient : fw.awsIot.isSome = true) (h : fw.awsIot = none) : p := by
    rw [h] at hclient
    cases hclient
  cases h with
  | @lte op _ hrun =>
      refine ⟨steps, hfw.frame ?_ rfl rfl rfl rfl rfl⟩
      unfold Firmware.theConnector
      dsimp only
      split
      · next hstarts =>
          -- before the connector is started there is none
          have hnone : fw.connector = none := by
            by_contra hc
            have hmain := hrisen.connector.1 (Option.isSome_iff_ne_none.2 hc)
            cases op <;> simp_all [LteOp.startsConnector]
          rw [hnone]
          rfl
      · rfl
  | sms => exact ⟨steps, hfw.frame rfl rfl rfl rfl rfl rfl⟩
  | tick hearly => exact ⟨steps, hfw.frame rfl rfl rfl rfl rfl rfl⟩
  | @decoded evtp msg device hdata hrun =>
      have hevent : (Turn.callback evtp).event? = none := by simp [Turn.event?, hdata]
      refine ⟨steps, hfw.run, ?_, ?_, hnone hpossible, ?_⟩
      · rw [queuedEvents_snoc_none hevent, hfw.posted]
      · rw [hfw.handled, List.countP_append]
        rfl
      · rw [queuedEvents_snoc_none hevent, List.countP_append, hfw.data]
        simp [Turn.isData, hdata, Nat.add_assoc]
  | @queued evtp event q hdata hcode hput =>
      have hevent : (Turn.callback evtp).event? = some event := by simp [Turn.event?, hdata, hcode]
      have hother : event ≠ .shadowReceived := by
        rintro rfl
        cases evtp <;> simp_all [AwsIotEvt.code?, AwsIotEvt.shadowData?]
      refine ⟨steps ++ [.post event], connectorRun_snoc hfw.run (turn_post hput), ?_, ?_,
        hnone hpossible, ?_⟩
      · rw [queuedEvents_snoc_some hevent, Mailbox.posted_snoc_post, hfw.posted]
      · rw [Mailbox.handled_snoc_post, List.countP_append]
        exact hfw.handled
      · rw [queuedEvents_snoc_some hevent, List.countP_append, hfw.data, List.count_append]
        simp [Turn.isData, hdata, hother, Firmware.queued]
  | ignored hdata hcode =>
      exact ⟨steps, hfw.frame rfl rfl rfl (by simp [Turn.event?, hdata, hcode])
        (by simp [Turn.isData, hdata]) rfl⟩
  | @queuedDecoded q hput =>
      have hpos : 0 < fw.decoded := by simpa [Firmware.possible] using hpossible
      have hevent : Turn.queueDecoded.event? = some .shadowReceived := rfl
      refine ⟨steps ++ [.post .shadowReceived], connectorRun_snoc hfw.run (turn_post hput), ?_, ?_,
        hnone (hrisen.decoded hpos), ?_⟩
      · rw [queuedEvents_snoc_some hevent, Mailbox.posted_snoc_post, hfw.posted]
      · rw [Mailbox.handled_snoc_post, List.countP_append]
        exact hfw.handled
      · rw [queuedEvents_snoc_some hevent, List.countP_append, hfw.data, List.count_append]
        simp [Turn.isData]
        omega
  | clientStarted hstart hinit =>
      refine ⟨steps, hfw.run, ?_, ?_, fun h => (by cases h), ?_⟩
      · rw [queuedEvents_snoc_none rfl, hfw.posted]
      · rw [List.countP_append, ← hfw.handled, hstart]
        simp [Firmware.clientStarted, Turn.isTask]
      · rw [queuedEvents_snoc_none rfl, List.countP_append, hfw.data]
        simp [Turn.isData, Firmware.clientStarted]
  | @handled c c' hclient hc hloop =>
      have hthe : fw.theConnector = c := by rw [Firmware.theConnector, hc]; rfl
      refine ⟨steps ++ [.handle], connectorRun_snoc hfw.run (hthe ▸ hloop), ?_, ?_, hnone hclient,
        ?_⟩
      · rw [queuedEvents_snoc_none rfl, Mailbox.posted_snoc_handle, hfw.posted]
      · rw [Mailbox.handled_snoc_handle, List.countP_append, ← hfw.handled]
        simp [hclient, Turn.isTask]
      · rw [queuedEvents_snoc_none rfl, List.countP_append, hfw.data]
        simp [Turn.isData]

/-- In every state of every run: since the last reboot, with `n` the rounds of the connector's
    thread, the state machine has gone through the first `n` events, the queue holds the others, no
    more than five, in the order in which they were queued, and of the messages with shadow data
    each is queued as one event or about to be. Nothing is lost, doubled or overtaken. -/
theorem firmware_events (hw : Hardware) (b : Board) (fw₀ fw : Firmware) (turns : List Turn)
    (hboot : boot hw b = some fw₀) (hrun : (firmware hw).run fw₀ turns = some fw) :
    ∃ pre post b₁ fw₁, turns = pre ++ post ∧ (firmware hw).run fw₀ pre = some fw₁ ∧
      boot hw b₁ = some fw₁ ∧ (firmware hw).life fw₁ post = some fw ∧
      ∃ n, n + (if fw.awsIot.isSome then 1 else 0) = post.countP Turn.isTask ∧
        fw.theConnector.cblk = awsRun ((queuedEvents post).take n) ∧
        fw.theConnector.connectorEventQueue.items = (queuedEvents post).drop n ∧
        n ≤ (queuedEvents post).length ∧ (queuedEvents post).length ≤ n + msgQueueSz ∧
        post.countP Turn.isData = (queuedEvents post).count .shadowReceived + fw.decoded := by
  obtain ⟨pre, post, b₁, fw₁, hsplit, hpre, hb₁, hlife⟩ := firmware_lastLife hboot hrun
  refine ⟨pre, post, b₁, fw₁, hsplit, hpre, hb₁, hlife, ?_⟩
  have hstarted := boot_started hb₁
  obtain ⟨-, steps, hacc⟩ : Lived post fw ∧ ∃ steps, Accounted post fw steps := by
    refine History.foldlM_track (R := fun turns fw => Lived turns fw ∧
      ∃ steps, Accounted turns fw steps) ⟨hstarted.lived, [], hstarted.accounted⟩ ?_ hlife
    rintro turns fw turn fw' ⟨hlived, steps, hacc⟩ hstep
    obtain ⟨hpossible, hgoes⟩ := goes_of_goesOn hstep
    exact ⟨hlived.step hstep, hgoes.accounted hpossible hlived.risen hacc⟩
  have hd := connectorRun_delivered hacc.run
  obtain ⟨hbehind, hdepth⟩ := Mailbox.keeping_of_delivered hd
  have hconsumer := hd.consumer
  have hqueue := hd.queue
  rw [hacc.posted] at hbehind hdepth hconsumer hqueue
  exact ⟨Mailbox.handled steps, hacc.handled, hconsumer, hqueue, hbehind, hdepth, hacc.data⟩

theorem firmware_events_bench :
    ∃ fw₀ fw, boot .bench .bench = some fw₀ ∧ (firmware .bench).run fw₀ benchDay = some fw ∧
      ∃ pre post b₁ fw₁, benchDay = pre ++ post ∧ (firmware .bench).run fw₀ pre = some fw₁ ∧
        boot .bench b₁ = some fw₁ ∧ (firmware .bench).life fw₁ post = some fw ∧
        ∃ n, n + (if fw.awsIot.isSome then 1 else 0) = post.countP Turn.isTask ∧
          fw.theConnector.cblk = awsRun ((queuedEvents post).take n) ∧
          fw.theConnector.connectorEventQueue.items = (queuedEvents post).drop n ∧
          n ≤ (queuedEvents post).length ∧ (queuedEvents post).length ≤ n + msgQueueSz ∧
          post.countP Turn.isData = (queuedEvents post).count .shadowReceived + fw.decoded := by
  obtain ⟨fw₀, fw, hboot, hrun⟩ := bench_runs
  exact ⟨fw₀, fw, hboot, hrun, firmware_events .bench .bench fw₀ fw benchDay hboot hrun⟩

end Levaware
