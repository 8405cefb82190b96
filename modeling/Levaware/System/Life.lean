import Levaware.Cell.PdpTracking
import Levaware.Cell.Statistics
import Levaware.System.Start

set_option autoImplicit false

/-! # Between two reboots

In the course of one life the parts come up one after the other: the link, `main`, the connector,
the client. `Risen` says which part being up takes which others to be up; with the connection
manager's own account of its turns (`PdpTracked`) it says that there is no cloud connection before
the PDP context has been up (`firmware_gate`). -/

namespace Levaware

open Abort

variable {hw : Hardware} {fw fw' fw₀ : Firmware} {turn : Turn} {turns : List Turn}

/-! ## The connection manager's turns -/

/-- Only its own turn takes `main` any further. -/
theorem LteOp.effect_main (op : LteOp) (lte : Lte) :
    (op.effect lte).main = match op with
      | .main _ => lte.mainContinued.main
      | _ => lte.main := by
  cases op with
  | appConn modem appUp => cases appUp <;> rfl
  | pdnEvent cid event reason => cases event <;> rfl
  | statsClear | statsPrint | lteEvent | main => rfl

def Turn.lteOp? : Turn → Option LteOp
  | .lte op => some op
  | _ => none

/-- The turns of the connection manager among some turns. -/
def lteOps (turns : List Turn) : List LteOp := turns.filterMap Turn.lteOp?

theorem lteOps_snoc : lteOps (turns ++ [turn]) = lteOps turns ++ turn.lteOp?.toList := by
  unfold lteOps
  rw [List.filterMap_append]
  cases h : turn.lteOp? <;> simp [h]

theorem Goes.lteTurn (h : Goes hw fw turn fw') :
    (turn.lteOp? = none ∧ fw'.lte = fw.lte) ∨
    ∃ op, turn.lteOp? = some op ∧ op.run.run fw.lte = .ok () fw'.lte := by
  cases h with
  | lte hrun => exact Or.inr ⟨_, rfl, hrun⟩
  | sms | tick | decoded | queued | ignored | queuedDecoded | clientStarted | handled =>
      exact Or.inl ⟨rfl, rfl⟩

/-- The connection manager keeps its account whatever the other parts do. -/
theorem Goes.pdpTracked (h : Goes hw fw turn fw') (hfw : PdpTracked (lteOps turns) fw.lte) :
    PdpTracked (lteOps (turns ++ [turn])) fw'.lte := by
  rw [lteOps_snoc]
  rcases h.lteTurn with ⟨hnone, hlte⟩ | ⟨op, hop, hrun⟩
  · rw [hnone, hlte]
    simpa using hfw
  · rw [hop]
    exact (PdpTracked.turn _ op).ok hfw hrun

/-! ## The order in which the parts come up -/

/-- `main` is past `sms_register_listener`. -/
def Lte.listens (lte : Lte) : Prop := lte.main = .lteStarted ∨ lte.main = .awsStarted

/-- What has to be up for a part to be up. -/
structure Risen (fw : Firmware) : Prop where
  connector : fw.connector.isSome ↔ fw.lte.main = .awsStarted
  client : fw.awsIot.isSome → fw.connector.isSome
  decoded : 0 < fw.decoded → fw.awsIot.isSome
  timer : fw.rebootDelayTimer.starts ≠ [] → fw.lte.listens

theorem Started.risen {b : Board} (h : Started hw b fw) : Risen fw where
  connector := by simp [h.connector, h.lte, lteConnectInit]
  client := by simp [h.awsIot]
  decoded := by simp [h.decoded]
  timer := by simp [h.timer]

/-- `main` gets to `aws_connector_init` in exactly the turn that starts the connector. -/
theorem main_effect (op : LteOp) (lte : Lte) :
    ((op.effect lte).main = .awsStarted ↔ lte.main = .awsStarted ∨ op.startsConnector lte) ∧
    (lte.listens → (op.effect lte).listens) := by
  rw [Lte.listens, Lte.listens, LteOp.effect_main]
  cases op with
  | main err =>
      unfold LteOp.startsConnector Lte.mainContinued
      cases hmain : lte.main with
      | waiting => cases hsem : lte.lteConnected.take? <;> simp [hmain]
      | unblocked | lteStarted | awsStarted => simp
  | appConn | statsClear | statsPrint | pdnEvent | lteEvent => simp [LteOp.startsConnector]

theorem Goes.risen (h : Goes hw fw turn fw') (hvalid : fw.lte.cblk.state.Valid)
    (hpossible : fw.possible turn = true) (hfw : Risen fw) : Risen fw' := by
  -- a queue that is filled belongs to a connector that is there
  have hfilled : fw.awsIot.isSome = true → ∀ c : AwsConnector,
      (some c).isSome ↔ fw.lte.main = .awsStarted := fun hclient c =>
    ⟨fun _ => hfw.connector.1 (hfw.client hclient), fun _ => rfl⟩
  cases h with
  | @lte op _ hrun =>
      have hmain := main_effect op fw.lte
      rw [← LteOp.eq_effect hvalid hrun] at hmain
      refine ⟨?_, ?_, hfw.decoded, fun ht => hmain.2 (hfw.timer ht)⟩
      · dsimp only
        rw [hmain.1, ← hfw.connector]
        split <;> simp [*]
      · intro hclient
        have hc := hfw.client hclient
        dsimp only
        split
        · rfl
        · exact hc
  | sms =>
      have hmain : fw.lte.main = .lteStarted ∨ fw.lte.main = .awsStarted := by
        simpa [Firmware.possible] using hpossible
      exact ⟨hfw.connector, hfw.client, hfw.decoded, fun _ => hmain⟩
  | tick hearly => exact ⟨hfw.connector, hfw.client, hfw.decoded, hfw.timer⟩
  | decoded hdata hrun => exact ⟨hfw.connector, hfw.client, fun _ => hpossible, hfw.timer⟩
  | queued hdata hcode hput =>
      exact ⟨hfilled hpossible _, fun _ => rfl, hfw.decoded, hfw.timer⟩
  | ignored => exact hfw
  | queuedDecoded hput =>
      have hclient : fw.awsIot.isSome = true :=
        hfw.decoded (by simpa [Firmware.possible] using hpossible)
      exact ⟨hfilled hclient _, fun _ => rfl, fun _ => hclient, hfw.timer⟩
  | clientStarted hstart hinit =>
      have hconnector : fw.connector.isSome = true := by
        unfold Firmware.possible at hpossible
        cases hc : fw.connector with
        | some c => rfl
        | none => simp [hc] at hpossible
      exact ⟨hfw.connector, fun _ => hconnector, fun _ => rfl, hfw.timer⟩
  | handled hclient hc hloop =>
      exact ⟨hfilled hclient _, fun _ => rfl, hfw.decoded, hfw.timer⟩

/-! ## Lives -/

/-- The firmware some turns after a start. -/
structure Lived (turns : List Turn) (fw : Firmware) : Prop where
  pdp : PdpTracked (lteOps turns) fw.lte
  risen : Risen fw

theorem Started.lived {b : Board} (h : Started hw b fw) : Lived [] fw :=
  ⟨h.lte ▸ .init _, h.risen⟩

theorem Lived.step (h : Lived turns fw) (hstep : (firmware hw).goesOn fw turn = some fw') :
    Lived (turns ++ [turn]) fw' := by
  obtain ⟨hpossible, hgoes⟩ := goes_of_goesOn hstep
  exact ⟨hgoes.pdpTracked h.pdp, hgoes.risen h.pdp.state.valid hpossible h.risen⟩

/-- A run is some turns into a life. -/
theorem firmware_lastLife {b : Board} (hboot : boot hw b = some fw₀)
    (hrun : (firmware hw).run fw₀ turns = some fw) :
    ∃ pre post b₁ fw₁, turns = pre ++ post ∧ (firmware hw).run fw₀ pre = some fw₁ ∧
      boot hw b₁ = some fw₁ ∧ (firmware hw).life fw₁ post = some fw := by
  have hkeeps : (firmware hw).Keeps (fun _ => True) (fun _ => True) :=
    ⟨fun _ => (Triple.trivial _).conseq (fun _ _ => trivial) (fun _ _ h => h) fun _ _ h => h,
      fun _ _ _ _ => trivial⟩
  obtain ⟨pre, post, fw₁, hsplit, hpre, ⟨b₁, hb₁⟩, hlife⟩ :=
    hkeeps.run_lastLife (B := fun fw => ∃ b, boot hw b = some fw)
      (fun c b _ hb => ⟨c.board, hb⟩) trivial ⟨b, hboot⟩ hrun
  exact ⟨pre, post, b₁, fw₁, hsplit, hpre, hb₁, hlife⟩

theorem lived_of_life {b : Board} (hboot : boot hw b = some fw₀)
    (hlife : (firmware hw).life fw₀ turns = some fw) : Lived turns fw :=
  History.foldlM_track (boot_started hboot).lived (fun _ _ _ _ hR hstep => hR.step hstep) hlife

/-- In every state of every run, whatever came in whatever order: since the last reboot the state of
    the connection manager follows the PDP context changes, and the semaphore has been given once if
    there was an activation and never before. Without an activation since then there is no listener
    for SMS, no reboot pending, no connector, no client and no callback of one. -/
theorem firmware_gate (hw : Hardware) (b : Board) (fw₀ fw : Firmware) (turns : List Turn)
    (hboot : boot hw b = some fw₀) (hrun : (firmware hw).run fw₀ turns = some fw) :
    ∃ pre post b₁ fw₁, turns = pre ++ post ∧ (firmware hw).run fw₀ pre = some fw₁ ∧
      boot hw b₁ = some fw₁ ∧ (firmware hw).life fw₁ post = some fw ∧
      FollowsPdp (pdpChanges (lteOps post)) fw.lte.cblk.state ∧
      fw.lte.lteConnected.gives = (if Activated (lteOps post) then 1 else 0) ∧
      (¬Activated (lteOps post) →
        fw.lte.main = .waiting ∧ fw.connector = none ∧ fw.awsIot = none ∧
        fw.rebootDelayTimer.starts = [] ∧
        (∀ serialNum datap, fw.possible (.sms serialNum datap) = false) ∧
        (∀ evtp, fw.possible (.callback evtp) = false) ∧
        fw.possible .queueDecoded = false ∧ fw.possible .connectorTask = false) := by
  obtain ⟨pre, post, b₁, fw₁, hsplit, hpre, hb₁, hlife⟩ := firmware_lastLife hboot hrun
  obtain ⟨hpdp, hrisen⟩ := lived_of_life hb₁ hlife
  refine ⟨pre, post, b₁, fw₁, hsplit, hpre, hb₁, hlife, hpdp.state, hpdp.gives, fun hdown => ?_⟩
  have hmain : fw.lte.main = .waiting := by
    by_contra hmain
    exact hdown (hpdp.gate hmain)
  have hconnector : fw.connector = none := by
    by_contra hc
    have hstarted := hrisen.connector.1 (Option.isSome_iff_ne_none.2 hc)
    simp [hmain] at hstarted
  have hclient : fw.awsIot = none := by
    by_contra hc
    have hsome := hrisen.client (Option.isSome_iff_ne_none.2 hc)
    simp [hconnector] at hsome
  have hdecoded : ¬0 < fw.decoded := fun h => by simpa [hclient] using hrisen.decoded h
  have htimer : fw.rebootDelayTimer.starts = [] := by
    by_contra ht
    simpa [Lte.listens, hmain] using hrisen.timer ht
  exact ⟨hmain, hconnector, hclient, htimer, by simp [Firmware.possible, hmain],
    by simp [Firmware.possible, hclient], by simpa [Firmware.possible] using hdecoded,
    by simp [Firmware.possible, hconnector]⟩

theorem firmware_gate_bench :
    ∃ fw₀ fw, boot .bench .bench = some fw₀ ∧ (firmware .bench).run fw₀ benchDay = some fw ∧
      ∃ pre post b₁ fw₁, benchDay = pre ++ post ∧ (firmware .bench).run fw₀ pre = some fw₁ ∧
        boot .bench b₁ = some fw₁ ∧ (firmware .bench).life fw₁ post = some fw ∧
        FollowsPdp (pdpChanges (lteOps post)) fw.lte.cblk.state ∧
        fw.lte.lteConnected.gives = (if Activated (lteOps post) then 1 else 0) ∧
        (¬Activated (lteOps post) →
          fw.lte.main = .waiting ∧ fw.connector = none ∧ fw.awsIot = none ∧
          fw.rebootDelayTimer.starts = [] ∧
          (∀ serialNum datap, fw.possible (.sms serialNum datap) = false) ∧
          (∀ evtp, fw.possible (.callback evtp) = false) ∧
          fw.possible .queueDecoded = false ∧ fw.possible .connectorTask = false) := by
  obtain ⟨fw₀, fw, hboot, hrun⟩ := bench_runs
  exact ⟨fw₀, fw, hboot, hrun, firmware_gate .bench .bench fw₀ fw benchDay hboot hrun⟩

end Levaware
