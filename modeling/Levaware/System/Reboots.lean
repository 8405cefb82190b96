import Levaware.Cell.RebootPolicy
import Levaware.System.Deadline
import Levaware.System.Events

set_option autoImplicit false

/-! # What reboots the device

On files that can be relied on there are eight reasons for a reboot, and for each of them the turns
since the last reboot tell when it comes (`firmware_reboots_iff`). All other aborts of the code are
never reached. -/

namespace Levaware

open Abort

variable {hw : Hardware} {fw fw' fw₀ : Firmware} {turn : Turn} {turns : List Turn} {b : Board}
  {content : List UInt8} {lte : Lte} {op : LteOp}

/-! ## The connection manager -/

/-- What stops a turn of the connection manager. -/
def LteOp.StopsIn (lte : Lte) : LteOp → Prop
  | .appConn modem false => ¬modem.Succeed ∨ (LteOp.appConn modem false).Reboots lte
  | .main smsRegisterListener => lte.main = .unblocked ∧ smsRegisterListener ≠ 0
  | _ => False

theorem LteOp.Reboots.stopsIn (h : op.Reboots lte) : op.StopsIn lte := by
  cases op with
  | appConn modem appUp =>
      cases appUp with
      | true => exact h.elim
      | false => exact Or.inr h
  | statsClear | statsPrint | pdnEvent | lteEvent | main => exact h.elim

theorem LteOp.run_stopsIn (h : op.StopsIn lte) :
    ∃ e lte', op.run.run lte = .error e lte' ∧ e ∈ rebootReason :: serviceFailures := by
  cases op with
  | appConn modem appUp =>
      cases appUp with
      | true => exact h.elim
      | false =>
          by_cases hserved : modem.Succeed
          · have hreboots := h.resolve_left (not_not.2 hserved)
            exact ⟨_, _, LteOp.run_reboots hserved hreboots, List.mem_cons_self ..⟩
          · obtain ⟨e, cblk, hrun, he, -⟩ := lteApplicationConnUp_down_fails hserved
            exact ⟨e, _, hrun, List.mem_cons_of_mem _ he⟩
  | main err =>
      exact ⟨_, _, (mainContinues_run err).trans (if_pos h), by simp [serviceFailures]⟩
  | statsClear | statsPrint | pdnEvent | lteEvent => exact h.elim

theorem LteOp.run_not_stopsIn (hvalid : lte.cblk.state.Valid) (h : ¬op.StopsIn lte) :
    op.run.run lte = .ok () (op.effect lte) := by
  by_cases hserved : op.Served
  · exact LteOp.run_ok hvalid hserved fun hreboots => h hreboots.stopsIn
  · cases op with
    | appConn modem appUp =>
        cases appUp with
        | true => exact absurd trivial hserved
        | false => exact absurd (Or.inl hserved) h
    | main err => exact (mainContinues_run err).trans (if_neg h)
    | statsClear | statsPrint | pdnEvent | lteEvent => exact absurd trivial hserved

/-- The count of reports follows a turn that goes through. -/
theorem RebootTracked.goes {ops : List LteOp} (h : RebootTracked ops lte) {lte' : Lte}
    (hrun : op.run.run lte = .ok () lte') : RebootTracked (ops ++ [op]) lte' := by
  have heffect := LteOp.eq_effect h.valid hrun
  subst heffect
  refine h.effect fun hdue => ?_
  obtain ⟨e, lte', herror, -⟩ := LteOp.run_stopsIn (h.reboots_iff.2 hdue).stopsIn
  rw [herror] at hrun
  cases hrun

theorem Goes.rebootTracked (h : Goes hw fw turn fw')
    (hfw : RebootTracked (lteOps turns) fw.lte) :
    RebootTracked (lteOps (turns ++ [turn])) fw'.lte := by
  rw [lteOps_snoc]
  rcases h.lteTurn with ⟨hnone, hlte⟩ | ⟨op, hop, hrun⟩
  · rw [hnone, hlte]
    simpa using hfw
  · rw [hop]
    exact hfw.goes hrun

/-! ## Messages -/

/-- The message is one for the device, and has a topic in it. -/
def carriesTopic (P : Platform) (msg : List UInt8) : Bool :=
  match shadowAttributes (P.parseWithLength msg) with
  | some (attributes, _) => (requestedTopic attributes).isSome
  | none => false

/-- On files that can be relied on a message aborts exactly if it carries a topic. -/
theorem shadowMsg_run {P : Platform} (hP : P.FsReliable) {d : Device} (hT : d.board.TableOk)
    (msg : List UInt8) : ∃ d', (awsDecodeShadowMsg P msg).run d =
      if carriesTopic P msg then .error "config.c - set_str range index" d' else .ok () d' := by
  unfold carriesTopic
  cases henv : shadowAttributes (P.parseWithLength msg) with
  | none =>
      obtain ⟨d', hrun, -⟩ := msgEffect_ok (msgEffect_discarded (d := d) henv)
      exact ⟨d', hrun⟩
  | some found =>
      obtain ⟨attributes, version⟩ := found
      have heffect := msgEffect_accepted (d := d) henv
      cases htopic : requestedTopic attributes with
      | none =>
          obtain ⟨b, hrun, -⟩ := awsDecodeShadowValues_noTopic version hP hT htopic
          obtain ⟨d', hrun', -⟩ := msgEffect_ok (heffect.trans hrun)
          exact ⟨d', by simpa [htopic] using hrun'⟩
      | some s =>
          obtain ⟨b, hrun, -⟩ := awsDecodeShadowValues_topic version hP hT htopic
          obtain ⟨d', hrun', -⟩ := msgEffect_error (heffect.trans hrun)
          exact ⟨d', by simpa [htopic] using hrun'⟩

/-! ## All reasons -/

/-- The rounds of the connector's thread. Its first turn is `aws_connect`. -/
def rounds (turns : List Turn) : Nat := turns.countP Turn.isTask - 1

/-- As many events are behind as the queue has room for. -/
def QueueFull (turns : List Turn) : Prop :=
  (queuedEvents turns).length = rounds turns + msgQueueSz

/-- What makes a turn reboot the device, in terms of the turns since the last reboot; of the state
    only how far `main` is. -/
def RebootCause (hw : Hardware) (content : List UInt8) (turns : List Turn) (main : MainThread) :
    Turn → Prop
  | .lte (.appConn modem false) =>
      ¬modem.Succeed ∨ (everUp (lteOps turns) = true ∧ 4 ≤ downsSinceUpOrClear (lteOps turns))
  | .lte (.main smsRegisterListener) => main = .unblocked ∧ smsRegisterListener ≠ 0
  | .lte _ | .sms _ _ => False
  | .tick => commanded content turns = true ∧ msSinceCommand content turns + 1 = rebootDelayMs
  | .callback evtp =>
      match evtp.shadowData? with
      | some msg => carriesTopic hw.platform msg = true
      | none => evtp.code?.isSome = true ∧ QueueFull turns
  | .queueDecoded => QueueFull turns
  | .connectorTask => turns.countP Turn.isTask = 0 ∧ hw.awsIotInit ≠ 0
  | .powerLoss => True

/-- The reasons there are. -/
def rebootReasons : List String :=
  rebootReason :: serviceFailures ++ ["lte_connection_mgr: SMS reboot",
    "config.c - set_str range index", "aws_queue_event", "aws_connect - aws_iot_init failed",
    "power loss"]

/-- What is known of the firmware some turns after a start. -/
structure Known (b : Board) (content : List UInt8) (turns : List Turn) (fw : Firmware) : Prop where
  order : InOrder b fw.board
  identified : Identified content fw
  lived : Lived turns fw
  accounted : ∃ steps, Accounted turns fw steps
  reports : RebootTracked (lteOps turns) fw.lte
  timed : Timed content turns fw

theorem Known.step (hP : hw.platform.FsReliable) (h : Known b content turns fw)
    (hstep : (firmware hw).goesOn fw turn = some fw') : Known b content (turns ++ [turn]) fw' := by
  obtain ⟨hpossible, hgoes⟩ := goes_of_goesOn hstep
  obtain ⟨steps, hacc⟩ := h.accounted
  exact ⟨hgoes.inOrder hP h.order, hgoes.identified h.order.durable.store.table h.identified,
    h.lived.step hstep, hgoes.accounted hpossible h.lived.risen hacc, hgoes.rebootTracked h.reports,
    hgoes.timed h.identified.ram h.timed⟩

/-- The queue of the connector has no room exactly if the thread is that far behind. -/
theorem Known.put_eq_none_iff (h : Known b content turns fw) (hclient : fw.awsIot.isSome = true)
    (event : EventCode) :
    fw.theConnector.connectorEventQueue.put event = none ↔ QueueFull turns := by
  obtain ⟨steps, hacc⟩ := h.accounted
  have hd := connectorRun_delivered hacc.run
  have hlen := hd.length
  have hhandled := hacc.handled
  rw [if_pos hclient] at hhandled
  rw [MsgQueue.put_eq_none_iff, QueueFull, rounds, ← hhandled, ← hacc.posted, ← hlen]
  show fw.theConnector.connectorEventQueue.items.length = msgQueueSz ↔
    _ + fw.theConnector.connectorEventQueue.items.length = _
  omega

theorem Known.cause_lte_iff (h : Known b content turns fw) :
    RebootCause hw content turns fw.lte.main (.lte op) ↔ op.StopsIn fw.lte := by
  cases op with
  | appConn modem appUp =>
      cases appUp with
      | true => exact Iff.rfl
      | false =>
          have hdue : LteOp.Reboots fw.lte (.appConn modem false) ↔
              RebootDue (lteOps turns) (.appConn modem false) := h.reports.reboots_iff
          simp only [RebootDue, LteOp.isDown, Bool.not_false, true_and] at hdue
          exact or_congr Iff.rfl hdue.symm
  | main err => exact Iff.rfl
  | statsClear | statsPrint | pdnEvent | lteEvent => exact Iff.rfl

theorem Goes.no_cause (h : Goes hw fw turn fw') (hP : hw.platform.FsReliable)
    (hpossible : fw.possible turn = true) (hfw : Known b content turns fw) :
    ¬RebootCause hw content turns fw.lte.main turn := by
  obtain ⟨steps, hacc⟩ := hfw.accounted
  cases h with
  | lte hrun =>
      rw [hfw.cause_lte_iff]
      intro hstops
      obtain ⟨e, lte', herror, -⟩ := LteOp.run_stopsIn hstops
      rw [herror] at hrun
      cases hrun
  | sms => exact id
  | tick hearly =>
      rw [RebootCause, ← hfw.timed.expires_iff, hearly]
      exact Bool.false_ne_true
  | @decoded evtp msg device hdata hrun =>
      obtain ⟨d', hrun'⟩ := shadowMsg_run hP hfw.order.durable.store.table msg
      simp only [RebootCause, hdata]
      intro htopic
      rw [if_pos htopic] at hrun'
      have heq := hrun.symm.trans hrun'
      cases heq
  | @queued evtp event q hdata hcode hput =>
      simp only [RebootCause, hdata]
      rintro ⟨-, hfull⟩
      rw [(hfw.put_eq_none_iff hpossible event).2 hfull] at hput
      cases hput
  | ignored hdata hcode => simp [RebootCause, hdata, hcode]
  | queuedDecoded hput =>
      have hclient := hfw.lived.risen.decoded (by simpa [Firmware.possible] using hpossible)
      intro hfull
      rw [(hfw.put_eq_none_iff hclient _).2 hfull] at hput
      cases hput
  | clientStarted hstart hinit => exact fun hcause => hcause.2 hinit
  | handled hclient hc hloop =>
      have hcount := hacc.handled
      rw [if_pos hclient] at hcount
      rintro ⟨hzero, -⟩
      omega

theorem Stops.cause {reason : String} (h : Stops hw fw turn reason fw')
    (hP : hw.platform.FsReliable) (hpossible : fw.possible turn = true)
    (hfw : Known b content turns fw) :
    RebootCause hw content turns fw.lte.main turn ∧ reason ∈ rebootReasons := by
  obtain ⟨steps, hacc⟩ := hfw.accounted
  cases h with
  | @lte op _ lte' hrun =>
      have hstops : op.StopsIn fw.lte := by
        by_contra hgoes
        rw [LteOp.run_not_stopsIn hfw.lived.pdp.state.valid hgoes] at hrun
        cases hrun
      obtain ⟨e, lte'', herror, he⟩ := LteOp.run_stopsIn hstops
      rw [herror] at hrun
      cases hrun
      exact ⟨hfw.cause_lte_iff.2 hstops, List.mem_append_left _ he⟩
  | timer hexpires => exact ⟨hfw.timed.expires_iff.1 hexpires, by simp [rebootReasons]⟩
  | @decoding evtp msg _ device hdata hrun =>
      obtain ⟨d', hrun'⟩ := shadowMsg_run hP hfw.order.durable.store.table msg
      have heq := hrun.symm.trans hrun'
      simp only [RebootCause, hdata]
      by_cases htopic : carriesTopic hw.platform msg = true
      · rw [if_pos htopic] at heq
        cases heq
        exact ⟨htopic, by simp [rebootReasons]⟩
      · rw [if_neg htopic] at heq
        cases heq
  | @queueFull evtp event hdata hcode hput =>
      simp only [RebootCause, hdata]
      exact ⟨⟨by rw [hcode]; rfl, (hfw.put_eq_none_iff hpossible event).1 hput⟩,
        by simp [rebootReasons]⟩
  | queueFullDecoded hput =>
      have hclient := hfw.lived.risen.decoded (by simpa [Firmware.possible] using hpossible)
      exact ⟨(hfw.put_eq_none_iff hclient _).1 hput, by simp [rebootReasons]⟩
  | clientFails hstart hinit => exact ⟨⟨hacc.fresh hstart, hinit⟩, by simp [rebootReasons]⟩
  | powerLoss => exact ⟨trivial, by simp [rebootReasons]⟩

/-- Exactly what reboots the device. Over every run on files that can be relied on, the turns since
    the last reboot decide whether the next turn aborts: a report of a lost cloud does as the fifth
    since the cloud was reached or the statistics were cleared, or when the modem fails; the
    registration for SMS when it fails; a millisecond when it completes the delay after a command by
    SMS; a message when it carries a topic; an event when five others wait; the thread when the
    client cannot be initialized; and nothing else does. No other abort of the code is reached. -/
theorem firmware_reboots_iff (hw : Hardware) (hP : hw.platform.FsReliable) (b : Board)
    (content : List UInt8) (hfl : b.flash.FilesInPlace)
    (hfile : b.flash serialNumberFileName = some content) (hlen : content.length < serialNumberLen)
    (hnul : (0 : UInt8) ∉ content) (fw₀ fw : Firmware) (turns : List Turn)
    (hboot : boot hw b = some fw₀) (hrun : (firmware hw).run fw₀ turns = some fw) :
    ∃ pre post b₁ fw₁, turns = pre ++ post ∧ (firmware hw).run fw₀ pre = some fw₁ ∧
      boot hw b₁ = some fw₁ ∧ (firmware hw).life fw₁ post = some fw ∧
      ∀ turn, fw.possible turn = true →
        ((∃ e fw', (turn.run hw).run fw = .error e fw') ↔
          RebootCause hw content post fw.lte.main turn) ∧
        ∀ e fw', (turn.run hw).run fw = .error e fw' → e ∈ rebootReasons := by
  obtain ⟨pre, post, b₁, fw₁, hsplit, hpre, hb₁, hlife⟩ := firmware_lastLife hboot hrun
  refine ⟨pre, post, b₁, fw₁, hsplit, hpre, hb₁, hlife, fun turn hpossible => ?_⟩
  have hstart : FilesInOrder b b := ⟨hfl, .refl _ _⟩
  have hbegin := (firmware_identified hP hfile hlen hnul).run
    ⟨boot_inOrder hstart hboot, boot_identified hP hstart hfile hlen hnul hboot⟩ hpre
  have hstarted := boot_started hb₁
  have hknown : Known b content post fw := by
    refine History.foldlM_track (R := Known b content) ?_ (fun _ _ _ _ hR hstep => hR.step hP hstep)
      hlife
    exact ⟨hbegin.1, hbegin.2, hstarted.lived, ⟨[], hstarted.accounted⟩,
      hstarted.lte ▸ .init _, hstarted.timed⟩
  rcases Turn.run_cases hw hpossible with ⟨fw', hok, hgoes⟩ | ⟨e, fw', herror, hstops⟩
  · rw [hok]
    refine ⟨⟨?_, fun hcause => absurd hcause (hgoes.no_cause hP hpossible hknown)⟩, ?_⟩
    · rintro ⟨e, fw'', ⟨⟩⟩
    · rintro e fw'' ⟨⟩
  · obtain ⟨hcause, hreason⟩ := hstops.cause hP hpossible hknown
    refine ⟨⟨fun _ => hcause, fun _ => ⟨e, fw', herror⟩⟩, fun e' fw'' herror' => ?_⟩
    rw [herror] at herror'
    cases herror'
    exact hreason

theorem firmware_reboots_iff_bench :
    ∃ fw₀ fw, boot .bench .bench = some fw₀ ∧ (firmware .bench).run fw₀ benchDay = some fw ∧
      ∃ pre post b₁ fw₁, benchDay = pre ++ post ∧ (firmware .bench).run fw₀ pre = some fw₁ ∧
        boot .bench b₁ = some fw₁ ∧ (firmware .bench).life fw₁ post = some fw ∧
        ∀ turn, fw.possible turn = true →
          ((∃ e fw', (turn.run .bench).run fw = .error e fw') ↔
            RebootCause .bench (ascii "LW3-0001") post fw.lte.main turn) ∧
          ∀ e fw', (turn.run .bench).run fw = .error e fw' → e ∈ rebootReasons := by
  obtain ⟨fw₀, fw, hboot, hrun⟩ := bench_runs
  exact ⟨fw₀, fw, hboot, hrun, firmware_reboots_iff .bench bench_works.files .bench
    (ascii "LW3-0001") bench_complete.attributes rfl (by decide) (by decide) fw₀ fw benchDay hboot
    hrun⟩

end Levaware
