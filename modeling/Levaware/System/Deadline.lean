import Levaware.System.Identity
import Levaware.System.Life

set_option autoImplicit false

/-! # The reboot that an SMS asks for

An SMS with the command starts the timer, another one starts it again, and nothing stops it: the
device reboots `rebootDelayMs` after the last command, unless it has rebooted for another reason
before (`firmware_smsReboot`). -/

namespace Levaware

open Abort

variable {hw : Hardware} {fw fw' fw₀ : Firmware} {turn : Turn} {turns : List Turn}
  {content : List UInt8}

/-- The turn is an SMS with the command for this serial number. -/
def Turn.isCommand (content : List UInt8) : Turn → Bool
  | .sms _ datap => datap.payload.bytes = ascii "REBOOT-" ++ content.take lenSerNum
  | _ => false

def Turn.isTick : Turn → Bool
  | .tick => true
  | _ => false

/-- A command has come in some turns. -/
def commanded (content : List UInt8) (turns : List Turn) : Bool :=
  turns.any (Turn.isCommand content)

/-- The ms since the last command in some turns, or since their beginning. -/
def msSinceCommand (content : List UInt8) (turns : List Turn) : Nat :=
  History.countSince (Turn.isCommand content) Turn.isTick turns

/-- The timer some turns after a start. -/
structure Timed (content : List UInt8) (turns : List Turn) (fw : Firmware) : Prop where
  duration : fw.rebootDelayTimer.starts.getLast? =
    if commanded content turns then some (rebootDelayMs, 0) else none
  elapsed : fw.elapsed = msSinceCommand content turns
  running : commanded content turns → fw.elapsed < rebootDelayMs

theorem Started.timed {b : Board} (h : Started hw b fw) : Timed content [] fw := by
  refine ⟨?_, h.elapsed, fun hcommand => by cases hcommand⟩
  rw [h.timer]
  rfl

theorem Timed.expires_iff (h : Timed content turns fw) : fw.ticked.timerExpires = true ↔
    commanded content turns = true ∧ msSinceCommand content turns + 1 = rebootDelayMs := by
  have hrunning := h.running
  have hstarts := h.duration
  unfold Firmware.timerExpires
  have hticked : fw.ticked.rebootDelayTimer = fw.rebootDelayTimer := rfl
  have helapsed : fw.ticked.elapsed = msSinceCommand content turns + 1 :=
    congrArg (· + 1) h.elapsed
  rw [hticked, hstarts, helapsed]
  cases hcommand : commanded content turns with
  | false => simp
  | true =>
      have hlt := hrunning hcommand
      rw [h.elapsed] at hlt
      simp only [if_true, decide_eq_true_eq, true_and]
      omega

/-- A turn that has nothing to do with the timer. -/
theorem Timed.frame (h : Timed content turns fw)
    (htimer : fw'.rebootDelayTimer = fw.rebootDelayTimer) (helapsed : fw'.elapsed = fw.elapsed)
    (hcommand : turn.isCommand content = false) (htick : turn.isTick = false) :
    Timed content (turns ++ [turn]) fw' := by
  have hsame : commanded content (turns ++ [turn]) = commanded content turns := by
    simp [commanded, hcommand]
  refine ⟨?_, ?_, ?_⟩
  · rw [hsame, htimer, h.duration]
  · rw [helapsed, h.elapsed, msSinceCommand, msSinceCommand, History.countSince_snoc]
    simp [hcommand, htick]
  · rw [hsame, helapsed]
    exact h.running

theorem Goes.timed (h : Goes hw fw turn fw') (hram : configGetSerialNumber fw.board = content)
    (hfw : Timed content turns fw) : Timed content (turns ++ [turn]) fw' := by
  cases h with
  | @sms serialNum datap =>
      by_cases hpayload : datap.payload.bytes = ascii "REBOOT-" ++ content.take lenSerNum
      · have hcommand : (Turn.sms serialNum datap).isCommand content = true := by
          simp [Turn.isCommand, hpayload]
        have hstart : lteSmsListener fw.board serialNum datap fw.rebootDelayTimer
            = fw.rebootDelayTimer.start rebootDelayMs 0 :=
          reacts_iff.2 (by rw [hpayload, ← hram]; rfl)
        have hafter : fw.smsReceived serialNum datap = { fw with
            rebootDelayTimer := fw.rebootDelayTimer.start rebootDelayMs 0
            elapsed := 0 } := by
          unfold Firmware.smsReceived
          rw [hstart]
          simp [KTimer.start]
        have hall : commanded content (turns ++ [.sms serialNum datap]) = true := by
          simp [commanded, hcommand]
        rw [hafter]
        refine ⟨?_, ?_, fun _ => Nat.zero_lt_succ _⟩
        · rw [hall]
          simp [KTimer.start]
        · rw [msSinceCommand, History.countSince_snoc, hcommand]
          rfl
      · have hcommand : (Turn.sms serialNum datap).isCommand content = false := by
          simp [Turn.isCommand, hpayload]
        have hsame : lteSmsListener fw.board serialNum datap fw.rebootDelayTimer
            = fw.rebootDelayTimer := by
          by_contra hne
          exact hpayload (hram ▸ smsReceived_starts_iff.1 hne)
        refine hfw.frame hsame ?_ hcommand rfl
        show (if _ = _ then fw.elapsed else 0) = fw.elapsed
        rw [hsame, if_pos rfl]
  | tick hearly =>
      have hsame : commanded content (turns ++ [.tick]) = commanded content turns := by
        simp [commanded, Turn.isCommand]
      have hcount : msSinceCommand content (turns ++ [.tick])
          = msSinceCommand content turns + 1 := by
        rw [msSinceCommand, History.countSince_snoc]
        rfl
      refine ⟨?_, ?_, ?_⟩
      · rw [hsame]
        exact hfw.duration
      · rw [hcount, ← hfw.elapsed]
        rfl
      · rw [hsame]
        intro hcommand
        have hlt := hfw.running hcommand
        have hnot : ¬ msSinceCommand content turns + 1 = rebootDelayMs := fun heq => by
          have hexpires := hfw.expires_iff.2 ⟨hcommand, heq⟩
          rw [hearly] at hexpires
          cases hexpires
        rw [← hfw.elapsed] at hnot
        show fw.elapsed + 1 < rebootDelayMs
        omega
  | lte | decoded | queued | ignored | queuedDecoded | clientStarted | handled =>
      exact hfw.frame rfl rfl rfl rfl

/-- The reboot by SMS, over every run from string files that fit their fields, and since the last
    reboot in each. The serial number is still the one that this start has read. The timer runs
    exactly if a command with its first eight characters has come; less than `rebootDelayMs` have
    passed since the last one, so that the reboot is never late; and the next millisecond brings it
    exactly when it completes `rebootDelayMs`. -/
theorem firmware_smsReboot (hw : Hardware) (b : Board)
    (hfit : ∀ id, id ≠ .iccid → b.flash.StringFits id) (fw₀ fw : Firmware) (turns : List Turn)
    (hboot : boot hw b = some fw₀) (hrun : (firmware hw).run fw₀ turns = some fw) :
    ∃ pre post b₁ fw₁ content, turns = pre ++ post ∧ (firmware hw).run fw₀ pre = some fw₁ ∧
      boot hw b₁ = some fw₁ ∧ (firmware hw).life fw₁ post = some fw ∧
      configGetSerialNumber fw₁.board = content ∧ configGetSerialNumber fw.board = content ∧
      (fw.rebootDelayTimer.starts ≠ [] ↔ commanded content post = true) ∧
      (commanded content post = true → msSinceCommand content post < rebootDelayMs) ∧
      ((∃ fw', (Turn.run hw .tick).run fw = .error "lte_connection_mgr: SMS reboot" fw') ↔
        commanded content post = true ∧ msSinceCommand content post + 1 = rebootDelayMs) := by
  obtain ⟨pre, post, b₁, fw₁, hsplit, hpre, hb₁, hlife⟩ := firmware_lastLife hboot hrun
  refine ⟨pre, post, b₁, fw₁, _, hsplit, hpre, hb₁, hlife, rfl, ?_⟩
  have hbegin := (firmware_stringsSafe hw).run (boot_stringsSafe hfit hboot) hpre
  obtain ⟨-, hram, htimed⟩ : fw.board.StringsSafe ∧
      configGetSerialNumber fw.board = configGetSerialNumber fw₁.board ∧
      Timed (configGetSerialNumber fw₁.board) post fw := by
    refine History.foldlM_track (R := fun turns fw => fw.board.StringsSafe ∧
      configGetSerialNumber fw.board = configGetSerialNumber fw₁.board ∧
      Timed (configGetSerialNumber fw₁.board) turns fw)
      ⟨hbegin, rfl, (boot_started hb₁).timed⟩ ?_ hlife
    rintro turns fw turn fw' ⟨hsafe, hram, htimed⟩ hstep
    obtain ⟨-, hgoes⟩ := goes_of_goesOn hstep
    exact ⟨hgoes.stringsSafe hsafe, (hgoes.serialNumber hsafe.table).trans hram,
      hgoes.timed hram htimed⟩
  refine ⟨hram, ?_, ?_, ?_⟩
  · have hlast := htimed.duration
    rw [← List.getLast?_eq_none_iff.ne, hlast]
    cases commanded (configGetSerialNumber fw₁.board) post <;> simp
  · rw [← htimed.elapsed]
    exact htimed.running
  · rw [← htimed.expires_iff, tick_run]
    split <;> simp_all

theorem firmware_smsReboot_bench :
    ∃ fw₀ fw, boot .bench .bench = some fw₀ ∧ (firmware .bench).run fw₀ benchDay = some fw ∧
      ∃ pre post b₁ fw₁ content, benchDay = pre ++ post ∧
        (firmware .bench).run fw₀ pre = some fw₁ ∧ boot .bench b₁ = some fw₁ ∧
        (firmware .bench).life fw₁ post = some fw ∧
        configGetSerialNumber fw₁.board = content ∧ configGetSerialNumber fw.board = content ∧
        (fw.rebootDelayTimer.starts ≠ [] ↔ commanded content post = true) ∧
        (commanded content post = true → msSinceCommand content post < rebootDelayMs) ∧
        ((∃ fw', (Turn.run .bench .tick).run fw = .error "lte_connection_mgr: SMS reboot" fw') ↔
          commanded content post = true ∧ msSinceCommand content post + 1 = rebootDelayMs) := by
  obtain ⟨fw₀, fw, hboot, hrun⟩ := bench_runs
  exact ⟨fw₀, fw, hboot, hrun, firmware_smsReboot .bench .bench
    bench_complete.attributes.provisioned.fits fw₀ fw benchDay hboot hrun⟩

end Levaware
