import Levaware.Encoding.Ledger
import Levaware.Encoding.Numbers
import Levaware.System.Configuration
import Levaware.System.Life

set_option autoImplicit false

/-! # What the messages leave

On files that can be relied on, the number of an attribute is the last one that a message of the
turns gave it, in RAM and in its file, whatever else has happened since (`firmware_lastServed`). On
the heap every message that is saved leaves a text, until the next reboot (`firmware_leak`). -/

namespace Levaware

open Abort WriteBack

variable {P : Platform} {hw : Hardware} {b b' : Board} {d d' : Device} {fw fw' : Firmware}
  {turn : Turn} {turns : List Turn} {msg : List UInt8} {id : DevConfigShadowId}

/-! ## What the messages give -/

/-- The messages that come in some turns, oldest first. -/
def shadowMsgs (turns : List Turn) : List (List UInt8) := turns.filterMap Turn.shadowMsg?

theorem shadowMsgs_snoc :
    shadowMsgs (turns ++ [turn]) = shadowMsgs turns ++ turn.shadowMsg?.toList := by
  unfold shadowMsgs
  rw [List.filterMap_append]
  cases h : turn.shadowMsg? <;> simp [h]

/-! ## What the turns do -/

/-- How many of the messages are saved. -/
def savedMsgs (P : Platform) (msgs : List (List UInt8)) : Nat :=
  msgs.countP fun msg => (shadowAttributes (P.parseWithLength msg)).isSome

theorem unreleased_replicate (msgs : List (List UInt8)) :
    unreleased P msg ++ List.replicate (savedMsgs P msgs) .text
      = List.replicate (savedMsgs P (msgs ++ [msg])) .text := by
  unfold unreleased savedMsgs
  rw [List.countP_append]
  cases h : shadowAttributes (P.parseWithLength msg) <;> simp [h, List.replicate_succ]

theorem Goes.outstanding (h : Goes hw fw turn fw')
    (hfw : fw.device.outstanding
      = List.replicate (savedMsgs hw.platform (shadowMsgs turns)) .text) :
    fw'.device.outstanding
      = List.replicate (savedMsgs hw.platform (shadowMsgs (turns ++ [turn]))) .text := by
  rw [shadowMsgs_snoc]
  rcases h.device with ⟨hnone, hdevice⟩ | ⟨msg, hmsg, hrun⟩
  · rw [hnone, hdevice, hfw, Option.toList_none, List.append_nil]
  · rw [hmsg, (shadowMsg_ledger msg).ok hfw hrun]
    exact unreleased_replicate _

/-- In every state of every run: what is left on the heap is a text for each message that has been
    saved since the last reboot, and nothing else; only a reboot gives them back. -/
theorem firmware_leak (hw : Hardware) (b : Board) (fw₀ fw : Firmware) (turns : List Turn)
    (hboot : boot hw b = some fw₀) (hrun : (firmware hw).run fw₀ turns = some fw) :
    ∃ pre post b₁ fw₁, turns = pre ++ post ∧ (firmware hw).run fw₀ pre = some fw₁ ∧
      boot hw b₁ = some fw₁ ∧ (firmware hw).life fw₁ post = some fw ∧
      fw.device.outstanding
        = List.replicate (savedMsgs hw.platform (shadowMsgs post)) .text := by
  obtain ⟨pre, post, b₁, fw₁, hsplit, hpre, hb₁, hlife⟩ := firmware_lastLife hboot hrun
  refine ⟨pre, post, b₁, fw₁, hsplit, hpre, hb₁, hlife, ?_⟩
  exact History.foldlM_track (R := fun post fw => fw.device.outstanding
      = List.replicate (savedMsgs hw.platform (shadowMsgs post)) .text)
    (boot_started hb₁).outstanding
    (fun _ _ _ _ hfw hstep => (goes_of_goesOn hstep).2.outstanding hfw) hlife

theorem firmware_leak_bench :
    ∃ fw₀ fw, boot .bench .bench = some fw₀ ∧ (firmware .bench).run fw₀ benchDay = some fw ∧
      ∃ pre post b₁ fw₁, benchDay = pre ++ post ∧ (firmware .bench).run fw₀ pre = some fw₁ ∧
        boot .bench b₁ = some fw₁ ∧ (firmware .bench).life fw₁ post = some fw ∧
        fw.device.outstanding
          = List.replicate (savedMsgs Hardware.bench.platform (shadowMsgs post)) .text := by
  obtain ⟨fw₀, fw, hboot, hrun⟩ := bench_runs
  exact ⟨fw₀, fw, hboot, hrun, firmware_leak .bench .bench fw₀ fw benchDay hboot hrun⟩

end Levaware
