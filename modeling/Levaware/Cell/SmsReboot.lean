import Levaware.Config.Loading

set_option autoImplicit false

/-! # Rebooting by SMS

`lte_sms_listener` reboots the device, after a delay, when the text of an SMS is `REBOOT-` and the
start of the serial number. The header of the function has twelve characters of it, `LEN_SER_NUM`
has eight, and eight it is (`sms_reboot_iff`). -/

namespace Levaware

/-! ## The listener -/

/-- `LEN_SER_NUM`. -/
def lenSerNum : Nat := 8

/-- `SMS_REBOOT_STRING_LEN`. -/
def smsRebootStringLen : Nat := 19 + 1

/-- `REBOOT_DELAY_MS`. -/
def rebootDelayMs : Nat := 120000

/-- `struct sms_data`, without what the listener does not look at. -/
structure SmsData where
  payload : CString

/-- A `k_timer`: the starts so far, each with its duration and period in ms, oldest first. -/
structure KTimer where
  starts : List (Nat × Nat)

/-- `k_timer_start`. -/
def KTimer.start (timer : KTimer) (duration period : Nat) : KTimer :=
  ⟨timer.starts ++ [(duration, period)]⟩

/-- `cmp_msg` as `lte_sms_listener` builds it; `serialNum` is its buffer as it is on the stack. -/
def smsCmpMsg (b : Board) (serialNum : CBuf serialNumberLen) :
    CBuf smsRebootStringLen :=
  let cmpMsg := (CBuf.zero smsRebootStringLen).strcpy (ascii "REBOOT-")
  let serialNum := serialNum.strncpy (configGetSerialNumber b) serialNumberLen
  cmpMsg.strncat serialNum.bytes lenSerNum

/-- `lte_sms_listener`. -/
def lteSmsListener (b : Board) (serialNum : CBuf serialNumberLen) (datap : SmsData)
    (rebootDelayTimer : KTimer) : KTimer :=
  if (smsCmpMsg b serialNum).str = datap.payload.bytes then
    rebootDelayTimer.start rebootDelayMs 0
  else rebootDelayTimer

/-! ## What it reacts to -/

/-- The SMS starts the timer. -/
def Reacts (b : Board) (serialNum : CBuf serialNumberLen) (datap : SmsData)
    (timer : KTimer) : Prop :=
  lteSmsListener b serialNum datap timer = timer.start rebootDelayMs 0

/-- `REBOOT-` and the first `n` characters of the serial number. -/
def rebootCommand (b : Board) (n : Nat) : List UInt8 :=
  ascii "REBOOT-" ++ b.config.serialNumber.str.take n

/-- The device answers to the command that the header describes and to nothing else: here for one
    SMS. -/
def AnswersAsDocumented (b : Board) (serialNum : CBuf serialNumberLen)
    (datap : SmsData) (timer : KTimer) : Prop :=
  Reacts b serialNum datap timer ↔ datap.payload.bytes = rebootCommand b 12

variable {b b' : Board} {serialNum serialNum' : CBuf serialNumberLen}
  {datap : SmsData} {timer timer' : KTimer}

theorem smsCmpMsg_str (b : Board) (serialNum : CBuf serialNumberLen) :
    (smsCmpMsg b serialNum).str = rebootCommand b lenSerNum := by
  have hroom : ((CBuf.zero smsRebootStringLen).strcpy (ascii "REBOOT-")).str.length + lenSerNum
      < smsRebootStringLen := by decide
  unfold smsCmpMsg
  dsimp only
  rw [CBuf.str_strncat _ _ hroom]
  have hfits : (cstr (configGetSerialNumber b)).length ≤ serialNumberLen :=
    (cstr_length_le _).trans ((cstr_length_le _).trans_eq b.config.serialNumber.size_eq)
  have hserial : (serialNum.strncpy (configGetSerialNumber b) serialNumberLen).str
      = configGetSerialNumber b := by
    rw [CBuf.str_strncpy serialNum hfits]
    exact cstr_of_notMem (zero_notMem_cstr _)
  have hstart : ((CBuf.zero smsRebootStringLen).strcpy (ascii "REBOOT-")).str
      = ascii "REBOOT-" := by decide
  rw [hstart]
  exact congrArg (fun s => ascii "REBOOT-" ++ s.take lenSerNum) hserial

theorem smsCmpMsg_terminated (b : Board) (serialNum : CBuf serialNumberLen) :
    (smsCmpMsg b serialNum).Terminated :=
  CBuf.strncat_terminated _ _ (by decide)

theorem reacts_iff :
    Reacts b serialNum datap timer ↔ datap.payload.bytes = rebootCommand b lenSerNum := by
  unfold Reacts lteSmsListener
  rw [smsCmpMsg_str]
  constructor
  · intro h
    by_contra hne
    rw [if_neg (fun heq => hne heq.symm)] at h
    have hstarts := congrArg (fun t => t.starts.length) h
    simp [KTimer.start] at hstarts
  · intro h
    rw [if_pos h.symm]

theorem rebootCommand_length {n : Nat} (h : n ≤ b.config.serialNumber.str.length) :
    (rebootCommand b n).length = 7 + n := by
  unfold rebootCommand
  rw [List.length_append, List.length_take_of_le h]
  rfl

/-- The two lengths of the command are told apart by any serial number that has twelve
    characters. -/
theorem rebootCommand_ne (h : 12 ≤ b.config.serialNumber.str.length) :
    rebootCommand b lenSerNum ≠ rebootCommand b 12 := by
  intro heq
  have hlen := congrArg List.length heq
  rw [rebootCommand_length (le_trans (by decide) h), rebootCommand_length h] at hlen
  exact absurd hlen (by decide)

theorem rebootCommand_inj {n : Nat} :
    rebootCommand b n = rebootCommand b' n ↔
      b.config.serialNumber.str.take n = b'.config.serialNumber.str.take n :=
  List.append_right_inj _

/-! ## The accepted command -/

/-- Some SMS makes both devices start their timers. -/
def BothReact (b b' : Board) : Prop :=
  ∃ (datap : SmsData) (serialNum serialNum' : CBuf serialNumberLen) (timer timer' : KTimer),
    Reacts b serialNum datap timer ∧ Reacts b' serialNum' datap timer'

theorem bothReact_iff :
    BothReact b b' ↔ rebootCommand b lenSerNum = rebootCommand b' lenSerNum := by
  constructor
  · rintro ⟨datap, serialNum, serialNum', timer, timer', hreacts, hreacts'⟩
    rw [← reacts_iff.1 hreacts, reacts_iff.1 hreacts']
  · intro heq
    have hne : (0 : UInt8) ∉ rebootCommand b lenSerNum := by
      rw [← smsCmpMsg_str b (CBuf.zero _)]
      exact zero_notMem_cstr _
    exact ⟨⟨⟨rebootCommand b lenSerNum, hne⟩⟩, CBuf.zero _, CBuf.zero _, ⟨[]⟩, ⟨[]⟩,
      reacts_iff.2 rfl, reacts_iff.2 heq⟩

theorem answersAsDocumented_iff (h : 12 ≤ b.config.serialNumber.str.length) :
    AnswersAsDocumented b serialNum datap timer ↔
      datap.payload.bytes ≠ rebootCommand b lenSerNum ∧
        datap.payload.bytes ≠ rebootCommand b 12 := by
  have hne := rebootCommand_ne h
  unfold AnswersAsDocumented
  rw [reacts_iff]
  constructor
  · intro hiff
    refine ⟨fun height => ?_, fun htwelve => ?_⟩
    · exact hne (height.symm.trans (hiff.1 height))
    · exact hne ((hiff.2 htwelve).symm.trans htwelve)
  · rintro ⟨height, htwelve⟩
    exact iff_of_false height htwelve

/-- Only the command with eight characters of the serial number is accepted: the device departs
    from the documented answer at it and at the documented command, and serial numbers that differ
    in the first twelve characters keep two devices apart exactly if they differ in the first
    eight. -/
theorem sms_reboot_iff (b : Board) (h : 12 ≤ b.config.serialNumber.str.length) :
    (∀ (serialNum : CBuf serialNumberLen) (datap : SmsData) (timer : KTimer),
      AnswersAsDocumented b serialNum datap timer ↔
        datap.payload.bytes ≠ rebootCommand b lenSerNum ∧
          datap.payload.bytes ≠ rebootCommand b 12) ∧
    (∀ b' : Board, b.config.serialNumber.str.take 12 ≠ b'.config.serialNumber.str.take 12 →
      (¬ BothReact b b' ↔
        b.config.serialNumber.str.take lenSerNum ≠ b'.config.serialNumber.str.take lenSerNum)) ∧
    ∀ serialNum : CBuf serialNumberLen, (smsCmpMsg b serialNum).Terminated := by
  refine ⟨fun serialNum datap timer => answersAsDocumented_iff h, fun b' _ => ?_,
    smsCmpMsg_terminated b⟩
  rw [bothReact_iff, rebootCommand_inj]

/-- A device with the serial number `serial`. -/
def Board.withSerial (serial : String) : Board :=
  { Board.factory with config := { Board.factory.config with
      serialNumber := (CBuf.zero _).strcpy (ascii serial) } }

theorem sms_reboot_iff_header :
    (∀ (serialNum : CBuf serialNumberLen) (datap : SmsData) (timer : KTimer),
      AnswersAsDocumented (Board.withSerial "602571587412") serialNum datap timer ↔
        datap.payload.bytes ≠ ascii "REBOOT-60257158" ∧
          datap.payload.bytes ≠ ascii "REBOOT-602571587412") ∧
    ¬ BothReact (Board.withSerial "602571587412") (Board.withSerial "602571607412") := by
  have hlong : 12 ≤ (Board.withSerial "602571587412").config.serialNumber.str.length := by decide
  have hshort : rebootCommand (Board.withSerial "602571587412") lenSerNum
      = ascii "REBOOT-60257158" := by decide
  have hfull : rebootCommand (Board.withSerial "602571587412") 12
      = ascii "REBOOT-602571587412" := by decide
  rcases sms_reboot_iff (Board.withSerial "602571587412") hlong with ⟨hanswers, hpair, -⟩
  rw [hshort, hfull] at hanswers
  exact ⟨hanswers, (hpair _ (by decide)).2 (by decide)⟩

/-- The device of the header reboots at a command without the last four characters of its serial
    number, is deaf to the documented one, and shares its command with other devices. -/
theorem sms_reboot_eight_characters :
    (∃ datap : SmsData, datap.payload.bytes = ascii "REBOOT-60257158" ∧
      Reacts (Board.withSerial "602571587412") (CBuf.zero _) datap ⟨[]⟩ ∧
      ¬ AnswersAsDocumented (Board.withSerial "602571587412") (CBuf.zero _) datap ⟨[]⟩) ∧
    (∃ datap : SmsData, datap.payload.bytes = ascii "REBOOT-602571587412" ∧
      ¬ Reacts (Board.withSerial "602571587412") (CBuf.zero _) datap ⟨[]⟩) ∧
    BothReact (Board.withSerial "602571587412") (Board.withSerial "602571587413") := by
  have hshort : rebootCommand (Board.withSerial "602571587412") lenSerNum
      = ascii "REBOOT-60257158" := by decide
  refine ⟨⟨⟨⟨ascii "REBOOT-60257158", by decide⟩⟩, rfl, reacts_iff.2 hshort.symm, ?_⟩,
    ⟨⟨⟨ascii "REBOOT-602571587412", by decide⟩⟩, rfl, ?_⟩, bothReact_iff.2 (by decide)⟩
  · rw [answersAsDocumented_iff (by decide)]
    exact fun hneither => hneither.1 hshort.symm
  · rw [reacts_iff, hshort]
    decide

end Levaware
