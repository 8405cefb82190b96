import Levaware.System.Configuration

set_option autoImplicit false

/-! # The identity of a device

The name with which the device connects, and the password of the SMS that reboots it, come from the
serial number in RAM. A start reads that from its file, no turn writes it, and no turn writes the
file: `firmware_identity`. -/

namespace Levaware

open Abort

variable {hw : Hardware} {fw fw' : Firmware} {turn : Turn} {b b' : Board} {content : List UInt8}

/-! ## Reading it -/

theorem zero_blit_str {n : Nat} (h : content.length < n) (hnul : (0 : UInt8) ∉ content) :
    ((CBuf.zero n).blit content).str = content := by
  have hzero : (CBuf.zero n).bytes.drop content.length
      = 0 :: List.replicate (n - content.length - 1) 0 := by
    show (List.replicate n (0 : UInt8)).drop content.length = _
    rw [List.drop_replicate, ← List.replicate_succ]
    congr 1
    omega
  rw [CBuf.str, CBuf.blit_bytes _ h.le, hzero, cstr_append_zero, cstr_of_notMem hnul]

/-- The file is read as it is; an empty one leaves the cleared field. -/
theorem readSerialNumber_reads {P : Platform} (hP : P.FsReliable)
    (hfile : b.flash serialNumberFileName = some content)
    (hcleared : b.config.serialNumber = CBuf.zero _) (hlen : content.length < serialNumberLen)
    (hnul : (0 : UInt8) ∉ content) (hrun : (readSerialNumber P).run b = .ok () b') :
    b'.config.serialNumber.str = content := by
  unfold readSerialNumber logEffect at hrun
  rw [run_bind_ok (isFileExists_present hP hfile)] at hrun
  by_cases hpos : 0 < content.length
  · rw [if_pos (by simpa using hpos), run_bind_ok (EStateM.run_get b),
      run_bind_ok (readFile_present hP hfile _)] at hrun
    dsimp only at hrun
    rw [run_bind_ok (EStateM.run_modify _ _), run_bind_ok (EStateM.run_modify _ _),
      if_neg (by omega)] at hrun
    cases hrun
    show (b.config.serialNumber.blit content).str = content
    rw [hcleared, zero_blit_str hlen hnul]
  · rw [if_neg (by simpa using hpos)] at hrun
    cases hrun
    have hempty : content = [] := List.length_eq_zero_iff.1 (by omega)
    rw [hcleared, hempty]
    decide

theorem configInit_serialNumber {P : Platform} (hP : P.FsReliable)
    (hfit : ∀ id, id ≠ .iccid → b.flash.StringFits id)
    (hfile : b.flash serialNumberFileName = some content) (hlen : content.length < serialNumberLen)
    (hnul : (0 : UInt8) ∉ content) (hrun : (configInit P).run b.powerCycle = .ok () b') :
    b'.config.serialNumber.str = content := by
  obtain ⟨b₁, b₂, hserial, hids, -, -, hbooted⟩ := configInit_steps (b := b.powerCycle) hfit hrun
  rw [hbooted.loadsTo.serialNumber, hids.serialNumber]
  exact readSerialNumber_reads hP (b := b.powerCycle) hfile rfl hlen hnul hserial

/-! ## Whole runs -/

/-- The serial number is what its file has been from the beginning, in RAM, in the file and where
    the client has been given it. -/
structure Identified (content : List UInt8) (fw : Firmware) : Prop where
  ram : configGetSerialNumber fw.board = content
  client : ∀ cfg, fw.awsIot = some cfg → cfg = ⟨content, content.length⟩

/-- A message leaves the serial number alone. -/
theorem shadowMsg_serialNumber {P : Platform} (msg : List UInt8) : Preserves
    (fun d => d.board.TableOk ∧ configGetSerialNumber d.board = content) (fun _ => True)
    (awsDecodeShadowMsg P msg) := by
  refine awsDecodeShadowMsg_preserves (P := P)
    (I := fun b => b.TableOk ∧ configGetSerialNumber b = content) (J := fun _ => True)
    (fun attributes version => ?_) msg
  rintro b ⟨hT, rfl⟩
  have hkept := awsDecodeShadowValues_numeric (P := P) attributes version true b b
    (KeptOutside.refl hT)
  cases hrun : (awsDecodeShadowValues P attributes version true).run b with
  | ok u b' =>
      rw [hrun] at hkept
      exact ⟨hkept.table, congrArg CBuf.str hkept.serialNumber⟩
  | error e b' => trivial

/-- So does every turn after which the firmware runs on. -/
theorem Goes.serialNumber (h : Goes hw fw turn fw') (hT : fw.board.TableOk) :
    configGetSerialNumber fw'.board = configGetSerialNumber fw.board := by
  rcases h.device with ⟨-, hdevice⟩ | ⟨msg, -, hrun⟩
  · rw [Firmware.board, hdevice]
    rfl
  · exact ((shadowMsg_serialNumber msg).ok (s := fw.device) ⟨hT, rfl⟩ hrun).2

theorem Goes.identified (h : Goes hw fw turn fw') (hT : fw.board.TableOk)
    (hid : Identified content fw) : Identified content fw' := by
  refine ⟨(h.serialNumber hT).trans hid.ram, ?_⟩
  cases h with
  | clientStarted hstart hinit =>
      rintro _ ⟨⟩
      rw [hid.ram]
  | lte | sms | tick | decoded | queued | ignored | queuedDecoded | handled => exact hid.client

theorem boot_identified {b₀ : Board} (hP : hw.platform.FsReliable) (hfl : FilesInOrder b₀ b)
    (hfile : b₀.flash serialNumberFileName = some content) (hlen : content.length < serialNumberLen)
    (hnul : (0 : UInt8) ∉ content) (h : boot hw b = some fw) : Identified content fw := by
  have hstarted := boot_started h
  obtain ⟨b', hconfig, hboard⟩ := hstarted.config
  have hfile' : b.flash serialNumberFileName = some content := by
    rw [hfl.kept _ fun id _ => id.fileName_ne_serialNumber.symm, hfile]
  refine ⟨?_, ?_⟩
  · have hserial := configInit_serialNumber hP hfl.inPlace.provisioned.fits hfile' hlen hnul hconfig
    rw [hboard]
    exact hserial
  · rw [hstarted.awsIot]
    rintro _ ⟨⟩

/-- An SMS that has any effect is the command to reboot. -/
theorem smsReceived_starts_iff {serialNum : CBuf serialNumberLen} {datap : SmsData} :
    (fw.smsReceived serialNum datap).rebootDelayTimer ≠ fw.rebootDelayTimer ↔
      datap.payload.bytes = ascii "REBOOT-" ++ (configGetSerialNumber fw.board).take lenSerNum := by
  show lteSmsListener fw.board serialNum datap fw.rebootDelayTimer ≠ fw.rebootDelayTimer ↔ _
  unfold lteSmsListener
  rw [smsCmpMsg_str]
  split
  · next h => exact ⟨fun _ => h.symm, fun _ hsame => by
      have hstarts := congrArg (fun t => t.starts.length) hsame
      simp [KTimer.start] at hstarts⟩
  · next h => exact ⟨fun hne => absurd rfl hne, fun heq => absurd heq.symm h⟩

/-- The invariant of all runs on files that can be relied on. -/
theorem firmware_identified {b₀ : Board} (hP : hw.platform.FsReliable)
    (hfile : b₀.flash serialNumberFileName = some content) (hlen : content.length < serialNumberLen)
    (hnul : (0 : UInt8) ∉ content) :
    (firmware hw).Keeps (fun fw => InOrder b₀ fw.board ∧ Identified content fw)
      (fun fw => FilesInOrder b₀ fw.board) :=
  firmware_keeps
    (fun _ _ _ h _ hgoes => ⟨hgoes.inOrder hP h.1, hgoes.identified h.1.durable.store.table h.2⟩)
    (fun _ _ _ _ h _ hstops => hstops.inOrder hP h.1)
    fun _ _ h hboot => ⟨boot_inOrder h hboot, boot_identified hP h hfile hlen hnul hboot⟩

/-- The identity of a device is the content of its serial number file as it was at the start,
    through every run of messages, aborts and reboots: RAM has it in every state, the client is
    given it whole and with its length, the file never changes, and an SMS starts the timer for a
    reboot exactly if it names the first eight characters of it. -/
theorem firmware_identity (hw : Hardware) (hP : hw.platform.FsReliable) (b : Board)
    (content : List UInt8) (hfl : b.flash.FilesInPlace)
    (hfile : b.flash serialNumberFileName = some content) (hlen : content.length < serialNumberLen)
    (hnul : (0 : UInt8) ∉ content) (fw₀ fw : Firmware) (turns : List Turn)
    (hboot : boot hw b = some fw₀) (hrun : (firmware hw).run fw₀ turns = some fw) :
    configGetSerialNumber fw.board = content ∧
    fw.board.flash serialNumberFileName = some content ∧
    (∀ cfg, fw.awsIot = some cfg → cfg = ⟨content, content.length⟩) ∧
    ∀ serialNum datap, (fw.smsReceived serialNum datap).rebootDelayTimer ≠ fw.rebootDelayTimer ↔
      datap.payload.bytes = ascii "REBOOT-" ++ content.take lenSerNum := by
  have hstart : FilesInOrder b b := ⟨hfl, .refl _ _⟩
  obtain ⟨horder, hid⟩ := (firmware_identified hP hfile hlen hnul).run
    ⟨boot_inOrder hstart hboot, boot_identified hP hstart hfile hlen hnul hboot⟩ hrun
  refine ⟨hid.ram, ?_, hid.client, fun serialNum datap => ?_⟩
  · rw [horder.kept _ fun id _ => id.fileName_ne_serialNumber.symm, hfile]
  · rw [← hid.ram]
    exact smsReceived_starts_iff

theorem firmware_identity_bench :
    ∃ fw₀ fw, boot .bench .bench = some fw₀ ∧ (firmware .bench).run fw₀ benchDay = some fw ∧
      configGetSerialNumber fw.board = ascii "LW3-0001" ∧
      fw.board.flash serialNumberFileName = some (ascii "LW3-0001") ∧
      (∀ cfg, fw.awsIot = some cfg → cfg = ⟨ascii "LW3-0001", (ascii "LW3-0001").length⟩) ∧
      ∀ serialNum datap,
        (fw.smsReceived serialNum datap).rebootDelayTimer ≠ fw.rebootDelayTimer ↔
          datap.payload.bytes = ascii "REBOOT-" ++ (ascii "LW3-0001").take lenSerNum := by
  obtain ⟨fw₀, fw, hboot, hrun⟩ := bench_runs
  exact ⟨fw₀, fw, hboot, hrun, firmware_identity .bench bench_works.files .bench
    (ascii "LW3-0001") bench_complete.attributes rfl (by decide) (by decide) fw₀ fw benchDay hboot
    hrun⟩

end Levaware
