import Levaware.Encoding.StringFiles
import Levaware.System.Turns

set_option autoImplicit false

/-! # What `main` leaves when it waits for the link

`boot_started` says what a completed start has done to each part. -/

namespace Levaware

open Abort

variable {hw : Hardware} {b b' : Board} {fw : Firmware}

/-- The firmware in `lte_connect_init`, before its `k_sem_take`. -/
structure Started (hw : Hardware) (b : Board) (fw : Firmware) : Prop where
  /-- `config_init` has run on the flash; only the SIM has been used since -/
  config : ∃ b', (configInit hw.platform).run b.powerCycle = .ok () b' ∧
    fw.board = { b' with modem := fw.board.modem }
  outstanding : fw.device.outstanding = []
  leds : (ledsAtStart hw.led).run .unbound = .ok () fw.leds
  lte : fw.lte = lteConnectInit (Firmware.cleared b).lte.cblk
  connector : fw.connector = none
  awsIot : fw.awsIot = none
  decoded : fw.decoded = 0
  timer : fw.rebootDelayTimer = ⟨[]⟩
  elapsed : fw.elapsed = 0

theorem boot_started (h : boot hw b = some fw) : Started hw b fw := by
  unfold boot at h
  cases hrun : (mainStart hw).run (.cleared b) with
  | error e fw' =>
      rw [hrun] at h
      cases h
  | ok u fw' =>
      rw [hrun] at h
      cases h
      unfold mainStart at hrun
      obtain ⟨_, fw₁, hrun₁, hrun⟩ := run_bind_ok_iff.1 hrun
      obtain ⟨_, fw₂, hrun₂, hrun⟩ := run_bind_ok_iff.1 hrun
      obtain ⟨leds, hleds, rfl⟩ := run_zoom_ok_iff.1 hrun₁
      obtain ⟨device, hdevice, rfl⟩ := run_zoom_ok_iff.1 hrun₂
      obtain ⟨b', hconfig, rfl⟩ := run_zoom_ok_iff.1 hdevice
      obtain ⟨_, fw₃, hlte, hrun₃⟩ := run_bind_ok_iff.1 hrun
      cases hlte
      obtain ⟨modem, hmodem, rfl⟩ := run_zoom_ok_iff.1 hrun₃
      exact ⟨⟨b', hconfig, rfl⟩, rfl, hleds, rfl, rfl, rfl, rfl, rfl, rfl⟩

/-! ## The store -/

/-- A board as `config_init` has it between its steps. -/
theorem readSerialNumber_store {b₀ : Board} (P : Platform) :
    Preserves b₀.SameStore (fun _ => True) (readSerialNumber P) := by
  have hexists : Preserves b₀.SameStore (fun _ => True)
      (isFileExists P serialNumberFileName) := Triple.of_each fun c hc =>
    (isFileExists_keeps serialNumberFileName).conseq (fun _ h => h)
      (fun _ _ h => h ▸ hc) fun _ _ _ => trivial
  have hkeep : ∀ f : Board → Board, (∀ c, (f c).attr = c.attr ∧ (f c).flash = c.flash) →
      Preserves b₀.SameStore (fun _ => True) (modify f : Fw PUnit) := fun f hf =>
    Preserves.modify fun c hc => ⟨hc.attr.trans (hf c).1.symm, hc.flash.trans (hf c).2.symm⟩
  unfold readSerialNumber logEffect
  refine hexists.bind fun found => Preserves.ite (fun _ => ?_) fun _ => Preserves.pure _
  refine Preserves.get.bind fun c => (readFile_preserves (fun _ _ => trivial) _ _).bind fun p => ?_
  obtain ⟨err, serialNumber⟩ := p
  refine Preserves.bind (hkeep _ ?_) fun _ => Preserves.bind (hkeep _ ?_) fun _ => ?_
  · exact fun c => ⟨rfl, rfl⟩
  · exact fun c => ⟨rfl, rfl⟩
  · exact Preserves.ite (fun _ => Preserves.throw (fun _ _ => trivial) _) fun _ => Preserves.pure _

/-- The loop for missing files does nothing to a store without dirty attributes: it finds all files
    there or aborts, and would only save what is dirty. -/
theorem saveIfMissing_clean {c : Board} {P : Platform} {J : Board → Prop}
    (hclean : ∀ id, (c.attr id).isNewVal = false)
    (hexists : ∀ id : DevConfigShadowId, id ≠ .iccid →
      Preserves (fun b => b = c) J (isFileExists P (c.attr id).filename))
    (ids : List DevConfigShadowId) :
    Preserves (fun b => b = c) J (ids.forM (saveIfMissing P)) := by
  refine Preserves.forM fun id _ => ?_
  unfold saveIfMissing
  refine Preserves.ite (fun hid => Preserves.get_bind ?_) fun _ => Preserves.pure _
  rintro _ rfl
  refine (hexists id hid).bind fun found => ?_
  refine Preserves.ite (fun _ => Preserves.discard ?_) fun _ => Preserves.pure _
  rintro _ rfl
  rw [configSave_clean (hclean id)]

/-- The steps of a `config_init` that completes. The serial number is read first; the loading is the
    last step that changes anything. -/
theorem configInit_steps {P : Platform} (hfit : ∀ id, id ≠ .iccid → b.flash.StringFits id)
    (h : (configInit P).run b = .ok () b') :
    ∃ b₁ b₂, (readSerialNumber P).run b = .ok () b₁ ∧ ModemFrame b₁ b₂ ∧ b.SameStore b₂ ∧
      (configDevShadowAttribInit P).run b₂ = .ok () b' ∧ b₂.Booted b' := by
  unfold configInit at h
  obtain ⟨_, b₀, hmount, h⟩ := run_bind_ok_iff.1 h
  obtain ⟨_, b₁, hserial, h⟩ := run_bind_ok_iff.1 h
  obtain ⟨_, b₂, hids, h⟩ := run_bind_ok_iff.1 h
  obtain ⟨_, b₃, hload, hmissing⟩ := run_bind_ok_iff.1 h
  have hb₀ : b₀ = b := by
    unfold configFsInit at hmount
    split at hmount
    · cases hmount
    · cases hmount
      rfl
  subst hb₀
  have hsame := (readSerialNumber_store P).ok (Board.SameStore.refl b₀) hserial
  have hframe := readModemIds_frame.ok (ModemFrame.refl b₁) hids
  have hsame' : b₀.SameStore b₂ := hsame.trans ⟨hframe.attr.symm, hframe.flash.symm⟩
  have hbooted := (configDevShadowAttribInit_triple (P := P)
    (fun id hid _ => hsame'.flash ▸ hfit id hid)).ok rfl hload
  have hb₃ := (saveIfMissing_clean hbooted.clean (fun id _ => isFileExists_keeps _) _).ok rfl
    hmissing
  subst hb₃
  exact ⟨b₁, b₂, hserial, hframe, hsame', hload, hbooted⟩

/-- A start of the firmware loads the store that the boot of the configuration loads. -/
theorem configInit_bootFrom {P : Platform} (hfit : ∀ id, id ≠ .iccid → b.flash.StringFits id)
    (h : (configInit P).run b.powerCycle = .ok () b') :
    ∃ d, bootFrom P b = some d ∧ d.outstanding = [] ∧ d.board.SameStore b' := by
  obtain ⟨b₁, b₂, -, -, hsame, hload, -⟩ := configInit_steps (b := b.powerCycle) hfit h
  unfold bootFrom
  rcases configDevShadowAttribInit_alike (P := P) hfit b.powerCycle b₂ ⟨rfl, hsame⟩ with
    ⟨_, c, c', hrun, hrun', hc⟩ | ⟨e, c, c', -, hrun', -⟩
  · rw [hload] at hrun'
    cases hrun'
    rw [hrun]
    exact ⟨_, rfl, rfl, hc⟩
  · rw [hload] at hrun'
    cases hrun'

/-! ## Starts that complete -/

/-- Everything that a start asks does what it is asked. -/
structure Hardware.Works (hw : Hardware) : Prop where
  files : hw.platform.FsReliable
  modem : hw.platform.BootReady
  led : hw.led.Works
  link : hw.lte.StartsUp
  pdnCtxConfigure : hw.lte.pdnCtxConfigure = 0

/-- The files that a start needs. -/
structure Flash.Complete (fl : Flash) : Prop where
  serialNumber : (fl serialNumberFileName).isSome
  attributes : fl.FilesInPlace

theorem configInit_total {P : Platform} (hP : P.FsReliable) (hB : P.BootReady)
    (hfl : b.flash.Complete) : ∃ b', (configInit P).run b = .ok () b' := by
  rcases configInit_upto hP hB b with ⟨hnone, -⟩ | ⟨b₁, -, hflash, -, hrun⟩
  · have hserial := hfl.serialNumber
    rw [hnone] at hserial
    cases hserial
  rw [hrun]
  obtain ⟨b₂, hload, hbooted⟩ :=
    configDevShadowAttribInit_run hP (b := b₁) (hflash ▸ hfl.attributes.provisioned)
  rw [run_bind_ok hload]
  have hexists : ∀ id : DevConfigShadowId, id ≠ .iccid →
      Preserves (fun b => b = b₂) (fun _ => False) (isFileExists P (b₂.attr id).filename) := by
    rintro id hid _ rfl
    obtain ⟨content, hc⟩ := Option.isSome_iff_exists.1 (hbooted.present id hid)
    rw [hbooted.tableOk.filename, isFileExists_present hP (hbooted.loadsTo.flash ▸ hc)]
  have hloop := saveIfMissing_clean hbooted.clean hexists DevConfigShadowId.all
  cases hmissing : (DevConfigShadowId.all.forM (saveIfMissing P)).run b₂ with
  | ok u b' => exact ⟨b', rfl⟩
  | error e b' => exact (hloop.error rfl hmissing).elim

theorem lteConnectInitModem_total {L : LteLib} (hL : L.StartsUp) (hctx : L.pdnCtxConfigure = 0)
    (table : List PdnContextDefinition) (iccid : CBuf iccidLen) (m : ModemVars Unit) :
    ∃ m', (lteConnectInitModem L table iccid ()).run m = .ok () m' := by
  rcases modemGetIccid_off hL.cfun41 iccid m.uicc with ⟨iccid', hiccid⟩
  have hzoom : (zoom ModemVars.uicc (fun uicc m => { m with uicc })
      (modemGetIccid L.modem iccid)).run m = .ok iccid' { m with uicc := .off } := by
    rw [run_zoom, hiccid]
  unfold lteConnectInitModem
  simp only [hL.modemInfoInit, ne_eq, not_true_eq_false, if_false]
  rw [run_bind_ok hzoom]
  unfold modemInitApnPdpContext modemLookupApn
  simp [hL.cnec, hL.cgerep, hL.pdnInit, hL.pdnDefaultCallbackSet, hctx]

theorem boot_total (h : hw.Works) (hfl : b.flash.Complete) : ∃ fw, boot hw b = some fw := by
  have hleds : Triple (fun fw => fw.board = b.powerCycle) (atLeds (ledsAtStart hw.led))
      (fun _ fw => fw.board = b.powerCycle) (fun _ _ => False) := by
    intro fw hfw
    rw [atLeds, run_zoom, ledsAtStart_run h.led]
    exact hfw
  have hconfig : Triple (fun fw => fw.board = b.powerCycle) (atBoard (configInit hw.platform))
      (fun _ _ => True) (fun _ _ => False) := by
    intro fw hfw
    obtain ⟨b', hrun⟩ := configInit_total (b := b.powerCycle) h.files h.modem hfl
    rw [← hfw] at hrun
    rw [atBoard, atDevice, run_zoom, onBoard, run_zoom,
      show (configInit hw.platform).run fw.device.board = .ok () b' from hrun]
    trivial
  have hlte : Triple (fun _ => True) (lteConnectInitStart hw) (fun _ _ => True)
      (fun _ _ => False) := by
    have hinit : Triple (fun _ => True)
        (modify fun fw => { fw with lte := lteConnectInit fw.lte.cblk } : FirmwareM PUnit)
        (fun _ _ => True) (fun _ _ => False) := Triple.modify fun _ _ => trivial
    refine hinit.bind fun _ => ?_
    intro fw _
    obtain ⟨modem, hrun⟩ := lteConnectInitModem_total h.link h.pdnCtxConfigure apnLookupTable
      hw.iccid { fw.modem with uicc := fw.board.modem }
    rw [atModem, run_zoom, hrun]
    trivial
  have hmain : Triple (fun fw => fw.board = b.powerCycle) (mainStart hw) (fun _ _ => True)
      (fun _ _ => False) := hleds.bind fun _ => hconfig.bind fun _ => hlte
  unfold boot
  cases hrun : (mainStart hw).run (.cleared b) with
  | ok u fw => exact ⟨fw, rfl⟩
  | error e fw => exact (hmain.error rfl hrun).elim

/-- A board on the bench, with an Eseye SIM. -/
def Hardware.bench : Hardware where
  platform := .ideal minuteText minuteTree
  led := ⟨fun _ => true, fun _ => 0, fun _ => 0⟩
  lte := { eseyeLib with modem := (Platform.ideal minuteText minuteTree).modem }
  sameModem := rfl
  awsIotInit := 0
  iccid := CBuf.zero _

/-- Its flash has been provisioned. -/
def Board.bench : Board := .switchedOn Flash.provisioned

theorem bench_works : Hardware.bench.Works :=
  ⟨Platform.ideal_reliable _ _, Platform.ideal_bootReady _ _, ⟨fun _ => rfl, fun _ => rfl,
    fun _ => rfl⟩, ⟨rfl, rfl, rfl, rfl, rfl, rfl⟩, rfl⟩

theorem bench_complete : Board.bench.flash.Complete := ⟨rfl, provisioned_filesInPlace⟩

/-- It connects, is sent a shadow, loses power, and is sent the command to reboot. -/
def benchDay : List Turn :=
  [.lte (.pdnEvent 0 .activated 0), .lte (.main 0), .lte (.main 0), .lte (.main 0), .connectorTask,
    .callback .connecting, .callback (.dataReceived minuteText), .connectorTask, .queueDecoded,
    .powerLoss,
    .lte (.pdnEvent 0 .activated 0), .lte (.main 0), .lte (.main 0),
    .sms (CBuf.zero _) ⟨⟨ascii "REBOOT-LW3-0001", by decide⟩⟩, .tick]

theorem bench_runs : ∃ fw₀ fw, boot .bench .bench = some fw₀ ∧
    (firmware .bench).run fw₀ benchDay = some fw := by
  have hruns : ((boot .bench .bench).bind fun fw =>
      (firmware .bench).run fw benchDay).isSome = true := by decide +kernel
  obtain ⟨fw, hfw⟩ := Option.isSome_iff_exists.1 hruns
  obtain ⟨fw₀, hboot, hrun⟩ := Option.bind_eq_some_iff.1 hfw
  exact ⟨fw₀, fw, hboot, hrun⟩

end Levaware
