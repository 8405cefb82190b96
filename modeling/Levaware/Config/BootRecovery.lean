import Levaware.Config.Startup

set_option autoImplicit false

/-! # Booting with files missing

`config_init` was meant to fall back to defaults for attributes without a file and to write the
missing files afterwards. `is_file_exists` and `read_file` both abort on a missing file, so it
recovers from no missing file at all: it completes exactly when nothing is missing
(`boot_recovers_iff`). -/

namespace Levaware

open Abort

/-! ## Well-formed files and recovered stores -/

/-- An attribute as the compiled-in defaults give it. -/
def defaultAttrib (id : DevConfigShadowId) : DevShadowAttrib :=
  (DeviceConfig.cleared.devShadowAttrib id).setDefault id

/-- A file a save of the attribute can have written, for a string not the empty one. -/
def WellFormed (id : DevConfigShadowId) (content : List UInt8) : Prop :=
  match id.valType with
  | .int16 => content.length = 2
  | .int => content.length = 4
  | _ => content ≠ [] ∧ content.length < strValLen ∧ (0 : UInt8) ∉ content

instance (id : DevConfigShadowId) (content : List UInt8) : Decidable (WellFormed id content) := by
  unfold WellFormed
  split <;> infer_instance

/-- Every file of a non-ICCID attribute that is there is well formed. -/
def Flash.WellFormed (fl : Flash) : Prop :=
  ∀ id : DevConfigShadowId, id ≠ .iccid → ∀ content, fl id.fileName = some content →
    Levaware.WellFormed id content

/-- What a boot should leave: defaults where a file was missing, the stored value elsewhere, and a
    file for every attribute that loads back to the value RAM has. -/
structure Recovered (fl : Flash) (b : Board) : Prop where
  default : ∀ id : DevConfigShadowId, id ≠ .iccid → fl id.fileName = none →
    (b.attr id).content = (defaultAttrib id).content
  stored : ∀ id : DevConfigShadowId, id ≠ .iccid → ∀ content, fl id.fileName = some content →
    (b.attr id).content = some content
  files : ∀ id : DevConfigShadowId, id ≠ .iccid → ∃ content, b.flash id.fileName = some content ∧
    ((defaultAttrib id).loadFrom content).content = (b.attr id).content

variable {P : Platform} {b b' : Board} {id : DevConfigShadowId} {content : List UInt8}

theorem WellFormed.length_pos (h : WellFormed id content) : 0 < content.length := by
  unfold WellFormed at h
  split at h
  · omega
  · omega
  · exact List.length_pos_iff.2 h.1

theorem WellFormed.length_lt (h : WellFormed id content) : content.length < strValLen := by
  unfold WellFormed at h
  split at h
  · exact h ▸ by decide
  · exact h ▸ by decide
  · exact h.2.1

/-- Loading a well-formed file gives the value a save of which writes that file. -/
theorem WellFormed.loadFrom (h : WellFormed id content) {a : DevShadowAttrib}
    (hty : a.valType = id.valType) : (a.loadFrom content).content = some content := by
  have hlen : content.length < 128 := h.length_lt
  have hpos := h.length_pos
  unfold WellFormed at h
  unfold DevShadowAttrib.content
  rw [valType_loadFrom]
  unfold DevShadowAttrib.loadFrom
  rw [← hty] at h
  cases hv : a.valType with
  | int16 =>
      rw [hv] at h
      dsimp only
      rw [fileBuf_bytes (by omega), int16Bytes_readInt16 h]
  | int =>
      rw [hv] at h
      dsimp only
      rw [fileBuf_bytes (by omega), int32Bytes_readInt32 h]
  | string =>
      rw [hv] at h
      obtain ⟨-, -, hnul⟩ := h
      have hstr : (fileBuf content).str = content := by
        rw [str_fileBuf (by omega), cstr_of_notMem hnul]
      dsimp only
      rw [hstr, if_pos hpos]
      exact congrArg some (CBuf.str_strcpy _ hlen hnul)
  | num | invalid => cases id <;> simp [hv, DevConfigShadowId.valType] at hty

theorem Flash.WellFormed.fits (h : b.flash.WellFormed) : b.flash.FitsWhenReached :=
  fun id hid _ _ content hc => str_fileBuf_fits (h id hid content hc).length_lt

/-! ## When the boot completes -/

/-- Up to the loading: the boot stops if there is no serial number, and changes neither table nor
    flash otherwise. -/
theorem configInit_upto (hP : P.FsReliable) (hB : P.BootReady) (b : Board) :
    (b.flash serialNumberFileName = none ∧
      (configInit P).run b = .error "is_file_exists" b) ∨
    ∃ b₁, (b.flash serialNumberFileName).isSome ∧ b₁.flash = b.flash ∧ b₁.attr = b.attr ∧
      (configInit P).run b = (do
        configDevShadowAttribInit P
        DevConfigShadowId.all.forM (saveIfMissing P) : Fw Unit).run b₁ := by
  have hmount : (configFsInit P).run b = .ok () b := by
    unfold configFsInit
    rw [if_neg (not_lt.2 hB.mountRc)]
    rfl
  unfold configInit
  rw [run_bind_ok hmount]
  cases hserial : b.flash serialNumberFileName with
  | none =>
      left
      rw [run_bind_error (readSerialNumber_missing hserial)]
      exact ⟨rfl, rfl⟩
  | some content =>
      right
      obtain ⟨b₁, hread, hflash, hattr⟩ := readSerialNumber_present hP hserial
      obtain ⟨b₂, hids, hframe⟩ := readModemIds_run hB b₁
      refine ⟨b₂, rfl, hframe.flash.trans hflash, hframe.attr.trans hattr, ?_⟩
      rw [run_bind_ok hread, run_bind_ok hids]

/-- A completed boot has found every file. -/
theorem configInit_complete (hP : P.FsReliable) (hB : P.BootReady)
    (hfit : b.flash.FitsWhenReached) (hok : (configInit P).run b = .ok () b') :
    (b.flash serialNumberFileName).isSome ∧
    ∀ id : DevConfigShadowId, id ≠ .iccid → (b.flash id.fileName).isSome := by
  rcases configInit_upto hP hB b with ⟨-, hrun⟩ | ⟨b₁, hserial, hflash, -, hrun⟩
  · rw [hrun] at hok
    cases hok
  refine ⟨hserial, hflash ▸ ?_⟩
  have htriple := configDevShadowAttribInit_triple (P := P) (hflash ▸ hfit)
  rw [hrun] at hok
  cases hinit : (configDevShadowAttribInit P).run b₁ with
  | ok u b₂ => exact (htriple.ok rfl hinit).present
  | error e b₂ =>
      rw [run_bind_error hinit] at hok
      cases hok

/-- A loaded store is a recovered one when the flash it was loaded from was complete. -/
theorem Board.Booted.recovered (h : b.Booted b')
    (hattr : b.attr = DeviceConfig.cleared.devShadowAttrib) (hwf : b.flash.WellFormed) :
    Recovered b.flash b' := by
  have hvalue : ∀ id : DevConfigShadowId, id ≠ .iccid → ∀ content,
      b.flash id.fileName = some content →
      b'.attr id = (defaultAttrib id).loadFrom content := by
    intro id hid content hc
    rw [h.attr, loaded_of_some hid hc, hattr]
    rfl
  refine ⟨?_, ?_, ?_⟩
  · intro id hid hnone
    exact absurd (h.present id hid) (by simp [hnone])
  · intro id hid content hc
    rw [hvalue id hid content hc]
    exact (hwf id hid content hc).loadFrom rfl
  · intro id hid
    obtain ⟨content, hc⟩ := Option.isSome_iff_exists.1 (h.present id hid)
    exact ⟨content, by rw [h.loadsTo.flash, hc], by rw [hvalue id hid content hc]⟩

/-- `config_init` completes with a recovered store if and only if no file is missing: not the
    serial number, and not one of the eight non-ICCID attributes. -/
theorem boot_recovers_iff (P : Platform) (hP : P.FsReliable) (hB : P.BootReady) (b : Board)
    (hb : b.config = .cleared) (hwf : b.flash.WellFormed) :
    (∃ b', (configInit P).run b = .ok () b' ∧ Recovered b.flash b') ↔
      (b.flash serialNumberFileName).isSome ∧
      ∀ id : DevConfigShadowId, id ≠ .iccid → (b.flash id.fileName).isSome := by
  have hcleared : b.attr = DeviceConfig.cleared.devShadowAttrib := by
    unfold Board.attr
    rw [hb]
  constructor
  · rintro ⟨b', hok, -⟩
    exact configInit_complete hP hB hwf.fits hok
  · rintro ⟨hserial, hpresent⟩
    rcases configInit_upto hP hB b with ⟨hnone, -⟩ | ⟨b₁, -, hflash, hattr, hrun⟩
    · rw [hnone] at hserial
      cases hserial
    rw [hrun]
    rw [← hflash] at hwf hpresent ⊢
    have hprov : b₁.flash.Provisioned :=
      ⟨hpresent, fun id hid => hwf.fits id hid fun other hother _ => hpresent other hother⟩
    obtain ⟨b₂, hinit, hbooted⟩ := configDevShadowAttribInit_run hP hprov
    refine ⟨b₂, ?_, hbooted.recovered (hattr.trans hcleared) hwf⟩
    rw [run_bind_ok hinit]
    refine saveIfMissing_run hP hbooted.tableOk (fun id hid => ?_) _
    obtain ⟨content, hc⟩ := Option.isSome_iff_exists.1 (hpresent id hid)
    exact ⟨content, by rw [hbooted.loadsTo.flash, hc], (hwf id hid content hc).length_pos⟩

/-! ## A complete and an incomplete flash -/

/-- The flash after provisioning: a serial number, and every non-ICCID default in its file. -/
def Flash.provisioned : Flash := fun name =>
  if name = serialNumberFileName then some (ascii "LW3-0001")
  else ((DevConfigShadowId.all.filter (· ≠ .iccid)).find? (·.fileName = name)).bind fun id =>
    (defaultAttrib id).content

/-- The board that has just been switched on. -/
def Board.switchedOn (fl : Flash) : Board :=
  { config := .cleared, flash := fl, modem := .off, trace := [] }

/-- A provisioned device, with RAM as the defaults leave it. -/
def Board.provisioned : Board := { Board.factory with flash := Flash.provisioned }

theorem provisioned_attrib (hid : id ≠ .iccid) :
    Flash.provisioned id.fileName = (defaultAttrib id).content := by
  cases id <;> first | exact absurd rfl hid | rfl

theorem provisioned_wellFormed : Flash.provisioned.WellFormed := by
  intro id hid content hc
  rw [provisioned_attrib hid] at hc
  cases id <;> first | exact absurd rfl hid | (cases hc; decide)

theorem boot_recovers_iff_provisioned :
    let P := Platform.ideal [] .null
    (∃ b', (configInit P).run (.switchedOn Flash.provisioned) = .ok () b' ∧
      Recovered Flash.provisioned b') ↔
      (Flash.provisioned serialNumberFileName).isSome ∧
      ∀ id : DevConfigShadowId, id ≠ .iccid → (Flash.provisioned id.fileName).isSome :=
  boot_recovers_iff _ (Platform.ideal_reliable _ _) (Platform.ideal_bootReady _ _)
    (.switchedOn Flash.provisioned) rfl provisioned_wellFormed

def Flash.without (fl : Flash) (name : String) : Flash := Function.update fl name none

/-- With one attribute file missing, or the serial number, the boot does not complete. -/
theorem boot_without_file_aborts :
    let P := Platform.ideal [] .null
    ∀ name ∈ [serialNumberFileName, DevConfigShadowId.subTopic.fileName],
      (Flash.provisioned.without name).WellFormed ∧
      ¬ ∃ b', (configInit P).run (.switchedOn (Flash.provisioned.without name)) = .ok () b' ∧
        Recovered (Flash.provisioned.without name) b' := by
  intro P name hname
  have hwf : (Flash.provisioned.without name).WellFormed := by
    intro id hid content hc
    by_cases h : id.fileName = name
    · rw [Flash.without, h, Function.update_self] at hc
      cases hc
    · rw [Flash.without, Function.update_of_ne h] at hc
      exact provisioned_wellFormed id hid content hc
  refine ⟨hwf, ?_⟩
  rintro ⟨b', hok, -⟩
  obtain ⟨hserial, hpresent⟩ := configInit_complete (Platform.ideal_reliable _ _)
    (Platform.ideal_bootReady _ _) hwf.fits hok
  simp only [List.mem_cons, List.not_mem_nil, or_false] at hname
  rcases hname with rfl | rfl
  · simp [Board.switchedOn, Flash.without] at hserial
  · simpa [Board.switchedOn, Flash.without] using hpresent .subTopic (by decide)

end Levaware
