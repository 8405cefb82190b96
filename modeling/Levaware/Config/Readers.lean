import Levaware.Config.Loading

set_option autoImplicit false

/-! # The two readers of a 16-bit file

An `INT16` attribute is saved as two bytes and read back twice: by the loader at boot, which takes
both bytes, and by `config_diff_flash_int16`, which takes the first one as a plain `char`. The
loader always finds the value that was saved; the comparison agrees with it exactly on the values
that a `char` holds (`readers_agree_iff`). -/

namespace Levaware

open Abort

/-! ## The first byte as a `char` -/

/-- The plain `char` of the platform holds the number. -/
def Platform.InCharRange (P : Platform) (v : Int16) : Prop :=
  if P.charSigned then -128 ≤ v.toInt ∧ v.toInt ≤ 127 else 0 ≤ v.toInt ∧ v.toInt ≤ 255

instance (P : Platform) (v : Int16) : Decidable (P.InCharRange v) := by
  unfold Platform.InCharRange
  infer_instance

/-- A signed `char` takes the byte as two's complement, an unsigned one as it is. -/
theorem toInt_charToInt16 (P : Platform) (c : UInt8) :
    (P.charToInt16 c).toInt
      = if P.charSigned then (c.toNat : Int).bmod 256 else c.toNat := by
  unfold Platform.charToInt16
  split
  · rw [Int8.toInt_toInt16]
    exact BitVec.toInt_eq_toNat_bmod c.toBitVec
  · have hc := c.toNat_lt
    have hnat : c.toUInt16.toBitVec.toNat = c.toNat := UInt8.toNat_toUInt16 c
    have hbv : c.toUInt16.toInt16.toInt = (c.toNat : Int).bmod 65536 := by
      rw [← hnat]
      exact BitVec.toInt_eq_toNat_bmod c.toUInt16.toBitVec
    rw [hbv]
    exact Int.bmod_eq_of_le (by omega) (by omega)

/-- The first byte of a number, read as a `char`, is the number exactly when a `char` holds it. -/
theorem charToInt16_low_iff (P : Platform) (v : Int16) :
    P.charToInt16 ((int16Bytes v).headD 0) = v ↔ P.InCharRange v := by
  have hv : v.toInt = (v.toBitVec.toNat : Int).bmod 65536 := BitVec.toInt_eq_toNat_bmod _
  have hlow : ((int16Bytes v).headD 0).toNat = v.toBitVec.toNat % 256 := by
    simp [int16Bytes, leBytes]
  have hlt : v.toBitVec.toNat < 65536 := v.toBitVec.isLt
  -- both sides as residues: of the low byte modulo 256, of the number modulo 65536
  rw [← Int16.toInt_inj, toInt_charToInt16, hlow]
  unfold Platform.InCharRange
  rw [hv, Int.bmod_def, Int.bmod_def]
  by_cases hs : P.charSigned
  · rw [if_pos hs, if_pos hs]
    split_ifs <;> omega
  · rw [if_neg hs, if_neg hs]
    split_ifs <;> omega

/-! ## The two readers -/

variable {P : Platform} {b : Board} {id : DevConfigShadowId} {content : List UInt8} {v : Int16}

/-- Comparing with the file leaves everything as it is. -/
theorem configDiffFlashInt16_run (hP : P.FsReliable) (hT : b.TableOk)
    (h : b.flash id.fileName = some content) (w : Int16) :
    (configDiffFlashInt16 P id w).run b = .ok (P.charToInt16 (content.headD 0) == w) b := by
  -- an empty file leaves the zero that the buffer starts with
  have hhead : ((CBuf.zero 16).blit content).bytes.headD 0 = content.headD 0 := by
    cases content with
    | nil => rfl
    | cons c rest => rfl
  unfold configDiffFlashInt16
  rw [run_bind_ok (EStateM.run_get b), hT.filename, run_bind_ok (readFile_present hP h _)]
  dsimp only
  rw [hhead]
  rfl

/-- So it does on any platform, also when it aborts. -/
theorem configDiffFlashInt16_preserves {I J : Board → Prop} (h : ∀ b, I b → J b)
    (id : DevConfigShadowId) (w : Int16) : Preserves I J (configDiffFlashInt16 P id w) :=
  Preserves.get.bind fun _ => (readFile_preserves h _ _).bind fun _ => Preserves.pure _

/-- Setting an `INT16` attribute and saving it leaves its two bytes in its file. -/
theorem setSaveInt16_file (hP : P.FsReliable) (hT : b.TableOk) (hty : id.valType = .int16)
    (v : Int16) :
    ∃ b', (do configSetInt16 id v true
              configSaveAttributeToFile P id : Fw Int).run b = .ok 0 b' ∧
      b'.TableOk ∧ b'.flash id.fileName = some (int16Bytes v) := by
  have ha : (b.attr id).valType = .int16 := by rw [hT.valType, hty]
  set a := { b.attr id with int16Val := v, isNewVal := true }
  have hc : ((b.setAttr id a).attr id).content = some (int16Bytes v) := by
    rw [Board.attr_setAttr_self]
    simp [a, DevShadowAttrib.content, ha]
  have hT' : (b.setAttr id a).TableOk := hT.setAttr (hT.valType id) (hT.filename id)
  have hne : int16Bytes v ≠ [] := List.ne_nil_of_length_pos (by simp)
  have hsave := configSave_dirty hP hT' (by rw [Board.attr_setAttr_self]) hc hne
  rw [run_bind_ok (configSetInt16_run id v true b), hsave]
  refine ⟨_, rfl, hT'.store ?_ ?_, flash_store_self⟩
  · rw [Board.attr_setAttr_self]
    exact hT.valType id
  · rw [Board.attr_setAttr_self]
    exact hT.filename id

/-- Whatever RAM held before, a boot from that flash gives the attribute this number. -/
def LoadsInt16 (P : Platform) (fl : Flash) (id : DevConfigShadowId) (v : Int16) : Prop :=
  ∀ b₀ b : Board, b₀.flash = fl → (configDevShadowAttribInit P).run b₀ = .ok () b →
    (b.attr id).int16Val = v

theorem loadsInt16_int16Bytes (hty : id.valType = .int16) {fl : Flash} (hfit : fl.FitsWhenReached)
    (h : fl id.fileName = some (int16Bytes v)) : LoadsInt16 P fl id v := by
  intro b₀ b hfl hrun
  subst hfl
  have hid : id ≠ .iccid := by
    rintro rfl
    cases hty
  have hbooted : b₀.Booted b := (configDevShadowAttribInit_triple hfit).ok rfl hrun
  rw [hbooted.attr, loaded_of_some hid h]
  simp [DevShadowAttrib.loadFrom, DevShadowAttrib.setDefault, hty, readInt16_fileBuf]

/-- Both readers know the value that is in the file. -/
structure ReadersAgree (P : Platform) (b : Board) (id : DevConfigShadowId) (v : Int16) :
    Prop where
  diff : ∀ w, ∃ same, (configDiffFlashInt16 P id w).run b = .ok same b ∧ (same = true ↔ w = v)
  load : b.flash.FitsWhenReached → LoadsInt16 P b.flash id v

theorem diff_iff (hP : P.FsReliable) (hT : b.TableOk)
    (h : b.flash id.fileName = some (int16Bytes v)) :
    (∀ w, ∃ same, (configDiffFlashInt16 P id w).run b = .ok same b ∧ (same = true ↔ w = v)) ↔
      P.InCharRange v := by
  rw [← charToInt16_low_iff]
  have hrun := configDiffFlashInt16_run hP hT h
  constructor
  · intro hdiff
    obtain ⟨same, hsame, hiff⟩ := hdiff v
    rw [hrun v] at hsame
    cases hsame
    simpa using hiff.2 rfl
  · intro hlow w
    refine ⟨_, hrun w, ?_⟩
    rw [hlow, beq_iff_eq]
    exact eq_comm

/-- Every value `v` set in an `INT16` attribute and saved is what a boot loads. The comparison with
    the file is right about all numbers exactly when a plain `char` holds `v`. -/
theorem readers_agree_iff (P : Platform) (hP : P.FsReliable) (b : Board) (hT : b.TableOk)
    (id : DevConfigShadowId) (hty : id.valType = .int16) (v : Int16) :
    ∃ b', (do configSetInt16 id v true
              configSaveAttributeToFile P id : Fw Int).run b = .ok 0 b' ∧
      (b'.flash.FitsWhenReached → LoadsInt16 P b'.flash id v) ∧
      (ReadersAgree P b' id v ↔ P.InCharRange v) := by
  obtain ⟨b', hrun, hT', hfile⟩ := setSaveInt16_file hP hT hty v
  have hload : b'.flash.FitsWhenReached → LoadsInt16 P b'.flash id v := fun hfit =>
    loadsInt16_int16Bytes hty hfit hfile
  refine ⟨b', hrun, hload, ?_⟩
  rw [← diff_iff hP hT' hfile]
  exact ⟨fun h => h.diff, fun h => ⟨h, hload⟩⟩

theorem readers_agree_iff_factory :
    let P := Platform.ideal [] .null
    ∃ b', (do configSetInt16 .daqIntervalS 3600 true
              configSaveAttributeToFile P .daqIntervalS : Fw Int).run .factory = .ok 0 b' ∧
      (b'.flash.FitsWhenReached → LoadsInt16 P b'.flash .daqIntervalS 3600) ∧
      (ReadersAgree P b' .daqIntervalS 3600 ↔ P.InCharRange 3600) :=
  readers_agree_iff (.ideal [] .null) (Platform.ideal_reliable _ _) .factory
    (Board.tableOk_withDefaults _) .daqIntervalS rfl 3600

/-- 3600 s saved; compared with 3600, its low byte 16 is read and found different. -/
theorem saved3600_compared_differs :
    let P := Platform.ideal [] .null
    ∃ b', (do configSetInt16 .daqIntervalS 3600 true
              configSaveAttributeToFile P .daqIntervalS : Fw Int).run .factory = .ok 0 b' ∧
      (configDiffFlashInt16 P .daqIntervalS 3600).run b' = .ok false b' ∧
      (configDiffFlashInt16 P .daqIntervalS 16).run b' = .ok true b' ∧
      ¬ ReadersAgree P b' .daqIntervalS 3600 := by
  intro P
  refine ⟨_, rfl, rfl, rfl, ?_⟩
  intro h
  obtain ⟨same, hrun, hiff⟩ := h.diff 3600
  cases hrun
  exact absurd (hiff.2 rfl) (by decide)

end Levaware
