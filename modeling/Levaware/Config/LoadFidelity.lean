import Levaware.Config.BootRecovery

set_option autoImplicit false

/-! # What loading makes of a short file

The loader takes any file that can be read for a complete one. A numeric file of fewer bytes than
its type is padded with the zeros of the read buffer, and an empty string file leaves the default
without marking it for saving. So what is loaded is the file or a marked default exactly when no
file is that short (`loading_faithful_iff`). -/

namespace Levaware

open Abort

variable {P : Platform} {b b₀ : Board} {id : DevConfigShadowId} {content : List UInt8}

/-! ## What a file says -/

/-- The least number of bytes that make a value of the attribute. -/
def DevConfigShadowId.minLength (id : DevConfigShadowId) : Nat :=
  match id.valType with
  | .int16 => 2
  | .int => 4
  | _ => 1

/-- The value of the attribute, in the field its type uses, is the one the file's bytes denote. -/
def HoldsFile (id : DevConfigShadowId) (content : List UInt8) (a : DevShadowAttrib) : Prop :=
  match id.valType with
  | .int16 => a.int16Val = readInt16 content
  | .int => a.intVal = readInt32 content
  | _ => a.strVal.str = content

/-- The value of the attribute, in the field its type uses, is its default. -/
def HoldsDefault (id : DevConfigShadowId) (a : DevShadowAttrib) : Prop :=
  match id.valType with
  | .int16 => a.int16Val = (defaultAttrib id).int16Val
  | .int => a.intVal = (defaultAttrib id).intVal
  | _ => a.strVal.str = (defaultAttrib id).strVal.str

/-- The attribute is what its file says, or the file says nothing and the attribute is its default,
    waiting to be saved. -/
def LoadedFaithfully (id : DevConfigShadowId) (content : List UInt8) (a : DevShadowAttrib) : Prop :=
  if id.minLength ≤ content.length then HoldsFile id content a
  else HoldsDefault id a ∧ a.isNewVal = true

/-- Every non-ICCID attribute has a file: of any length for a number, of at most 127 bytes and
    without a NUL for a string. -/
def Flash.Loadable (fl : Flash) : Prop :=
  ∀ id : DevConfigShadowId, id ≠ .iccid → ∃ content, fl id.fileName = some content ∧
    (id.valType = .string → content.length < strValLen ∧ (0 : UInt8) ∉ content)

/-- No file is shorter than the value it should hold. -/
def Flash.LongEnough (fl : Flash) : Prop :=
  ∀ id : DevConfigShadowId, id ≠ .iccid → ∀ content, fl id.fileName = some content →
    id.minLength ≤ content.length

/-- RAM is what the files say, or defaults waiting to be saved where they say nothing. -/
def Board.FaithfulTo (b : Board) (fl : Flash) : Prop :=
  ∀ id : DevConfigShadowId, id ≠ .iccid → ∀ content, fl id.fileName = some content →
    LoadedFaithfully id content (b.attr id)

theorem Flash.Loadable.provisioned {fl : Flash} (h : fl.Loadable) : fl.Provisioned := by
  constructor
  · intro id hid
    obtain ⟨content, hc, -⟩ := h id hid
    rw [hc, Option.isSome_some]
  · intro id hid hty content hc
    obtain ⟨content', hc', hstr⟩ := h id hid
    rw [hc] at hc'
    cases hc'
    exact str_fileBuf_fits (hstr hty).1

/-! ## One attribute -/

/-- What is read of the buffer beyond no byte of the file is read of the file. -/
theorem take_fileBuf {n : Nat} (hn : n ≤ 256) (h : n ≤ content.length) :
    (fileBuf content).bytes.take n = content.take n := by
  show ((content.take 256) ++ _).take n = _
  rw [List.take_append_of_le_length (by rw [List.length_take]; omega), List.take_take,
    min_eq_left hn]

/-- A file long enough is what the attribute becomes. -/
theorem loadFrom_holdsFile {a : DevShadowAttrib} (hty : a.valType = id.valType)
    (hlen : id.minLength ≤ content.length)
    (hstr : id.valType = .string → content.length < strValLen ∧ (0 : UInt8) ∉ content) :
    HoldsFile id content (a.loadFrom content) := by
  unfold DevConfigShadowId.minLength at hlen
  unfold HoldsFile DevShadowAttrib.loadFrom
  rw [hty]
  cases hv : id.valType with
  | int16 =>
      rw [hv] at hlen
      show readInt16 (fileBuf content).bytes = readInt16 content
      rw [readInt16, take_fileBuf (by decide) hlen, readInt16]
  | int =>
      rw [hv] at hlen
      show readInt32 (fileBuf content).bytes = readInt32 content
      rw [readInt32, take_fileBuf (by decide) hlen, readInt32]
  | string =>
      rw [hv] at hlen
      obtain ⟨hfit, hnul⟩ := hstr hv
      -- a string of no bytes is not copied, so the length is needed
      have hshort : content.length < 128 := hfit
      have hbuf : (fileBuf content).str = content := by
        rw [str_fileBuf (by omega), cstr_of_notMem hnul]
      have hpos : 0 < (fileBuf content).str.length := by
        rw [hbuf]
        exact hlen
      simp only [hpos, if_true]
      rw [hbuf, CBuf.str_strcpy _ hfit hnul]
  | num | invalid => cases id <;> cases hv

/-- Loading never marks an attribute, so a file that is too short is not made up for. -/
theorem loaded_faithful_iff (hid : id ≠ .iccid) (hc : b₀.flash id.fileName = some content)
    (hstr : id.valType = .string → content.length < strValLen ∧ (0 : UInt8) ∉ content)
    (a : DevShadowAttrib) :
    LoadedFaithfully id content (b₀.flash.loaded id (a.setDefault id))
      ↔ id.minLength ≤ content.length := by
  rw [loaded_of_some hid hc]
  unfold LoadedFaithfully
  by_cases hlen : id.minLength ≤ content.length
  · rw [if_pos hlen]
    exact iff_of_true (loadFrom_holdsFile rfl hlen hstr) hlen
  · -- the file is too short for a value, and the default would have to be marked
    rw [if_neg hlen, isNewVal_loadFrom]
    refine iff_of_false ?_ hlen
    rintro ⟨-, hnew⟩
    cases hnew

/-! ## The whole initialization -/

/-- For every flash with the files there, whatever RAM held before: on a reliable file system the
    initialization completes, and when it completes every attribute is what its file says, or its
    default marked for saving, exactly when no numeric file is shorter than its type and no string
    file is empty. -/
theorem loading_faithful_iff (P : Platform) (b₀ : Board) (hfl : b₀.flash.Loadable) :
    (P.FsReliable → ∃ b, (configDevShadowAttribInit P).run b₀ = .ok () b) ∧
    ∀ b, (configDevShadowAttribInit P).run b₀ = .ok () b →
      (b.FaithfulTo b₀.flash ↔ b₀.flash.LongEnough) := by
  constructor
  · intro hP
    obtain ⟨b, hrun, -⟩ := configDevShadowAttribInit_run hP hfl.provisioned
    exact ⟨b, hrun⟩
  · intro b hrun
    have hfit : b₀.flash.FitsWhenReached := fun id hid _ => hfl.provisioned.fits id hid
    have hbooted : b₀.Booted b := (configDevShadowAttribInit_triple hfit).ok rfl hrun
    have hone : ∀ id : DevConfigShadowId, id ≠ .iccid → ∀ content,
        b₀.flash id.fileName = some content →
        (LoadedFaithfully id content (b.attr id) ↔ id.minLength ≤ content.length) := by
      intro id hid content hc
      obtain ⟨content', hc', hstr⟩ := hfl id hid
      rw [hc] at hc'
      cases hc'
      rw [hbooted.attr]
      exact loaded_faithful_iff hid hc hstr _
    constructor
    · intro h id hid content hc
      exact (hone id hid content hc).1 (h id hid content hc)
    · intro h id hid content hc
      exact (hone id hid content hc).2 (h id hid content hc)

theorem provisioned_loadable : Flash.provisioned.Loadable := by
  intro id hid
  rw [provisioned_attrib hid]
  cases id <;> first | exact absurd rfl hid | exact ⟨_, rfl, by decide⟩

theorem loading_faithful_iff_provisioned :
    ∃ b, (configDevShadowAttribInit (.ideal [] .null)).run (.switchedOn Flash.provisioned)
      = .ok () b ∧ (b.FaithfulTo Flash.provisioned ↔ Flash.provisioned.LongEnough) := by
  obtain ⟨htotal, hiff⟩ := loading_faithful_iff (.ideal [] .null) (.switchedOn Flash.provisioned)
    provisioned_loadable
  obtain ⟨b, hrun⟩ := htotal (Platform.ideal_reliable _ _)
  exact ⟨b, hrun, hiff b hrun⟩

/-- The provisioned files, with the one of the DAQ interval still empty. -/
def Flash.tornDaqInterval : Flash :=
  Function.update Flash.provisioned DevConfigShadowId.daqIntervalS.fileName (some [])

theorem tornDaqInterval_loadable : Flash.tornDaqInterval.Loadable := by
  intro id hid
  by_cases h : id = .daqIntervalS
  · subst h
    exact ⟨[], Function.update_self .., by decide⟩
  · obtain ⟨content, hc, hstr⟩ := provisioned_loadable id hid
    refine ⟨content, ?_, hstr⟩
    rw [Flash.tornDaqInterval, Function.update_of_ne]
    · exact hc
    · exact fun he => h (DevConfigShadowId.fileName_injective he)

/-- An interval of 0 s is loaded, where the default is 60 s, and it is not marked for saving. -/
theorem tornDaqInterval_loads_zero :
    Flash.tornDaqInterval.Loadable ∧
    ∃ b, (configDevShadowAttribInit (.ideal [] .null)).run (.switchedOn Flash.tornDaqInterval)
        = .ok () b ∧ (b.attr .daqIntervalS).int16Val = 0 ∧
      (b.attr .daqIntervalS).isNewVal = false ∧ ¬ b.FaithfulTo Flash.tornDaqInterval := by
  have hP := Platform.ideal_reliable [] .null
  obtain ⟨b, hrun, hbooted⟩ := configDevShadowAttribInit_run
    (b := .switchedOn Flash.tornDaqInterval) hP tornDaqInterval_loadable.provisioned
  have hfile : (Board.switchedOn Flash.tornDaqInterval).flash
      DevConfigShadowId.daqIntervalS.fileName = some [] := rfl
  have hattr := hbooted.attr .daqIntervalS
  rw [loaded_of_some (by decide) hfile] at hattr
  have hnew : (b.attr .daqIntervalS).isNewVal = false := by
    rw [hattr, isNewVal_loadFrom]
    rfl
  refine ⟨tornDaqInterval_loadable, b, hrun, by rw [hattr]; rfl, hnew, ?_⟩
  intro h
  have hdefault := (h .daqIntervalS (by decide) [] hfile).2
  rw [hnew] at hdefault
  cases hdefault

end Levaware
