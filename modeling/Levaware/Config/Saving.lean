import Levaware.Config.Config

set_option autoImplicit false

/-! # What saving does

Two descriptions of `config_save_attribute_to_file`. On a reliable file system its effect is exact:
the file becomes the value and the attribute is clean (`Board.store`). On any file system
`save_to_file` keeps to its own file and leaves RAM alone (`saveToFile_frame`). -/

namespace Levaware

open Abort

/-! ## The attribute table in place -/

theorem DevConfigShadowId.fileName_injective : Function.Injective fileName := by
  intro id id' h
  cases id <;> cases id' <;> first | rfl | exact absurd h (by decide)

theorem DevConfigShadowId.fileName_ne_serialNumber (id : DevConfigShadowId) :
    id.fileName ≠ serialNumberFileName := by
  cases id <;> decide

/-- The attributes have the types and files `config_dev_shadow_attrib_init` gives them. -/
structure Board.TableOk (b : Board) : Prop where
  valType : ∀ id, (b.attr id).valType = id.valType
  filename : ∀ id, (b.attr id).filename = id.fileName

/-- Changing values and dirty flags keeps the table in place. -/
theorem Board.TableOk.setAttr {b : Board} (hT : b.TableOk) {id : DevConfigShadowId}
    {a : DevShadowAttrib} (hty : a.valType = id.valType) (hfn : a.filename = id.fileName) :
    (b.setAttr id a).TableOk := by
  constructor
  · intro id'
    by_cases h : id' = id
    · subst h
      rw [Board.attr_setAttr_self, hty]
    · rw [Board.attr_setAttr_of_ne h, hT.valType]
  · intro id'
    by_cases h : id' = id
    · subst h
      rw [Board.attr_setAttr_self, hfn]
    · rw [Board.attr_setAttr_of_ne h, hT.filename]

theorem Board.TableOk.of_attr_eq {b b' : Board} (hT : b.TableOk) (h : b'.attr = b.attr) :
    b'.TableOk := by
  constructor
  · intro id
    rw [h, hT.valType]
  · intro id
    rw [h, hT.filename]

/-! ## The accessors -/

theorem configSetInt16_run (index : DevConfigShadowId) (val : Int16) (isNewVal : Bool)
    (b : Board) :
    (configSetInt16 index val isNewVal).run b
      = .ok () (b.setAttr index { b.attr index with int16Val := val, isNewVal }) := by
  simp [configSetInt16, modifyAttr, index.toNat_lt]

theorem configGetInt16_run (id : DevConfigShadowId) (b : Board) :
    (configGetInt16 id).run b = .ok (b.attr id).int16Val b := by
  simp [configGetInt16, id.toNat_lt]

theorem configSetInt_run (index : DevConfigShadowId) (val : Int32) (isNewVal : Bool)
    (b : Board) :
    (configSetInt index val isNewVal).run b
      = .ok () (b.setAttr index { b.attr index with intVal := val, isNewVal }) := by
  simp [configSetInt, modifyAttr, index.toNat_lt]

/-! ## On a reliable file system -/

/-- What a save writes, by the type of the attribute. -/
def DevShadowAttrib.content (a : DevShadowAttrib) : Option (List UInt8) :=
  match a.valType with
  | .int16 => some (int16Bytes a.int16Val)
  | .int => some (int32Bytes a.intVal)
  | .string => some a.strVal.str
  | _ => none

/-- The board after the attribute `id` has become `a` and been saved with that content. -/
def Board.store (b : Board) (id : DevConfigShadowId) (a : DevShadowAttrib)
    (content : List UInt8) : Board :=
  ((b.log (.saveToFile id.fileName content)).setFile id.fileName content).setAttr id a

section Store

variable {b : Board} {id id' : DevConfigShadowId} {a : DevShadowAttrib} {content : List UInt8}

@[simp] theorem attr_store_self : (b.store id a content).attr id = a := by
  simp [Board.store]

theorem attr_store_of_ne (h : id' ≠ id) : (b.store id a content).attr id' = b.attr id' := by
  simp [Board.store, Board.attr_setAttr_of_ne h]

@[simp] theorem flash_store_self : (b.store id a content).flash id.fileName = some content := by
  simp [Board.store]

theorem flash_store_of_ne {name : String} (h : name ≠ id.fileName) :
    (b.store id a content).flash name = b.flash name := by
  simp [Board.store, Board.flash_setFile_of_ne h]

theorem flash_store_fileName_of_ne (h : id' ≠ id) :
    (b.store id a content).flash id'.fileName = b.flash id'.fileName :=
  flash_store_of_ne fun he => h (DevConfigShadowId.fileName_injective he)

theorem Board.TableOk.store (hT : b.TableOk) (hty : a.valType = id.valType)
    (hfn : a.filename = id.fileName) : (b.store id a content).TableOk := by
  have h : ((b.log (.saveToFile id.fileName content)).setFile id.fileName content).TableOk :=
    hT.of_attr_eq rfl
  exact h.setAttr hty hfn

end Store

variable {P : Platform} {b : Board} {id : DevConfigShadowId}

/-- A clean attribute is not written. -/
theorem configSave_clean (h : (b.attr id).isNewVal = false) :
    (configSaveAttributeToFile P id).run b = .ok 0 b := by
  have hb : b.setAttr id { b.attr id with isNewVal := false } = b := by
    have ha : { b.attr id with isNewVal := false } = b.attr id := by rw [← h]
    rw [ha, Board.setAttr_attr_self]
  unfold configSaveAttributeToFile
  simp [h, modifyAttr, hb]

/-- The save of an attribute with something to write. -/
theorem saveVal_of_content {a : DevShadowAttrib} {content : List UInt8}
    (hc : a.content = some content) : saveVal P a = saveToFile P content a.filename := by
  unfold DevShadowAttrib.content at hc
  unfold saveVal
  cases hty : a.valType with
  | int16 | int | string =>
      simp only [hty, Option.some.injEq] at hc
      rw [hc]
  | num | invalid => simp [hty] at hc

theorem saveVal_reliable (hP : P.FsReliable) {a : DevShadowAttrib} {content : List UInt8}
    (hc : a.content = some content) (b : Board) :
    (saveVal P a).run b = .ok content.length
      ((b.log (.saveToFile a.filename content)).setFile a.filename content) := by
  rw [saveVal_of_content hc]
  exact saveToFile_reliable hP content _ b

/-- A dirty attribute with something to write becomes its file, and clean. -/
theorem configSave_dirty (hP : P.FsReliable) (hT : b.TableOk) (h : (b.attr id).isNewVal = true)
    {content : List UInt8} (hc : (b.attr id).content = some content) (hne : content ≠ []) :
    (configSaveAttributeToFile P id).run b
      = .ok 0 (b.store id { b.attr id with isNewVal := false } content) := by
  have hlen : ¬ ((content.length : Nat) : Int) = 0 := by
    simpa using hne
  have hsave := saveVal_reliable hP hc b
  unfold configSaveAttributeToFile
  rw [run_bind_ok (EStateM.run_get b)]
  simp only [h, if_true]
  rw [run_bind_ok hsave, if_neg hlen]
  simp [modifyAttr, Board.store, hT.filename]

/-! ## On any file system -/

/-- What the file system calls of a save keep, the save keeps, also when it aborts. -/
theorem saveToFile_triple {pre I : Board → Prop} {name : String} {content : List UInt8}
    (hlog : Triple pre (logEffect (.saveToFile name content)) (fun _ => I) (fun _ => I))
    (hopen : Preserves I I (fsOpen P name true)) (hstat : Preserves I I (fsStat P name))
    (htruncate : Preserves I I (fsTruncate P name content.length))
    (hwrite : Preserves I I (fsWrite P name content)) :
    Triple pre (saveToFile P content name) (fun _ => I) (fun _ => I) := by
  have abort : ∀ {α : Type} (reason : String), Preserves I I (erabort reason : Fw α) :=
    fun reason => Preserves.throw (fun _ h => h) reason
  have hlast : Preserves I I (do
      let rc ← fsWrite P name content
      if 0 ≤ rc then return rc
      erabort "save_to_file - failed to write") := by
    refine hwrite.bind fun rc => Preserves.ite (fun _ => ?_) fun _ => abort _
    exact Preserves.pure _
  unfold saveToFile
  refine hlog.bind fun _ => hopen.bind fun rc =>
    Preserves.ite (fun _ => (abort _).bind fun _ => ?_) fun _ => ?_
  all_goals
    refine hstat.bind fun p => Preserves.ite (fun _ => ?_) fun _ => hlast
    refine htruncate.bind fun rc' =>
      Preserves.ite (fun _ => (abort _).bind fun _ => hlast) fun _ => hlast

/-- `b` differs from `b₀` only in the file `name` and by one call of `save_to_file` in the trace. -/
structure SaveFrame (name : String) (content : List UInt8) (b₀ b : Board) : Prop where
  config : b.config = b₀.config
  modem : b.modem = b₀.modem
  trace : b.trace = b₀.trace ++ [.saveToFile name content]
  flash : ∀ other, other ≠ name → b.flash other = b₀.flash other

section Frame

variable {name : String} {content new : List UInt8} {b₀ : Board}

theorem SaveFrame.setFile (h : SaveFrame name content b₀ b) :
    SaveFrame name content b₀ (b.setFile name new) where
  config := h.config
  modem := h.modem
  trace := h.trace
  flash other ho := by rw [Board.flash_setFile_of_ne ho, h.flash other ho]

theorem fsOpen_frame (create : Bool) :
    Triple (SaveFrame name content b₀) (fsOpen P name create)
      (fun _ => SaveFrame name content b₀) (fun _ => SaveFrame name content b₀) := by
  intro b hb
  unfold fsOpen
  cases hf : b.flash name with
  | some c => simpa [hf] using hb
  | none =>
      cases create with
      | false => simpa [hf] using hb
      | true =>
          by_cases hrc : P.openRc name < 0
          · simpa [hf, run_ite, hrc] using hb
          · simpa [hf, run_ite, hrc] using hb.setFile

theorem fsStat_frame :
    Triple (SaveFrame name content b₀) (fsStat P name)
      (fun _ => SaveFrame name content b₀) (fun _ => SaveFrame name content b₀) := by
  intro b hb
  unfold fsStat
  cases hf : b.flash name with
  | some c => simpa [hf] using hb
  | none => simpa [hf] using hb

theorem fsTruncate_frame (n : Nat) :
    Triple (SaveFrame name content b₀) (fsTruncate P name n)
      (fun _ => SaveFrame name content b₀) (fun _ => SaveFrame name content b₀) := by
  intro b hb
  unfold fsTruncate
  by_cases hrc : P.truncateRc name = 0
  · simpa [run_ite, hrc] using hb.setFile
  · simpa [run_ite, hrc] using hb

theorem fsWrite_frame (bytes : List UInt8) :
    Triple (SaveFrame name content b₀) (fsWrite P name bytes)
      (fun _ => SaveFrame name content b₀) (fun _ => SaveFrame name content b₀) := by
  intro b hb
  unfold fsWrite
  by_cases hrc : 0 ≤ P.writeRc name bytes.length
  · simpa [run_ite, hrc] using hb.setFile
  · simpa [run_ite, hrc] using hb

/-- Whatever the file system answers, and also when it aborts, a save touches its own file only. -/
theorem saveToFile_frame :
    Triple (fun b => b = b₀) (saveToFile P content name)
      (fun _ => SaveFrame name content b₀) (fun _ => SaveFrame name content b₀) := by
  have hlog : Triple (fun b => b = b₀) (logEffect (.saveToFile name content))
      (fun _ => SaveFrame name content b₀) (fun _ => SaveFrame name content b₀) := by
    refine Triple.modify ?_
    rintro b rfl
    exact ⟨rfl, rfl, rfl, fun _ _ => rfl⟩
  exact saveToFile_triple hlog (fsOpen_frame true) fsStat_frame (fsTruncate_frame _)
    (fsWrite_frame content)

end Frame

end Levaware
