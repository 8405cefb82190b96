import Levaware.Encoding.Durability
import Levaware.Lib.WriteBack

set_option autoImplicit false

/-! # The numeric configuration as registers

On files that can be relied on, and for every order of sets, saves and reboots, the numbers of the
configuration are registers in front of a disk (`configStore_refines`): the attribute table is the
memory, `is_new_val` the mark, the files are the disk. So the attributes do not influence each
other, and what a reboot loads is what was last set to be saved and then saved. -/

namespace Levaware

open Abort WriteBack

variable {P : Platform} {b b' : Board} {id : DevConfigShadowId} {a a' : DevShadowAttrib}
  {content : List UInt8}

/-! ## The registers of a board -/

/-- The number of an attribute, in the field its type uses. -/
def DevShadowAttrib.number (a : DevShadowAttrib) : Int :=
  match a.valType with
  | .int16 => a.int16Val.toInt
  | .int => a.intVal.toInt
  | _ => 0

/-- The number that a boot would read from the file. -/
def Board.fileNumber (b : Board) (id : DevConfigShadowId) : Int :=
  match b.flash id.fileName with
  | some content => ((b.attr id).loadFrom content).number
  | none => 0

def Board.bank (b : Board) : Bank DevConfigShadowId Int := fun id =>
  { ram := (b.attr id).number, dirty := (b.attr id).isNewVal, disk := b.fileNumber id }

theorem number_of_string (h : a.valType = .string) : a.number = 0 := by
  simp [DevShadowAttrib.number, h]

theorem DevShadowAttrib.SameNumber.number_eq (h : a.SameNumber a') (hty : a.valType = a'.valType) :
    a.number = a'.number := by
  unfold DevShadowAttrib.number
  rw [← hty]
  cases hv : a.valType with
  | int16 => exact congrArg Int16.toInt (h.1 hv)
  | int => exact congrArg Int32.toInt (h.2 hv)
  | string | num | invalid => rfl

theorem number_loadFrom (hty : a.valType = a'.valType) (content : List UInt8) :
    (a.loadFrom content).number = (a'.loadFrom content).number :=
  (loadFrom_sameNumber hty content).number_eq (by simp [hty])

/-- What a save of a number writes reads back as the number. -/
theorem number_loadFrom_content (hc : a.content = some content) :
    (a.loadFrom content).number = a.number := by
  unfold DevShadowAttrib.number
  rw [valType_loadFrom]
  unfold DevShadowAttrib.content at hc
  unfold DevShadowAttrib.loadFrom
  cases hv : a.valType with
  | int16 =>
      simp only [hv, Option.some.injEq] at hc
      rw [← hc, readInt16_fileBuf]
  | int =>
      simp only [hv, Option.some.injEq] at hc
      rw [← hc, readInt32_fileBuf]
  | string | num | invalid => rfl

/-- A board that differs in one attribute and its file. -/
theorem bank_update (hattr : ∀ other, other ≠ id → b'.attr other = b.attr other)
    (hflash : ∀ other : DevConfigShadowId, other ≠ id →
      b'.flash other.fileName = b.flash other.fileName) :
    b'.bank = Function.update b.bank id (b'.bank id) := by
  funext other
  by_cases hne : other = id
  · subst hne
    rw [Function.update_self]
  · rw [Function.update_of_ne hne]
    unfold Board.bank Board.fileNumber
    rw [hattr other hne, hflash other hne]

theorem bank_setAttr (hty : a.valType = (b.attr id).valType) :
    (b.setAttr id a).bank
      = Function.update b.bank id ⟨a.number, a.isNewVal, b.fileNumber id⟩ := by
  rw [bank_update (fun other hne => Board.attr_setAttr_of_ne hne) fun other _ => rfl]
  congr 1
  unfold Board.bank Board.fileNumber
  rw [Board.attr_setAttr_self]
  congr 1
  show (match b.flash id.fileName with
    | some content => (a.loadFrom content).number
    | none => 0) = _
  cases b.flash id.fileName with
  | none => rfl
  | some content => exact number_loadFrom hty content

theorem bank_store : (b.store id a content).bank
    = Function.update b.bank id ⟨a.number, a.isNewVal, (a.loadFrom content).number⟩ := by
  rw [bank_update (fun other hne => attr_store_of_ne hne)
    fun other hne => flash_store_fileName_of_ne hne]
  congr 1
  unfold Board.bank Board.fileNumber
  rw [attr_store_self, flash_store_self]

/-! ## Boards in order -/

/-- The store is in order, and no string waits to be saved: only numbers are ever set. -/
structure Board.Ready (b : Board) : Prop where
  store : b.StoreOk
  strings : ∀ id, id.valType = .string → (b.attr id).isNewVal = false

theorem Board.Durable.ready (h : b.Durable) : b.Ready := ⟨h.store, fun id _ => h.clean id⟩

/-- Changing the number and the mark of a numeric attribute. -/
theorem Board.Ready.setAttr (h : b.Ready) (hnum : id.valType ≠ .string)
    (hty : a.valType = (b.attr id).valType) (hfn : a.filename = (b.attr id).filename)
    (hstr : a.strVal = (b.attr id).strVal) : (b.setAttr id a).Ready := by
  have hcases : ∀ other, (b.setAttr id a).attr other = if other = id then a else b.attr other := by
    intro other
    by_cases hne : other = id
    · subst hne
      rw [Board.attr_setAttr_self, if_pos rfl]
    · rw [Board.attr_setAttr_of_ne hne, if_neg hne]
  refine ⟨⟨h.store.table.setAttr (hty.trans (h.store.table.valType id))
    (hfn.trans (h.store.table.filename id)), ?_, h.store.files⟩, ?_⟩
  · intro other
    rw [hcases]
    split
    · rw [hstr]
      exact h.store.terminated id
    · exact h.store.terminated other
  · intro other hother
    have hne : other ≠ id := by
      rintro rfl
      exact hnum hother
    rw [hcases, if_neg hne]
    exact h.strings other hother

theorem Board.Ready.of_file (h : b.Ready) (hnum : id.valType ≠ .string) (e : Effect) :
    ((b.log e).setFile id.fileName content).Ready := by
  refine ⟨⟨h.store.table.of_attr_eq rfl, h.store.terminated, ?_⟩, h.strings⟩
  have hothers : ∀ other : DevConfigShadowId, other ≠ id →
      ((b.log e).setFile id.fileName content).flash other.fileName = b.flash other.fileName :=
    fun other hne =>
      Board.flash_setFile_of_ne fun he => hne (DevConfigShadowId.fileName_injective he)
  exact h.store.files.update hothers
    ⟨content, Board.flash_setFile_self, fun hs => absurd hs hnum⟩

/-! ## Each call of the interface -/

/-- A save is a flush. -/
theorem configSave_flush (hP : P.FsReliable) (h : b.Ready) (id : DevConfigShadowId) :
    ∃ n b', (configSaveAttributeToFile P id).run b = .ok n b' ∧ b'.Ready ∧
      b'.bank = WriteBack.step b.bank (.on id .flush) := by
  cases hnew : (b.attr id).isNewVal with
  | false =>
      refine ⟨0, b, configSave_clean hnew, h, ?_⟩
      have hclean : (b.bank id).dirty = false := hnew
      rw [WriteBack.step, Cell.step_flush_of_clean hclean, Function.update_eq_self]
  | true =>
      have hnum : id.valType ≠ .string := fun hs => by
        rw [h.strings id hs] at hnew
        cases hnew
      obtain ⟨content, hc, -⟩ := h.store.content id
      have hne : content ≠ [] := by
        intro hempty
        have hlen := congrArg (Option.map List.length) hc
        unfold DevShadowAttrib.content at hlen
        rw [hempty, h.store.table.valType id] at hlen
        cases hv : id.valType <;> simp [hv] at hlen
        exact hnum hv
      refine ⟨0, _, configSave_dirty hP h.store.table hnew hc hne, ?_, ?_⟩
      · exact (h.of_file hnum _).setAttr hnum rfl rfl rfl
      · have hdirty : (b.bank id).dirty = true := hnew
        rw [WriteBack.step, Cell.step_flush_of_dirty hdirty, bank_store]
        congr 1
        have hsame : ({ b.attr id with isNewVal := false } : DevShadowAttrib).content
            = some content := hc
        rw [number_loadFrom_content hsame]
        rfl

theorem configSaves_flush (hP : P.FsReliable) (h : b.Ready) (ids : List DevConfigShadowId)
    (n : Int) :
    ∃ n' b', (ids.foldlM (fun _ idx => configSaveAttributeToFile P idx) n).run b = .ok n' b' ∧
      b'.Ready ∧ b'.bank = WriteBack.run b.bank (ids.map fun idx => .on idx .flush) := by
  induction ids generalizing b n with
  | nil => exact ⟨n, b, rfl, h, rfl⟩
  | cons id rest ih =>
      obtain ⟨n₁, b₁, hrun₁, hready₁, hbank₁⟩ := configSave_flush hP h id
      obtain ⟨n₂, b₂, hrun₂, hready₂, hbank₂⟩ := ih hready₁ n₁
      refine ⟨n₂, b₂, ?_, hready₂, ?_⟩
      · rw [List.foldlM_cons, run_bind_ok hrun₁]
        exact hrun₂
      · rw [hbank₂, hbank₁]
        rfl

/-- A boot is a crash, whatever RAM had. -/
theorem bootFrom_crash (hP : P.FsReliable) (h : b.Ready) (hflash : b'.flash = b.flash) :
    ∃ d, bootFrom P b' = some d ∧ d.board.Ready ∧
      d.board.bank = WriteBack.step b.bank .crash := by
  have hT := h.store.table
  have hfl : b'.flash.FilesInPlace := hflash ▸ h.store.files
  obtain ⟨d, hboot, hbooted⟩ := bootFrom_total hP hfl.provisioned
  refine ⟨d, hboot, (hbooted.durable hfl).ready, ?_⟩
  have hsame : d.board.flash = b.flash := hbooted.loadsTo.flash.trans hflash
  funext id
  have hdisk : d.board.fileNumber id = b.fileNumber id := by
    unfold Board.fileNumber
    rw [hsame]
    cases b.flash id.fileName with
    | none => rfl
    | some content =>
        exact number_loadFrom ((hbooted.tableOk.valType id).trans (hT.valType id).symm) content
  have hram : (d.board.attr id).number = b.fileNumber id := by
    obtain ⟨a, hty, -, -, ⟨rfl, ha⟩ | ⟨content, hid, hc, ha⟩⟩ := hbooted.attr_cases hfl id
    · have hstring := hT.valType .iccid
      rw [ha, number_of_string hty, Board.fileNumber]
      cases b.flash DevConfigShadowId.iccid.fileName with
      | none => rfl
      | some content => exact (number_of_string (by rw [valType_loadFrom, hstring]; rfl)).symm
    · rw [hflash] at hc
      rw [ha, Board.fileNumber, hc]
      exact number_loadFrom (hty.trans (hT.valType id).symm) content
  unfold Board.bank WriteBack.step Cell.step
  rw [hram, hdisk, hbooted.clean]

/-- Setting a string ends in a reboot, and nothing of the string gets to the files. -/
theorem configSetStr_aborts (index : DevConfigShadowId) (val : CString) (isNewVal : Bool)
    (b : Board) : ∃ reason b', (configSetStr P index val isNewVal).run b = .error reason b' ∧
      b'.flash = b.flash := by
  by_cases hval : 0 < val.bytes.length
  · have htriple := configSetStr_triple (P := P) b index val isNewVal hval b rfl
    cases hrun : (configSetStr P index val isNewVal).run b with
    | ok u b' =>
        rw [hrun] at htriple
        exact htriple.elim
    | error reason b' =>
        rw [hrun] at htriple
        exact ⟨reason, b', rfl, htriple.2.flash⟩
  · refine ⟨"config.c - set_str range index", b, ?_, rfl⟩
    unfold configSetStr
    rw [if_neg fun h => hval h.2]
    rfl

/-! ## Runs of the interface -/

/-- A call of the interface of `config.c`, with the type of the attribute that the callers respect,
    or a reboot. The readers change nothing. -/
inductive StoreOp where
  | setInt16 (index : DevConfigShadowId) (hty : index.valType = .int16) (val : Int16)
      (isNewVal : Bool)
  | setInt (index : DevConfigShadowId) (hty : index.valType = .int) (val : Int32) (isNewVal : Bool)
  | setStr (index : DevConfigShadowId) (val : CString) (isNewVal : Bool)
  | save (idx : DevConfigShadowId)
  | saveAll
  | reboot

def StoreOp.run (P : Platform) : StoreOp → Fw Unit
  | .setInt16 index _ val isNewVal => configSetInt16 index val isNewVal
  | .setInt index _ val isNewVal => configSetInt index val isNewVal
  | .setStr index val isNewVal => configSetStr P index val isNewVal
  | .save idx => discard <| configSaveAttributeToFile P idx
  | .saveAll => discard <| configSaveAllAttributesToFile P
  | .reboot => throw "sys_reboot"

/-- The board after a call, and the boot after an abort. -/
def storeStep (P : Platform) (b : Board) (op : StoreOp) : Option Board :=
  match (op.run P).run b with
  | .ok _ b' => some b'
  | .error _ b' => (bootFrom P b').map Device.board

def storeRun (P : Platform) (b : Board) (ops : List StoreOp) : Option Board :=
  ops.foldlM (storeStep P) b

/-- What the registers see of a call. -/
def StoreOp.registers : StoreOp → List (Op DevConfigShadowId Int)
  | .setInt16 index _ val isNewVal => [.on index (.write val.toInt isNewVal)]
  | .setInt index _ val isNewVal => [.on index (.write val.toInt isNewVal)]
  | .save idx => [.on idx .flush]
  | .saveAll => DevConfigShadowId.all.map fun idx => .on idx .flush
  | .setStr .. | .reboot => [.crash]

def registerOps (ops : List StoreOp) : List (Op DevConfigShadowId Int) :=
  ops.flatMap StoreOp.registers

/-- The value a call sets an attribute to, and whether it is to be saved. -/
def StoreOp.sets? (id : DevConfigShadowId) : StoreOp → Option (Int × Bool)
  | .setInt16 index _ val isNewVal => if index = id then some (val.toInt, isNewVal) else none
  | .setInt index _ val isNewVal => if index = id then some (val.toInt, isNewVal) else none
  | .setStr .. | .save _ | .saveAll | .reboot => none

theorem storeStep_registers (hP : P.FsReliable) (h : b.Ready) (op : StoreOp) :
    ∃ b', storeStep P b op = some b' ∧ b'.Ready ∧
      b'.bank = WriteBack.run b.bank op.registers := by
  unfold storeStep StoreOp.run
  cases op with
  | setInt16 index hty val isNewVal =>
      dsimp only
      rw [configSetInt16_run]
      refine ⟨_, rfl, h.setAttr (by simp [hty]) rfl rfl rfl, ?_⟩
      have hv := (h.store.table.valType index).trans hty
      have hkeep : ({ b.attr index with int16Val := val, isNewVal } : DevShadowAttrib).valType
          = (b.attr index).valType := rfl
      refine (bank_setAttr hkeep).trans ?_
      simp [StoreOp.registers, WriteBack.run, WriteBack.step, Cell.step, DevShadowAttrib.number,
        Board.bank, hv]
  | setInt index hty val isNewVal =>
      dsimp only
      rw [configSetInt_run]
      refine ⟨_, rfl, h.setAttr (by simp [hty]) rfl rfl rfl, ?_⟩
      have hv := (h.store.table.valType index).trans hty
      have hkeep : ({ b.attr index with intVal := val, isNewVal } : DevShadowAttrib).valType
          = (b.attr index).valType := rfl
      refine (bank_setAttr hkeep).trans ?_
      simp [StoreOp.registers, WriteBack.run, WriteBack.step, Cell.step, DevShadowAttrib.number,
        Board.bank, hv]
  | save idx =>
      obtain ⟨n, b', hrun, hready, hbank⟩ := configSave_flush hP h idx
      dsimp only
      rw [run_discard, hrun]
      exact ⟨b', rfl, hready, hbank⟩
  | saveAll =>
      obtain ⟨n, b', hrun, hready, hbank⟩ := configSaves_flush hP h DevConfigShadowId.all 0
      dsimp only
      rw [run_discard, configSaveAllAttributesToFile, hrun]
      exact ⟨b', rfl, hready, hbank⟩
  | setStr index val isNewVal =>
      obtain ⟨reason, b', hrun, hflash⟩ := configSetStr_aborts (P := P) index val isNewVal b
      obtain ⟨d, hboot, hready, hbank⟩ := bootFrom_crash hP h hflash
      refine ⟨d.board, ?_, hready, hbank⟩
      dsimp only
      rw [hrun]
      exact congrArg (Option.map Device.board) hboot
  | reboot =>
      obtain ⟨d, hboot, hready, hbank⟩ := bootFrom_crash hP h rfl
      exact ⟨d.board, congrArg (Option.map Device.board) hboot, hready, hbank⟩

theorem storeRun_registers (hP : P.FsReliable) (h : b.Ready) (ops : List StoreOp) :
    ∃ b', storeRun P b ops = some b' ∧ b'.Ready ∧
      b'.bank = WriteBack.run b.bank (registerOps ops) := by
  induction ops generalizing b with
  | nil => exact ⟨b, rfl, h, rfl⟩
  | cons op rest ih =>
      obtain ⟨b₁, hstep, hready₁, hbank₁⟩ := storeStep_registers hP h op
      obtain ⟨b₂, hrun, hready₂, hbank₂⟩ := ih hready₁
      refine ⟨b₂, ?_, hready₂, ?_⟩
      · unfold storeRun
        rw [List.foldlM_cons, hstep]
        exact hrun
      · rw [hbank₂, hbank₁, ← WriteBack.run_append]
        rfl

/-- For every order of sets, saves and reboots from a store in order: the board always comes up
    again, and the numbers of the configuration are where registers in front of a disk would be;
    each is where it would be if the others were not there. Setting a string is to the numbers a
    reboot. -/
theorem configStore_refines (P : Platform) (hP : P.FsReliable) (b : Board) (hb : b.Ready)
    (ops : List StoreOp) :
    ∃ b', storeRun P b ops = some b' ∧ b'.Ready ∧
      b'.bank = WriteBack.run b.bank (registerOps ops) ∧
      ∀ id, b'.bank id = (b.bank id).run ((registerOps ops).filterMap (Op.seenBy id)) := by
  obtain ⟨b', hrun, hready, hbank⟩ := storeRun_registers hP hb ops
  exact ⟨b', hrun, hready, hbank, fun id => by rw [hbank, WriteBack.run_apply]⟩

theorem provisioned_ready : Board.provisioned.Ready := by
  refine ⟨⟨⟨fun _ => rfl, fun _ => rfl⟩, fun id => ?_, provisioned_filesInPlace⟩, fun _ _ => rfl⟩
  exact setDefault_terminated _ id (CBuf.zero_terminated (by decide))

theorem configStore_refines_provisioned :
    let ops : List StoreOp := [.setInt16 .daqIntervalS rfl 90 true, .setInt .confVersion rfl 4 true,
      .save .daqIntervalS, .reboot]
    ∃ b', storeRun (.ideal [] .null) .provisioned ops = some b' ∧ b'.Ready ∧
      b'.bank = WriteBack.run Board.provisioned.bank (registerOps ops) ∧
      ∀ id, b'.bank id
        = (Board.provisioned.bank id).run ((registerOps ops).filterMap (Op.seenBy id)) :=
  configStore_refines (.ideal [] .null) (Platform.ideal_reliable _ _) .provisioned
    provisioned_ready _

theorem seen_set {id : DevConfigShadowId} {op : StoreOp} {v : Int} {mark : Bool}
    (h : op.sets? id = some (v, mark)) :
    op.registers.filterMap (Op.seenBy id) = [.write v mark] := by
  cases op with
  | setInt16 index hty val isNewVal | setInt index hty val isNewVal =>
      by_cases hid : index = id
      · simp_all [StoreOp.sets?, StoreOp.registers, Op.seenBy]
      · simp [StoreOp.sets?, hid] at h
  | setStr | save | saveAll | reboot => cases h

/-- What an attribute sees of calls that do not set it to be saved. -/
theorem unmarked_of_sets {id : DevConfigShadowId} {ops : List StoreOp}
    (h : ∀ op ∈ ops, ∀ v, op.sets? id ≠ some (v, true)) :
    Cell.Unmarked ((registerOps ops).filterMap (Op.seenBy id)) := by
  intro w hw
  obtain ⟨r, hr, hseen⟩ := List.mem_filterMap.1 hw
  obtain ⟨op, hop, hr⟩ := List.mem_flatMap.1 hr
  refine h op hop w ?_
  cases op with
  | setInt16 index hty val isNewVal | setInt index hty val isNewVal =>
      simp only [StoreOp.registers, List.mem_singleton] at hr
      subst hr
      by_cases hid : index = id
      · simp_all [Op.seenBy, StoreOp.sets?]
      · simp [Op.seenBy, hid] at hseen
  | save idx =>
      simp only [StoreOp.registers, List.mem_singleton] at hr
      subst hr
      simp [Op.seenBy] at hseen
  | saveAll =>
      obtain ⟨idx, -, rfl⟩ := List.mem_map.1 hr
      simp [Op.seenBy] at hseen
  | setStr | reboot =>
      simp only [StoreOp.registers, List.mem_singleton] at hr
      subst hr
      simp [Op.seenBy] at hseen

/-- Last saved, first loaded, on files that can be relied on and from a board in order: whatever was
    called before, once an attribute is set to be saved and saved right after, every reboot loads
    that number until the attribute is again set to be saved; sets that are not to be saved, other
    attributes, saves and reboots in between make no difference. -/
theorem lastSaved_survives (P : Platform) (hP : P.FsReliable) (b : Board) (hb : b.Ready)
    (id : DevConfigShadowId) (v : Int) (before after : List StoreOp) (op : StoreOp)
    (hop : op.sets? id = some (v, true))
    (hafter : ∀ o ∈ after, ∀ w, o.sets? id ≠ some (w, true)) :
    ∃ b', storeRun P b (before ++ op :: .save id :: after ++ [.reboot]) = some b' ∧
      (b'.attr id).number = v := by
  obtain ⟨b', hrun, -, hbank⟩ :=
    storeRun_registers hP hb (before ++ op :: .save id :: after ++ [.reboot])
  refine ⟨b', hrun, ?_⟩
  have hseen : (registerOps (before ++ op :: .save id :: after ++ [.reboot])).filterMap
      (Op.seenBy id) = ((registerOps before).filterMap (Op.seenBy id) ++
        .write v true :: .flush :: (registerOps after).filterMap (Op.seenBy id)) ++ [.crash] := by
    have hsave : (StoreOp.save id).registers.filterMap (Op.seenBy id) = [.flush] := by
      simp [StoreOp.registers, Op.seenBy]
    have hreboot : StoreOp.reboot.registers.filterMap (Op.seenBy id) = [.crash] := rfl
    simp only [registerOps, List.flatMap_append, List.flatMap_cons, List.flatMap_nil,
      List.filterMap_append, seen_set hop, hsave, hreboot]
    simp
  have hram : (b'.attr id).number = (b'.bank id).ram := rfl
  rw [hram, hbank, WriteBack.run_apply, hseen, Cell.run_append]
  exact Cell.disk_of_flushed _ _ _ v (unmarked_of_sets hafter)

theorem lastSaved_survives_provisioned :
    ∃ b', storeRun (.ideal [] .null) .provisioned
      ([.saveAll] ++ .setInt16 .daqIntervalS rfl 90 true :: .save .daqIntervalS ::
        [.setInt16 .daqIntervalS rfl 60 false, .saveAll] ++ [.reboot]) = some b' ∧
      (b'.attr .daqIntervalS).number = 90 :=
  lastSaved_survives (.ideal [] .null) (Platform.ideal_reliable _ _) .provisioned
    provisioned_ready .daqIntervalS 90 [.saveAll] [.setInt16 .daqIntervalS rfl 60 false, .saveAll]
    (.setInt16 .daqIntervalS rfl 90 true) rfl (by simp [StoreOp.sets?])

end Levaware
