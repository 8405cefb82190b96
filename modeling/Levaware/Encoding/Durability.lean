import Levaware.Config.BootRecovery
import Levaware.Encoding.Device

set_option autoImplicit false

/-! # Numeric configuration survives a reboot

On a reliable file system, with the attribute files in place, RAM and flash agree about every number
after every operation: nothing is dirty, and a reboot would load the value RAM has
(`numericConfig_durable`). The invariant `Durable` ties RAM values, dirty flags and file bytes
together; a store and a boot keep it, and every operation is made of those. -/

namespace Levaware

open Abort

/-! ## Flash and RAM in order -/

/-- Every non-ICCID attribute has a file, of any length for a number and short enough for the
    field when it is a string. -/
def Flash.FilesInPlace (fl : Flash) : Prop :=
  ∀ id : DevConfigShadowId, id ≠ .iccid →
    ∃ content, fl id.fileName = some content ∧ (id.valType = .string → content.length < strValLen)

theorem Flash.FilesInPlace.provisioned {fl : Flash} (h : fl.FilesInPlace) : fl.Provisioned := by
  constructor
  · intro id hid
    obtain ⟨content, hc, -⟩ := h id hid
    simp [hc]
  · intro id hid hty content hc
    obtain ⟨content', hc', hlen⟩ := h id hid
    rw [hc] at hc'
    cases hc'
    exact str_fileBuf_fits (hlen hty)

/-- Replacing one file by one that is short enough. -/
theorem Flash.FilesInPlace.update {fl fl' : Flash} (h : fl.FilesInPlace) {id : DevConfigShadowId}
    (hothers : ∀ other, other ≠ id → fl' other.fileName = fl other.fileName)
    (hself : ∃ content, fl' id.fileName = some content ∧
      (id.valType = .string → content.length < strValLen)) : fl'.FilesInPlace := by
  intro other hother
  by_cases heq : other = id
  · exact heq ▸ hself
  · rw [hothers other heq]
    exact h other hother

/-- The table in place, every string ended within its field, and every file there. -/
structure Board.StoreOk (b : Board) : Prop where
  table : b.TableOk
  terminated : ∀ id, (b.attr id).strVal.Terminated
  files : b.flash.FilesInPlace

/-- The two attributes hold the same number, if they are numeric. -/
def DevShadowAttrib.SameNumber (a a' : DevShadowAttrib) : Prop :=
  (a.valType = .int16 → a.int16Val = a'.int16Val) ∧ (a.valType = .int → a.intVal = a'.intVal)

/-- RAM agrees with flash about the numbers, and nothing waits to be saved. -/
structure Board.Durable (b : Board) : Prop where
  store : b.StoreOk
  clean : ∀ id, (b.attr id).isNewVal = false
  number : ∀ id content, b.flash id.fileName = some content →
    (b.attr id).SameNumber ((b.attr id).loadFrom content)

/-- A number read from a file does not depend on what was there before. -/
theorem loadFrom_sameNumber {a a' : DevShadowAttrib} (hty : a.valType = a'.valType)
    (content : List UInt8) : (a.loadFrom content).SameNumber (a'.loadFrom content) := by
  unfold DevShadowAttrib.SameNumber DevShadowAttrib.loadFrom
  rw [← hty]
  cases hv : a.valType with
  | int16 | int => simp
  | string | num | invalid => constructor <;> split_ifs <;> simp [hv]

theorem DevShadowAttrib.SameNumber.trans {a a' a'' : DevShadowAttrib} (h : a.SameNumber a')
    (h' : a'.SameNumber a'') (hty : a.valType = a'.valType) : a.SameNumber a'' :=
  ⟨fun hv => (h.1 hv).trans (h'.1 (hty ▸ hv)), fun hv => (h.2 hv).trans (h'.2 (hty ▸ hv))⟩

/-- The file a request writes loads back to the number requested. -/
theorem withNum_loadFrom {a : DevShadowAttrib} {id : DevConfigShadowId}
    (hty : a.valType = id.valType) (v : Int32) :
    (a.withNum v).SameNumber ((a.withNum v).loadFrom (id.numContent v)) := by
  unfold DevShadowAttrib.SameNumber DevShadowAttrib.loadFrom DevConfigShadowId.numContent
  rw [valType_withNum, ← hty]
  cases hv : a.valType with
  | int16 => simp [DevShadowAttrib.withNum, hv, readInt16_fileBuf]
  | int => simp [DevShadowAttrib.withNum, hv, readInt32_fileBuf]
  | string | num | invalid => simp

theorem sameNumber_of_string {a : DevShadowAttrib} (h : a.valType = .string)
    (a' : DevShadowAttrib) : a.SameNumber a' :=
  ⟨fun hv => by simp [h] at hv, fun hv => by simp [h] at hv⟩

variable {P : Platform} {b b' : Board} {d d' : Device}

theorem Board.StoreOk.of_eq (h : b.StoreOk) (hconfig : b'.config = b.config)
    (hflash : b'.flash = b.flash) : b'.StoreOk := by
  have hattr : b'.attr = b.attr := Board.attr_congr hconfig
  exact ⟨h.table.of_attr_eq hattr, fun id => hattr ▸ h.terminated id, hflash ▸ h.files⟩

theorem Board.Durable.of_eq (h : b.Durable) (hconfig : b'.config = b.config)
    (hflash : b'.flash = b.flash) : b'.Durable := by
  have hattr : b'.attr = b.attr := Board.attr_congr hconfig
  refine ⟨h.store.of_eq hconfig hflash, ?_, ?_⟩
  · rw [hattr]
    exact h.clean
  · rw [hattr, hflash]
    exact h.number

/-! ## A boot establishes it -/

/-- The attribute is its default as it was, or has been loaded from its file. -/
theorem Board.Booted.attr_cases (h : b.powerCycle.Booted b') (hfl : b.flash.FilesInPlace)
    (id : DevConfigShadowId) :
    ∃ a : DevShadowAttrib, a.valType = id.valType ∧ a.isNewVal = false ∧ a.strVal.Terminated ∧
      (id = .iccid ∧ b'.attr id = a ∨
        ∃ content, id ≠ .iccid ∧ b.flash id.fileName = some content ∧
          b'.attr id = a.loadFrom content) := by
  refine ⟨(b.powerCycle.attr id).setDefault id, rfl, rfl,
    setDefault_terminated _ id (CBuf.zero_terminated (by decide)), ?_⟩
  by_cases hid : id = .iccid
  · left
    rw [h.attr, Flash.loaded, if_pos hid]
    exact ⟨hid, rfl⟩
  · right
    obtain ⟨content, hc, -⟩ := hfl id hid
    exact ⟨content, hid, hc, by rw [h.attr, Board.flash_powerCycle, loaded_of_some hid hc]⟩

theorem Board.Booted.storeOk (h : b.powerCycle.Booted b') (hfl : b.flash.FilesInPlace) :
    b'.StoreOk := by
  have hflash : b'.flash = b.flash := h.loadsTo.flash
  refine ⟨h.tableOk, ?_, hflash ▸ hfl⟩
  intro id
  rcases h.attr_cases hfl id with ⟨a, hty, -, hterm, ⟨-, ha⟩ | ⟨content, hid, hc, ha⟩⟩
  · rw [ha]
    exact hterm
  · rw [ha]
    exact loadFrom_terminated (fun hs => hfl.provisioned.fits id hid (hty ▸ hs) content hc) hterm

theorem Board.Booted.durable (h : b.powerCycle.Booted b') (hfl : b.flash.FilesInPlace) :
    b'.Durable := by
  refine ⟨h.storeOk hfl, ?_, ?_⟩
  · intro id
    rcases h.attr_cases hfl id with ⟨a, -, hnew, -, ⟨-, ha⟩ | ⟨content, -, -, ha⟩⟩
    · rw [ha, hnew]
    · rw [ha, isNewVal_loadFrom, hnew]
  · intro id content hc
    rcases h.attr_cases hfl id with ⟨a, hty, -, -, ⟨rfl, ha⟩ | ⟨content', -, hc', ha⟩⟩
    · exact sameNumber_of_string (by rw [ha, hty]; rfl) _
    · rw [h.loadsTo.flash, Board.flash_powerCycle, hc'] at hc
      cases hc
      rw [ha]
      exact loadFrom_sameNumber (valType_loadFrom a _).symm _

/-- What a later boot from the same files loads is what RAM has. -/
theorem Board.Durable.sameNumber_boot (h : b.Durable) (hboot : b.powerCycle.Booted b')
    (id : DevConfigShadowId) : (b.attr id).SameNumber (b'.attr id) := by
  have hb := h.store.table.valType id
  obtain ⟨a, hty, -, -, ⟨rfl, ha⟩ | ⟨content, -, hc, ha⟩⟩ :=
    hboot.attr_cases h.store.files id
  · exact sameNumber_of_string hb _
  · rw [ha]
    exact (h.number id content hc).trans (loadFrom_sameNumber (hb.trans hty.symm) content)
      (valType_loadFrom _ _).symm

/-! ## Serving a request keeps it -/

theorem Board.Durable.serve (h : b.Durable) {id : DevConfigShadowId} (hty : id.valType ≠ .string)
    (r : Option Int32) : (b.serve id r).Durable := by
  cases r with
  | none => exact h
  | some v =>
      have hself : (b.serve id (some v)).attr id = (b.attr id).withNum v := attr_store_self
      have hfile : (b.serve id (some v)).flash id.fileName = some (id.numContent v) :=
        flash_store_self
      have hothers : ∀ {other : DevConfigShadowId}, other ≠ id →
          (b.serve id (some v)).attr other = b.attr other ∧
          (b.serve id (some v)).flash other.fileName = b.flash other.fileName :=
        fun hne => ⟨attr_serve_of_ne hne _, flash_serve_of_ne hne _⟩
      refine ⟨⟨h.store.table.serve id _, fun other => ?_, ?_⟩, fun other => ?_, ?_⟩
      · by_cases hne : other = id
        · subst hne
          rw [hself, strVal_withNum]
          exact h.store.terminated other
        · rw [(hothers hne).1]
          exact h.store.terminated other
      · exact h.store.files.update (fun other hne => (hothers hne).2)
          ⟨_, hfile, fun hs => absurd hs hty⟩
      · by_cases hne : other = id
        · subst hne
          rw [hself, isNewVal_withNum]
        · rw [(hothers hne).1, h.clean other]
      · intro other content hc
        by_cases hne : other = id
        · subst hne
          rw [hfile] at hc
          cases hc
          rw [hself]
          exact withNum_loadFrom (h.store.table.valType other) v
        · rw [(hothers hne).1]
          rw [(hothers hne).2] at hc
          exact h.number other content hc

theorem Board.Durable.serveAll (h : b.Durable) (ids : List DevConfigShadowId)
    (hty : ∀ id ∈ ids, id.valType ≠ .string) (req : DevConfigShadowId → Option Int32) :
    (b.serveAll ids req).Durable := by
  induction ids generalizing b with
  | nil => exact h
  | cons id rest ih =>
      exact ih (h.serve (hty id (List.mem_cons_self ..)) _)
        fun other hother => hty other (List.mem_cons_of_mem _ hother)

/-! ## Every operation keeps it -/

theorem beforeTopic_numeric : ∀ id ∈ beforeTopic ++ [.appType], id.valType ≠ .string := by decide

/-- With nothing dirty there is nothing to save. -/
theorem configSaveAll_clean (h : ∀ id, (b.attr id).isNewVal = false) :
    (configSaveAllAttributesToFile P).run b = .ok 0 b := by
  unfold configSaveAllAttributesToFile
  suffices hall : ∀ ids : List DevConfigShadowId,
      (ids.foldlM (fun _ idx => configSaveAttributeToFile P idx) (0 : Int) : Fw Int).run b
        = .ok 0 b from hall _
  intro ids
  induction ids with
  | nil => rfl
  | cons id rest ih =>
      rw [List.foldlM_cons, run_bind_ok (configSave_clean (h id))]
      exact ih

theorem bootFrom_durable (hP : P.FsReliable) (hfl : b.flash.FilesInPlace) :
    ∃ d, bootFrom P b = some d ∧ d.board.Durable := by
  obtain ⟨d, hboot, hbooted⟩ := bootFrom_total hP hfl.provisioned
  exact ⟨d, hboot, hbooted.durable hfl⟩

theorem configStep_durable (hP : P.FsReliable) (h : d.board.Durable) (op : ConfigOp) :
    ∃ d', configStep P d op = some d' ∧ d'.board.Durable := by
  cases op with
  | shadowMsg msg =>
      rcases configStep_msg_cases hP h.store.table msg with
        ⟨-, d', hstep, hb⟩ | ⟨attributes, version, -, ⟨-, d', hstep, hconfig, hflash⟩ | hstop⟩
      · exact ⟨d', hstep, hb ▸ h⟩
      · exact ⟨d', hstep, (h.serveAll _ beforeTopic_numeric _).of_eq hconfig hflash⟩
      · obtain ⟨-, b, hstep, hflash⟩ := hstop
        rw [hstep]
        have hserved := h.serveAll beforeTopic (by decide) (requested P attributes version)
        exact bootFrom_durable hP (hflash ▸ hserved.store.files)
  | saveAll =>
      exact ⟨d, configStep_saveAll (configSaveAll_clean h.clean), h⟩
  | reboot =>
      rw [configStep_reboot]
      exact bootFrom_durable hP h.store.files

/-! ## Saving one attribute -/

/-- What an attribute in order writes fits its field. -/
theorem Board.StoreOk.content (h : b.StoreOk) (id : DevConfigShadowId) :
    ∃ content, (b.attr id).content = some content ∧
      (id.valType = .string → content.length < strValLen) := by
  have hty := h.table.valType id
  have hshort := (CBuf.terminated_iff _).1 (h.terminated id)
  unfold DevShadowAttrib.content
  rw [hty]
  cases hv : id.valType with
  | int16 => exact ⟨_, rfl, fun hs => by cases hs⟩
  | int => exact ⟨_, rfl, fun hs => by cases hs⟩
  | string => exact ⟨_, rfl, fun _ => hshort⟩
  | num | invalid => cases id <;> cases hv

/-- A save of one attribute, dirty or not, leaves the files of the others alone, and its own file
    short enough for its field. -/
theorem configSave_files (hP : P.FsReliable) (h : b.StoreOk) (id : DevConfigShadowId) :
    ∃ n b', (configSaveAttributeToFile P id).run b = .ok n b' ∧ b'.flash.FilesInPlace ∧
      ∀ other, other ≠ id → b'.flash other.fileName = b.flash other.fileName := by
  cases hnew : (b.attr id).isNewVal with
  | false => exact ⟨0, b, configSave_clean hnew, h.files, fun _ _ => rfl⟩
  | true =>
      obtain ⟨content, hc, hlen⟩ := h.content id
      set b₁ := (b.log (.saveToFile id.fileName content)).setFile id.fileName content
      have hsave : (saveVal P (b.attr id)).run b = .ok content.length b₁ := by
        rw [saveVal_reliable hP hc, h.table.filename]
      have hothers : ∀ other : DevConfigShadowId, other ≠ id →
          b₁.flash other.fileName = b.flash other.fileName := fun other hne =>
        Board.flash_setFile_of_ne fun he => hne (DevConfigShadowId.fileName_injective he)
      have hfiles : b₁.flash.FilesInPlace :=
        h.files.update hothers ⟨content, Board.flash_setFile_self, hlen⟩
      unfold configSaveAttributeToFile
      rw [run_bind_ok (EStateM.run_get b)]
      simp only [hnew, if_true]
      rw [run_bind_ok hsave]
      split
      · exact ⟨_, b₁, rfl, hfiles, hothers⟩
      · exact ⟨_, _, rfl, hfiles, hothers⟩

/-- What a boot makes of an attribute depends on its own file alone. -/
theorem Board.Booted.attr_congr {b₁ b₁' : Board} (h : b.powerCycle.Booted b₁)
    (h' : b'.powerCycle.Booted b₁') {id : DevConfigShadowId}
    (hfile : b'.flash id.fileName = b.flash id.fileName) : b₁'.attr id = b₁.attr id := by
  rw [h.attr, h'.attr]
  unfold Flash.loaded
  rw [Board.flash_powerCycle, Board.flash_powerCycle, hfile]
  rfl

/-! ## The whole run -/

/-- Numeric configuration is durable. From a boot with the attribute files in place, every sequence
    of messages, saves and reboots runs on; after it no number is dirty and a reboot would load the
    numbers RAM has. Whatever values and dirty flags a store in order has, saving one of its
    attributes changes what a reboot would load for that attribute only. -/
theorem numericConfig_durable (P : Platform) (hP : P.FsReliable) :
    (∀ b₀ : Board, b₀.flash.FilesInPlace → ∃ d₀, bootFrom P b₀ = some d₀ ∧
      ∀ ops : List ConfigOp, ∃ d, configRun P d₀ ops = some d ∧ d.board.StoreOk ∧
        (∀ id, (d.board.attr id).isNewVal = false) ∧
        ∃ d', bootFrom P d.board = some d' ∧
          ∀ id, (d.board.attr id).SameNumber (d'.board.attr id)) ∧
    (∀ (b : Board) (id : DevConfigShadowId), b.StoreOk → ∃ n b' d d',
      (configSaveAttributeToFile P id).run b = .ok n b' ∧
      bootFrom P b = some d ∧ bootFrom P b' = some d' ∧
      ∀ other, other ≠ id → d'.board.attr other = d.board.attr other) := by
  constructor
  · intro b₀ hfl
    obtain ⟨d₀, hboot, hdurable⟩ := bootFrom_durable hP hfl
    refine ⟨d₀, hboot, ?_⟩
    intro ops
    obtain ⟨d, hrun, hd⟩ := History.foldlM_total (I := fun d : Device => d.board.Durable)
      (fun _ op h => configStep_durable hP h op) ops hdurable
    obtain ⟨d', hboot', hbooted⟩ := bootFrom_total hP hd.store.files.provisioned
    exact ⟨d, hrun, hd.store, hd.clean, d', hboot', hd.sameNumber_boot hbooted⟩
  · intro b id hb
    obtain ⟨n, b', hsave, hfiles, hothers⟩ := configSave_files hP hb id
    obtain ⟨d, hboot, hbooted⟩ := bootFrom_total hP hb.files.provisioned
    obtain ⟨d', hboot', hbooted'⟩ := bootFrom_total hP hfiles.provisioned
    exact ⟨n, b', d, d', hsave, hboot, hboot', fun other hne =>
      hbooted.attr_congr hbooted' (hothers other hne)⟩

theorem provisioned_filesInPlace : Flash.provisioned.FilesInPlace := by
  intro id hid
  rw [provisioned_attrib hid]
  cases id <;> first | exact absurd rfl hid | exact ⟨_, rfl, by decide⟩

theorem numericConfig_durable_provisioned :
    let P := Platform.ideal [] .null
    ∃ d₀, bootFrom P (.switchedOn Flash.provisioned) = some d₀ ∧
      ∀ ops : List ConfigOp, ∃ d, configRun P d₀ ops = some d ∧ d.board.StoreOk ∧
        (∀ id, (d.board.attr id).isNewVal = false) ∧
        ∃ d', bootFrom P d.board = some d' ∧
          ∀ id, (d.board.attr id).SameNumber (d'.board.attr id) :=
  (numericConfig_durable (.ideal [] .null) (Platform.ideal_reliable _ _)).1 _
    provisioned_filesInPlace

end Levaware
