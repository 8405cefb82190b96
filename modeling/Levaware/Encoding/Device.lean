import Levaware.Config.Loading
import Levaware.Encoding.Envelope
import Levaware.Encoding.Requests
import Levaware.Lib.History

set_option autoImplicit false

/-! # The device from one operation to the next

The configuration is touched by shadow messages, by calls that save everything, and by reboots. An
operation that aborts is a reboot as well, and a reboot runs `config_dev_shadow_attrib_init` on
cleared RAM. A reboot that aborts reboots again with the same flash, so it never gets any further:
such a step has no result. -/

namespace Levaware

open Abort

/-- What the configuration sees happen. -/
inductive ConfigOp where
  | shadowMsg (msg : List UInt8)
  | saveAll
  | reboot

variable (P : Platform)

/-- An operation as firmware: a reboot is an operation that stops. -/
def ConfigOp.run : ConfigOp → DevM Unit
  | .shadowMsg msg => awsDecodeShadowMsg P msg
  | .saveAll => discard <| onBoard (configSaveAllAttributesToFile P)
  | .reboot => throw "sys_reboot"

/-- Start over from the flash. -/
def bootFrom (b : Board) : Option Device :=
  match (configDevShadowAttribInit P).run b.powerCycle with
  | .ok _ b' => some { board := b', outstanding := [] }
  | .error _ _ => none

/-- The device after one operation, and the reboot that an abort is. -/
def configStep (d : Device) (op : ConfigOp) : Option Device :=
  match (op.run P).run d with
  | .ok _ d' => some d'
  | .error _ d' => bootFrom P d'.board

/-- The device after some operations. -/
def configRun (d : Device) (ops : List ConfigOp) : Option Device :=
  ops.foldlM (configStep P) d

/-- The device after some messages. -/
def msgRun (d : Device) (msgs : List (List UInt8)) : Option Device :=
  msgs.foldlM (fun d msg => configStep P d (.shadowMsg msg)) d

/-! ## The store of a new device -/

/-- RAM as the nine blocks of defaults leave it, and each attribute file absent or holding the
    default. -/
structure DefaultStore (b : Board) : Prop where
  attr : ∀ id, b.attr id = (DeviceConfig.cleared.devShadowAttrib id).setDefault id
  file : ∀ id, id ≠ .iccid → ∀ content, b.flash id.fileName = some content →
    (b.attr id).content = some content

theorem factory_defaultStore : DefaultStore Board.factory :=
  ⟨fun _ => rfl, fun _ _ _ h => by cases h⟩

/-! ## One step -/

variable {P} {d : Device} {b : Board}

theorem msgEffect_ok {msg : List UInt8} (h : msgEffect P msg d = .ok () b) :
    ∃ d', (awsDecodeShadowMsg P msg).run d = .ok () d' ∧ d'.board = b := by
  unfold msgEffect at h
  cases hrun : (awsDecodeShadowMsg P msg).run d with
  | ok u d' =>
      simp only [hrun, boardResult, EStateM.Result.ok.injEq, true_and] at h
      exact ⟨d', rfl, h⟩
  | error e d' => simp [hrun, boardResult] at h

theorem msgEffect_error {msg : List UInt8} {e : String} (h : msgEffect P msg d = .error e b) :
    ∃ d', (awsDecodeShadowMsg P msg).run d = .error e d' ∧ d'.board = b := by
  unfold msgEffect at h
  cases hrun : (awsDecodeShadowMsg P msg).run d with
  | ok u d' => simp [hrun, boardResult] at h
  | error e' d' =>
      simp only [hrun, boardResult, EStateM.Result.error.injEq] at h
      exact ⟨d', by rw [h.1], h.2⟩

/-- A message that is processed to its end. -/
theorem configStep_msg_ok {msg : List UInt8} (h : msgEffect P msg d = .ok () b) :
    ∃ d', configStep P d (.shadowMsg msg) = some d' ∧ d'.board = b := by
  obtain ⟨d', hrun, hb⟩ := msgEffect_ok h
  refine ⟨d', ?_, hb⟩
  unfold configStep ConfigOp.run
  rw [hrun]

/-- A message that aborts. -/
theorem configStep_msg_error {msg : List UInt8} {e : String}
    (h : msgEffect P msg d = .error e b) :
    configStep P d (.shadowMsg msg) = bootFrom P b := by
  obtain ⟨d', hrun, hb⟩ := msgEffect_error h
  unfold configStep ConfigOp.run
  rw [hrun, ← hb]

theorem configStep_saveAll {n : Int}
    (h : (configSaveAllAttributesToFile P).run d.board = .ok n b) :
    configStep P d .saveAll = some { d with board := b } := by
  unfold configStep ConfigOp.run onBoard
  rw [run_discard, run_zoom, h]

theorem configStep_reboot : configStep P d .reboot = bootFrom P d.board := rfl

/-- A message on a reliable file system: discarded; served in full; or, when it carries a topic,
    served up to the topic and followed by a reboot. -/
theorem configStep_msg_cases (hP : P.FsReliable) (hT : d.board.TableOk) (msg : List UInt8) :
    (shadowAttributes (P.parseWithLength msg) = none ∧
      ∃ d', configStep P d (.shadowMsg msg) = some d' ∧ d'.board = d.board) ∨
    ∃ attributes version, shadowAttributes (P.parseWithLength msg) = some (attributes, version) ∧
      ((requestedTopic attributes = none ∧ ∃ d', configStep P d (.shadowMsg msg) = some d' ∧
          d'.board.config = (d.board.serveAll (beforeTopic ++ [.appType])
            (requested P attributes version)).config ∧
          d'.board.flash = (d.board.serveAll (beforeTopic ++ [.appType])
            (requested P attributes version)).flash) ∨
        ((requestedTopic attributes).isSome ∧ ∃ b, configStep P d (.shadowMsg msg) = bootFrom P b ∧
          b.flash = (d.board.serveAll beforeTopic (requested P attributes version)).flash)) := by
  cases henv : shadowAttributes (P.parseWithLength msg) with
  | none =>
      exact Or.inl ⟨rfl, configStep_msg_ok (msgEffect_discarded henv)⟩
  | some found =>
      obtain ⟨attributes, version⟩ := found
      refine Or.inr ⟨attributes, version, rfl, ?_⟩
      have heffect := msgEffect_accepted (d := d) henv
      cases htopic : requestedTopic attributes with
      | none =>
          obtain ⟨b, hrun, hconfig, hflash⟩ :=
            awsDecodeShadowValues_noTopic version hP hT htopic
          rw [hrun] at heffect
          obtain ⟨d', hstep, hb⟩ := configStep_msg_ok heffect
          exact Or.inl ⟨rfl, d', hstep, hb ▸ hconfig, hb ▸ hflash⟩
      | some s =>
          obtain ⟨b, hrun, hflash⟩ :=
            awsDecodeShadowValues_topic version hP hT htopic
          rw [hrun] at heffect
          exact Or.inr ⟨rfl, b, configStep_msg_error heffect, hflash⟩

/-! ## Booting -/

/-- A boot that completes has loaded every attribute from its file. -/
theorem bootFrom_booted (hfit : b.flash.FitsWhenReached) (h : bootFrom P b = some d) :
    b.powerCycle.Booted d.board := by
  have htriple : Triple (fun x => x = b.powerCycle) (configDevShadowAttribInit P)
      (fun _ => b.powerCycle.Booted) (fun _ => LoadStop P b.powerCycle) :=
    configDevShadowAttribInit_triple hfit
  unfold bootFrom at h
  cases hrun : (configDevShadowAttribInit P).run b.powerCycle with
  | ok u b' =>
      simp only [hrun, Option.some.injEq] at h
      subst h
      exact htriple.ok rfl hrun
  | error e b' => simp [hrun] at h

/-- With every file in place it completes. -/
theorem bootFrom_total (hP : P.FsReliable) (hfl : b.flash.Provisioned) :
    ∃ d, bootFrom P b = some d ∧ b.powerCycle.Booted d.board := by
  obtain ⟨b', hrun, hbooted⟩ := configDevShadowAttribInit_run (b := b.powerCycle) hP hfl
  refine ⟨{ board := b', outstanding := [] }, ?_, hbooted⟩
  unfold bootFrom
  rw [hrun]

/-! ## The 16-bit numbers -/

/-- The number a message gives an attribute, if its block of the decoder is reached: the one behind
    the topic's is not when there is a topic. -/
def served (P : Platform) (msg : List UInt8) (id : DevConfigShadowId) : Option Int32 :=
  (shadowAttributes (P.parseWithLength msg)).bind fun found =>
    if (requestedTopic found.1).isSome ∧ id ∉ beforeTopic then none
    else requested P found.1 found.2 id

/-- A board that can boot again: the table in place, and the strings in the files fit. -/
structure Board.Bootable (b : Board) : Prop where
  table : b.TableOk
  strings : ∀ id, id ≠ .iccid → b.flash.StringFits id

/-- The file of an `INT16` attribute, if there is one, holds the number RAM has. -/
def Board.InStep (b : Board) (id : DevConfigShadowId) : Prop :=
  ∀ content, b.flash id.fileName = some content → content = int16Bytes (b.attr id).int16Val

/-- What a message makes of an `INT16` attribute: the number served, or what it was. -/
structure Int16Step (P : Platform) (msg : List UInt8) (id : DevConfigShadowId) (b b' : Board) :
    Prop where
  given : ∀ v, served P msg id = some v → (b'.attr id).int16Val = v.toInt16 ∧
    b'.flash id.fileName = some (int16Bytes v.toInt16)
  kept : served P msg id = none → (b'.attr id).int16Val = (b.attr id).int16Val ∧
    b'.flash id.fileName = b.flash id.fileName

theorem Int16Step.inStep {msg : List UInt8} {id : DevConfigShadowId} {b' : Board}
    (h : Int16Step P msg id b b') (hb : b.InStep id) : b'.InStep id := by
  intro content hc
  cases hs : served P msg id with
  | none =>
      obtain ⟨hattr, hflash⟩ := h.kept hs
      rw [hattr]
      exact hb content (hflash ▸ hc)
  | some v =>
      obtain ⟨hattr, hflash⟩ := h.given v hs
      rw [hflash] at hc
      cases hc
      rw [hattr]

theorem Board.Bootable.of_strings {b' : Board} (h : b.Bootable) (hT : b'.TableOk)
    (hflash : ∀ id : DevConfigShadowId, id.valType = .string →
      b'.flash id.fileName = b.flash id.fileName) : b'.Bootable := by
  refine ⟨hT, ?_⟩
  intro id hid hty content hc
  exact h.strings id hid hty content (hflash id hty ▸ hc)

theorem int16_mem {id : DevConfigShadowId} (hty : id.valType = .int16) :
    id ∈ beforeTopic ++ [.appType] := by
  cases id <;> first | decide | cases hty

theorem string_notMem {id : DevConfigShadowId} (hty : id.valType = .string) :
    id ∉ beforeTopic ++ [.appType] := by
  cases id <;> first | decide | cases hty

/-- Serving a request for an `INT16` attribute. -/
theorem serve_int16 (hT : b.TableOk) {id : DevConfigShadowId} (hty : id.valType = .int16)
    (v : Int32) : ((b.serve id (some v)).attr id).int16Val = v.toInt16 ∧
      (b.serve id (some v)).flash id.fileName = some (int16Bytes v.toInt16) := by
  constructor
  · rw [Board.serve, attr_store_self]
    simp [DevShadowAttrib.withNum, hT.valType, hty]
  · rw [Board.serve, flash_store_self]
    simp [DevConfigShadowId.numContent, hty]

/-- What a boot makes of an `INT16` attribute with the bytes of a number in its file. -/
theorem Board.Booted.int16Val {b' : Board} (h : b.powerCycle.Booted b') {id : DevConfigShadowId}
    (hty : id.valType = .int16) {v : Int16} (hc : b.flash id.fileName = some (int16Bytes v)) :
    (b'.attr id).int16Val = v := by
  have hid : id ≠ .iccid := by
    rintro rfl
    cases hty
  rw [h.attr, Board.flash_powerCycle, loaded_of_some hid hc]
  simp [DevShadowAttrib.loadFrom, DevShadowAttrib.setDefault, hty, readInt16_fileBuf]

/-- A message takes every `INT16` attribute that is in step with its file to the number served,
    in RAM and in the file, also when it ends in a reboot. -/
theorem configStep_msg_int16 (hP : P.FsReliable) (hb : d.board.Bootable) {msg : List UInt8}
    {d' : Device} (hstep : configStep P d (.shadowMsg msg) = some d') :
    d'.board.Bootable ∧ ∀ id : DevConfigShadowId, id.valType = .int16 → d.board.InStep id →
      Int16Step P msg id d.board d'.board := by
  rcases configStep_msg_cases hP hb.table msg with
    ⟨henv, d₁, hrun, hboard⟩ |
      ⟨attributes, version, henv, ⟨htopic, d₁, hrun, hconfig, hflash⟩ | hstop⟩
  · rw [hstep] at hrun
    cases hrun
    rw [hboard]
    refine ⟨hb, ?_⟩
    intro id _ _
    have hnone : served P msg id = none := by rw [served, henv, Option.bind_none]
    exact ⟨fun v hv => by simp [hnone] at hv, fun _ => ⟨rfl, rfl⟩⟩
  · rw [hstep] at hrun
    cases hrun
    have hattr : d'.board.attr = (d.board.serveAll (beforeTopic ++ [.appType])
        (requested P attributes version)).attr := Board.attr_congr hconfig
    refine ⟨hb.of_strings ((hb.table.serveAll _ _).of_attr_eq hattr) ?_, ?_⟩
    · intro id hty
      rw [hflash]
      exact (serveAll_of_notMem (string_notMem hty)).2
    · intro id hty _
      have hserved : served P msg id = requested P attributes version id := by
        rw [served, henv, Option.bind_some, htopic]
        exact if_neg fun h => by simpa using h.1
      obtain ⟨hram, hfile⟩ := @serveAll_of_mem d.board id (requested P attributes version)
        (beforeTopic ++ [.appType]) (by decide) (int16_mem hty)
      rw [← hattr, ← hserved] at hram
      rw [← hflash, ← hserved] at hfile
      constructor
      · intro v hv
        rw [hram, hfile, hv]
        exact serve_int16 hb.table hty v
      · intro hnone
        rw [hram, hfile, hnone]
        exact ⟨rfl, rfl⟩
  · obtain ⟨htopic, b, hrun, hflash⟩ := hstop
    rw [hstep] at hrun
    have hstrings : ∀ id, id ≠ .iccid → b.flash.StringFits id := by
      intro id hid hty content hc
      refine hb.strings id hid hty content ?_
      rw [← hc, hflash]
      exact (serveAll_of_notMem fun h => string_notMem hty (List.mem_append_left _ h)).2.symm
    have hbooted := bootFrom_booted (fun id hid _ => hstrings id hid) hrun.symm
    have hsame : d'.board.flash = b.flash := hbooted.loadsTo.flash
    refine ⟨⟨hbooted.tableOk, ?_⟩, ?_⟩
    · rw [hsame]
      exact hstrings
    · intro id hty hin
      have hid : id ≠ .iccid := by
        rintro rfl
        cases hty
      have hfile : b.flash id.fileName
          = (d.board.serve id (served P msg id)).flash id.fileName := by
        rw [hflash, served, henv, Option.bind_some]
        by_cases hmem : id ∈ beforeTopic
        · rw [if_neg fun h => h.2 hmem]
          exact (serveAll_of_mem (by decide) hmem).2
        · rw [if_pos ⟨htopic, hmem⟩]
          exact (serveAll_of_notMem hmem).2
      rw [← hsame] at hfile
      constructor
      · intro v hv
        rw [hv, (serve_int16 hb.table hty v).2] at hfile
        exact ⟨hbooted.int16Val hty (hsame ▸ hfile), hfile⟩
      · intro hnone
        rw [hnone] at hfile
        obtain ⟨content, hc⟩ := Option.isSome_iff_exists.1 (hbooted.present id hid)
        have hold : d.board.flash id.fileName = some content := by
          rw [← hc]
          exact hfile.symm.trans (congrFun hsame _)
        have hnum := hin content hold
        subst hnum
        exact ⟨hbooted.int16Val hty hc, hfile⟩

theorem DefaultStore.bootable (h : DefaultStore b) : b.Bootable where
  table := ⟨fun id => by rw [h.attr]; rfl, fun id => by rw [h.attr]; rfl⟩
  strings id hid hty content hc := by
    have hcontent := h.file id hid content hc
    have hterm : (b.attr id).strVal.Terminated := by
      rw [h.attr]
      exact setDefault_terminated _ id (CBuf.zero_terminated (by decide))
    have hstr : (b.attr id).content = some (b.attr id).strVal.str := by
      have hv : (b.attr id).valType = .string := by
        rw [h.attr]
        exact hty
      simp [DevShadowAttrib.content, hv]
    rw [hstr] at hcontent
    cases hcontent
    exact str_fileBuf_fits ((CBuf.terminated_iff _).1 hterm)

theorem DefaultStore.inStep (h : DefaultStore b) {id : DevConfigShadowId}
    (hty : id.valType = .int16) : b.InStep id := by
  have hid : id ≠ .iccid := by
    rintro rfl
    cases hty
  have hv : (b.attr id).valType = .int16 := by
    rw [h.attr]
    exact hty
  intro content hc
  have hcontent := h.file id hid content hc
  simp only [DevShadowAttrib.content, hv, Option.some.injEq] at hcontent
  exact hcontent.symm

end Levaware
