import Levaware.Encoding.AwsDecoding
import Levaware.Config.Readers

set_option autoImplicit false

/-! # A shadow message as a set of requests

What an attributes object asks for, apart from the topic: at most one number for each numeric
attribute, already checked and pegged (`requested`). On a reliable file system
`aws_decode_shadow_values` serves these requests one by one, each by a set and a save
(`awsDecodeShadowValues_run`); a topic stops it before the application type. -/

namespace Levaware

open Abort

variable (P : Platform)

/-- The number a message gives to each attribute, after the checks of its block. -/
def requested (attributes : Option CJson) (version : Int32) : DevConfigShadowId → Option Int32
  | .confVersion => if 0 < version then some version else none
  | .confUpdateIntervalS =>
      (CJson.number? (CJson.getObjectItem attributes "config_interval_s")).map
        (pegInterval minuteSeconds)
  | .daqIntervalS =>
      (CJson.number? (CJson.getObjectItem attributes "daq_interval_s")).map
        (pegInterval daqIntervalMinimumS)
  | .pubIntervalS =>
      (CJson.number? (CJson.getObjectItem attributes "pub_interval_s")).map
        (pegInterval pubIntervalMinimumS)
  | .sensorType =>
      (CJson.number? (CJson.getObjectItem attributes "sensor_type")).filter fun v =>
        ExternalSensor.unknown.toNat < P.toEnum v ∧ P.toEnum v < ExternalSensor.invalid.toNat
  | .appType =>
      (CJson.number? (CJson.getObjectItem attributes "app_type")).filter fun v =>
        AppId.unknown.toNat < P.toEnum v ∧ P.toEnum v < AppId.num.toNat
  | .iccid | .pubTopic | .subTopic => none

/-- The non-empty topic a message carries. -/
def requestedTopic (attributes : Option CJson) : Option CString :=
  (CJson.string? (CJson.getObjectItem attributes "topic")).filter fun s => 0 < s.bytes.length

/-! ## Serving one request -/

/-- The attribute with that number in the field its type uses, saved. -/
def DevShadowAttrib.withNum (a : DevShadowAttrib) (v : Int32) : DevShadowAttrib :=
  match a.valType with
  | .int => { a with intVal := v, isNewVal := false }
  | _ => { a with int16Val := v.toInt16, isNewVal := false }

/-- The file of a number, by the type of the attribute. -/
def DevConfigShadowId.numContent (id : DevConfigShadowId) (v : Int32) : List UInt8 :=
  match id.valType with
  | .int => int32Bytes v
  | _ => int16Bytes v.toInt16

/-- The board after the request for one attribute, if there is one. -/
def Board.serve (b : Board) (id : DevConfigShadowId) : Option Int32 → Board
  | some v => b.store id ((b.attr id).withNum v) (id.numContent v)
  | none => b

/-- The board after the requests for these attributes, in this order. -/
def Board.serveAll (b : Board) (ids : List DevConfigShadowId)
    (req : DevConfigShadowId → Option Int32) : Board :=
  ids.foldl (fun b id => b.serve id (req id)) b

/-- The board after the decoder's notice about an application type it has served: the comparison
    with the file it has just written says "same" if a `char` holds the number. -/
def Board.notice (P : Platform) (b : Board) : Option Int32 → Board
  | some v => if P.InCharRange v.toInt16 then b.log (.appTypeChanged v) else b
  | none => b

@[simp] theorem config_notice (P : Platform) (b : Board) (r : Option Int32) :
    (b.notice P r).config = b.config := by
  unfold Board.notice
  split
  · split <;> rfl
  · rfl

theorem trace_notice (P : Platform) (b : Board) (r : Option Int32) :
    ∃ notice, (b.notice P r).trace = b.trace ++ notice ∧ ∀ name content,
      Effect.saveToFile name content ∉ notice := by
  unfold Board.notice
  split
  · split
    · exact ⟨_, rfl, by simp⟩
    · exact ⟨[], by simp, by simp⟩
  · exact ⟨[], by simp, by simp⟩

@[simp] theorem flash_notice (P : Platform) (b : Board) (r : Option Int32) :
    (b.notice P r).flash = b.flash := by
  unfold Board.notice
  split
  · split <;> rfl
  · rfl

@[simp] theorem valType_withNum (a : DevShadowAttrib) (v : Int32) :
    (a.withNum v).valType = a.valType := by
  unfold DevShadowAttrib.withNum
  split <;> rfl

@[simp] theorem filename_withNum (a : DevShadowAttrib) (v : Int32) :
    (a.withNum v).filename = a.filename := by
  unfold DevShadowAttrib.withNum
  split <;> rfl

@[simp] theorem isNewVal_withNum (a : DevShadowAttrib) (v : Int32) :
    (a.withNum v).isNewVal = false := by
  unfold DevShadowAttrib.withNum
  split <;> rfl

@[simp] theorem strVal_withNum (a : DevShadowAttrib) (v : Int32) :
    (a.withNum v).strVal = a.strVal := by
  unfold DevShadowAttrib.withNum
  split <;> rfl

section Serve

variable {b : Board} {id id' : DevConfigShadowId} {req : DevConfigShadowId → Option Int32}
  {ids : List DevConfigShadowId}

theorem Board.TableOk.serve (hT : b.TableOk) (id : DevConfigShadowId) (r : Option Int32) :
    (b.serve id r).TableOk := by
  cases r with
  | none => exact hT
  | some v => exact hT.store (by simp [hT.valType]) (by simp [hT.filename])

theorem attr_serve_of_ne (h : id' ≠ id) (r : Option Int32) :
    (b.serve id r).attr id' = b.attr id' := by
  cases r with
  | none => rfl
  | some v => exact attr_store_of_ne h

theorem flash_serve_of_ne (h : id' ≠ id) (r : Option Int32) :
    (b.serve id r).flash id'.fileName = b.flash id'.fileName := by
  cases r with
  | none => rfl
  | some v => exact flash_store_fileName_of_ne h

theorem Board.TableOk.serveAll (hT : b.TableOk) (ids : List DevConfigShadowId)
    (req : DevConfigShadowId → Option Int32) : (b.serveAll ids req).TableOk := by
  induction ids generalizing b with
  | nil => exact hT
  | cons id rest ih => exact ih (hT.serve id (req id))

/-- An attribute not on the list is not touched. -/
theorem serveAll_of_notMem (h : id ∉ ids) :
    (b.serveAll ids req).attr id = b.attr id ∧
    (b.serveAll ids req).flash id.fileName = b.flash id.fileName := by
  induction ids generalizing b with
  | nil => exact ⟨rfl, rfl⟩
  | cons first rest ih =>
      obtain ⟨hne, hrest⟩ := not_or.1 (fun hor => h (List.mem_cons.2 hor))
      obtain ⟨hattr, hflash⟩ := ih (b := b.serve first (req first)) hrest
      exact ⟨hattr.trans (attr_serve_of_ne hne _), hflash.trans (flash_serve_of_ne hne _)⟩

/-- What a request makes of its attribute depends on that attribute and its file alone. -/
theorem serve_congr {b' : Board} (hattr : b'.attr id = b.attr id)
    (hflash : b'.flash id.fileName = b.flash id.fileName) (r : Option Int32) :
    (b'.serve id r).attr id = (b.serve id r).attr id ∧
    (b'.serve id r).flash id.fileName = (b.serve id r).flash id.fileName := by
  cases r with
  | none => exact ⟨hattr, hflash⟩
  | some v =>
      simp only [Board.serve]
      rw [attr_store_self, attr_store_self, flash_store_self, flash_store_self, hattr]
      exact ⟨rfl, rfl⟩

/-- An attribute on the list ends as its own request leaves it, whatever the others do. -/
theorem serveAll_of_mem (hnodup : ids.Nodup) (h : id ∈ ids) :
    (b.serveAll ids req).attr id = (b.serve id (req id)).attr id ∧
    (b.serveAll ids req).flash id.fileName = (b.serve id (req id)).flash id.fileName := by
  induction ids generalizing b with
  | nil => exact absurd h (by simp)
  | cons first rest ih =>
      obtain ⟨hfirst, hrest⟩ := List.nodup_cons.1 hnodup
      rcases List.mem_cons.1 h with rfl | hmem
      · exact serveAll_of_notMem hfirst
      · have hne : id ≠ first := fun he => hfirst (he ▸ hmem)
        obtain ⟨hattr, hflash⟩ := ih (b := b.serve first (req first)) hrest hmem
        obtain ⟨hattr', hflash'⟩ := serve_congr (attr_serve_of_ne hne _)
          (flash_serve_of_ne hne _) (req id)
        exact ⟨hattr.trans hattr', hflash.trans hflash'⟩

/-- The request would change neither the attribute nor its file. -/
def Board.Holds (b : Board) (id : DevConfigShadowId) (r : Option Int32) : Prop :=
  ∀ v, r = some v → b.attr id = (b.attr id).withNum v ∧
    b.flash id.fileName = some (id.numContent v)

/-- Setting the same number again. -/
theorem withNum_withNum (a : DevShadowAttrib) (v : Int32) :
    (a.withNum v).withNum v = a.withNum v := by
  unfold DevShadowAttrib.withNum
  cases hty : a.valType <;> simp

theorem serve_holds (b : Board) (id : DevConfigShadowId) (r : Option Int32) :
    (b.serve id r).Holds id r := by
  rintro v rfl
  refine ⟨?_, flash_store_self⟩
  show (b.store id _ _).attr id = ((b.store id _ _).attr id).withNum v
  rw [attr_store_self, withNum_withNum]

theorem Board.Holds.of_eq {b' : Board} {r : Option Int32} (h : b.Holds id r)
    (hattr : b'.attr id = b.attr id)
    (hflash : b'.flash id.fileName = b.flash id.fileName) : b'.Holds id r := by
  intro v hv
  rw [hattr, hflash]
  exact h v hv

/-- A request that has been served would change nothing, whatever was served with it. -/
theorem serveAll_holds (hnodup : ids.Nodup) (h : id ∈ ids) :
    (b.serveAll ids req).Holds id (req id) := by
  have hserve : (b.serveAll ids req).attr id = (b.serve id (req id)).attr id ∧
      (b.serveAll ids req).flash id.fileName = (b.serve id (req id)).flash id.fileName :=
    serveAll_of_mem hnodup h
  exact (serve_holds b id (req id)).of_eq hserve.1 hserve.2

/-- The calls of `save_to_file` that serving these requests makes. -/
def saveCalls (ids : List DevConfigShadowId) (req : DevConfigShadowId → Option Int32) :
    List Effect :=
  ids.filterMap fun id => (req id).map fun v => .saveToFile id.fileName (id.numContent v)

theorem trace_serveAll (b : Board) (ids : List DevConfigShadowId)
    (req : DevConfigShadowId → Option Int32) :
    (b.serveAll ids req).trace = b.trace ++ saveCalls ids req := by
  induction ids generalizing b with
  | nil => exact (List.append_nil _).symm
  | cons id rest ih =>
      have hrest := ih (b.serve id (req id))
      cases hreq : req id with
      | none =>
          rw [hreq] at hrest
          simpa [Board.serveAll, saveCalls, hreq, Board.serve] using hrest
      | some v =>
          rw [hreq] at hrest
          simpa [Board.serveAll, saveCalls, hreq, Board.serve, Board.store] using hrest

end Serve

/-! ## The blocks of the decoder serve their requests -/

section Blocks

variable {P} {b : Board} {id : DevConfigShadowId} (attributes : Option CJson) (version : Int32)

theorem store_setAttr (b : Board) (id : DevConfigShadowId) (a a' : DevShadowAttrib)
    (content : List UInt8) : (b.setAttr id a).store id a' content = b.store id a' content := by
  simp [Board.store, Board.setAttr, Board.setFile, Board.log]

/-- Set and save of a numeric attribute, once its new value `a` and its bytes are known. -/
theorem set_save_run (hP : P.FsReliable) (hT : b.TableOk) (a : DevShadowAttrib) {v : Int32}
    (hsaved : { a with isNewVal := false } = (b.attr id).withNum v) (hnew : a.isNewVal = true)
    (hc : a.content = some (id.numContent v)) :
    (configSaveAttributeToFile P id).run (b.setAttr id a) = .ok 0 (b.serve id (some v)) := by
  have hty : a.valType = id.valType := by
    have := congrArg DevShadowAttrib.valType hsaved
    rwa [valType_withNum, hT.valType] at this
  have hfn : a.filename = id.fileName := by
    have := congrArg DevShadowAttrib.filename hsaved
    rwa [filename_withNum, hT.filename] at this
  have hne : id.numContent v ≠ [] := by
    unfold DevConfigShadowId.numContent
    split <;> exact List.ne_nil_of_length_pos (by simp)
  have hsave := configSave_dirty hP (hT.setAttr hty hfn) (by rwa [Board.attr_setAttr_self])
    (by rwa [Board.attr_setAttr_self]) hne
  rw [hsave, Board.attr_setAttr_self, store_setAttr]
  simp only [Board.serve, hsaved]

theorem setAndSaveInt16_run (hP : P.FsReliable) (hT : b.TableOk) (hty : id.valType = .int16)
    (val : Int32) :
    (setAndSaveInt16 P id val true).run b = .ok () (b.serve id (some val)) := by
  have ha : (b.attr id).valType = .int16 := by rw [hT.valType, hty]
  set a := { b.attr id with int16Val := val.toInt16, isNewVal := true }
  have hsaved : { a with isNewVal := false } = (b.attr id).withNum val := by
    simp [a, DevShadowAttrib.withNum, ha]
  have hc : a.content = some (id.numContent val) := by
    simp [a, DevShadowAttrib.content, DevConfigShadowId.numContent, ha, hty]
  unfold setAndSaveInt16
  rw [run_bind_ok (configSetInt16_run id _ _ b), run_discard, set_save_run hP hT a hsaved rfl hc]

theorem decodeVersion_run (hP : P.FsReliable) (hT : b.TableOk) :
    (decodeVersion P version).run b
      = .ok () (b.serve .confVersion (requested P attributes version .confVersion)) := by
  unfold decodeVersion
  by_cases hv : 0 < version
  · set a := { b.attr .confVersion with intVal := version, isNewVal := true }
    have hsaved : { a with isNewVal := false } = (b.attr .confVersion).withNum version := by
      simp [a, DevShadowAttrib.withNum, hT.valType, DevConfigShadowId.valType]
    have hc : a.content = some (DevConfigShadowId.confVersion.numContent version) := by
      simp [a, DevShadowAttrib.content, DevConfigShadowId.numContent, hT.valType,
        DevConfigShadowId.valType]
    rw [if_pos hv, run_bind_ok (configSetInt_run .confVersion _ _ b), run_discard,
      set_save_run hP hT a hsaved rfl hc]
    simp [requested, hv]
  · simp [requested, hv, Board.serve]

theorem decodeInterval_run (hP : P.FsReliable) (hT : b.TableOk) (hty : id.valType = .int16)
    (key : String) (minimum : Int32) :
    (decodeInterval P attributes key minimum id true).run b
      = .ok () (b.serve id ((CJson.number? (CJson.getObjectItem attributes key)).map
          (pegInterval minimum))) := by
  unfold decodeInterval
  cases CJson.number? (CJson.getObjectItem attributes key) with
  | none => rfl
  | some val => exact setAndSaveInt16_run hP hT hty _

theorem decodeConfInterval_run (hP : P.FsReliable) (hT : b.TableOk) :
    (decodeConfInterval P attributes true).run b = .ok ()
      (b.serve .confUpdateIntervalS (requested P attributes version .confUpdateIntervalS)) :=
  decodeInterval_run attributes hP hT rfl _ _

theorem decodeDaqInterval_run (hP : P.FsReliable) (hT : b.TableOk) :
    (decodeDaqInterval P attributes true).run b
      = .ok () (b.serve .daqIntervalS (requested P attributes version .daqIntervalS)) :=
  decodeInterval_run attributes hP hT rfl _ _

theorem decodePubInterval_run (hP : P.FsReliable) (hT : b.TableOk) :
    (decodePubInterval P attributes true).run b
      = .ok () (b.serve .pubIntervalS (requested P attributes version .pubIntervalS)) :=
  decodeInterval_run attributes hP hT rfl _ _

theorem decodeSensorType_run (hP : P.FsReliable) (hT : b.TableOk) :
    (decodeSensorType P attributes true).run b
      = .ok () (b.serve .sensorType (requested P attributes version .sensorType)) := by
  unfold decodeSensorType
  cases hnum : CJson.number? (CJson.getObjectItem attributes "sensor_type") with
  | none => simp [requested, hnum, Board.serve]
  | some val =>
      dsimp only
      split_ifs with hval
      · rw [setAndSaveInt16_run hP hT rfl]
        simp [requested, hnum, hval, Option.filter_some]
      · simp [requested, hnum, hval, Option.filter_some, Board.serve]

theorem decodeAppType_run (hP : P.FsReliable) (hT : b.TableOk) :
    (decodeAppType P attributes true).run b
      = .ok () ((b.serve .appType (requested P attributes version .appType)).notice P
          (requested P attributes version .appType)) := by
  unfold decodeAppType
  cases hnum : CJson.number? (CJson.getObjectItem attributes "app_type") with
  | none => simp [requested, hnum, Board.serve, Board.notice]
  | some val =>
      dsimp only
      split_ifs with hval
      · have hreq : requested P attributes version .appType = some val := by
          simp [requested, hnum, hval, Option.filter_some]
        have hfile : (b.serve .appType (some val)).flash DevConfigShadowId.appType.fileName
            = some (int16Bytes val.toInt16) := flash_store_self
        have hdiff := configDiffFlashInt16_run hP (hT.serve .appType (some val)) hfile val.toInt16
        rw [hreq, run_bind_ok (setAndSaveInt16_run hP hT rfl val), run_bind_ok hdiff, Board.notice]
        by_cases hchar : P.InCharRange val.toInt16
        · have hlow := (charToInt16_low_iff P val.toInt16).2 hchar
          rw [if_pos hchar, hlow, if_pos (beq_self_eq_true _)]
          rfl
        · have hlow := mt (charToInt16_low_iff P val.toInt16).1 hchar
          rw [if_neg hchar, if_neg (by simpa using hlow)]
          rfl
      · have hreq : requested P attributes version .appType = none := by
          simp [requested, hnum, hval, Option.filter_some]
        rw [hreq]
        rfl

end Blocks

/-! ## The topic -/

section Topic

variable {P} {b : Board} {attributes : Option CJson}

/-- A copy into a string field, fitting or not, touches RAM only. -/
structure CopyFrame (src : List UInt8) (b₀ b : Board) : Prop where
  flash : b.flash = b₀.flash
  trace : b.trace = b₀.trace ++ [.copied (src.length + 1) strValLen]

theorem copyToStrVal_frame (b₀ : Board) (id : DevConfigShadowId) (src : List UInt8) :
    Triple (fun b => b = b₀) (copyToStrVal P id src) (fun _ => CopyFrame src b₀)
      (fun _ _ => False) := by
  have hlog : Triple (fun b => b = b₀) (logEffect (.copied (src.length + 1) strValLen))
      (fun _ => CopyFrame src b₀) (fun _ _ => False) := by
    refine Triple.modify fun b hb => ?_
    subst hb
    exact ⟨rfl, rfl⟩
  unfold copyToStrVal
  refine hlog.bind fun _ => Triple.ite (fun _ => ?_) fun _ => ?_
  · exact Triple.modify fun b hb => ⟨hb.flash, hb.trace⟩
  · exact Triple.modify fun b hb => ⟨hb.flash, hb.trace⟩

/-- `config_set_str` always reaches the abort at its end. The flash is as it was; RAM has the copy
    in it, or what the overrun made of it. -/
theorem configSetStr_triple (b₀ : Board) (id : DevConfigShadowId) (s : CString) (isNewVal : Bool)
    (hs : 0 < s.bytes.length) :
    Triple (fun b => b = b₀) (configSetStr P id s isNewVal) (fun _ _ => False)
      (fun e b => e = "config.c - set_str range index" ∧ CopyFrame s.bytes b₀ b) := by
  have habort : Triple (CopyFrame s.bytes b₀)
      (erabort "config.c - set_str range index" : Fw Unit) (fun _ _ => False)
      (fun e b => e = "config.c - set_str range index" ∧ CopyFrame s.bytes b₀ b) :=
    Triple.throw fun b hb => ⟨rfl, hb⟩
  have hcopy : Triple (fun b => b = b₀) (copyToStrVal P id s.bytes)
      (fun _ => CopyFrame s.bytes b₀)
      (fun e b => e = "config.c - set_str range index" ∧ CopyFrame s.bytes b₀ b) :=
    (copyToStrVal_frame b₀ id s.bytes).conseq (fun _ h => h) (fun _ _ h => h)
      fun _ _ h => h.elim
  have hnew : Triple (CopyFrame s.bytes b₀) (modifyAttr id fun a => { a with isNewVal })
      (fun _ => CopyFrame s.bytes b₀)
      (fun e b => e = "config.c - set_str range index" ∧ CopyFrame s.bytes b₀ b) :=
    Triple.modify fun b hb => ⟨hb.flash, hb.trace⟩
  unfold configSetStr
  refine Triple.ite (fun _ => ?_) fun h => absurd ⟨id.toNat_lt, hs⟩ h
  exact hcopy.bind fun _ => hnew.bind fun _ => habort

theorem decodeTopic_none (h : requestedTopic attributes = none) :
    (decodeTopic P attributes true).run b = .ok () b := by
  unfold decodeTopic
  cases hstr : CJson.string? (CJson.getObjectItem attributes "topic") with
  | none => rfl
  | some s =>
      rw [requestedTopic, hstr, Option.filter_some] at h
      dsimp only
      rw [if_neg (by simpa using h)]
      rfl

theorem decodeTopic_some {s : CString} (h : requestedTopic attributes = some s) (b : Board) :
    ∃ b', (decodeTopic P attributes true).run b = .error "config.c - set_str range index" b' ∧
      CopyFrame s.bytes b b' := by
  obtain ⟨hstr, hs⟩ := Option.filter_eq_some_iff.1 h
  have hpos : 0 < s.bytes.length := by simpa using hs
  have htriple := configSetStr_triple (P := P) b .pubTopic s true hpos
  unfold decodeTopic
  rw [hstr]
  dsimp only
  rw [if_pos hpos]
  cases hrun : (configSetStr P .pubTopic s true).run b with
  | ok u b' => exact (htriple.ok rfl hrun).elim
  | error e b' =>
      obtain ⟨rfl, hb'⟩ := htriple.error rfl hrun
      exact ⟨b', run_bind_error hrun, hb'⟩

end Topic

/-! ## The whole decoder -/

/-- The attributes served before the topic, in the order of the source. -/
def beforeTopic : List DevConfigShadowId :=
  [.confVersion, .confUpdateIntervalS, .daqIntervalS, .pubIntervalS, .sensorType]

section Decoder

variable {P} {b : Board} {attributes : Option CJson} (version : Int32)

/-- The blocks before the topic, whatever follows them. -/
theorem decodeBeforeTopic_run (hP : P.FsReliable) (hT : b.TableOk) (rest : Fw Unit) :
    (do decodeVersion P version
        decodeConfInterval P attributes true
        decodeDaqInterval P attributes true
        decodePubInterval P attributes true
        decodeSensorType P attributes true
        rest : Fw Unit).run b
      = rest.run (b.serveAll beforeTopic (requested P attributes version)) := by
  have hT₁ := hT.serve .confVersion (requested P attributes version .confVersion)
  have hT₂ := hT₁.serve .confUpdateIntervalS (requested P attributes version .confUpdateIntervalS)
  have hT₃ := hT₂.serve .daqIntervalS (requested P attributes version .daqIntervalS)
  have hT₄ := hT₃.serve .pubIntervalS (requested P attributes version .pubIntervalS)
  rw [run_bind_ok (decodeVersion_run attributes version hP hT),
    run_bind_ok (decodeConfInterval_run attributes version hP hT₁),
    run_bind_ok (decodeDaqInterval_run attributes version hP hT₂),
    run_bind_ok (decodePubInterval_run attributes version hP hT₃),
    run_bind_ok (decodeSensorType_run attributes version hP hT₄)]
  rfl

/-- A message with a topic is served up to the topic and stops there. -/
theorem awsDecodeShadowValues_topic (hP : P.FsReliable) (hT : b.TableOk) {s : CString}
    (htopic : requestedTopic attributes = some s) :
    ∃ b', (awsDecodeShadowValues P attributes version true).run b
        = .error "config.c - set_str range index" b' ∧
      b'.flash = (b.serveAll beforeTopic (requested P attributes version)).flash := by
  obtain ⟨b', hrun, hb'⟩ := decodeTopic_some (P := P) htopic
    (b.serveAll beforeTopic (requested P attributes version))
  refine ⟨b', ?_, hb'.flash⟩
  unfold awsDecodeShadowValues
  rw [decodeBeforeTopic_run version hP hT, run_bind_error hrun]

/-- A message without a topic is served in full. -/
theorem awsDecodeShadowValues_run (hP : P.FsReliable) (hT : b.TableOk)
    (htopic : requestedTopic attributes = none) :
    (awsDecodeShadowValues P attributes version true).run b
      = .ok () ((b.serveAll (beforeTopic ++ [.appType]) (requested P attributes version)).notice P
          (requested P attributes version .appType)) := by
  have hT' := hT.serveAll beforeTopic (requested P attributes version)
  unfold awsDecodeShadowValues
  rw [decodeBeforeTopic_run version hP hT, run_bind_ok (decodeTopic_none htopic),
    decodeAppType_run attributes version hP hT', Board.serveAll, Board.serveAll, List.foldl_append]
  rfl

theorem awsDecodeShadowValues_noTopic (hP : P.FsReliable) (hT : b.TableOk)
    (htopic : requestedTopic attributes = none) :
    ∃ b', (awsDecodeShadowValues P attributes version true).run b = .ok () b' ∧
      b'.config
        = (b.serveAll (beforeTopic ++ [.appType]) (requested P attributes version)).config ∧
      b'.flash
        = (b.serveAll (beforeTopic ++ [.appType]) (requested P attributes version)).flash :=
  ⟨_, awsDecodeShadowValues_run version hP hT htopic, config_notice P _ _, flash_notice P _ _⟩

end Decoder

end Levaware
