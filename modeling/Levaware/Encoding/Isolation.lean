import Levaware.Encoding.Envelope
import Levaware.Encoding.Requests

set_option autoImplicit false

/-! # What a shadow message leaves alone

`aws_decode_shadow_values` repeats one block for each attribute. Each block sets and saves the
attribute of its own member and nothing else, on any platform: `KeepsOutside S` says of a routine
that it confines itself to the attributes in `S`, and every block confines itself to what the
message addresses (`attribute_isolation`). The members are only looked up by name, so their order
does not matter. -/

namespace Levaware

open Abort

/-! ## What a message addresses -/

/-- The message has a member for the attribute, of the JSON type its block asks for, or a version
    for the configuration version. -/
def Addresses (attributes : Option CJson) (version : Int32) : DevConfigShadowId → Prop
  | .confVersion => 0 < version
  | .confUpdateIntervalS =>
      (CJson.number? (CJson.getObjectItem attributes "config_interval_s")).isSome
  | .daqIntervalS => (CJson.number? (CJson.getObjectItem attributes "daq_interval_s")).isSome
  | .pubIntervalS => (CJson.number? (CJson.getObjectItem attributes "pub_interval_s")).isSome
  | .sensorType => (CJson.number? (CJson.getObjectItem attributes "sensor_type")).isSome
  | .appType => (CJson.number? (CJson.getObjectItem attributes "app_type")).isSome
  | .pubTopic => ∃ s, CJson.string? (CJson.getObjectItem attributes "topic") = some s ∧
      0 < s.bytes.length
  | .iccid | .subTopic => False

/-- The files other than those of the attributes in `S` are the same. -/
def FlashKept (S : DevConfigShadowId → Prop) (b₀ b : Board) : Prop :=
  ∀ name, (∀ id, S id → name ≠ id.fileName) → b.flash name = b₀.flash name

/-- RAM and files are the same but for the attributes in `S`. -/
structure KeptOutside (S : DevConfigShadowId → Prop) (b₀ b : Board) : Prop where
  table : b.TableOk
  serialNumber : b.config.serialNumber = b₀.config.serialNumber
  imei : b.config.imei = b₀.config.imei
  iccid : b.config.iccid = b₀.config.iccid
  attr : ∀ id, ¬ S id → b.attr id = b₀.attr id
  flash : FlashKept S b₀ b

/-- The routine touches only the attributes in `S`; when it stops this is so of the files. -/
def KeepsOutside (S : DevConfigShadowId → Prop) (b₀ : Board) {α : Type} (m : Fw α) : Prop :=
  Preserves (KeptOutside S b₀) (FlashKept S b₀) m

variable {P : Platform} {S : DevConfigShadowId → Prop} {b b' b₀ : Board} {id : DevConfigShadowId}
  {α : Type}

theorem KeptOutside.refl (hT : b.TableOk) : KeptOutside S b b :=
  ⟨hT, rfl, rfl, rfl, fun _ _ => rfl, fun _ _ => rfl⟩

theorem KeepsOutside.pure (a : α) : KeepsOutside S b₀ (pure a) := Preserves.pure a

theorem KeepsOutside.erabort (reason : String) : KeepsOutside S b₀ (erabort reason : Fw α) :=
  Preserves.throw (fun _ h => h.flash) reason

/-! ## Setting and saving -/

/-- A change of values and dirty flag, of an attribute in `S`. -/
theorem modifyAttr_keepsOutside (hid : S id) {f : DevShadowAttrib → DevShadowAttrib}
    (hf : ∀ a, (f a).valType = a.valType ∧ (f a).filename = a.filename) :
    KeepsOutside S b₀ (modifyAttr id f) := by
  refine Preserves.modify ?_
  intro b h
  obtain ⟨hty, hfn⟩ := hf (b.attr id)
  refine ⟨h.table.setAttr (hty.trans (h.table.valType id)) (hfn.trans (h.table.filename id)),
    h.serialNumber, h.imei, h.iccid, ?_, h.flash⟩
  intro other hother
  have hne : other ≠ id := by
    rintro rfl
    exact hother hid
  rw [Board.attr_setAttr_of_ne hne, h.attr other hother]

theorem FlashKept.save {content : List UInt8} (h : FlashKept S b₀ b) (hid : S id)
    (hb : SaveFrame id.fileName content b b') : FlashKept S b₀ b' := by
  intro name hname
  rw [hb.flash name (hname id hid), h name hname]

theorem KeptOutside.save {content : List UInt8} (h : KeptOutside S b₀ b) (hid : S id)
    (hb : SaveFrame id.fileName content b b') : KeptOutside S b₀ b' := by
  have hattr : b'.attr = b.attr := Board.attr_congr hb.config
  refine ⟨h.table.of_attr_eq hattr, ?_, ?_, ?_, ?_, h.flash.save hid hb⟩
  · rw [hb.config, h.serialNumber]
  · rw [hb.config, h.imei]
  · rw [hb.config, h.iccid]
  · rw [hattr]
    exact h.attr

theorem saveVal_keepsOutside (hid : S id) {a : DevShadowAttrib} (hname : a.filename = id.fileName) :
    KeepsOutside S b₀ (saveVal P a) := by
  have hsave : ∀ content, KeepsOutside S b₀ (saveToFile P content a.filename) := by
    intro content
    rw [hname]
    exact Triple.of_each fun b h => saveToFile_frame.conseq (fun _ hb => hb)
      (fun _ _ hb => h.save hid hb) fun _ _ hb => h.flash.save hid hb
  unfold saveVal
  split
  · exact hsave _
  · exact hsave _
  · exact hsave _
  · exact KeepsOutside.pure _

theorem configSave_keepsOutside (hid : S id) :
    KeepsOutside S b₀ (configSaveAttributeToFile P id) := by
  have hclean : KeepsOutside S b₀ (modifyAttr id fun a => { a with isNewVal := false }) :=
    modifyAttr_keepsOutside hid fun _ => ⟨rfl, rfl⟩
  refine Preserves.get_bind ?_
  intro b h
  have hsave : KeepsOutside S b₀ (saveVal P (b.attr id)) :=
    saveVal_keepsOutside hid (h.table.filename id)
  have hrest : KeepsOutside S b₀ (do
      if (b.attr id).isNewVal then
        let err ← saveVal P (b.attr id)
        if err = 0 then return err
      modifyAttr id fun a => { a with isNewVal := false }
      return 0 : Fw Int) := by
    refine Preserves.ite (fun _ => hsave.bind ?_) fun _ => hclean.bind fun _ => KeepsOutside.pure _
    intro err
    exact Preserves.ite (fun _ => KeepsOutside.pure _) fun _ =>
      hclean.bind fun _ => KeepsOutside.pure _
  rintro b rfl
  exact hrest b h

theorem configSetInt16_keepsOutside (hid : S id) (val : Int16) (isNewVal : Bool) :
    KeepsOutside S b₀ (configSetInt16 id val isNewVal) :=
  Preserves.ite (fun _ => modifyAttr_keepsOutside hid fun _ => ⟨rfl, rfl⟩) fun _ =>
    KeepsOutside.erabort _

theorem setAndSaveInt16_keepsOutside (hid : S id) (val : Int32) (isDelta : Bool) :
    KeepsOutside S b₀ (setAndSaveInt16 P id val isDelta) :=
  (configSetInt16_keepsOutside hid _ _).bind fun _ => (configSave_keepsOutside hid).discard

/-! ## The blocks of the decoder -/

section Blocks

variable (attributes : Option CJson) (version : Int32) (isDelta : Bool)

theorem decodeVersion_keepsOutside (h : 0 < version → S .confVersion) :
    KeepsOutside S b₀ (decodeVersion P version) := by
  refine Preserves.ite (fun hv => ?_) fun _ => KeepsOutside.pure _
  have hset : KeepsOutside S b₀ (configSetInt .confVersion version true) :=
    Preserves.ite (fun _ => modifyAttr_keepsOutside (h hv) fun _ => ⟨rfl, rfl⟩) fun _ =>
      KeepsOutside.erabort _
  exact hset.bind fun _ => (configSave_keepsOutside (h hv)).discard

theorem decodeInterval_keepsOutside (key : String) (minimum : Int32)
    (h : (CJson.number? (CJson.getObjectItem attributes key)).isSome → S id) :
    KeepsOutside S b₀ (decodeInterval P attributes key minimum id isDelta) := by
  unfold decodeInterval
  split
  · next val hval => exact setAndSaveInt16_keepsOutside (h (by rw [hval]; rfl)) _ _
  · exact KeepsOutside.pure _

theorem decodeSensorType_keepsOutside
    (h : (CJson.number? (CJson.getObjectItem attributes "sensor_type")).isSome → S .sensorType) :
    KeepsOutside S b₀ (decodeSensorType P attributes isDelta) := by
  unfold decodeSensorType
  split
  · next val hval =>
      exact Preserves.ite
        (fun _ => setAndSaveInt16_keepsOutside (h (by rw [hval]; rfl)) _ _) fun _ =>
        KeepsOutside.pure _
  · exact KeepsOutside.pure _

/-- A topic is never saved: `config_set_str` stops first, and has changed RAM only. -/
theorem decodeTopic_keepsOutside : KeepsOutside S b₀ (decodeTopic P attributes isDelta) := by
  unfold decodeTopic
  split
  · next s _ =>
      refine Preserves.ite (fun hs => ?_) fun _ => KeepsOutside.pure _
      have hset : Triple (KeptOutside S b₀) (configSetStr P .pubTopic s isDelta)
          (fun _ _ => False) (fun _ => FlashKept S b₀) := by
        refine Triple.of_each ?_
        intro b h
        refine (configSetStr_triple b .pubTopic s isDelta hs).conseq (fun _ hb => hb)
          (fun _ _ hb => hb) ?_
        -- `config_set_str` never returns, and no file is written before it aborts
        rintro e b' ⟨-, hb'⟩ name hname
        rw [hb'.flash, h.flash name hname]
      exact hset.bind fun _ _ h => h.elim
  · exact KeepsOutside.pure _

theorem decodeAppType_keepsOutside
    (h : (CJson.number? (CJson.getObjectItem attributes "app_type")).isSome → S .appType) :
    KeepsOutside S b₀ (decodeAppType P attributes isDelta) := by
  have hlog : ∀ val, KeepsOutside S b₀ (logEffect (.appTypeChanged val)) := by
    intro val
    refine Preserves.modify ?_
    intro b hb
    exact ⟨hb.table.of_attr_eq rfl, hb.serialNumber, hb.imei, hb.iccid, hb.attr, hb.flash⟩
  unfold decodeAppType
  split
  · next val hval =>
      refine Preserves.ite (fun _ => ?_) fun _ => KeepsOutside.pure _
      refine (setAndSaveInt16_keepsOutside (h (by rw [hval]; rfl)) _ _).bind fun _ => ?_
      refine (configDiffFlashInt16_preserves (fun _ h => h.flash) _ _).bind fun _ => ?_
      exact Preserves.ite (fun _ => hlog _) fun _ => KeepsOutside.pure _
  · exact KeepsOutside.pure _

theorem awsDecodeShadowValues_keepsOutside :
    KeepsOutside (Addresses attributes version) b₀
      (awsDecodeShadowValues P attributes version isDelta) := by
  -- block by block, in the order of the source
  refine (decodeVersion_keepsOutside version fun h => h).bind fun _ => ?_
  refine (decodeInterval_keepsOutside attributes isDelta _ _ fun h => h).bind fun _ => ?_
  refine (decodeInterval_keepsOutside attributes isDelta _ _ fun h => h).bind fun _ => ?_
  refine (decodeInterval_keepsOutside attributes isDelta _ _ fun h => h).bind fun _ => ?_
  refine (decodeSensorType_keepsOutside attributes isDelta fun h => h).bind fun _ => ?_
  refine (decodeTopic_keepsOutside attributes isDelta).bind fun _ => ?_
  exact decodeAppType_keepsOutside attributes isDelta fun h => h

end Blocks

/-! ## Isolation -/

/-- For every platform, store, flash, version and attributes: a message processed to its end leaves
    everything but the attributes it addresses as it was, in RAM and in the files; of a message cut
    short this is so of the files. The order of members of distinct names has no influence. -/
theorem attribute_isolation (P : Platform) (version : Int32) (isDelta : Bool) :
    (∀ (b : Board) (attributes : Option CJson), b.TableOk →
      (∀ b', (awsDecodeShadowValues P attributes version isDelta).run b = .ok () b' →
        KeptOutside (Addresses attributes version) b b') ∧
      ∀ e b', (awsDecodeShadowValues P attributes version isDelta).run b = .error e b' →
        FlashKept (Addresses attributes version) b b') ∧
    (∀ members members' : List (String × CJson), members.Perm members' →
      (members.map Prod.fst).Nodup → ∀ b,
      (awsDecodeShadowValues P (some (.object members)) version isDelta).run b
        = (awsDecodeShadowValues P (some (.object members')) version isDelta).run b) := by
  constructor
  · intro b attributes hT
    have hkeeps : KeepsOutside (Addresses attributes version) b
        (awsDecodeShadowValues P attributes version isDelta) :=
      awsDecodeShadowValues_keepsOutside attributes version isDelta
    exact ⟨fun b' => hkeeps.ok (KeptOutside.refl hT),
      fun e b' => hkeeps.error (KeptOutside.refl hT)⟩
  · intro members members' hperm hnodup b
    have hlookup : ∀ key ∈ attributeKeys, CJson.getObjectItem (some (.object members)) key
        = CJson.getObjectItem (some (.object members')) key := fun key _ =>
      CJson.getObjectItem_perm hperm hnodup key
    rw [awsDecodeShadowValues_congr hlookup]

/-- A version, an interval and a type leave the rest alone, in either order of the two members; with
    a topic the message is cut short. -/
theorem attribute_isolation_threeMembers :
    let P := Platform.ideal [] .null
    let decode := fun attributes => (awsDecodeShadowValues P attributes 7 true).run .factory
    let interval := ("daq_interval_s", CJson.number 300)
    let type := ("app_type", CJson.number 2)
    let topic := ("topic", CJson.string ⟨ascii "dt/x", by decide⟩)
    (∃ b, decode (some (.object [interval, type])) = .ok () b ∧
      KeptOutside (Addresses (some (.object [interval, type])) 7) .factory b) ∧
    (∃ e b, decode (some (.object [topic, interval])) = .error e b ∧
      FlashKept (Addresses (some (.object [topic, interval])) 7) .factory b) ∧
    decode (some (.object [interval, type])) = decode (some (.object [type, interval])) := by
  intro P decode interval type topic
  obtain ⟨hkept, horder⟩ := attribute_isolation P 7 true
  have hT : Board.factory.TableOk := Board.tableOk_withDefaults _
  have hnoTopic : requestedTopic (some (.object [interval, type])) = none := by rfl
  have htopic : requestedTopic (some (.object [topic, interval]))
      = some ⟨ascii "dt/x", by decide⟩ := by rfl
  obtain ⟨b, hok, -⟩ :=
    awsDecodeShadowValues_noTopic 7 (Platform.ideal_reliable [] .null) hT hnoTopic
  obtain ⟨b', herror, -⟩ :=
    awsDecodeShadowValues_topic 7 (Platform.ideal_reliable [] .null) hT htopic
  refine ⟨⟨b, hok, (hkept _ _ hT).1 b hok⟩, ⟨_, b', herror, (hkept _ _ hT).2 _ b' herror⟩, ?_⟩
  exact horder _ _ (.swap ..) (by decide) _

end Levaware
