import Levaware.Config.BootRecovery
import Levaware.Encoding.Isolation

set_option autoImplicit false

/-! # The version and its contents

`aws_decode_shadow_values` saves the version of a message first and then the values the message
carries, one file after the other. A reboot in between finds the new version beside old values;
what it finds is consistent exactly when the values were in their files already
(`version_commit_iff`). -/

namespace Levaware

open Abort

variable {P : Platform} {b b' b₀ b₁ : Board} {id : DevConfigShadowId} {content : List UInt8}

/-! ## Rewriting a file with what it holds -/

/-- RAM and files are those of `b₀`. -/
structure SameStore (b₀ b : Board) : Prop where
  config : b.config = b₀.config
  flash : b.flash = b₀.flash

theorem SameStore.setFile (h : SameStore b₀ b) {name : String}
    (hf : b₀.flash name = some content) : SameStore b₀ (b.setFile name content) := by
  refine ⟨h.config, ?_⟩
  show Function.update b.flash name (some content) = b₀.flash
  rw [h.flash, ← hf]
  exact Function.update_eq_self _ _

section Rewrite

variable {name : String} (hf : b₀.flash name = some content)
include hf

theorem fsOpen_rewrite : Preserves (SameStore b₀) (SameStore b₀) (fsOpen P name true) := by
  intro b hb
  have hfile : b.flash name = some content := by rw [hb.flash, hf]
  unfold fsOpen
  simpa [hfile] using hb

theorem fsStat_rewrite : Preserves (SameStore b₀) (SameStore b₀) (fsStat P name) := by
  intro b hb
  have hfile : b.flash name = some content := by rw [hb.flash, hf]
  unfold fsStat
  simpa [hfile] using hb

theorem fsTruncate_rewrite :
    Preserves (SameStore b₀) (SameStore b₀) (fsTruncate P name content.length) := by
  intro b hb
  have hfile : b.flash name = some content := by rw [hb.flash, hf]
  unfold fsTruncate
  -- the file is cut to the length it has, or the call fails
  by_cases hrc : P.truncateRc name = 0
  · simpa [run_ite, hrc, hfile] using hb.setFile hf
  · simpa [run_ite, hrc] using hb

/-- A write of any part of the content leaves the content. -/
theorem fsWrite_rewrite : Preserves (SameStore b₀) (SameStore b₀) (fsWrite P name content) := by
  intro b hb
  have hfile : b.flash name = some content := by rw [hb.flash, hf]
  have hpart : ∀ n, content.take n ++ content.drop (content.take n).length = content := by
    intro n
    by_cases hn : n ≤ content.length
    · rw [List.length_take_of_le hn, List.take_append_drop]
    · rw [List.take_of_length_le (by omega), List.drop_length, List.append_nil]
  unfold fsWrite
  by_cases hrc : 0 ≤ P.writeRc name content.length
  · have hset := hb.setFile hf
    rw [← hpart (P.writeRc name content.length).toNat] at hset
    simpa [run_ite, hrc, hfile] using hset
  · simpa [run_ite, hrc] using hb

/-- On any platform, and wherever it stops, a save of what the file holds changes nothing. -/
theorem saveToFile_rewrite :
    Preserves (SameStore b₀) (SameStore b₀) (saveToFile P content name) := by
  have hlog : Preserves (SameStore b₀) (SameStore b₀) (logEffect (.saveToFile name content)) :=
    Preserves.modify fun _ h => ⟨h.config, h.flash⟩
  exact saveToFile_triple hlog (fsOpen_rewrite hf) (fsStat_rewrite hf) (fsTruncate_rewrite hf)
    (fsWrite_rewrite hf)

end Rewrite

/-! ## Saving values that are in their files -/

variable {fl : Flash}

/-- The table is in place and the files are `fl`. -/
structure OnFlash (fl : Flash) (b : Board) : Prop where
  table : b.TableOk
  flash : b.flash = fl

/-- The routine never changes a file. -/
def KeepsFlash (fl : Flash) {α : Type} (m : Fw α) : Prop :=
  Preserves (OnFlash fl) (fun b => b.flash = fl) m

theorem KeepsFlash.pure {α : Type} (a : α) : KeepsFlash fl (pure a) := Preserves.pure a

theorem SameStore.onFlash (h : SameStore b₀ b) (h₀ : OnFlash fl b₀) : OnFlash fl b :=
  ⟨h₀.table.of_attr_eq (Board.attr_congr h.config), h.flash.trans h₀.flash⟩

/-- A save of an attribute whose file holds its value. -/
theorem configSave_rewrite (hfile : fl id.fileName = some content) :
    Triple (fun b => OnFlash fl b ∧ (b.attr id).content = some content)
      (configSaveAttributeToFile P id) (fun _ => OnFlash fl) (fun _ b => b.flash = fl) := by
  refine Triple.of_each ?_
  rintro b₀ ⟨h₀, hc⟩ b rfl
  -- only a dirty attribute is written at all
  by_cases hnew : (b.attr id).isNewVal = true
  · have hsave : Preserves (SameStore b) (SameStore b) (saveVal P (b.attr id)) := by
      rw [saveVal_of_content hc, h₀.table.filename]
      exact saveToFile_rewrite (h₀.flash ▸ hfile)
    have hrest : Triple (SameStore b) (do
        let err ← saveVal P (b.attr id)
        if err = 0 then return err
        modifyAttr id fun a => { a with isNewVal := false }
        return 0 : Fw Int) (fun _ => OnFlash fl) (fun _ b => b.flash = fl) := by
      refine Triple.bind (hsave.conseq (fun _ h => h) (fun _ _ h => h.onFlash h₀)
        fun _ _ h => h.flash.trans h₀.flash) fun err => ?_
      refine Preserves.ite (fun _ => KeepsFlash.pure _) fun _ => Preserves.bind ?_ fun _ =>
        KeepsFlash.pure _
      refine Preserves.modify ?_
      intro b' h
      exact ⟨h.table.setAttr (h.table.valType id) (h.table.filename id), h.flash⟩
    unfold configSaveAttributeToFile
    rw [run_bind_ok (EStateM.run_get b)]
    simp only [hnew, if_true]
    exact hrest b ⟨rfl, rfl⟩
  · rw [configSave_clean (by simpa using hnew)]
    exact h₀

/-- Setting an `INT16` attribute to the number its file holds, and saving it. -/
theorem setAndSaveInt16_rewrite (hty : id.valType = .int16) {val : Int32}
    (hfile : fl id.fileName = some (id.numContent val)) (isDelta : Bool) :
    KeepsFlash fl (setAndSaveInt16 P id val isDelta) := by
  have hset : Triple (OnFlash fl) (configSetInt16 id val.toInt16 isDelta)
      (fun _ b => OnFlash fl b ∧ (b.attr id).content = some (id.numContent val))
      (fun _ b => b.flash = fl) := by
    intro b h
    rw [configSetInt16_run]
    have ha : (b.attr id).valType = .int16 := by rw [h.table.valType, hty]
    refine ⟨⟨h.table.setAttr (h.table.valType id) (h.table.filename id), h.flash⟩, ?_⟩
    rw [Board.attr_setAttr_self]
    simp [DevShadowAttrib.content, DevConfigShadowId.numContent, ha, hty]
  exact hset.bind fun _ => (configSave_rewrite hfile).discard

/-! ## The blocks after the version -/

/-- What a message carries for an attribute besides the version, as the bytes of its file. -/
def carried (P : Platform) (attributes : Option CJson) (id : DevConfigShadowId) :
    Option (List UInt8) :=
  match id with
  | .pubTopic => (requestedTopic attributes).map (·.bytes)
  | _ => (requested P attributes 0 id).map id.numContent

/-- Every value the message carries is in its file. -/
def InPlace (P : Platform) (attributes : Option CJson) (fl : Flash) : Prop :=
  ∀ id content, carried P attributes id = some content → fl id.fileName = some content

/-- The blocks of the decoder after the version's. -/
def valueBlocks (P : Platform) (attributes : Option CJson) (isDelta : Bool) : List (Fw Unit) :=
  [decodeConfInterval P attributes isDelta, decodeDaqInterval P attributes isDelta,
    decodePubInterval P attributes isDelta, decodeSensorType P attributes isDelta,
    decodeTopic P attributes isDelta, decodeAppType P attributes isDelta]

section Blocks

variable {attributes : Option CJson} (isDelta : Bool)

theorem decodeInterval_rewrite {key : String} {minimum : Int32} (hty : id.valType = .int16)
    (h : ∀ val, CJson.number? (CJson.getObjectItem attributes key) = some val →
      fl id.fileName = some (id.numContent (pegInterval minimum val))) :
    KeepsFlash fl (decodeInterval P attributes key minimum id isDelta) := by
  unfold decodeInterval
  split
  · next val hval => exact setAndSaveInt16_rewrite hty (h val hval) isDelta
  · exact KeepsFlash.pure _

theorem decodeSensorType_rewrite (h : InPlace P attributes fl) :
    KeepsFlash fl (decodeSensorType P attributes isDelta) := by
  unfold decodeSensorType
  split
  · next val hval =>
      refine Preserves.ite (fun hok => ?_) fun _ => KeepsFlash.pure _
      refine setAndSaveInt16_rewrite rfl (h .sensorType _ ?_) isDelta
      simp [carried, requested, hval, hok, Option.filter_some]
  · exact KeepsFlash.pure _

theorem decodeTopic_keepsFlash : KeepsFlash fl (decodeTopic P attributes isDelta) := by
  intro b h
  have hkeeps : KeepsOutside (fun _ => False) b (decodeTopic P attributes isDelta) :=
    decodeTopic_keepsOutside attributes isDelta
  have hsame : ∀ b', FlashKept (fun _ => False) b b' → b'.flash = fl := by
    intro b' hb'
    funext name
    rw [hb' name fun _ h => h.elim, h.flash]
  exact (hkeeps.conseq (fun _ hb => hb) (fun _ b' hb' => OnFlash.mk hb'.table (hsame b' hb'.flash))
    fun _ b' hb' => hsame b' hb') b (KeptOutside.refl h.table)

theorem decodeAppType_rewrite (h : InPlace P attributes fl) :
    KeepsFlash fl (decodeAppType P attributes isDelta) := by
  have hlog : ∀ val, KeepsFlash fl (logEffect (.appTypeChanged val)) := by
    intro val
    refine Preserves.modify ?_
    intro b hb
    exact ⟨hb.table.of_attr_eq rfl, hb.flash⟩
  unfold decodeAppType
  split
  · next val hval =>
      refine Preserves.ite (fun hok => ?_) fun _ => KeepsFlash.pure _
      have hset : KeepsFlash fl (setAndSaveInt16 P .appType val isDelta) := by
        refine setAndSaveInt16_rewrite rfl (h .appType _ ?_) isDelta
        simp [carried, requested, hval, hok, Option.filter_some]
      refine hset.bind fun _ => ?_
      refine (configDiffFlashInt16_preserves (fun _ h => h.flash) _ _).bind fun _ => ?_
      exact Preserves.ite (fun _ => hlog _) fun _ => KeepsFlash.pure _
  · exact KeepsFlash.pure _

/-- With the values in their files already, the blocks after the version's change no file. -/
theorem valueBlocks_rewrite (h : InPlace P attributes fl) :
    ∀ m ∈ valueBlocks P attributes isDelta, KeepsFlash fl m := by
  have hinterval : ∀ (id : DevConfigShadowId) key minimum, id.valType = .int16 →
      carried P attributes id = ((CJson.number? (CJson.getObjectItem attributes key)).map
        (pegInterval minimum)).map id.numContent →
      KeepsFlash fl (decodeInterval P attributes key minimum id isDelta) := by
    intro id key minimum hty hid
    refine decodeInterval_rewrite isDelta hty ?_
    intro val hval
    exact h id _ (by rw [hid, hval]; rfl)
  intro m hm
  simp only [valueBlocks, List.mem_cons, List.not_mem_nil, or_false] at hm
  rcases hm with rfl | rfl | rfl | rfl | rfl | rfl
  · exact hinterval _ _ _ rfl rfl
  · exact hinterval _ _ _ rfl rfl
  · exact hinterval _ _ _ rfl rfl
  · exact decodeSensorType_rewrite isDelta h
  · exact decodeTopic_keepsFlash isDelta
  · exact decodeAppType_rewrite isDelta h

/-- They never touch the file of the version. -/
theorem valueBlocks_keepVersion :
    ∀ m ∈ valueBlocks P attributes isDelta, KeepsOutside (· ≠ .confVersion) b₀ m := by
  intro m hm
  simp only [valueBlocks, List.mem_cons, List.not_mem_nil, or_false] at hm
  rcases hm with rfl | rfl | rfl | rfl | rfl | rfl
  · exact decodeInterval_keepsOutside attributes isDelta _ _ fun _ => by decide
  · exact decodeInterval_keepsOutside attributes isDelta _ _ fun _ => by decide
  · exact decodeInterval_keepsOutside attributes isDelta _ _ fun _ => by decide
  · exact decodeSensorType_keepsOutside attributes isDelta fun _ => by decide
  · exact decodeTopic_keepsOutside attributes isDelta
  · exact decodeAppType_keepsOutside attributes isDelta fun _ => by decide

end Blocks

/-! ## Where the processing is cut -/

/-- The blocks of the decoder in order. -/
def decodeBlocks (P : Platform) (attributes : Option CJson) (version : Int32) (isDelta : Bool) :
    List (Fw Unit) :=
  decodeVersion P version :: valueBlocks P attributes isDelta

theorem awsDecodeShadowValues_eq_blocks (attributes : Option CJson) (version : Int32)
    (isDelta : Bool) :
    awsDecodeShadowValues P attributes version isDelta
      = (decodeBlocks P attributes version isDelta).forM fun m => m := by
  simp [awsDecodeShadowValues, decodeBlocks, valueBlocks]

/-- A reboot can find the board `b'`: the power went after some of the blocks, or the next one
    aborted. -/
def CutShort (P : Platform) (attributes : Option CJson) (version : Int32) (b b' : Board) : Prop :=
  ∃ k, b' = final (((decodeBlocks P attributes version true).take k).forM fun m => m) b

/-- The file of the version holds it. -/
def Recorded (fl : Flash) (version : Int32) : Prop :=
  fl DevConfigShadowId.confVersion.fileName = some (int32Bytes version)

instance (fl : Flash) (version : Int32) : Decidable (Recorded fl version) :=
  inferInstanceAs (Decidable (_ = _))

/-- A reboot never finds the new version without the values it came with. -/
def CommittedTogether (P : Platform) (attributes : Option CJson) (version : Int32) (b : Board) :
    Prop :=
  ∀ b', CutShort P attributes version b b' → Recorded b'.flash version →
    InPlace P attributes b'.flash

section Cuts

variable {attributes : Option CJson} {version : Int32}

/-- The version is not among the values of a message. -/
theorem carried_confVersion : carried P attributes .confVersion = none := rfl

/-- The version's own block leaves the other files alone. -/
theorem afterVersion_flash (hT : b.TableOk) :
    FlashKept (· = .confVersion) b (final (decodeVersion P version) b) := by
  have hkeeps : KeepsOutside (· = .confVersion) b (decodeVersion P version) :=
    decodeVersion_keepsOutside version fun _ => rfl
  exact (hkeeps.conseq (fun _ h => h) (fun _ _ h => h.flash) fun _ _ h => h).final
    (KeptOutside.refl hT)

theorem inPlace_afterVersion (hT : b.TableOk) :
    InPlace P attributes (final (decodeVersion P version) b).flash ↔
      InPlace P attributes b.flash := by
  have hsame : ∀ id content, carried P attributes id = some content →
      (final (decodeVersion P version) b).flash id.fileName = b.flash id.fileName := by
    intro id content hc
    refine afterVersion_flash hT _ ?_
    rintro other rfl heq
    rw [DevConfigShadowId.fileName_injective heq, carried_confVersion] at hc
    cases hc
  refine forall_congr' fun id => forall_congr' fun content => forall_congr' fun hc => ?_
  rw [hsame id content hc]

/-- A cut before the version's block finds the board as it was. One after it finds the file of the
    version as that block left it, and all files so if the values were in place. -/
theorem CutShort.cases (hT : b.TableOk) (h : CutShort P attributes version b b') :
    b' = b ∨
      b'.flash DevConfigShadowId.confVersion.fileName
        = (final (decodeVersion P version) b).flash DevConfigShadowId.confVersion.fileName ∧
      (InPlace P attributes b.flash → b'.flash = (final (decodeVersion P version) b).flash) := by
  obtain ⟨k, rfl⟩ := h
  rcases k with - | k
  · exact Or.inl rfl
  right
  set rest : Fw Unit := ((valueBlocks P attributes true).take k).forM fun m => m
  have hblocks : ((decodeBlocks P attributes version true).take (k + 1)).forM (fun m => m)
      = (decodeVersion P version >>= fun _ => rest : Fw Unit) := rfl
  rw [hblocks]
  cases hrun : (decodeVersion P version).run b with
  | error e b₁ =>
      -- the version's own save aborted, and no other block runs
      rw [final_error hrun, final_error (run_bind_error hrun)]
      exact ⟨rfl, fun _ => rfl⟩
  | ok u b₁ =>
      have hkeeps : KeepsOutside (· = .confVersion) b (decodeVersion P version) :=
        decodeVersion_keepsOutside version fun _ => rfl
      have hT₁ : b₁.TableOk := (hkeeps.ok (KeptOutside.refl hT) hrun).table
      have hiff : InPlace P attributes (final (decodeVersion P version) b).flash ↔
          InPlace P attributes b.flash := inPlace_afterVersion hT
      rw [final_ok hrun] at hiff ⊢
      rw [final_bind_ok hrun]
      constructor
      · have hversion : KeepsOutside (· ≠ .confVersion) b₁ rest :=
          Preserves.forM fun m hm => valueBlocks_keepVersion true m (List.mem_of_mem_take hm)
        refine (hversion.conseq (fun _ h => h) (fun _ _ h => h.flash) fun _ _ h => h).final
          (KeptOutside.refl hT₁) _ ?_
        intro id hid heq
        exact hid (DevConfigShadowId.fileName_injective heq).symm
      · intro hplace
        have hsame : KeepsFlash b₁.flash rest := Preserves.forM fun m hm =>
          valueBlocks_rewrite true (hiff.2 hplace) m (List.mem_of_mem_take hm)
        exact (hsame.conseq (fun _ h => h) (fun _ _ h => h.flash) fun _ _ h => h).final
          ⟨hT₁, rfl⟩

/-- The cut right after the version's block. -/
theorem cutShort_afterVersion :
    CutShort P attributes version b (final (decodeVersion P version) b) := by
  refine ⟨1, ?_⟩
  have hblocks : ((decodeBlocks P attributes version true).take 1).forM (fun m => m)
      = (decodeVersion P version >>= fun _ => pure () : Fw Unit) := rfl
  rw [hblocks]
  cases hrun : (decodeVersion P version).run b with
  | error e b₁ => rw [final_error hrun, final_error (run_bind_error hrun)]
  | ok u b₁ =>
      rw [final_ok hrun, final_bind_ok hrun]
      rfl

end Cuts

/-! ## The law and where it ends -/

section Reliable

variable {attributes : Option CJson} {version : Int32}

theorem recorded_afterVersion (hP : P.FsReliable) (hT : b.TableOk) (hv : 0 < version) :
    Recorded (final (decodeVersion P version) b).flash version := by
  have hreq : requested P none version .confVersion = some version := if_pos hv
  have hrun := decodeVersion_run none version hP hT
  rw [hreq] at hrun
  rw [final_ok hrun]
  exact flash_store_self

theorem requested_version {id : DevConfigShadowId} (hid : id ≠ .confVersion) :
    requested P attributes version id = requested P attributes 0 id := by
  cases id with
  | confVersion => exact absurd rfl hid
  | _ => rfl

/-- A message processed to its end leaves the version and all its values in the files. -/
theorem noTopic_committed (hP : P.FsReliable) (hT : b.TableOk) (hv : 0 < version)
    (htopic : requestedTopic attributes = none) :
    ∃ b', (awsDecodeShadowValues P attributes version true).run b = .ok () b' ∧
      Recorded b'.flash version ∧ InPlace P attributes b'.flash := by
  have hholds : ∀ id ∈ beforeTopic ++ [.appType],
      (b.serveAll (beforeTopic ++ [.appType]) (requested P attributes version)).Holds id
        (requested P attributes version id) := fun id hid => serveAll_holds (by decide) hid
  refine ⟨_, awsDecodeShadowValues_run version hP hT htopic, ?_, ?_⟩
  · rw [flash_notice]
    exact (hholds .confVersion (by decide) version (if_pos hv)).2
  · rw [flash_notice]
    intro id content hc
    have hvalue : ∀ id ∈ beforeTopic ++ [.appType], id ≠ .confVersion →
        (requested P attributes 0 id).map id.numContent = some content →
        (b.serveAll (beforeTopic ++ [.appType]) (requested P attributes version)).flash id.fileName
          = some content := by
      intro id hid hne hmap
      obtain ⟨v, hv, rfl⟩ := Option.map_eq_some_iff.1 hmap
      exact (hholds id hid v (by rw [requested_version hne, hv])).2
    cases id with
    | pubTopic =>
        -- a message with a topic would not get to its end
        have hnone : carried P attributes .pubTopic = none := by
          show (requestedTopic attributes).map _ = none
          rw [htopic, Option.map_none]
        rw [hnone] at hc
        cases hc
    | confVersion | iccid | subTopic => cases hc
    | _ => exact hvalue _ (by decide) (by decide) hc

end Reliable

/-- For every platform, store, flash and message with a version that is not the persisted one: no
    reboot ever finds the version in its file without the values that came with it exactly when
    these were in their files before, or the version does not get into its own. On a reliable file
    system it does, so there the law holds exactly for messages that bring nothing new; and one
    processed to its end leaves the version and its values in the files. -/
theorem version_commit_iff (P : Platform) (b : Board) (hT : b.TableOk) (attributes : Option CJson)
    (version : Int32) (hv : 0 < version) (hnew : ¬ Recorded b.flash version) :
    (CommittedTogether P attributes version b ↔
      (Recorded (final (decodeVersion P version) b).flash version →
        InPlace P attributes b.flash)) ∧
    (P.FsReliable → Recorded (final (decodeVersion P version) b).flash version) ∧
    (P.FsReliable → requestedTopic attributes = none →
      ∃ b', (awsDecodeShadowValues P attributes version true).run b = .ok () b' ∧
        Recorded b'.flash version ∧ InPlace P attributes b'.flash) := by
  refine ⟨?_, fun hP => recorded_afterVersion hP hT hv,
    fun hP htopic => noTopic_committed hP hT hv htopic⟩
  rw [← inPlace_afterVersion hT]
  constructor
  · intro hlaw hrecorded
    exact hlaw _ cutShort_afterVersion hrecorded
  · intro hplace b' hcut hrecorded
    rcases hcut.cases hT with rfl | ⟨hversion, hsame⟩
    · -- nothing has run, so the version is not there
      exact absurd hrecorded hnew
    · unfold Recorded at hrecorded
      rw [hversion] at hrecorded
      have hafter := hplace hrecorded
      rw [hsame ((inPlace_afterVersion hT).1 hafter)]
      exact hafter

/-- A message of version 5 that asks for data every 300 s. -/
def daqRequest : CJson := .object [("daq_interval_s", .number 300)]

theorem version_commit_iff_daqRequest :
    let P := Platform.ideal [] .null
    CommittedTogether P (some daqRequest) 5 .provisioned ↔
      (Recorded (final (decodeVersion P 5) .provisioned).flash 5 →
        InPlace P (some daqRequest) Board.provisioned.flash) :=
  (version_commit_iff (.ideal [] .null) .provisioned ⟨fun _ => rfl, fun _ => rfl⟩ (some daqRequest)
    5 (by decide) (by decide +kernel)).1

/-- Cut after its first save, version 5 is recorded and the interval is still 60 s. -/
theorem daqRequest_half_applied :
    let P := Platform.ideal [] .null
    ∃ b', CutShort P (some daqRequest) 5 .provisioned b' ∧ Recorded b'.flash 5 ∧
      b'.flash DevConfigShadowId.daqIntervalS.fileName = some (int16Bytes 60) ∧
      ¬ CommittedTogether P (some daqRequest) 5 .provisioned := by
  intro P
  have hdaq : (final (decodeVersion P 5) .provisioned).flash
      DevConfigShadowId.daqIntervalS.fileName = some (int16Bytes 60) := by decide +kernel
  have hrecorded : Recorded (final (decodeVersion P 5) .provisioned).flash 5 := by decide +kernel
  refine ⟨_, cutShort_afterVersion, hrecorded, hdaq, ?_⟩
  intro hlaw
  have hplace := hlaw _ cutShort_afterVersion hrecorded .daqIntervalS (int16Bytes 300) rfl
  rw [hdaq] at hplace
  exact absurd hplace (by decide)

end Levaware
