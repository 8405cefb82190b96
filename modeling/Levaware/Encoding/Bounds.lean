import Levaware.Config.BootRecovery
import Levaware.Encoding.Envelope
import Levaware.Encoding.Requests
import Levaware.Lib.History

set_option autoImplicit false

/-! # String fields within bounds

The strings in the device configuration come from files read at boot and from the cloud, and no
copy checks a length. On any platform, failing file system calls included, the fields stay within
bounds as long as what comes in fits (`strings_in_bounds`); a serial number that fills its field, a
longer string in a file or a longer topic breaks them. -/

namespace Levaware

open Abort

/-! ## Bounds -/

/-- Every copy made so far fits its field. -/
def CopiesFit (b : Board) : Prop := ∀ e ∈ b.trace, e.Fits

/-- The copies fit, and the serial number and every string end within their fields. -/
structure InBounds (b : Board) : Prop where
  copies : CopiesFit b
  serialNumber : b.config.serialNumber.Terminated
  strVal : ∀ id, (b.attr id).strVal.Terminated

/-- The serial number is blank, or what the file put into the blank field. -/
def SerialFromFile (b : Board) : Prop :=
  b.config.serialNumber = .zero _ ∨
    ∃ content, b.flash serialNumberFileName = some content ∧
      b.config.serialNumber = (CBuf.zero _).blit content

/-- The bounds, with what keeps them: the table, and where the serial number comes from. -/
structure Bounded (b : Board) : Prop where
  table : b.TableOk
  bounds : InBounds b
  serial : SerialFromFile b

/-- What the bounds ask of the flash when `config_init` runs: if there is a serial number, so that
    the boot goes on, its bytes leave room for a NUL or bring one, and the strings fit as far as
    the loading gets. -/
def InitFits (fl : Flash) : Prop :=
  ∀ content, fl serialNumberFileName = some content →
    (content.length < serialNumberLen ∨ (0 : UInt8) ∈ content.take serialNumberLen) ∧
      fl.FitsWhenReached

variable {P : Platform} {b b' b₀ : Board} {α : Type}

/-- The routine keeps the bounds, and when it aborts the copies made were fitting ones. -/
def Keeps (m : Fw α) : Prop := Triple Bounded m (fun _ => Bounded) (fun _ => CopiesFit)

theorem Keeps.pure (a : α) : Keeps (pure a) := Triple.pure fun _ h => h

theorem Keeps.erabort (reason : String) : Keeps (erabort reason : Fw α) :=
  Triple.throw fun _ h => h.bounds.copies

theorem Keeps.bind {β : Type} {m : Fw α} {f : α → Fw β} (hm : Keeps m) (hf : ∀ a, Keeps (f a)) :
    Keeps (m >>= f) := Triple.bind hm hf

theorem Keeps.ite {c : Prop} [Decidable c] {m n : Fw α} (hm : c → Keeps m) (hn : ¬ c → Keeps n) :
    Keeps (if c then m else n) := Triple.ite hm hn

theorem Keeps.discard {m : Fw α} (h : Keeps m) : Keeps (discard m) := Triple.discard h

/-- One more entry in the trace. -/
theorem CopiesFit.log {e : Effect} (h : CopiesFit b₀) (htrace : b.trace = b₀.trace ++ [e])
    (he : e.Fits) : CopiesFit b := by
  unfold CopiesFit
  rw [htrace]
  intro e' hmem
  rcases List.mem_append.1 hmem with hold | hlast
  · exact h e' hold
  · rw [List.mem_singleton.1 hlast]
    exact he

/-! ## The routines that save -/

theorem Bounded.save {name : String} {content : List UInt8} (h : Bounded b₀)
    (hname : name ≠ serialNumberFileName) (hb : SaveFrame name content b₀ b) : Bounded b := by
  have hattr : b.attr = b₀.attr := Board.attr_congr hb.config
  refine ⟨h.table.of_attr_eq hattr, ⟨?_, ?_, ?_⟩, ?_⟩
  · exact h.bounds.copies.log hb.trace trivial
  · rw [hb.config]
    exact h.bounds.serialNumber
  · rw [hattr]
    exact h.bounds.strVal
  · unfold SerialFromFile
    rw [hb.config, hb.flash _ hname.symm]
    exact h.serial

theorem saveVal_keeps {a : DevShadowAttrib} (hname : a.filename ≠ serialNumberFileName) :
    Keeps (saveVal P a) := by
  have hsave : ∀ content, Keeps (saveToFile P content a.filename) := fun content =>
    Triple.of_each fun b₀ h => saveToFile_frame.conseq (fun _ hb => hb)
      (fun _ b hb => h.save hname hb) fun _ b hb => (h.save hname hb).bounds.copies
  unfold saveVal
  split
  · exact hsave _
  · exact hsave _
  · exact hsave _
  · exact Keeps.pure _

/-- Changing numbers and dirty flags. -/
theorem modifyAttr_keeps (id : DevConfigShadowId) {f : DevShadowAttrib → DevShadowAttrib}
    (hf : ∀ a, (f a).strVal = a.strVal ∧ (f a).valType = a.valType ∧
      (f a).filename = a.filename) : Keeps (modifyAttr id f) := by
  refine Triple.modify fun b h => ?_
  obtain ⟨hstr, hty, hfn⟩ := hf (b.attr id)
  refine ⟨h.table.setAttr (hty.trans (h.table.valType id)) (hfn.trans (h.table.filename id)),
    ⟨h.bounds.copies, h.bounds.serialNumber, fun other => ?_⟩, h.serial⟩
  by_cases hother : other = id
  · subst hother
    rw [Board.attr_setAttr_self, hstr]
    exact h.bounds.strVal other
  · rw [Board.attr_setAttr_of_ne hother]
    exact h.bounds.strVal other

theorem configSave_keeps (id : DevConfigShadowId) : Keeps (configSaveAttributeToFile P id) := by
  have hclean : Keeps (modifyAttr id fun a => { a with isNewVal := false }) :=
    modifyAttr_keeps id fun _ => ⟨rfl, rfl, rfl⟩
  refine Triple.of_each fun b₀ h => ?_
  have hname : (b₀.attr id).filename ≠ serialNumberFileName := by
    rw [h.table.filename]
    exact id.fileName_ne_serialNumber
  have hrest : Keeps (do
      if (b₀.attr id).isNewVal then
        let err ← saveVal P (b₀.attr id)
        if err = 0 then return err
      modifyAttr id fun a => { a with isNewVal := false }
      return 0 : Fw Int) := by
    refine Keeps.ite (fun _ => (saveVal_keeps hname).bind fun err => ?_) fun _ => ?_
    · exact Keeps.ite (fun _ => Keeps.pure _) fun _ => hclean.bind fun _ => Keeps.pure _
    · exact hclean.bind fun _ => Keeps.pure _
  rintro b rfl
  unfold configSaveAttributeToFile
  rw [run_bind_ok (EStateM.run_get b)]
  exact hrest b h

/-! ## The decoder -/

section Decoder

variable (attributes : Option CJson) (version : Int32) (isDelta : Bool)

theorem setAndSaveInt16_keeps (id : DevConfigShadowId) (val : Int32) :
    Keeps (setAndSaveInt16 P id val isDelta) := by
  have hset : Keeps (configSetInt16 id val.toInt16 isDelta) :=
    Keeps.ite (fun _ => modifyAttr_keeps id fun _ => ⟨rfl, rfl, rfl⟩) fun _ => Keeps.erabort _
  exact hset.bind fun _ => (configSave_keeps id).discard

theorem decodeVersion_keeps : Keeps (decodeVersion P version) := by
  have hset : Keeps (configSetInt .confVersion version true) :=
    Keeps.ite (fun _ => modifyAttr_keeps _ fun _ => ⟨rfl, rfl, rfl⟩) fun _ => Keeps.erabort _
  exact Keeps.ite (fun _ => hset.bind fun _ => (configSave_keeps _).discard) fun _ => Keeps.pure _

theorem decodeInterval_keeps (key : String) (minimum : Int32) (id : DevConfigShadowId) :
    Keeps (decodeInterval P attributes key minimum id isDelta) := by
  unfold decodeInterval
  split
  · exact setAndSaveInt16_keeps _ _ _
  · exact Keeps.pure _

theorem decodeSensorType_keeps : Keeps (decodeSensorType P attributes isDelta) := by
  unfold decodeSensorType
  split
  · exact Keeps.ite (fun _ => setAndSaveInt16_keeps _ _ _) fun _ => Keeps.pure _
  · exact Keeps.pure _

/-- A topic ends the decoding, so all there is to see to is that its copy fits. -/
theorem decodeTopic_keeps
    (hfit : ∀ s, requestedTopic attributes = some s → s.bytes.length < strValLen) :
    Keeps (decodeTopic P attributes true) := by
  cases htopic : requestedTopic attributes with
  | none =>
      intro b h
      rw [decodeTopic_none htopic]
      exact h
  | some s =>
      intro b h
      obtain ⟨b', hrun, hb'⟩ := decodeTopic_some (P := P) htopic b
      rw [hrun]
      exact h.bounds.copies.log hb'.trace (hfit s htopic)

theorem decodeAppType_keeps : Keeps (decodeAppType P attributes isDelta) := by
  have hlog : ∀ val, Keeps (logEffect (.appTypeChanged val)) := by
    refine fun val => Triple.modify fun b h => ⟨h.table.of_attr_eq rfl, ⟨?_, ?_, ?_⟩, h.serial⟩
    · exact h.bounds.copies.log rfl trivial
    · exact h.bounds.serialNumber
    · exact h.bounds.strVal
  unfold decodeAppType
  split
  · refine Keeps.ite (fun _ => (setAndSaveInt16_keeps _ _ _).bind fun _ => ?_) fun _ => Keeps.pure _
    refine (configDiffFlashInt16_preserves (fun _ h => h.bounds.copies) _ _).bind fun _ => ?_
    exact Keeps.ite (fun _ => hlog _) fun _ => Keeps.pure _
  · exact Keeps.pure _

theorem awsDecodeShadowValues_keeps
    (hfit : ∀ s, requestedTopic attributes = some s → s.bytes.length < strValLen) :
    Keeps (awsDecodeShadowValues P attributes version true) :=
  (decodeVersion_keeps version).bind fun _ =>
    (decodeInterval_keeps attributes true _ _ _).bind fun _ =>
    (decodeInterval_keeps attributes true _ _ _).bind fun _ =>
    (decodeInterval_keeps attributes true _ _ _).bind fun _ =>
    (decodeSensorType_keeps attributes true).bind fun _ =>
    (decodeTopic_keeps attributes hfit).bind fun _ => decodeAppType_keeps attributes true

end Decoder

/-! ## The boot -/

theorem SerialFromFile.read (h : SerialFromFile b₀) {content : List UInt8}
    (hf : b₀.flash serialNumberFileName = some content) :
    b₀.config.serialNumber.blit content = (CBuf.zero _).blit content := by
  rcases h with hblank | ⟨content', hf', hread⟩
  · rw [hblank]
  · rw [hf] at hf'
    cases hf'
    rw [hread, CBuf.blit_blit]

/-- Reading a serial number that fits. -/
theorem readSerialNumber_triple (hb : InBounds b₀) (hs : SerialFromFile b₀) {content : List UInt8}
    (hf : b₀.flash serialNumberFileName = some content)
    (hfit : content.length < serialNumberLen ∨ (0 : UInt8) ∈ content.take serialNumberLen) :
    Triple (fun b => b = b₀) (readSerialNumber P)
      (fun _ b => InBounds b ∧ SerialFromFile b ∧ b.flash = b₀.flash) (fun _ => CopiesFit) := by
  have hexists : Triple (fun b => b = b₀) (isFileExists P serialNumberFileName)
      (fun _ b => b = b₀) (fun _ => CopiesFit) :=
    (isFileExists_keeps _).conseq (fun _ h => h) (fun _ _ h => h) fun _ b h => h ▸ hb.copies
  unfold readSerialNumber logEffect
  refine hexists.bind fun found => Triple.ite (fun _ => ?_) fun _ => ?_
  · rintro b rfl
    rw [run_bind_ok (EStateM.run_get b)]
    rcases readFile_cases (P := P) b.config.serialNumber serialNumberFileName b with
      ⟨e, hrun, -⟩ | ⟨content', hf', hrun⟩
    · rw [run_bind_error hrun]
      exact hb.copies
    · rw [hf] at hf'
      cases hf'
      rw [run_bind_ok hrun]
      dsimp only
      rw [run_bind_ok (EStateM.run_modify _ _), run_bind_ok (EStateM.run_modify _ _),
        if_neg (by omega), hs.read hf]
      refine ⟨⟨?_, CBuf.blit_terminated hfit, hb.strVal⟩, Or.inr ⟨content, hf, rfl⟩, rfl⟩
      intro e he
      rcases List.mem_append.1 he with he | he
      · exact hb.copies e he
      · rw [List.mem_singleton.1 he]
        exact Nat.min_le_left _ _
  · refine Triple.pure fun b h => ?_
    subst h
    exact ⟨hb, hs, rfl⟩

theorem Board.LoadsTo.copiesFit (h : b₀.LoadsTo b) (hb : CopiesFit b₀) : CopiesFit b := by
  obtain ⟨copies, htrace, hfit⟩ := h.trace
  unfold CopiesFit
  rw [htrace]
  intro e he
  rcases List.mem_append.1 he with he | he
  · exact hb e he
  · exact hfit e he

/-- The loaded table keeps the strings terminated. -/
theorem Board.Booted.bounded (h : b₀.Booted b) (hb : InBounds b₀) (hs : SerialFromFile b₀)
    (hfit : b₀.flash.FitsWhenReached) : Bounded b := by
  refine ⟨h.tableOk, ⟨h.loadsTo.copiesFit hb.copies, ?_, ?_⟩, ?_⟩
  · rw [h.loadsTo.serialNumber]
    exact hb.serialNumber
  · intro id
    have hdefault := setDefault_terminated _ id (hb.strVal id)
    rw [h.attr]
    by_cases hid : id = .iccid
    · rw [Flash.loaded, if_pos hid]
      exact hdefault
    · obtain ⟨content, hc⟩ := Option.isSome_iff_exists.1 (h.present id hid)
      rw [loaded_of_some hid hc]
      refine loadFrom_terminated ?_ hdefault
      intro hty
      exact hfit id hid (fun other hother _ => h.present other hother) hty content hc
  · unfold SerialFromFile
    rw [h.loadsTo.serialNumber, h.loadsTo.flash]
    exact hs

theorem saveIfMissing_keeps (id : DevConfigShadowId) : Keeps (saveIfMissing P id) := by
  have hget : Keeps (get : Fw Board) := Triple.get fun _ h => h
  have hexists : ∀ name, Keeps (isFileExists P name) := fun name =>
    Triple.of_each fun b₀ h => (isFileExists_keeps name).conseq (fun _ hb => hb)
      (fun _ b hb => hb ▸ h) fun _ b hb => hb ▸ h.bounds.copies
  refine Keeps.ite (fun _ => hget.bind fun b => (hexists _).bind fun found => ?_) fun _ =>
    Keeps.pure _
  exact Keeps.ite (fun _ => (configSave_keeps id).discard) fun _ => Keeps.pure _

/-- `config_init` on a flash whose strings fit, from any RAM within bounds. -/
theorem configInit_triple (hb : InBounds b₀) (hs : SerialFromFile b₀) (hfit : InitFits b₀.flash) :
    Triple (fun b => b = b₀) (configInit P) (fun _ => Bounded) (fun _ => CopiesFit) := by
  have hmount : Triple (fun b => b = b₀) (configFsInit P) (fun _ b => b = b₀)
      (fun _ => CopiesFit) :=
    Triple.ite (fun _ => Triple.throw fun b h => h ▸ hb.copies) fun _ => Triple.pure fun _ h => h
  refine hmount.bind fun _ => ?_
  cases hf : b₀.flash serialNumberFileName with
  | none =>
      rintro b rfl
      rw [run_bind_error (readSerialNumber_missing hf)]
      exact hb.copies
  | some content =>
      obtain ⟨hserial, hstrings⟩ := hfit content hf
      refine (readSerialNumber_triple hb hs hf hserial).bind fun _ => Triple.of_each ?_
      rintro b₁ ⟨hb₁, hs₁, hflash₁⟩
      have hids : Triple (fun b => b = b₁) (readModemIds P) (fun _ => ModemFrame b₁)
          (fun _ => CopiesFit) := by
        refine readModemIds_frame.conseq (fun b h => h ▸ ModemFrame.refl b) (fun _ _ h => h) ?_
        intro _ b h
        unfold CopiesFit
        rw [h.trace]
        exact hb₁.copies
      refine hids.bind fun _ => Triple.of_each fun b₂ hframe => ?_
      have hb₂ : InBounds b₂ := by
        refine ⟨?_, ?_, ?_⟩
        · unfold CopiesFit
          rw [hframe.trace]
          exact hb₁.copies
        · rw [hframe.serialNumber]
          exact hb₁.serialNumber
        · rw [hframe.attr]
          exact hb₁.strVal
      have hs₂ : SerialFromFile b₂ := by
        unfold SerialFromFile
        rw [hframe.serialNumber, hframe.flash]
        exact hs₁
      have hstrings₂ : b₂.flash.FitsWhenReached := by
        rw [hframe.flash, hflash₁]
        exact hstrings
      have hload : Triple (fun b => b = b₂) (configDevShadowAttribInit P) (fun _ => Bounded)
          (fun _ => CopiesFit) :=
        (configDevShadowAttribInit_triple hstrings₂).conseq (fun _ h => h)
          (fun _ b h => h.bounded hb₂ hs₂ hstrings₂)
          fun _ b h => h.loadsTo.copiesFit hb₂.copies
      have hloop : Keeps (DevConfigShadowId.all.forM (saveIfMissing P)) :=
        Triple.forM (I := fun _ => Bounded) fun _ id _ _ => saveIfMissing_keeps id
      exact hload.bind fun _ => hloop

/-! ## Boots and messages -/

/-- The device with power: running once `config_init` has completed. -/
structure PoweredDevice where
  device : Device
  running : Bool

/-- What happens to it. -/
inductive LifeOp where
  | reboot
  | configInit
  | shadowMsg (msg : List UInt8)

/-- RAM cleared, nothing running. -/
def switchedOff (b : Board) : PoweredDevice :=
  { device := { board := b.powerCycle, outstanding := [] }, running := false }

/-- A device with that flash, before its first boot. -/
def powerOn (fl : Flash) : PoweredDevice := switchedOff (Board.switchedOn fl)

/-- The device after a firmware routine: an abort reboots it. -/
def settle : EStateM.Result String Device Unit → PoweredDevice
  | .ok _ d => { device := d, running := true }
  | .error _ d => switchedOff d.board

variable (P : Platform)

/-- One operation. Messages arrive at a running device only; `config_init` may run in any RAM. -/
def lifeStep (s : PoweredDevice) : LifeOp → PoweredDevice
  | .reboot => switchedOff s.device.board
  | .configInit => settle ((onBoard (configInit P)).run s.device)
  | .shadowMsg msg =>
      if s.running then settle ((awsDecodeShadowMsg P msg).run s.device) else s

def lifeRun (s : PoweredDevice) (ops : List LifeOp) : PoweredDevice := ops.foldl (lifeStep P) s

/-- What comes in with this operation fits: the files `config_init` reads, the topic of a message
    that is processed. -/
def StepFits (s : PoweredDevice) : LifeOp → Prop
  | .reboot => True
  | .configInit => InitFits s.device.board.flash
  | .shadowMsg msg => s.running = true → ∀ attributes version topic,
      shadowAttributes (P.parseWithLength msg) = some (attributes, version) →
      requestedTopic attributes = some topic → topic.bytes.length < strValLen

/-- Everything that comes in during these operations fits. -/
def RunFits (s : PoweredDevice) : List LifeOp → Prop
  | [] => True
  | op :: ops => StepFits P s op ∧ RunFits (lifeStep P s op) ops

variable {P} {s : PoweredDevice}

/-- The invariant of boots and messages. -/
structure LifeInv (s : PoweredDevice) : Prop where
  bounds : InBounds s.device.board
  serial : SerialFromFile s.device.board
  table : s.running = true → s.device.board.TableOk

theorem switchedOff_inv (h : CopiesFit b) : LifeInv (switchedOff b) where
  bounds := ⟨h, CBuf.zero_terminated (by decide), fun _ => CBuf.zero_terminated (by decide)⟩
  serial := Or.inl rfl
  table hrun := by cases hrun

theorem settle_inv {r : EStateM.Result String Device Unit}
    (hok : ∀ b, boardResult r = .ok () b → Bounded b)
    (herror : ∀ e b, boardResult r = .error e b → CopiesFit b) : LifeInv (settle r) := by
  cases r with
  | ok u d =>
      have hb := hok d.board rfl
      exact ⟨hb.bounds, hb.serial, fun _ => hb.table⟩
  | error e d => exact switchedOff_inv (herror e d.board rfl)

theorem boardResult_onBoard (m : Fw Unit) (d : Device) :
    boardResult ((onBoard m).run d) = m.run d.board := by
  rw [onBoard, run_zoom]
  cases m.run d.board <;> rfl

theorem lifeStep_inv (h : LifeInv s) {op : LifeOp} (hfit : StepFits P s op) :
    LifeInv (lifeStep P s op) := by
  cases op with
  | reboot => exact switchedOff_inv h.bounds.copies
  | configInit =>
      have htriple := configInit_triple (P := P) h.bounds h.serial hfit
      refine settle_inv (fun b hrun => ?_) fun e b hrun => ?_
      · rw [boardResult_onBoard] at hrun
        exact htriple.ok rfl hrun
      · rw [boardResult_onBoard] at hrun
        exact htriple.error rfl hrun
  | shadowMsg msg =>
      cases hrunning : s.running with
      | false => simpa [lifeStep, hrunning] using h
      | true =>
          have hb : Bounded s.device.board := ⟨h.table hrunning, h.bounds, h.serial⟩
          have hstep : lifeStep P s (.shadowMsg msg)
              = settle ((awsDecodeShadowMsg P msg).run s.device) := by
            simp [lifeStep, hrunning]
          rw [hstep]
          cases henv : shadowAttributes (P.parseWithLength msg) with
          | none =>
              have heffect : msgEffect P msg s.device = .ok () s.device.board :=
                msgEffect_discarded henv
              refine settle_inv (fun b hrun => ?_) fun e b hrun => ?_
              · cases heffect.symm.trans hrun
                exact hb
              · cases heffect.symm.trans hrun
          | some found =>
              have heffect := msgEffect_accepted (d := s.device) henv
              have hkeeps : Keeps (awsDecodeShadowValues P found.1 found.2 true) :=
                awsDecodeShadowValues_keeps _ _ fun t => hfit hrunning _ _ t henv
              refine settle_inv (fun b hrun => ?_) fun e b hrun => ?_
              · exact Triple.ok hkeeps hb (heffect.symm.trans hrun)
              · exact Triple.error hkeeps hb (heffect.symm.trans hrun)

theorem lifeRun_inv (h : LifeInv s) (ops : List LifeOp) (hfit : RunFits P s ops) :
    LifeInv (lifeRun P s ops) := by
  induction ops generalizing s with
  | nil => exact h
  | cons op ops ih => exact ih (lifeStep_inv h hfit.1) hfit.2

theorem RunFits.of_append {pre post : List LifeOp} (h : RunFits P s (pre ++ post)) :
    RunFits P s pre := by
  induction pre generalizing s with
  | nil => trivial
  | cons op pre ih => exact ⟨h.1, ih h.2⟩

/-! ## The strings the accessors hand out -/

theorem InBounds.serialNumber_length (h : InBounds b) :
    (configGetSerialNumber b).length ≤ 49 :=
  Nat.le_of_lt_succ ((CBuf.terminated_iff _).1 h.serialNumber)

theorem InBounds.str_length (h : InBounds b) (id : DevConfigShadowId) :
    (configGetStr id b).length ≤ 127 := by
  unfold configGetStr
  split
  · exact Nat.le_of_lt_succ ((CBuf.terminated_iff _).1 (h.strVal id))
  · have hlen := cstr_length_le b.config.iccid.bytes
    rw [b.config.iccid.size_eq] at hlen
    exact hlen.trans (by decide)

/-- From any flash and on any platform: in every run of boots, reboots and messages in which what
    comes in fits, after every operation all copies have fitted their fields, the serial number and
    every string end within theirs, and the accessors denote strings of at most 49 and 127 bytes. -/
theorem strings_in_bounds (P : Platform) (fl : Flash) (ops : List LifeOp)
    (hfit : RunFits P (powerOn fl) ops) :
    ∀ pre post, ops = pre ++ post →
      InBounds (lifeRun P (powerOn fl) pre).device.board ∧
      (configGetSerialNumber (lifeRun P (powerOn fl) pre).device.board).length ≤ 49 ∧
      ∀ id, (configGetStr id (lifeRun P (powerOn fl) pre).device.board).length ≤ 127 := by
  rintro pre post rfl
  have hstart : LifeInv (powerOn fl) := switchedOff_inv fun _ he => by cases he
  have hbounds := (lifeRun_inv hstart pre hfit.of_append).bounds
  exact ⟨hbounds, hbounds.serialNumber_length, hbounds.str_length⟩

theorem provisioned_initFits : InitFits Flash.provisioned := by
  intro content hc
  have hfits : (Board.switchedOn Flash.provisioned).flash.FitsWhenReached :=
    Flash.WellFormed.fits provisioned_wellFormed
  cases hc
  exact ⟨Or.inl (by decide), hfits⟩

theorem strings_in_bounds_provisioned :
    InBounds (lifeRun (.ideal [] .null) (powerOn Flash.provisioned) [.configInit]).device.board ∧
    (configGetSerialNumber
      (lifeRun (.ideal [] .null) (powerOn Flash.provisioned) [.configInit]).device.board).length
        ≤ 49 ∧
    ∀ id, (configGetStr id
      (lifeRun (.ideal [] .null) (powerOn Flash.provisioned) [.configInit]).device.board).length
        ≤ 127 :=
  strings_in_bounds (.ideal [] .null) Flash.provisioned [.configInit]
    ⟨provisioned_initFits, trivial⟩ [.configInit] [] rfl

/-- A serial number of 50 characters fills its field, and the string has no end in it. -/
theorem longSerial_out_of_bounds :
    let fl : Flash := Function.update Flash.provisioned serialNumberFileName
      (some (List.replicate 50 65))
    ¬ InBounds (lifeRun (.ideal [] .null) (powerOn fl) [.configInit]).device.board := by
  intro fl h
  exact absurd h.serialNumber (by decide +kernel)

end Levaware
