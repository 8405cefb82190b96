import Levaware.Encoding.Device

set_option autoImplicit false

/-! # The enumerated attributes

`sensor_type` and `app_type` come as numbers. The decoder casts them to their enumerations, compares
with the sentinels and stores the number itself. The check of the sensor is against the wrong
sentinel, and the cast may drop high bits that come back in the `int16_t` stored, so numbers get
through that name no sensor and no application. A run keeps the two attributes valid exactly as long
as no such number is served (`enum_types_iff`). -/

namespace Levaware

open Abort

/-! ## Sensors and applications -/

/-- The enumerated attributes. -/
inductive EnumAttr where
  | sensor | app
  deriving DecidableEq

namespace EnumAttr

/-- The attribute. -/
def id : EnumAttr → DevConfigShadowId
  | sensor => .sensorType
  | app => .appType

/-- The member of the attributes object. -/
def key : EnumAttr → String
  | sensor => "sensor_type"
  | app => "app_type"

/-- The number names a sensor or an application. -/
def IsReal : EnumAttr → Int → Prop
  | sensor, n => ExternalSensor.unknown.toNat < n ∧ n < ExternalSensor.num.toNat
  | app, n => AppId.unknown.toNat < n ∧ n < AppId.num.toNat

instance (e : EnumAttr) (n : Int) : Decidable (e.IsReal n) := by
  cases e <;> unfold IsReal <;> infer_instance

theorem valType_id (e : EnumAttr) : e.id.valType = .int16 := by cases e <;> rfl

/-- The types are few. -/
theorem IsReal.bounds {e : EnumAttr} {n : Int} (h : e.IsReal n) : 0 < n ∧ n < 5 := by
  cases e with
  | sensor => exact ⟨h.1, h.2.trans (by decide)⟩
  | app => exact h

end EnumAttr

variable (P : Platform)

/-- The number a message asks for. -/
def asked (e : EnumAttr) (msg : List UInt8) : Option Int32 :=
  (shadowAttributes (P.parseWithLength msg)).bind fun found =>
    CJson.number? (CJson.getObjectItem found.1 e.key)

/-- `config_get_int16` returns a real type, and the file, if there is one, holds one. -/
def EnumValid (b : Board) (e : EnumAttr) : Prop :=
  (∃ v, (configGetInt16 e.id).run b = .ok v b ∧ e.IsReal v.toInt) ∧
  ∀ content, b.flash e.id.fileName = some content →
    ∃ v : Int16, content = int16Bytes v ∧ e.IsReal v.toInt

/-- The attribute and its file are the same in `b'` as in `b`. -/
def EnumSame (b b' : Board) (e : EnumAttr) : Prop :=
  (b'.attr e.id).int16Val = (b.attr e.id).int16Val ∧
    b'.flash e.id.fileName = b.flash e.id.fileName

/-- After these messages both attributes are valid, and if the last one asked for a number that
    names no type, it has changed nothing. -/
def EnumLaw (d₀ : Device) (msgs : List (List UInt8)) : Prop :=
  ∀ d', msgRun P d₀ msgs = some d' → ∀ e, EnumValid d'.board e ∧
    ∀ pre msg d v, msgs = pre ++ [msg] → msgRun P d₀ pre = some d → asked P e msg = some v →
      ¬ e.IsReal v.toInt → EnumSame d.board d'.board e

/-- The number of the message that gets through the check, if any, names a type, or is what the
    attribute and its file hold in 16 bits anyway. -/
def EnumAdmits (b : Board) (msg : List UInt8) (e : EnumAttr) : Prop :=
  ∀ v, served P msg e.id = some v → e.IsReal v.toInt ∨
    ((b.attr e.id).int16Val = v.toInt16 ∧ b.flash e.id.fileName = some (int16Bytes v.toInt16))

variable {P} {b : Board} {d d' : Device} {e : EnumAttr} {msg : List UInt8}

/-! ## One message -/

/-- What is served was asked for. -/
theorem asked_of_served {v : Int32} (h : served P msg e.id = some v) : asked P e msg = some v := by
  unfold served at h
  unfold asked
  obtain ⟨found, henv, hfound⟩ := Option.bind_eq_some_iff.1 h
  rw [henv, Option.bind_some]
  split_ifs at hfound
  cases e with
  | sensor => exact (Option.filter_eq_some_iff.1 hfound).1
  | app => exact (Option.filter_eq_some_iff.1 hfound).1

/-- A real type fits in 16 bits. -/
theorem EnumAttr.IsReal.toInt16 {v : Int32} (h : e.IsReal v.toInt) : e.IsReal v.toInt16.toInt := by
  obtain ⟨hpos, hlt⟩ := h.bounds
  rwa [(toInt_toInt16_iff (by omega)).2 (by omega)]

theorem enumValid_of_inStep (h : b.InStep e.id) (hv : e.IsReal (b.attr e.id).int16Val.toInt) :
    EnumValid b e :=
  ⟨⟨_, configGetInt16_run e.id b, hv⟩, fun content hc => ⟨_, h content hc, hv⟩⟩

theorem EnumValid.isReal (h : EnumValid b e) : e.IsReal (b.attr e.id).int16Val.toInt := by
  obtain ⟨v, hv, hreal⟩ := h.1
  rw [configGetInt16_run] at hv
  cases hv
  exact hreal

/-- A message keeps the attribute valid, and lets it be when it asks for no type, exactly when what
    it serves is admissible. -/
theorem enumStep_iff (hin : d.board.InStep e.id) (hvalid : EnumValid d.board e)
    (h : Int16Step P msg e.id d.board d'.board) :
    (EnumValid d'.board e ∧ ∀ v, asked P e msg = some v → ¬ e.IsReal v.toInt →
      EnumSame d.board d'.board e) ↔ EnumAdmits P d.board msg e := by
  constructor
  · rintro ⟨-, hsame⟩ v hv
    -- a number that names no type must not have changed anything, yet it was stored
    by_cases hreal : e.IsReal v.toInt
    · exact Or.inl hreal
    · obtain ⟨hattr, hflash⟩ := hsame v (asked_of_served hv) hreal
      obtain ⟨hattr', hflash'⟩ := h.given v hv
      exact Or.inr ⟨hattr.symm.trans hattr', hflash.symm.trans hflash'⟩
  · intro hadmits
    have hsame : ∀ v, served P msg e.id = some v → ¬ e.IsReal v.toInt →
        EnumSame d.board d'.board e := by
      intro v hv hreal
      obtain ⟨hattr, hflash⟩ := (hadmits v hv).resolve_left hreal
      obtain ⟨hattr', hflash'⟩ := h.given v hv
      exact ⟨hattr'.trans hattr.symm, hflash'.trans hflash.symm⟩
    constructor
    · refine enumValid_of_inStep (h.inStep hin) ?_
      cases hserved : served P msg e.id with
      | none =>
          rw [(h.kept hserved).1]
          exact hvalid.isReal
      | some v =>
          by_cases hreal : e.IsReal v.toInt
          · rw [(h.given v hserved).1]
            exact hreal.toInt16
          · rw [(hsame v hserved hreal).1]
            exact hvalid.isReal
    · intro v hv hreal
      cases hserved : served P msg e.id with
      | none => exact h.kept hserved
      | some v' =>
          have hsame' : asked P e msg = some v' := asked_of_served hserved
          rw [hv] at hsame'
          cases hsame'
          exact hsame v hserved hreal

/-! ## Runs -/

/-- In every run from the default store the 16-bit files hold what RAM has. -/
theorem msgRun_inStep (hP : P.FsReliable) {d₀ : Device} (hd : DefaultStore d₀.board)
    {msgs : List (List UInt8)} (hrun : msgRun P d₀ msgs = some d) :
    d.board.Bootable ∧ ∀ id : DevConfigShadowId, id.valType = .int16 → d.board.InStep id := by
  refine History.foldlM_track (R := fun _ d => d.board.Bootable ∧
    ∀ id : DevConfigShadowId, id.valType = .int16 → d.board.InStep id)
    ⟨hd.bootable, fun id hty => hd.inStep hty⟩ ?_ hrun
  rintro _ d msg d' ⟨hboot, hin⟩ hstep
  obtain ⟨hboot', hmade⟩ := configStep_msg_int16 hP hboot hstep
  exact ⟨hboot', fun id hty => (hmade id hty (hin id hty)).inStep (hin id hty)⟩

theorem msgRun_append {d₀ : Device} {msgs : List (List UInt8)} :
    msgRun P d₀ (msgs ++ [msg]) = some d' ↔
      ∃ d, msgRun P d₀ msgs = some d ∧ configStep P d (.shadowMsg msg) = some d' := by
  unfold msgRun
  rw [List.foldlM_append, Option.bind_eq_bind, Option.bind_eq_some_iff]
  simp

theorem enumLaw_nil {d₀ : Device} (hd : DefaultStore d₀.board) : EnumLaw P d₀ [] := by
  intro d' hrun e
  cases hrun
  constructor
  · refine enumValid_of_inStep (hd.inStep e.valType_id) ?_
    rw [hd.attr]
    cases e <;> decide
  · intro pre msg d v hnil
    simp at hnil

/-- One more message keeps the law exactly when what it serves is admissible, if the device comes up
    again after it. -/
theorem enumLaw_snoc (hP : P.FsReliable) {d₀ : Device} (hd : DefaultStore d₀.board)
    {pre : List (List UInt8)} (hlaw : EnumLaw P d₀ pre) :
    EnumLaw P d₀ (pre ++ [msg]) ↔ ∀ d d', msgRun P d₀ pre = some d →
      configStep P d (.shadowMsg msg) = some d' → ∀ e, EnumAdmits P d.board msg e := by
  have hone : ∀ {d d'}, msgRun P d₀ pre = some d → configStep P d (.shadowMsg msg) = some d' →
      ∀ e, (EnumValid d'.board e ∧ ∀ v, asked P e msg = some v → ¬ e.IsReal v.toInt →
        EnumSame d.board d'.board e) ↔ EnumAdmits P d.board msg e := by
    intro d d' hrun hstep e
    obtain ⟨hboot, hin⟩ := msgRun_inStep hP hd hrun
    have hin' := hin e.id e.valType_id
    exact enumStep_iff hin' (hlaw d hrun e).1
      ((configStep_msg_int16 hP hboot hstep).2 e.id e.valType_id hin')
  constructor
  · intro h d d' hrun hstep e
    obtain ⟨hvalid, hsame⟩ := h d' (msgRun_append.2 ⟨d, hrun, hstep⟩) e
    exact (hone hrun hstep e).1 ⟨hvalid, fun v => hsame pre msg d v rfl hrun⟩
  · intro h d' hrun' e
    obtain ⟨d, hrun, hstep⟩ := msgRun_append.1 hrun'
    obtain ⟨hvalid, hsame⟩ := (hone hrun hstep e).2 (h d d' hrun hstep e)
    refine ⟨hvalid, ?_⟩
    intro pre' msg' d₁ v hsplit hrun₁
    obtain ⟨rfl, hmsg⟩ := List.append_inj' hsplit rfl
    cases hmsg
    rw [hrun] at hrun₁
    cases hrun₁
    exact hsame v

/-- From the default store, all along a sequence of messages: sensor and application type are real
    in RAM and in their files and no other number changes them, exactly when every number that gets
    through the decoder's check is real or is held already. -/
theorem enum_types_iff (P : Platform) (hP : P.FsReliable) (d₀ : Device)
    (hd : DefaultStore d₀.board) (msgs : List (List UInt8)) :
    (∀ pre, pre <+: msgs → EnumLaw P d₀ pre) ↔
      ∀ pre msg post, msgs = pre ++ msg :: post → ∀ d d', msgRun P d₀ pre = some d →
        configStep P d (.shadowMsg msg) = some d' → ∀ e, EnumAdmits P d.board msg e :=
  History.prefixes_iff (enumLaw_nil hd) (fun _ _ hlaw => enumLaw_snoc hP hd hlaw) msgs

/-- A delta with sensor number 4, which is `EXT_SENSOR_NUM`. -/
def sensorFourText : List UInt8 :=
  ascii "\x7b\"state\":\x7b\"attributes\":\x7b\"sensor_type\":4\x7d\x7d\x7d"

def sensorFourTree : CJson :=
  .object [("state", .object [("attributes", .object [("sensor_type", .number 4)])])]

theorem enum_types_iff_sensorFour :
    let P := Platform.ideal sensorFourText sensorFourTree
    let d₀ : Device := ⟨.factory, []⟩
    (∀ pre, pre <+: [sensorFourText] → EnumLaw P d₀ pre) ↔
      ∀ pre msg post, [sensorFourText] = pre ++ msg :: post → ∀ d d', msgRun P d₀ pre = some d →
        configStep P d (.shadowMsg msg) = some d' → ∀ e, EnumAdmits P d.board msg e :=
  enum_types_iff (.ideal sensorFourText sensorFourTree) (Platform.ideal_reliable _ _)
    ⟨.factory, []⟩ factory_defaultStore [sensorFourText]

/-- The device takes it for a sensor, in RAM and in the file. -/
theorem sensorFour_stored :
    let P := Platform.ideal sensorFourText sensorFourTree
    let d₀ : Device := ⟨.factory, []⟩
    ∃ d, msgRun P d₀ [sensorFourText] = some d ∧
      (configGetInt16 .sensorType).run d.board = .ok 4 d.board ∧
      d.board.flash DevConfigShadowId.sensorType.fileName = some (int16Bytes 4) ∧
      ¬ EnumLaw P d₀ [sensorFourText] := by
  intro P d₀
  refine ⟨_, rfl, rfl, by decide +kernel, ?_⟩
  intro hlaw
  obtain ⟨⟨v, hv, hreal⟩, -⟩ := (hlaw _ rfl .sensor).1
  cases hv
  exact absurd hreal (by decide)

end Levaware
