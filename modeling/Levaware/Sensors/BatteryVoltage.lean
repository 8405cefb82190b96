import Levaware.Lib.Wrap
import Levaware.Sensors.Battery

set_option autoImplicit false

/-! # The battery voltage (`battery.c`)

`sensor_get_battery_mV` multiplies the voltage at the ADC, a signed number, with an unsigned one of
64 bits before it divides. The conversion of a negative voltage is undone by the narrowing to 16
bits for some dividers only (`battery_mv_iff`). -/

namespace Levaware

/-! ## The measurement -/

/-- `struct divider_config`, the two resistances. -/
structure DividerConfig where
  outputOhm : UInt32
  fullOhm : UInt32

/-- The static variables of `battery.c` that a measurement uses. -/
structure BatteryVars where
  isBatteryInit : Bool
  batteryOk : Bool
  raw : Int16
  calibrate : Bool

/-- What `adc_read` returns, and the sample it leaves in the buffer. -/
structure AdcRead where
  rc : Int
  raw : Int16

/-- `val * (uint64_t)full_ohm / output_ohm`, assigned to an `int16_t`. -/
def scaleMv (val : Int32) (dcp : DividerConfig) : Int16 :=
  (val.toInt64.toUInt64 * dcp.fullOhm.toUInt64 / dcp.outputOhm.toUInt64).toUInt16.toInt16

variable (adcRawToMillivolts : Int16 → Int32) (dcp : DividerConfig)

/-- `sensor_get_battery_mV`. The ADC driver converts samples by `adcRawToMillivolts`. -/
def sensorGetBatteryMv (read : AdcRead) (vars : BatteryVars) : Int16 × BatteryVars :=
  if vars.isBatteryInit = false then (-1, vars)
  else if vars.batteryOk then
    let vars := { vars with raw := read.raw, calibrate := false }
    if read.rc = 0 then
      let val := adcRawToMillivolts vars.raw
      if dcp.outputOhm ≠ 0 then (scaleMv val dcp, vars) else (val.toInt16, vars)
    else (-1, vars)
  else (-1, vars)

/-! ## The scaling -/

/-- The voltage before the divider, rounded toward zero. -/
def exactMv (val : Int32) (dcp : DividerConfig) : Int :=
  (val.toInt * dcp.fullOhm.toNat).tdiv dcp.outputOhm.toNat

/-- It is a number of 16 bits. -/
def FitsInt16 (v : Int) : Prop := -2 ^ 15 ≤ v ∧ v < 2 ^ 15

instance (v : Int) : Decidable (FitsInt16 v) := inferInstanceAs (Decidable (_ ∧ _))

/-- The product is not negative, or the part of `2 ^ 64` that its quotient then has too much is a
    multiple of `2 ^ 16`. -/
def ScalesCleanly (val : Int32) (dcp : DividerConfig) : Prop :=
  0 ≤ val.toInt ∨ dcp.fullOhm = 0 ∨
    (2 ^ 16 : Int) ∣ 2 ^ 64 / dcp.outputOhm.toNat -
      Wrap.borrow (2 ^ 64) (-(val.toInt * dcp.fullOhm.toNat)) dcp.outputOhm.toNat

instance (val : Int32) : Decidable (ScalesCleanly val dcp) :=
  inferInstanceAs (Decidable (_ ∨ _ ∨ _))

variable {adcRawToMillivolts dcp} {val val' : Int32}

theorem toNat_pos {ohm : UInt32} (h : ohm ≠ 0) : 0 < (ohm.toNat : Int) :=
  Int.natCast_pos.2 (Nat.pos_of_ne_zero fun hzero => h (UInt32.toNat_inj.1 hzero))

theorem scaleMv_toInt : (scaleMv val dcp).toInt =
    ((val.toInt * dcp.fullOhm.toNat) % 2 ^ 64 / dcp.outputOhm.toNat).bmod (2 ^ 16) := by
  unfold scaleMv
  rw [Wrap.toInt_narrow, UInt64.toNat_div, UInt64.toNat_mul, UInt32.toNat_toUInt64,
    UInt32.toNat_toUInt64, Int.natCast_ediv, Int.natCast_mod, Int.natCast_mul, Wrap.toNat_widen]
  have hmod : val.toInt % 2 ^ 64 * (dcp.fullOhm.toNat : Int) % (2 ^ 64 : Nat)
      = val.toInt * dcp.fullOhm.toNat % 2 ^ 64 := (Int.mod_modEq _ _).mul_right _
  rw [hmod]

theorem product_bounds (val : Int32) (dcp : DividerConfig) :
    -2 ^ 63 ≤ val.toInt * dcp.fullOhm.toNat ∧ val.toInt * dcp.fullOhm.toNat < 2 ^ 63 := by
  have hfull_lt := dcp.fullOhm.toNat_lt
  have hfull : 0 ≤ (dcp.fullOhm.toNat : Int) := Int.natCast_nonneg _
  have hlo := Int.mul_le_mul_of_nonneg_right val.le_toInt hfull
  have hhi := Int.mul_le_mul_of_nonneg_right val.toInt_lt.le hfull
  omega

/-- For a voltage that is not negative the unsigned arithmetic is exact. -/
theorem scaleMv_of_nonneg (hval : 0 ≤ val.toInt * dcp.fullOhm.toNat)
    (hfits : FitsInt16 (exactMv val dcp)) : (scaleMv val dcp).toInt = exactMv val dcp := by
  have hproduct : val.toInt * dcp.fullOhm.toNat < 2 ^ 64 := by
    have := (product_bounds val dcp).2
    omega
  rw [scaleMv_toInt, Int.emod_eq_of_lt hval hproduct]
  have htdiv : exactMv val dcp = val.toInt * dcp.fullOhm.toNat / dcp.outputOhm.toNat :=
    Int.tdiv_eq_ediv_of_nonneg hval
  rw [← htdiv]
  exact Int.bmod_eq_of_le_mul_two (by have := hfits.1; omega) (by have := hfits.2; omega)

/-- For a negative one the quotient is off by what the conversion added. -/
theorem scaleMv_of_neg (hout : dcp.outputOhm ≠ 0) (hval : val.toInt * dcp.fullOhm.toNat < 0)
    (hfits : FitsInt16 (exactMv val dcp)) :
    (scaleMv val dcp).toInt = exactMv val dcp ↔ (2 ^ 16 : Int) ∣ 2 ^ 64 / dcp.outputOhm.toNat -
      Wrap.borrow (2 ^ 64) (-(val.toInt * dcp.fullOhm.toNat)) dcp.outputOhm.toNat := by
  have hpos := toNat_pos hout
  have hquot := Wrap.emod_neg_ediv (m := -(val.toInt * dcp.fullOhm.toNat)) (M := 2 ^ 64)
    (by omega) (by have := (product_bounds val dcp).1; omega) hpos
  have hexact : exactMv val dcp
      = -(-(val.toInt * dcp.fullOhm.toNat) / dcp.outputOhm.toNat) := by
    rw [← Int.tdiv_eq_ediv_of_nonneg (by omega), Int.neg_tdiv, neg_neg]
    rfl
  rw [neg_neg] at hquot
  rw [scaleMv_toInt, Wrap.bmod_eq_iff (by have := hfits.1; omega) (by have := hfits.2; omega),
    hquot, hexact]
  have hdiff : ∀ q b m : Int, q - m - b - -m = q - b := fun q b m => by ring
  rw [hdiff]
  rfl

theorem scaleMv_eq_iff (hout : dcp.outputOhm ≠ 0) (hfits : FitsInt16 (exactMv val dcp)) :
    (scaleMv val dcp).toInt = exactMv val dcp ↔ ScalesCleanly val dcp := by
  unfold ScalesCleanly
  have hfull : 0 ≤ (dcp.fullOhm.toNat : Int) := Int.natCast_nonneg _
  by_cases hval : 0 ≤ val.toInt
  · exact iff_of_true (scaleMv_of_nonneg (Int.mul_nonneg hval hfull) hfits) (Or.inl hval)
  · by_cases hzero : dcp.fullOhm = 0
    · have hproduct : val.toInt * dcp.fullOhm.toNat = 0 := by
        rw [hzero]
        exact Int.mul_zero _
      exact iff_of_true (scaleMv_of_nonneg hproduct.ge hfits) (Or.inr (Or.inl hzero))
    · rw [scaleMv_of_neg hout (Int.mul_neg_of_neg_of_pos (not_le.1 hval) (toNat_pos hzero)) hfits,
        or_iff_right hval, or_iff_right hzero]

theorem exactMv_mono (hout : dcp.outputOhm ≠ 0) (hle : val.toInt ≤ val'.toInt) :
    exactMv val dcp ≤ exactMv val' dcp :=
  Int.tdiv_le_tdiv (toNat_pos hout)
    (Int.mul_le_mul_of_nonneg_right hle (Int.natCast_nonneg _))

theorem exactMv_nonpos (hout : dcp.outputOhm ≠ 0) (hval : val.toInt < 0) :
    exactMv val dcp ≤ 0 := by
  have hmono : exactMv val dcp ≤ exactMv 0 dcp := exactMv_mono hout hval.le
  have hzero : exactMv 0 dcp = 0 := by
    show (0 * (dcp.fullOhm.toNat : Int)).tdiv _ = 0
    rw [Int.zero_mul, Int.zero_tdiv]
  rwa [hzero] at hmono

/-! ## The reading -/

/-- `battery_setup` succeeded. -/
def BatteryVars.Ready (vars : BatteryVars) : Prop :=
  vars.isBatteryInit = true ∧ vars.batteryOk = true

/-- The reading for the sample `raw` is the exact voltage, and for a sample below zero neither
    positive nor a charge. -/
def ReadsAsDocumented (adcRawToMillivolts : Int16 → Int32) (dcp : DividerConfig)
    (vars : BatteryVars) (raw : Int16) : Prop :=
  let reading := (sensorGetBatteryMv adcRawToMillivolts dcp ⟨0, raw⟩ vars).1
  reading.toInt = exactMv (adcRawToMillivolts raw) dcp ∧
    ((adcRawToMillivolts raw).toInt < 0 →
      reading.toInt ≤ 0 ∧ ∀ c : DischargeCurve, sensorGetBatterySoc c.levels reading = .ok 0)

variable {vars : BatteryVars} {raw raw' : Int16}

theorem sensorGetBatteryMv_run (hvars : vars.Ready) (hout : dcp.outputOhm ≠ 0) :
    (sensorGetBatteryMv adcRawToMillivolts dcp ⟨0, raw⟩ vars).1
      = scaleMv (adcRawToMillivolts raw) dcp := by
  unfold sensorGetBatteryMv
  rw [hvars.1, hvars.2, if_neg (by decide), if_pos rfl, if_pos rfl, if_pos hout]

theorem readsAsDocumented_iff (hvars : vars.Ready) (hout : dcp.outputOhm ≠ 0)
    (hfits : FitsInt16 (exactMv (adcRawToMillivolts raw) dcp)) :
    ReadsAsDocumented adcRawToMillivolts dcp vars raw ↔
      ScalesCleanly (adcRawToMillivolts raw) dcp := by
  rw [← scaleMv_eq_iff hout hfits]
  unfold ReadsAsDocumented
  rw [sensorGetBatteryMv_run hvars hout]
  refine ⟨fun h => h.1, fun hexact => ⟨hexact, fun hneg => ?_⟩⟩
  have hnonpos : (scaleMv (adcRawToMillivolts raw) dcp).toInt ≤ 0 := by
    rw [hexact]
    exact exactMv_nonpos hout hneg
  refine ⟨hnonpos, fun c => ?_⟩
  rw [(soc_walk c _).2, c.curve_nonpos hnonpos]

/-- With a divider, the reading for a converted sample is right exactly if it scales cleanly; such
    readings rise with the voltage at the ADC. -/
theorem battery_mv_iff (adcRawToMillivolts : Int16 → Int32) (dcp : DividerConfig)
    (hout : dcp.outputOhm ≠ 0) (vars : BatteryVars) (hvars : vars.Ready) :
    (∀ raw : Int16, FitsInt16 (exactMv (adcRawToMillivolts raw) dcp) →
      (ReadsAsDocumented adcRawToMillivolts dcp vars raw ↔
        ScalesCleanly (adcRawToMillivolts raw) dcp)) ∧
    ∀ raw raw' : Int16, FitsInt16 (exactMv (adcRawToMillivolts raw) dcp) →
      FitsInt16 (exactMv (adcRawToMillivolts raw') dcp) →
      ScalesCleanly (adcRawToMillivolts raw) dcp → ScalesCleanly (adcRawToMillivolts raw') dcp →
      (adcRawToMillivolts raw).toInt ≤ (adcRawToMillivolts raw').toInt →
      (sensorGetBatteryMv adcRawToMillivolts dcp ⟨0, raw⟩ vars).1
        ≤ (sensorGetBatteryMv adcRawToMillivolts dcp ⟨0, raw'⟩ vars).1 := by
  refine ⟨fun raw hfits => readsAsDocumented_iff hvars hout hfits, ?_⟩
  intro raw raw' hfits hfits' hclean hclean' hle
  rw [sensorGetBatteryMv_run hvars hout, sensorGetBatteryMv_run hvars hout,
    Int16.le_iff_toInt_le, (scaleMv_eq_iff hout hfits).2 hclean,
    (scaleMv_eq_iff hout hfits').2 hclean']
  exact exactMv_mono hout hle

/-- The divider of the board. -/
def boardDivider : DividerConfig := { outputOhm := 100000, fullOhm := 200000 }

/-- The variables after a successful set-up. -/
def BatteryVars.measuring : BatteryVars where
  isBatteryInit := true
  batteryOk := true
  raw := 0
  calibrate := true

theorem battery_mv_iff_board :
    ReadsAsDocumented Int16.toInt32 boardDivider .measuring 1850 ∧
      ¬ ReadsAsDocumented Int16.toInt32 boardDivider .measuring (-1) := by
  have hboth := (battery_mv_iff Int16.toInt32 boardDivider (by decide) .measuring ⟨rfl, rfl⟩).1
  exact ⟨(hboth 1850 (by decide)).2 (by decide), fun hreads =>
    absurd ((hboth (-1) (by decide)).1 hreads) (by decide)⟩

/-- One millivolt below zero reads as 6981 mV, a full battery. -/
theorem battery_mv_negative_sample :
    (sensorGetBatteryMv Int16.toInt32 boardDivider ⟨0, -1⟩ .measuring).1 = 6981 ∧
      exactMv (-1) boardDivider = -2 ∧
      sensorGetBatterySoc dividerLevels.levels 6981 = .ok 10000 ∧
      ¬ ReadsAsDocumented Int16.toInt32 boardDivider .measuring (-1) := by
  have hreading : (sensorGetBatteryMv Int16.toInt32 boardDivider ⟨0, -1⟩ .measuring).1 = 6981 := by
    decide
  refine ⟨hreading, by decide, by decide, fun hreads => ?_⟩
  have hexact := hreads.1
  rw [hreading] at hexact
  exact absurd hexact (by decide)

end Levaware
