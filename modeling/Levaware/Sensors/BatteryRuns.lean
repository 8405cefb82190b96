import Levaware.Lib.History
import Levaware.Sensors.BatteryVoltage

set_option autoImplicit false

/-! # The battery from set-up on (`battery.c`)

`battery_setup` runs once, before `main`; from then on the feed of the divider is switched and the
voltage measured in any order. What a measurement returns never depends on what came before
(`battery_runs`). -/

namespace Levaware

/-! ## The module -/

/-- What the board has and what Zephyr answers while `divider_setup` runs. -/
structure BatteryLib where
  /-- `device_is_ready` of the ADC -/
  adcIsReady : Bool
  /-- `power_gpios` has a label -/
  hasPowerGpios : Bool
  /-- `device_get_binding` finds the device of that label -/
  gpioBinds : Bool
  gpioPinConfigure : Int
  adcChannelSetup : Int

/-- The static variables of `battery.c`, and what has been asked of the hardware. -/
structure BatteryDevice where
  vars : BatteryVars
  /-- `ddp->gpio` is not `NULL` -/
  gpio : Bool
  /-- what the pin of the feed has been set to -/
  pin : Option Bool
  /-- `calibrate` in the calls of `adc_read`, oldest first -/
  samplings : List Bool

/-- Before `battery_setup`. -/
def BatteryDevice.zero : BatteryDevice where
  vars := { isBatteryInit := false, batteryOk := false, raw := 0, calibrate := false }
  gpio := false
  pin := none
  samplings := []

/-- `-ENOENT`. -/
def noEntry : Int := -2

/-- The block of `divider_setup` about the pin of the feed. -/
def dividerFeed (L : BatteryLib) (ddp : BatteryDevice) : Int × BatteryDevice :=
  if L.hasPowerGpios then
    let ddp := { ddp with gpio := L.gpioBinds }
    if L.gpioBinds then
      -- `GPIO_OUTPUT_INACTIVE`
      if L.gpioPinConfigure = 0 then (0, { ddp with pin := some false })
      else (L.gpioPinConfigure, ddp)
    else (noEntry, ddp)
  else (0, ddp)

/-- `divider_setup`. -/
def dividerSetup (L : BatteryLib) (ddp : BatteryDevice) : Int × BatteryDevice :=
  if L.adcIsReady then
    let (rc, ddp) := dividerFeed L ddp
    if rc ≠ 0 then (rc, ddp)
    else (L.adcChannelSetup, { ddp with vars := { ddp.vars with calibrate := true } })
  else (noEntry, ddp)

/-- `battery_setup`. -/
def batterySetup (L : BatteryLib) (ddp : BatteryDevice) : Int × BatteryDevice :=
  let (rc, ddp) := dividerSetup L ddp
  let batteryOk := decide (rc = 0)
  (rc, { ddp with vars := { ddp.vars with
    batteryOk
    isBatteryInit := batteryOk || ddp.vars.isBatteryInit } })

/-- `battery_measure_enable`, with what `gpio_pin_set` returns. -/
def batteryMeasureEnable (enable : Bool) (gpioPinSet : Int) (ddp : BatteryDevice) :
    Int × BatteryDevice :=
  if ddp.vars.batteryOk then
    if ddp.gpio then
      (gpioPinSet, if gpioPinSet = 0 then { ddp with pin := some enable } else ddp)
    else (0, ddp)
  else (noEntry, ddp)

section Runs

variable (L : BatteryLib) (adcRawToMillivolts : Int16 → Int32) (dcp : DividerConfig)

/-- `sensor_get_battery_mV`, with the call of `adc_read` it makes. -/
def BatteryDevice.measure (read : AdcRead) (ddp : BatteryDevice) : Int16 × BatteryDevice :=
  let (battMv, vars) := sensorGetBatteryMv adcRawToMillivolts dcp read ddp.vars
  let reads := ddp.vars.isBatteryInit && ddp.vars.batteryOk
  (battMv, { ddp with
    vars
    samplings := if reads then ddp.samplings ++ [ddp.vars.calibrate] else ddp.samplings })

inductive BatteryOp where
  | enable (enable : Bool) (gpioPinSet : Int)
  | measure (read : AdcRead)

def batteryStep (ddp : BatteryDevice) : BatteryOp → BatteryDevice
  | .enable enable gpioPinSet => (batteryMeasureEnable enable gpioPinSet ddp).2
  | .measure read => (ddp.measure adcRawToMillivolts dcp read).2

/-- The module after `battery_setup` and some calls. -/
def batteryRun (ops : List BatteryOp) : BatteryDevice :=
  ops.foldl (batteryStep adcRawToMillivolts dcp) (batterySetup L .zero).2

end Runs

/-! ## What a run comes to -/

/-- Nothing fails while `divider_setup` runs. -/
def BatteryLib.works (L : BatteryLib) : Bool :=
  L.adcIsReady && (!L.hasPowerGpios || L.gpioBinds && L.gpioPinConfigure == 0)
    && L.adcChannelSetup == 0

def BatteryOp.isMeasure : BatteryOp → Bool
  | .measure _ => true
  | .enable _ _ => false

/-- What a call sets the feed to, if the pin does what it is told. -/
def BatteryOp.feed? : BatteryOp → Option Bool
  | .enable feed gpioPinSet => if gpioPinSet = 0 then some feed else none
  | .measure _ => none

/-- What the feed was last set to; it starts inactive. -/
def lastFeed (ops : List BatteryOp) : Bool := (ops.filterMap BatteryOp.feed?).getLast?.getD false

/-- The flags of some samplings of which the first calibrates. -/
def calibratesOnce : Nat → List Bool
  | 0 => []
  | n + 1 => true :: List.replicate n false

/-- What a sample reads as. -/
def reading (adcRawToMillivolts : Int16 → Int32) (dcp : DividerConfig) (raw : Int16) : Int16 :=
  if dcp.outputOhm ≠ 0 then scaleMv (adcRawToMillivolts raw) dcp
  else (adcRawToMillivolts raw).toInt16

variable {L : BatteryLib} {adcRawToMillivolts : Int16 → Int32} {dcp : DividerConfig}
  {ops : List BatteryOp} {op : BatteryOp} {ddp : BatteryDevice}

theorem calibratesOnce_succ (n : Nat) : calibratesOnce (n + 1) = calibratesOnce n ++ [n == 0] := by
  cases n with
  | zero => rfl
  | succ n => simp [calibratesOnce, List.replicate_succ']

theorem lastFeed_snoc : lastFeed (ops ++ [op]) = op.feed?.getD (lastFeed ops) := by
  unfold lastFeed
  rw [List.filterMap_append]
  cases h : op.feed? <;> simp [h]

/-- The measurements of a run. -/
def measurements (ops : List BatteryOp) : Nat := ops.countP BatteryOp.isMeasure

theorem measurements_snoc :
    measurements (ops ++ [op]) = measurements ops + op.isMeasure.toNat := by
  unfold measurements
  rw [List.countP_append]
  cases h : op.isMeasure <;> simp [h]

/-- The module after a set-up that failed. -/
structure Unusable (L : BatteryLib) (ddp : BatteryDevice) : Prop where
  notInit : ddp.vars.isBatteryInit = false
  notOk : ddp.vars.batteryOk = false
  pin : ddp.pin = (batterySetup L .zero).2.pin
  samplings : ddp.samplings = []

/-- The module some calls after a set-up that succeeded. -/
structure Measuring (L : BatteryLib) (ops : List BatteryOp) (ddp : BatteryDevice) : Prop where
  ready : ddp.vars.Ready
  gpio : ddp.gpio = L.hasPowerGpios
  pin : ddp.pin = if L.hasPowerGpios then some (lastFeed ops) else none
  calibrate : ddp.vars.calibrate = (measurements ops == 0)
  samplings : ddp.samplings = calibratesOnce (measurements ops)

theorem dividerFeed_frame (L : BatteryLib) (ddp : BatteryDevice) :
    (dividerFeed L ddp).2.vars = ddp.vars ∧ (dividerFeed L ddp).2.samplings = ddp.samplings := by
  unfold dividerFeed
  split
  · split
    · split <;> exact ⟨rfl, rfl⟩
    · exact ⟨rfl, rfl⟩
  · exact ⟨rfl, rfl⟩

/-- No early return sets anything that a measurement uses. -/
theorem dividerSetup_frame (L : BatteryLib) :
    (dividerSetup L .zero).2.vars.isBatteryInit = false ∧
      (dividerSetup L .zero).2.samplings = [] := by
  obtain ⟨hvars, hsamplings⟩ := dividerFeed_frame L .zero
  unfold dividerSetup
  split
  · dsimp only
    split
    · exact ⟨congrArg BatteryVars.isBatteryInit hvars, hsamplings⟩
    · exact ⟨congrArg BatteryVars.isBatteryInit hvars, hsamplings⟩
  · exact ⟨rfl, rfl⟩

theorem dividerSetup_rc (L : BatteryLib) : (dividerSetup L .zero).1 = 0 ↔ L.works = true := by
  unfold dividerSetup dividerFeed BatteryLib.works
  cases L.adcIsReady <;> cases L.hasPowerGpios <;> cases L.gpioBinds <;>
    by_cases hconfigure : L.gpioPinConfigure = 0 <;> simp [noEntry, hconfigure]

theorem batterySetup_works (h : L.works = true) : Measuring L [] (batterySetup L .zero).2 := by
  have hrc := (dividerSetup_rc L).2 h
  have hfeed : (dividerSetup L .zero).2.gpio = L.hasPowerGpios ∧
      (dividerSetup L .zero).2.pin = (if L.hasPowerGpios then some false else none) ∧
      (dividerSetup L .zero).2.vars.calibrate = true := by
    unfold BatteryLib.works at h
    unfold dividerSetup dividerFeed
    cases hadc : L.adcIsReady <;> cases hlabel : L.hasPowerGpios <;> simp_all [BatteryDevice.zero]
  refine ⟨?_, hfeed.1, hfeed.2.1, hfeed.2.2, (dividerSetup_frame L).2⟩
  unfold batterySetup BatteryVars.Ready
  simp [hrc]

theorem batterySetup_fails (h : L.works = false) : Unusable L (batterySetup L .zero).2 := by
  have hrc : (dividerSetup L .zero).1 ≠ 0 := fun hrc => by
    rw [dividerSetup_rc, h] at hrc
    cases hrc
  obtain ⟨hinit, hsamplings⟩ := dividerSetup_frame L
  refine ⟨?_, ?_, rfl, hsamplings⟩
  · simp [batterySetup, hrc, hinit]
  · simp [batterySetup, hrc]

/-! ## Every call -/

theorem Unusable.measure (h : Unusable L ddp) (read : AdcRead) :
    ddp.measure adcRawToMillivolts dcp read = (-1, ddp) := by
  unfold BatteryDevice.measure sensorGetBatteryMv
  rw [if_pos h.notInit, h.notInit]
  rfl

theorem Unusable.step (h : Unusable L ddp) (op : BatteryOp) :
    batteryStep adcRawToMillivolts dcp ddp op = ddp := by
  cases op with
  | enable enable gpioPinSet =>
      unfold batteryStep batteryMeasureEnable
      rw [h.notOk]
      rfl
  | measure read => exact congrArg Prod.snd (h.measure read)

theorem sensorGetBatteryMv_ready {vars : BatteryVars} (hvars : vars.Ready) (read : AdcRead) :
    sensorGetBatteryMv adcRawToMillivolts dcp read vars
      = (if read.rc = 0 then reading adcRawToMillivolts dcp read.raw else -1,
        { vars with raw := read.raw, calibrate := false }) := by
  obtain ⟨isBatteryInit, batteryOk, raw, calibrate⟩ := vars
  obtain ⟨rfl, rfl⟩ := hvars
  unfold sensorGetBatteryMv reading
  dsimp only
  rw [if_neg (by decide), if_pos rfl]
  split_ifs <;> rfl

theorem Measuring.measure (h : Measuring L ops ddp) (read : AdcRead) :
    (ddp.measure adcRawToMillivolts dcp read).1
      = (if read.rc = 0 then reading adcRawToMillivolts dcp read.raw else -1) ∧
    Measuring L (ops ++ [.measure read]) (ddp.measure adcRawToMillivolts dcp read).2 := by
  have hmeasure : ddp.measure adcRawToMillivolts dcp read
      = (if read.rc = 0 then reading adcRawToMillivolts dcp read.raw else -1, { ddp with
        vars := { ddp.vars with raw := read.raw, calibrate := false }
        samplings := ddp.samplings ++ [ddp.vars.calibrate] }) := by
    have hreads : (ddp.vars.isBatteryInit && ddp.vars.batteryOk) = true := by
      rw [h.ready.1, h.ready.2]
      rfl
    unfold BatteryDevice.measure
    rw [sensorGetBatteryMv_ready h.ready, hreads]
    rfl
  rw [hmeasure]
  refine ⟨rfl, h.ready, h.gpio, ?_, ?_, ?_⟩
  · rw [lastFeed_snoc]
    exact h.pin
  · rw [measurements_snoc]
    rfl
  · rw [measurements_snoc]
    show ddp.samplings ++ [ddp.vars.calibrate] = calibratesOnce (measurements ops + 1)
    rw [calibratesOnce_succ, h.samplings, h.calibrate]

theorem Measuring.enable (h : Measuring L ops ddp) (enable : Bool) (gpioPinSet : Int) :
    (batteryMeasureEnable enable gpioPinSet ddp).1
      = (if L.hasPowerGpios then gpioPinSet else 0) ∧
    Measuring L (ops ++ [.enable enable gpioPinSet])
      (batteryMeasureEnable enable gpioPinSet ddp).2 := by
  have hcount : measurements (ops ++ [.enable enable gpioPinSet]) = measurements ops := by
    rw [measurements_snoc]
    rfl
  have hpin := h.pin
  unfold batteryMeasureEnable
  rw [h.ready.2, if_pos rfl, h.gpio]
  cases hlabel : L.hasPowerGpios with
  | false =>
      rw [hlabel] at hpin
      refine ⟨rfl, h.ready, h.gpio, ?_, ?_, ?_⟩
      · rw [hlabel]
        exact hpin
      · rw [hcount]
        exact h.calibrate
      · rw [hcount]
        exact h.samplings
  | true =>
      refine ⟨rfl, ?_⟩
      rw [if_pos rfl]
      dsimp only
      split
      · next hset =>
          refine ⟨h.ready, hlabel.symm, ?_, hcount ▸ h.calibrate, hcount ▸ h.samplings⟩
          rw [lastFeed_snoc, hlabel]
          simp [BatteryOp.feed?, hset]
      · next hset =>
          refine ⟨h.ready, h.gpio, ?_, hcount ▸ h.calibrate, hcount ▸ h.samplings⟩
          rw [lastFeed_snoc, hpin, hlabel]
          simp [BatteryOp.feed?, hset]

theorem Measuring.step (h : Measuring L ops ddp) (op : BatteryOp) :
    Measuring L (ops ++ [op]) (batteryStep adcRawToMillivolts dcp ddp op) := by
  cases op with
  | enable enable gpioPinSet => exact (h.enable enable gpioPinSet).2
  | measure read => exact (h.measure read).2

/-! ## Runs -/

theorem batteryRun_works (h : L.works = true) (ops : List BatteryOp) :
    Measuring L ops (batteryRun L adcRawToMillivolts dcp ops) :=
  History.foldl_track (batterySetup_works h) (fun _ _ op hm => hm.step op) ops

theorem batteryRun_fails (h : L.works = false) (ops : List BatteryOp) :
    Unusable L (batteryRun L adcRawToMillivolts dcp ops) :=
  History.foldl_track (R := fun _ ddp => Unusable L ddp) (batterySetup_fails h)
    (fun _ _ op hm => (hm.step op).symm ▸ hm) ops

/-- After set-up and any calls, in any order: a measurement returns what its own sample reads as,
    and -1, which is no charge, exactly if the set-up or its call of `adc_read` failed. The ADC is
    asked for a sample by every measurement or, if the set-up failed, never; only the first sample
    calibrates. The feed is inactive until a call activates it, and then as last set. -/
theorem battery_runs (L : BatteryLib) (adcRawToMillivolts : Int16 → Int32) (dcp : DividerConfig)
    (ops : List BatteryOp) :
    let ddp := batteryRun L adcRawToMillivolts dcp ops
    (∀ read, (ddp.measure adcRawToMillivolts dcp read).1 =
      if L.works = true ∧ read.rc = 0 then reading adcRawToMillivolts dcp read.raw else -1) ∧
    (∀ read c, ¬(L.works = true ∧ read.rc = 0) → sensorGetBatterySoc (DischargeCurve.levels c)
      (ddp.measure adcRawToMillivolts dcp read).1 = .ok 0) ∧
    (∀ enable gpioPinSet, (batteryMeasureEnable enable gpioPinSet ddp).1 =
      if L.works then if L.hasPowerGpios then gpioPinSet else 0 else noEntry) ∧
    ddp.samplings = (if L.works then calibratesOnce (measurements ops) else []) ∧
    ddp.pin = (if L.works ∧ L.hasPowerGpios then some (lastFeed ops)
      else (batterySetup L .zero).2.pin) := by
  intro ddp
  have hmeasure : ∀ read, (ddp.measure adcRawToMillivolts dcp read).1 =
      if L.works = true ∧ read.rc = 0 then reading adcRawToMillivolts dcp read.raw else -1 := by
    intro read
    cases hworks : L.works with
    | true => simpa using ((batteryRun_works hworks ops).measure read).1
    | false => simpa using congrArg Prod.fst ((batteryRun_fails hworks ops).measure read)
  refine ⟨hmeasure, ?_, ?_, ?_, ?_⟩
  · intro read c hfails
    rw [hmeasure, if_neg hfails, (soc_walk c _).2]
    exact congrArg _ (c.curve_nonpos (by decide))
  · intro enable gpioPinSet
    cases hworks : L.works with
    | true => exact ((batteryRun_works hworks ops).enable enable gpioPinSet).1
    | false =>
        unfold batteryMeasureEnable
        rw [(batteryRun_fails hworks ops).notOk]
        rfl
  · cases hworks : L.works with
    | true => exact (batteryRun_works hworks ops).samplings
    | false => exact (batteryRun_fails hworks ops).samplings
  · cases hworks : L.works with
    | true =>
        have hpin : ddp.pin = _ := (batteryRun_works hworks ops).pin
        cases hlabel : L.hasPowerGpios with
        | true => simpa [hlabel] using hpin
        | false =>
            have hset := (batterySetup_works hworks).pin
            simp only [hlabel] at hpin hset
            simpa using hpin.trans hset.symm
    | false => simpa using (batteryRun_fails hworks ops).pin

end Levaware
