import Levaware.Lib.Interpolation

set_option autoImplicit false

/-! # State of charge (`battery.c`)

`sensor_get_battery_soc` walks down a table of measured points and interpolates between the two
around the voltage. For a table that keeps the contract in `battery.h` the walk stays inside it and
the value is that of the curve through its points (`soc_interpolates`). -/

namespace Levaware

/-! ## Arithmetic on `int` -/

/-- What C leaves undefined. -/
inductive CFault where
  | outsideTable | zeroDivisor | overflow
  deriving DecidableEq, Repr

/-- The result of an `int` operation, which has to fit in 32 bits. -/
def int32 (v : Int) : Except CFault Int :=
  if -2 ^ 31 ≤ v ∧ v < 2 ^ 31 then .ok v else .error .overflow

/-- The division of `int`s, rounding toward zero. -/
def intDiv (a b : Int) : Except CFault Int :=
  if b = 0 then .error .zeroDivisor else int32 (a.tdiv b)

theorem int32_ok {v : Int} (hlo : -2 ^ 31 ≤ v) (hhi : v < 2 ^ 31) : int32 v = .ok v :=
  if_pos ⟨hlo, hhi⟩

/-- `y + rise * above / run` on a segment: the quotient rounds down and stays below `rise`. -/
theorem line_run {y rise above run : Int} (hy : 0 ≤ y) (htop : y + rise < 65536)
    (hrise : 0 ≤ rise) (habove : 0 ≤ above) (hrun : above < run) (hint16 : above < 32768)
    (hrun_lt : run < 65536) :
    (do
      let rise ← int32 rise
      let above ← int32 above
      let product ← int32 (rise * above)
      let run ← int32 run
      let quotient ← intDiv product run
      int32 (y + quotient)) = .ok (y + rise * above / run) := by
  have hnonneg : 0 ≤ rise * above := Int.mul_nonneg hrise habove
  -- 65535 * 32767 is the largest product there can be
  have hproduct : rise * above ≤ 65535 * 32767 :=
    Int.mul_le_mul (by omega) (by omega) habove (by omega)
  have hquotient : rise * above / run ≤ rise := by
    refine Int.ediv_le_of_le_mul (by omega) ?_
    exact Int.mul_le_mul_of_nonneg_left hrun.le hrise
  have hquotient_nonneg : 0 ≤ rise * above / run := Int.ediv_nonneg hnonneg (by omega)
  have hdiv : intDiv (rise * above) run = .ok (rise * above / run) := by
    unfold intDiv
    rw [if_neg (by omega), Int.tdiv_eq_ediv_of_nonneg hnonneg]
    exact int32_ok (by omega) (by omega)
  rw [int32_ok (v := rise) (by omega) (by omega), int32_ok (v := above) (by omega) (by omega)]
  dsimp only [bind, Except.bind]
  rw [int32_ok (by omega) (by omega), int32_ok (v := run) (by omega) (by omega)]
  dsimp only
  rw [hdiv]
  exact int32_ok (by omega) (by omega)

/-! ## The table -/

/-- `struct battery_level_point`. -/
structure BatteryLevelPoint where
  lvlPptt : UInt16
  lvlMv : UInt16
  deriving DecidableEq, Repr

/-- Both values fall along the table. -/
def Decreasing (levels : List BatteryLevelPoint) : Prop :=
  levels.Pairwise fun p q => q.lvlPptt < p.lvlPptt ∧ q.lvlMv < p.lvlMv

instance (levels : List BatteryLevelPoint) : Decidable (Decreasing levels) :=
  inferInstanceAs (Decidable (List.Pairwise _ _))

/-- A discharge curve as `battery.h` asks for it. -/
structure DischargeCurve where
  levels : List BatteryLevelPoint
  first : levels.head?.map BatteryLevelPoint.lvlPptt = some 10000
  last : levels.getLast?.map BatteryLevelPoint.lvlPptt = some 0
  decreasing : Decreasing levels

/-- `levels` with a voltage divider that names its ADC channel. -/
def dividerLevels : DischargeCurve where
  levels := [⟨10000, 4150⟩, ⟨7500, 3750⟩, ⟨5000, 3550⟩, ⟨2500, 3420⟩, ⟨0, 3100⟩]
  first := rfl
  last := rfl
  decreasing := by decide

/-- `levels` for a board that measures its supply. -/
def supplyLevels : DischargeCurve where
  levels := [⟨10000, 3600⟩, ⟨0, 1700⟩]
  first := rfl
  last := rfl
  decreasing := by decide

/-! ## The state of charge -/

variable (levels : List BatteryLevelPoint) (battMv : Int16)

/-- `*pb`, for `pb` at the index `i`. -/
def levelAt (i : Nat) : Except CFault BatteryLevelPoint :=
  match levels[i]? with
  | some pb => .ok pb
  | none => .error .outsideTable

/-- `*(pb - 1)`, for `pb` at the index `i`. -/
def levelBefore : Nat → Except CFault BatteryLevelPoint
  | 0 => .error .outsideTable
  | i + 1 => levelAt levels i

/-- The `while` loop, from `pb` at the index `i` on: where it leaves `pb`. -/
def tableWalk (i : Nat) : Except CFault Nat :=
  if h : i < levels.length then
    let pb := levels.get ⟨i, h⟩
    if 0 < pb.lvlPptt.toNat ∧ battMv.toInt < pb.lvlMv.toNat then tableWalk (i + 1) else .ok i
  else .error .outsideTable
termination_by levels.length - i

/-- The straight line between `pb` and `pa`, operation by operation. -/
def interpolate (pa pb : BatteryLevelPoint) : Except CFault Int := do
  let rise ← int32 (pa.lvlPptt.toNat - pb.lvlPptt.toNat)
  let above ← int32 (battMv.toInt - pb.lvlMv.toNat)
  let product ← int32 (rise * above)
  let run ← int32 (pa.lvlMv.toNat - pb.lvlMv.toNat)
  let quotient ← intDiv product run
  int32 (pb.lvlPptt.toNat + quotient)

/-- What follows the loop, with `pb` at the index `i`. -/
def afterWalk (i : Nat) : Except CFault Int := do
  let pb ← levelAt levels i
  if battMv.toInt < pb.lvlMv.toNat then return pb.lvlPptt.toNat
  let pa ← levelBefore levels i
  interpolate battMv pa pb

/-- `sensor_get_battery_soc` up to `info_exit`: parts per ten thousand, an integer in the `double`
    it is kept in. The function returns a hundredth of it. -/
def sensorGetBatterySoc : Except CFault Int := do
  let pb ← levelAt levels 0
  if (pb.lvlMv.toNat : Int) ≤ battMv.toInt then return pb.lvlPptt.toNat
  let i ← tableWalk levels battMv 0
  afterWalk levels battMv i

/-! ## One point of the table -/

/-- A point of the table as one of the curve. -/
def BatteryLevelPoint.point (p : BatteryLevelPoint) : Int × Int := (p.lvlMv.toNat, p.lvlPptt.toNat)

variable {levels battMv} {pa pb hi : BatteryLevelPoint} {rest : List BatteryLevelPoint}

theorem Decreasing.descending (h : Decreasing levels) :
    Interpolation.Descending (levels.map BatteryLevelPoint.point) := by
  refine List.pairwise_map.2 (List.Pairwise.imp (fun hpq => ?_) h)
  have hpptt := UInt16.lt_iff_toNat_lt.1 hpq.1
  have hmv := UInt16.lt_iff_toNat_lt.1 hpq.2
  exact ⟨Int.ofNat_lt.2 hmv, Int.ofNat_le.2 hpptt.le⟩

theorem levelAt_append (done : List BatteryLevelPoint) :
    levelAt (done ++ pb :: rest) done.length = .ok pb := by
  unfold levelAt
  rw [List.getElem?_append_right (le_refl _), Nat.sub_self]
  rfl

/-- Between neighbours nothing overflows, and the divisor is positive. -/
theorem interpolate_run (hpptt : pb.lvlPptt < pa.lvlPptt) (hmv : pb.lvlMv < pa.lvlMv)
    (hge : (pb.lvlMv.toNat : Int) ≤ battMv.toInt) (hlt : battMv.toInt < pa.lvlMv.toNat) :
    interpolate battMv pa pb = .ok (Interpolation.segment pb.point pa.point battMv.toInt) := by
  have hrise := UInt16.lt_iff_toNat_lt.1 hpptt
  have hrun := UInt16.lt_iff_toNat_lt.1 hmv
  have hpptt_lt := pa.lvlPptt.toNat_lt
  have hmv_lt := pa.lvlMv.toNat_lt
  have hbatt := battMv.toInt_lt
  exact line_run (by omega) (by omega) (by omega) (by omega) (by omega) (by omega) (by omega)

/-! ## The walk -/

/-- One turn of the loop. -/
theorem tableWalk_append (done : List BatteryLevelPoint) :
    tableWalk (done ++ pb :: rest) battMv done.length =
      if 0 < pb.lvlPptt.toNat ∧ battMv.toInt < pb.lvlMv.toNat then
        tableWalk (done ++ pb :: rest) battMv (done.length + 1)
      else .ok done.length := by
  have hbound : done.length < (done ++ pb :: rest).length := by simp
  have hget : (done ++ pb :: rest).get ⟨done.length, hbound⟩ = pb := by simp
  rw [tableWalk, dif_pos hbound]
  simp only [hget]

/-- The loop stopped at a point of the table, and if the voltage is not below that, the one before
    it is in the table too and has a higher voltage. -/
def StopsInside (levels : List BatteryLevelPoint) (battMv : Int16) (i : Nat) : Prop :=
  ∃ pb, levels[i]? = some pb ∧ ((pb.lvlMv.toNat : Int) ≤ battMv.toInt →
    ∃ pa, i ≠ 0 ∧ levels[i - 1]? = some pa ∧ pb.lvlMv < pa.lvlMv)

theorem Decreasing.head (h : Decreasing (hi :: pb :: rest)) :
    pb.lvlPptt < hi.lvlPptt ∧ pb.lvlMv < hi.lvlMv :=
  (List.pairwise_cons.1 h).1 pb List.mem_cons_self

theorem Decreasing.tail (h : Decreasing (hi :: rest)) : Decreasing rest :=
  (List.pairwise_cons.1 h).2

/-- Below the point `hi` the walk goes on to the next one, unless `hi` is the last: that has
    `lvl_pptt` zero. -/
theorem walk_run (done : List BatteryLevelPoint) (h : Decreasing (hi :: rest))
    (hlast : (hi :: rest).getLast?.map BatteryLevelPoint.lvlPptt = some 0)
    (hbelow : battMv.toInt < hi.lvlMv.toNat) :
    ∃ i, tableWalk (done ++ hi :: rest) battMv done.length = .ok i ∧
      StopsInside (done ++ hi :: rest) battMv i ∧
      afterWalk (done ++ hi :: rest) battMv i = .ok (Interpolation.below Interpolation.segment
        hi.point (rest.map BatteryLevelPoint.point) battMv.toInt) := by
  induction rest generalizing done hi with
  | nil =>
      have hzero : hi.lvlPptt = 0 := by simpa using hlast
      refine ⟨done.length, ?_, ⟨hi, ?_, fun hge => absurd hge (not_le.2 hbelow)⟩, ?_⟩
      · rw [tableWalk_append, if_neg]
        rw [hzero]
        exact fun hcond => absurd hcond.1 (by decide)
      · simp
      · unfold afterWalk
        rw [levelAt_append]
        exact if_pos hbelow
  | cons lo rest ih =>
      rcases h.head with ⟨hpptt, hmv⟩
      have hpos : 0 < hi.lvlPptt.toNat :=
        lt_of_le_of_lt (Nat.zero_le _) (UInt16.lt_iff_toNat_lt.1 hpptt)
      have hnext : done ++ hi :: lo :: rest = (done ++ [hi]) ++ lo :: rest := by simp
      have hlen : (done ++ [hi]).length = done.length + 1 := by simp
      have hstep : tableWalk (done ++ hi :: lo :: rest) battMv done.length
          = tableWalk ((done ++ [hi]) ++ lo :: rest) battMv (done ++ [hi]).length := by
        rw [tableWalk_append, if_pos ⟨hpos, hbelow⟩, hnext, hlen]
      by_cases hlo : (lo.lvlMv.toNat : Int) ≤ battMv.toInt
      · -- the walk stops at `lo`, and `hi` is the point before it
        refine ⟨(done ++ [hi]).length, ?_, ?_, ?_⟩
        · rw [hstep, tableWalk_append, if_neg (fun hcond => absurd hcond.2 (not_lt.2 hlo))]
        · refine ⟨lo, by simp, fun _ => ⟨hi, by simp, by simp, hmv⟩⟩
        · have hafter : afterWalk ((done ++ [hi]) ++ lo :: rest) battMv (done ++ [hi]).length
              = interpolate battMv hi lo := by
            have hprev : levelBefore ((done ++ [hi]) ++ lo :: rest) (done ++ [hi]).length
                = .ok hi := by
              rw [← hnext, hlen, levelBefore, levelAt_append]
            unfold afterWalk
            rw [levelAt_append, hprev]
            exact if_neg (not_lt.2 hlo)
          rw [hnext, hafter, interpolate_run hpptt hmv hlo hbelow, List.map_cons,
            Interpolation.below_of_le hlo]
      · rcases ih (done ++ [hi]) h.tail (by simpa using hlast) (not_le.1 hlo) with
          ⟨i, hwalk, hinside, hafter⟩
        rw [List.map_cons, Interpolation.below_of_lt (not_le.1 hlo), hstep, hnext]
        exact ⟨i, hwalk, hinside, hafter⟩

/-! ## The curve -/

/-- The function that a table stands for. -/
def DischargeCurve.curve (c : DischargeCurve) (x : Int) : Int :=
  match c.levels with
  | [] => 0
  | top :: rest =>
      Interpolation.curve Interpolation.segment top.point (rest.map BatteryLevelPoint.point) x

/-- A curve has a first point, and its points are in order. -/
theorem DischargeCurve.unfold (c : DischargeCurve) :
    ∃ top rest, c.levels = top :: rest ∧ top.lvlPptt = 10000 ∧
      Interpolation.Descending (top.point :: rest.map BatteryLevelPoint.point) ∧
      c.curve = Interpolation.curve Interpolation.segment top.point
        (rest.map BatteryLevelPoint.point) := by
  cases hlevels : c.levels with
  | nil => exact absurd c.first (by simp [hlevels])
  | cons top rest =>
      refine ⟨top, rest, rfl, by simpa [hlevels] using c.first, ?_, ?_⟩
      · have hdescending := c.decreasing.descending
        rwa [hlevels, List.map_cons] at hdescending
      · funext x
        unfold DischargeCurve.curve
        rw [hlevels]

variable {c : DischargeCurve} {p : BatteryLevelPoint} {x : Int}

theorem DischargeCurve.curve_mono (c : DischargeCurve) : Monotone c.curve := by
  rcases c.unfold with ⟨top, rest, -, -, hdescending, hcurve⟩
  rw [hcurve]
  exact Interpolation.curve_mono Interpolation.joining_segment hdescending

theorem DischargeCurve.curve_point (hp : p ∈ c.levels) :
    c.curve p.lvlMv.toNat = p.lvlPptt.toNat := by
  rcases c.unfold with ⟨top, rest, hlevels, -, hdescending, hcurve⟩
  have hmem : p.point ∈ top.point :: rest.map BatteryLevelPoint.point := by
    rw [← List.map_cons, ← hlevels]
    exact List.mem_map_of_mem hp
  rw [hcurve]
  exact Interpolation.curve_point Interpolation.joining_segment hdescending hmem

theorem DischargeCurve.curve_le (c : DischargeCurve) (x : Int) : c.curve x ≤ 10000 := by
  rcases c.unfold with ⟨top, rest, -, hfull, hdescending, hcurve⟩
  have htop : top.point.2 = 10000 := by
    unfold BatteryLevelPoint.point
    rw [hfull]
    rfl
  rw [hcurve, ← htop]
  exact Interpolation.curve_le Interpolation.joining_segment hdescending

theorem DischargeCurve.curve_nonneg (c : DischargeCurve) (x : Int) : 0 ≤ c.curve x := by
  rcases c.unfold with ⟨top, rest, -, -, hdescending, hcurve⟩
  rw [hcurve]
  refine Interpolation.le_curve Interpolation.joining_segment hdescending ?_
  rw [← List.map_cons]
  intro q hq
  rcases List.mem_map.1 hq with ⟨p, -, rfl⟩
  exact Int.natCast_nonneg _

theorem DischargeCurve.curve_top (hp : p ∈ c.levels.head?) (hx : (p.lvlMv.toNat : Int) ≤ x) :
    c.curve x = 10000 := by
  have hfull : p.lvlPptt = 10000 := by
    have hfirst := c.first
    rw [Option.mem_def.1 hp] at hfirst
    simpa using hfirst
  refine le_antisymm (c.curve_le x) ?_
  calc (10000 : Int) = c.curve p.lvlMv.toNat := by
        rw [curve_point (List.mem_of_mem_head? hp), hfull]
        rfl
    _ ≤ c.curve x := c.curve_mono hx

theorem DischargeCurve.curve_bottom (hp : p ∈ c.levels.getLast?) (hx : x ≤ p.lvlMv.toNat) :
    c.curve x = 0 := by
  have hempty : p.lvlPptt = 0 := by
    have hlast := c.last
    rw [Option.mem_def.1 hp] at hlast
    simpa using hlast
  refine le_antisymm ?_ (c.curve_nonneg x)
  calc c.curve x ≤ c.curve p.lvlMv.toNat := c.curve_mono hx
    _ = 0 := by
        rw [curve_point (List.mem_of_mem_getLast? hp), hempty]
        rfl

/-- A voltage that is not positive is no charge. -/
theorem DischargeCurve.curve_nonpos (c : DischargeCurve) (hx : x ≤ 0) : c.curve x = 0 := by
  cases hlast : c.levels.getLast? with
  | none => exact absurd c.last (by simp [hlast])
  | some p => exact curve_bottom (p := p) hlast (hx.trans (Int.natCast_nonneg _))

/-! ## The code follows the curve -/

/-- The early exit and the walk together. -/
theorem soc_walk (c : DischargeCurve) (battMv : Int16) :
    ((∃ p ∈ c.levels.head?, (p.lvlMv.toNat : Int) ≤ battMv.toInt) ∨
      ∃ i, tableWalk c.levels battMv 0 = .ok i ∧ StopsInside c.levels battMv i) ∧
    sensorGetBatterySoc c.levels battMv = .ok (c.curve battMv.toInt) := by
  rcases c.unfold with ⟨top, rest, hlevels, -, -, hcurve⟩
  have hdecreasing : Decreasing (top :: rest) := hlevels ▸ c.decreasing
  have hlast : (top :: rest).getLast?.map BatteryLevelPoint.lvlPptt = some 0 := hlevels ▸ c.last
  have hfirst : levelAt (top :: rest) 0 = .ok top := rfl
  unfold sensorGetBatterySoc
  rw [hlevels, hfirst, hcurve, Interpolation.curve]
  rcases le_or_gt (top.lvlMv.toNat : Int) battMv.toInt with htop | hbelow
  · refine ⟨Or.inl ⟨top, rfl, htop⟩, ?_⟩
    rw [if_pos (show top.point.1 ≤ battMv.toInt from htop)]
    exact if_pos htop
  · rcases walk_run [] hdecreasing hlast hbelow with ⟨i, hwalk, hinside, hafter⟩
    rw [List.nil_append] at hwalk hinside hafter
    refine ⟨Or.inr ⟨i, hwalk, hinside⟩, ?_⟩
    rw [if_neg (show ¬ top.point.1 ≤ battMv.toInt from not_le.2 hbelow), ← hafter]
    refine (if_neg (not_le.2 hbelow)).trans ?_
    rw [List.length_nil] at hwalk
    rw [hwalk]
    rfl

/-- On every curve and for every voltage the walk stays inside the table and computes without a
    fault. The result is a percentage in hundredths; it meets every point of the curve, is constant
    beyond its ends and never falls as the voltage rises. -/
theorem soc_interpolates (c : DischargeCurve) :
    (∀ battMv : Int16, (∃ p ∈ c.levels.head?, (p.lvlMv.toNat : Int) ≤ battMv.toInt) ∨
      ∃ i, tableWalk c.levels battMv 0 = .ok i ∧ StopsInside c.levels battMv i) ∧
    ∃ pptt : Int16 → Int,
      (∀ battMv, sensorGetBatterySoc c.levels battMv = .ok (pptt battMv)) ∧
      (∀ battMv, 0 ≤ pptt battMv ∧ pptt battMv ≤ 10000) ∧
      (∀ p ∈ c.levels, ∀ battMv : Int16, battMv.toInt = p.lvlMv.toNat →
        pptt battMv = p.lvlPptt.toNat) ∧
      (∀ p ∈ c.levels.head?, ∀ battMv : Int16, (p.lvlMv.toNat : Int) ≤ battMv.toInt →
        pptt battMv = 10000) ∧
      (∀ p ∈ c.levels.getLast?, ∀ battMv : Int16, battMv.toInt ≤ p.lvlMv.toNat →
        pptt battMv = 0) ∧
      ∀ battMv battMv' : Int16, battMv ≤ battMv' → pptt battMv ≤ pptt battMv' := by
  refine ⟨fun battMv => (soc_walk c battMv).1, fun battMv => c.curve battMv.toInt,
    fun battMv => (soc_walk c battMv).2, fun battMv => ⟨c.curve_nonneg _, c.curve_le _⟩,
    ?_, ?_, ?_, ?_⟩
  · intro p hp battMv hpoint
    show c.curve battMv.toInt = _
    rw [hpoint]
    exact DischargeCurve.curve_point hp
  · exact fun p hp battMv htop => DischargeCurve.curve_top hp htop
  · exact fun p hp battMv hbottom => DischargeCurve.curve_bottom hp hbottom
  · exact fun battMv battMv' hle => c.curve_mono (Int16.le_iff_toInt_le.1 hle)

end Levaware
