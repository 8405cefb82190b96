import Levaware.Encoding.Device

set_option autoImplicit false

/-! # The intervals a device stores

`aws_decode_shadow_values` pegs the three intervals to `[minimum, DAY_SECONDS]` as `int`s and stores
them as `int16_t`s. A day has more seconds than an `int16_t` holds, so the law "what is stored is
what was asked for, clamped" holds up to 32767 and fails beyond (`interval_stored_iff`). -/

namespace Levaware

open Abort

/-! ## What is asked for -/

/-- The attributes that hold an interval. -/
inductive Interval where
  | conf | daq | pub
  deriving DecidableEq

namespace Interval

/-- The attribute. -/
def id : Interval → DevConfigShadowId
  | conf => .confUpdateIntervalS
  | daq => .daqIntervalS
  | pub => .pubIntervalS

/-- The member of the attributes object. -/
def key : Interval → String
  | conf => "config_interval_s"
  | daq => "daq_interval_s"
  | pub => "pub_interval_s"

/-- The minimum in seconds. -/
def minimum : Interval → Int32
  | conf => minuteSeconds
  | daq => daqIntervalMinimumS
  | pub => pubIntervalMinimumS

/-- The number `r` clamped to `[minimum, DAY_SECONDS]`. -/
def clamp (i : Interval) (r : Int32) : Int := max i.minimum.toInt (min r.toInt daySeconds.toInt)

end Interval

variable (P : Platform)

/-- The number a message gives for an interval. -/
def given (i : Interval) (msg : List UInt8) : Option Int32 :=
  (shadowAttributes (P.parseWithLength msg)).bind fun found =>
    CJson.number? (CJson.getObjectItem found.1 i.key)

/-- The last number given for an interval by a sequence of messages. -/
def lastGiven (i : Interval) (msgs : List (List UInt8)) : Option Int32 :=
  (msgs.filterMap (given P i)).getLast?

/-! ## What is stored -/

/-- `config_get_int16` returns `n`, and the attribute's file holds `n`. -/
def Stored (d : Device) (i : Interval) (n : Int) : Prop :=
  (∃ v, (configGetInt16 i.id).run d.board = .ok v d.board ∧ v.toInt = n) ∧
  ∃ v : Int16, d.board.flash i.id.fileName = some (int16Bytes v) ∧ v.toInt = n

variable {P} {b : Board} {d d' : Device} {i : Interval}

theorem Interval.valType_id (i : Interval) : i.id.valType = .int16 := by cases i <;> rfl

theorem Interval.id_mem (i : Interval) : i.id ∈ beforeTopic := by cases i <;> decide

/-- What a message serves of an interval is the number it gives, pegged. -/
theorem served_interval (msg : List UInt8) (i : Interval) :
    served P msg i.id = (given P i msg).map (pegInterval i.minimum) := by
  unfold served given
  cases shadowAttributes (P.parseWithLength msg) with
  | none => rfl
  | some found =>
      rw [Option.bind_some, Option.bind_some, if_neg fun h => h.2 i.id_mem]
      cases i <;> rfl

theorem lastGiven_append (msgs : List (List UInt8)) (msg : List UInt8) :
    lastGiven P i (msgs ++ [msg]) = (given P i msg).or (lastGiven P i msgs) := by
  unfold lastGiven
  rw [List.filterMap_append, List.getLast?_append]
  cases h : given P i msg with
  | none => simp [h]
  | some v => simp [h]

/-! ## The invariant -/

/-- The number in force after some messages: the last one given, pegged, or the default. -/
def inForce (P : Platform) (i : Interval) (msgs : List (List UInt8)) : Int32 :=
  ((lastGiven P i msgs).map (pegInterval i.minimum)).getD 60

/-- After the messages `msgs`: each interval is the number in force, narrowed, in RAM and in its
    file, which exists once a number has been given; and the string files fit. -/
structure IntervalInv (P : Platform) (msgs : List (List UInt8)) (b : Board) : Prop where
  table : b.TableOk
  ram : ∀ i : Interval, (b.attr i.id).int16Val = (inForce P i msgs).toInt16
  file : ∀ (i : Interval) (content : List UInt8), b.flash i.id.fileName = some content →
    content = int16Bytes (inForce P i msgs).toInt16
  written : ∀ i : Interval, (lastGiven P i msgs).isSome → (b.flash i.id.fileName).isSome
  strings : ∀ id, id ≠ .iccid → b.flash.StringFits id

variable {msgs : List (List UInt8)} {msg : List UInt8}

theorem IntervalInv.default (h : DefaultStore b) : IntervalInv P [] b where
  table := h.bootable.table
  ram i := by
    rw [h.attr]
    cases i <;> rfl
  file i content hc := by
    rw [h.inStep i.valType_id content hc, h.attr]
    cases i <;> rfl
  written i hsome := by simp [lastGiven] at hsome
  strings := h.bootable.strings

theorem IntervalInv.inStep (h : IntervalInv P msgs b) (i : Interval) : b.InStep i.id := by
  intro content hc
  rw [h.ram]
  exact h.file i content hc

/-- A message that gives no interval changes none. -/
theorem inForce_append_none (h : given P i msg = none) :
    lastGiven P i (msgs ++ [msg]) = lastGiven P i msgs ∧
    inForce P i (msgs ++ [msg]) = inForce P i msgs := by
  have hlast : lastGiven P i (msgs ++ [msg]) = lastGiven P i msgs := by
    rw [lastGiven_append, h, Option.none_or]
  exact ⟨hlast, by rw [inForce, hlast, inForce]⟩

/-- A message that gives one puts it in force. -/
theorem inForce_append_some {v : Int32} (h : given P i msg = some v) :
    inForce P i (msgs ++ [msg]) = pegInterval i.minimum v := by
  rw [inForce, lastGiven_append, h]
  rfl

theorem IntervalInv.step (hP : P.FsReliable) (h : IntervalInv P msgs d.board)
    (hstep : configStep P d (.shadowMsg msg) = some d') :
    IntervalInv P (msgs ++ [msg]) d'.board := by
  obtain ⟨hboot, hint16⟩ := configStep_msg_int16 hP ⟨h.table, h.strings⟩ hstep
  have hmade : ∀ i : Interval, Int16Step P msg i.id d.board d'.board := fun i =>
    hint16 i.id i.valType_id (h.inStep i)
  have hram : ∀ i : Interval,
      (d'.board.attr i.id).int16Val = (inForce P i (msgs ++ [msg])).toInt16 := by
    intro i
    cases hg : given P i msg with
    | none =>
        rw [((hmade i).kept (by rw [served_interval, hg, Option.map_none])).1, h.ram,
          (inForce_append_none hg).2]
    | some v =>
        rw [((hmade i).given _ (by rw [served_interval, hg, Option.map_some])).1,
          inForce_append_some hg]
  refine ⟨hboot.table, hram, ?_, ?_, hboot.strings⟩
  · intro i content hc
    rw [← hram]
    exact (hmade i).inStep (h.inStep i) content hc
  · intro i hsome
    cases hg : given P i msg with
    | none =>
        rw [(inForce_append_none hg).1] at hsome
        rw [((hmade i).kept (by rw [served_interval, hg, Option.map_none])).2]
        exact h.written i hsome
    | some v =>
        rw [((hmade i).given _ (by rw [served_interval, hg, Option.map_some])).2,
          Option.isSome_some]

theorem msgRun_inv (hP : P.FsReliable) (hd : DefaultStore d.board)
    (hrun : msgRun P d msgs = some d') : IntervalInv P msgs d'.board :=
  History.foldlM_track (R := fun msgs d => IntervalInv P msgs d.board) (IntervalInv.default hd)
    (fun _ _ _ _ h hstep => h.step hP hstep) hrun

/-! ## Pegging and narrowing -/

theorem toInt_pegInterval (i : Interval) (r : Int32) :
    (pegInterval i.minimum r).toInt = i.clamp r := by
  have hmin : i.minimum.toInt ≤ daySeconds.toInt := by cases i <;> decide
  unfold pegInterval Interval.clamp
  simp only [Int32.lt_iff_toInt_lt]
  split_ifs <;> omega

theorem Interval.clamp_bounds (i : Interval) (r : Int32) :
    1 ≤ i.clamp r ∧ i.minimum.toInt ≤ i.clamp r ∧ i.clamp r ≤ 86400 := by
  have hpos : 1 ≤ i.minimum.toInt ∧ i.minimum.toInt ≤ 86400 := by cases i <;> decide
  have hday : daySeconds.toInt = 86400 := by decide
  unfold Interval.clamp
  omega

/-- The clamp reaches past the `int16_t` range exactly where the number does. -/
theorem Interval.clamp_le_iff (i : Interval) (r : Int32) :
    i.clamp r ≤ 32767 ↔ r.toInt ≤ 32767 := by
  have hpos : i.minimum.toInt ≤ 60 := by cases i <;> decide
  have hday : daySeconds.toInt = 86400 := by decide
  unfold Interval.clamp
  omega

theorem storedValue_iff (i : Interval) (r : Int32) :
    (pegInterval i.minimum r).toInt16.toInt = i.clamp r ↔ r.toInt ≤ 32767 := by
  have hpos := (i.clamp_bounds r).1
  rw [← toInt_pegInterval] at hpos
  rw [← i.clamp_le_iff, ← toInt_pegInterval, toInt_toInt16_iff (by omega)]

/-! ## The law and where it ends -/

theorem inForce_of_lastGiven {r : Int32} (h : lastGiven P i msgs = some r) :
    inForce P i msgs = pegInterval i.minimum r := by
  rw [inForce, h]
  rfl

/-- After any messages from the default store: the last number given for an interval is what
    `config_get_int16` returns and what the file holds, clamped, exactly when it is at most 32767.
    While no message gives more than that, every interval is at least its minimum, and of two runs
    the one that asks for more never stores less. -/
theorem interval_stored_iff (P : Platform) (hP : P.FsReliable) (d₀ : Device)
    (hd : DefaultStore d₀.board) :
    (∀ msgs d i r, msgRun P d₀ msgs = some d → lastGiven P i msgs = some r →
      (Stored d i (i.clamp r) ↔ r.toInt ≤ 32767)) ∧
    (∀ msgs d i, msgRun P d₀ msgs = some d →
      (∀ msg ∈ msgs, ∀ r, given P i msg = some r → r.toInt ≤ 32767) →
      ∃ v, (configGetInt16 i.id).run d.board = .ok v d.board ∧ i.minimum.toInt ≤ v.toInt) ∧
    (∀ msgs msgs' d d' i r r', msgRun P d₀ msgs = some d → msgRun P d₀ msgs' = some d' →
      lastGiven P i msgs = some r → lastGiven P i msgs' = some r' →
      r.toInt ≤ r'.toInt → r'.toInt ≤ 32767 →
      ∃ v v', (configGetInt16 i.id).run d.board = .ok v d.board ∧
        (configGetInt16 i.id).run d'.board = .ok v' d'.board ∧ v.toInt ≤ v'.toInt) := by
  have hread : ∀ msgs d (i : Interval), msgRun P d₀ msgs = some d →
      (configGetInt16 i.id).run d.board = .ok (inForce P i msgs).toInt16 d.board := by
    intro msgs d i hrun
    rw [configGetInt16_run, (msgRun_inv hP hd hrun).ram]
  refine ⟨fun msgs d i r hrun hlast => ?_, fun msgs d i hrun hsmall => ?_,
    fun msgs msgs' d d' i r r' hrun hrun' hlast hlast' hle hsmall => ?_⟩
  · have hinv := msgRun_inv hP hd hrun
    have hforce := inForce_of_lastGiven hlast
    rw [← storedValue_iff i r, ← hforce]
    constructor
    · rintro ⟨⟨v, hv, hn⟩, -⟩
      rw [hread msgs d i hrun] at hv
      cases hv
      exact hn
    · intro hn
      obtain ⟨content, hc⟩ := Option.isSome_iff_exists.1 (hinv.written i (by simp [hlast]))
      refine ⟨⟨_, hread msgs d i hrun, hn⟩, _, ?_, hn⟩
      rw [hc, hinv.file i content hc]
  · refine ⟨_, hread msgs d i hrun, ?_⟩
    cases hlast : lastGiven P i msgs with
    | none =>
        have hdefault : inForce P i msgs = 60 := by rw [inForce, hlast]; rfl
        rw [hdefault]
        cases i <;> decide
    | some r =>
        obtain ⟨msg, hmem, hgiven⟩ := List.mem_filterMap.1 (List.mem_of_getLast? hlast)
        have hstored := (storedValue_iff i r).2 (hsmall msg hmem r hgiven)
        rw [inForce_of_lastGiven hlast, hstored]
        exact (i.clamp_bounds r).2.1
  · refine ⟨_, _, hread msgs d i hrun, hread msgs' d' i hrun', ?_⟩
    rw [inForce_of_lastGiven hlast, inForce_of_lastGiven hlast',
      (storedValue_iff i r).2 (by omega), (storedValue_iff i r').2 hsmall]
    unfold Interval.clamp
    omega

/-- A delta that asks for data every 40000 s. -/
def longIntervalText : List UInt8 :=
  ascii "\x7b\"state\":\x7b\"attributes\":\x7b\"daq_interval_s\":40000\x7d\x7d\x7d"

def longIntervalTree : CJson :=
  .object [("state", .object [("attributes", .object [("daq_interval_s", .number 40000)])])]

theorem interval_stored_iff_longInterval :
    let P := Platform.ideal longIntervalText longIntervalTree
    ∃ d, msgRun P ⟨Board.factory, []⟩ [longIntervalText] = some d ∧
      (Stored d .daq (Interval.daq.clamp 40000) ↔ (40000 : Int32).toInt ≤ 32767) := by
  intro P
  refine ⟨_, rfl, ?_⟩
  exact (interval_stored_iff P (Platform.ideal_reliable _ _) ⟨Board.factory, []⟩
    factory_defaultStore).1 [longIntervalText] _ .daq 40000 rfl (by decide +kernel)

/-- Asked for 40000 s, the device stores -25536. -/
theorem interval_40000_negative :
    let P := Platform.ideal longIntervalText longIntervalTree
    ∃ d, msgRun P ⟨Board.factory, []⟩ [longIntervalText] = some d ∧
      lastGiven P .daq [longIntervalText] = some 40000 ∧
      (configGetInt16 Interval.daq.id).run d.board = .ok (-25536) d.board ∧
      ¬ Stored d .daq (Interval.daq.clamp 40000) := by
  intro P
  refine ⟨_, rfl, by decide +kernel, rfl, ?_⟩
  rintro ⟨⟨v, hv, hn⟩, -⟩
  cases hv
  exact absurd hn (by decide)

end Levaware
