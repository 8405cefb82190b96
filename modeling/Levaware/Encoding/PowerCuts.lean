import Mathlib.Data.List.Forall2
import Levaware.Encoding.Numbers
import Levaware.Encoding.Redelivery
import Levaware.Encoding.VersionCommit
import Levaware.Lib.Redo

set_option autoImplicit false

/-! # Power losses inside a message

The decoder saves one value of a message after the other, and littlefs changes a file when it is
closed, so a power loss lets only the first values get to their files. Over any run with such cuts,
each attribute has the last value that got through (`deliverAll_exact`); and the cuts of messages
that are delivered in full later on, whatever comes in between, leave nothing behind
(`deliverAll_madeGood`). -/

namespace Levaware

open Abort

variable {P : Platform} {b : Board} {d d' : Device} {msg : List UInt8} {id : DevConfigShadowId}
  {ids : List DevConfigShadowId} {req req' : DevConfigShadowId → Option Int32}

/-! ## Deliveries -/

/-- A shadow message comes, and the power may go while it is decoded. -/
inductive Delivery where
  | whole (msg : List UInt8)
  /-- the power goes when that many blocks of the decoder have run, or earlier if one aborts -/
  | cut (msg : List UInt8) (blocks : Nat)

/-- The board as the power goes. -/
def cutBoard (P : Platform) (msg : List UInt8) (blocks : Nat) (b : Board) : Board :=
  match shadowAttributes (P.parseWithLength msg) with
  | some (attributes, version) =>
      final (((decodeBlocks P attributes version true).take blocks).forM fun m => m) b
  | none => b

/-- A delivery, and the boot after a power loss. -/
def deliver (P : Platform) (d : Device) : Delivery → Option Device
  | .whole msg => configStep P d (.shadowMsg msg)
  | .cut msg blocks => bootFrom P (cutBoard P msg blocks d.board)

def deliverAll (P : Platform) (d : Device) (deliveries : List Delivery) : Option Device :=
  deliveries.foldlM (deliver P) d

/-- The messages that are decoded to their end. -/
def Delivery.whole? : Delivery → Option (List UInt8)
  | .whole msg => some msg
  | .cut _ _ => none

/-- Every message that is cut short comes again, and is decoded to its end, later on. -/
def ComesAgain : List Delivery → Prop
  | [] => True
  | .whole _ :: rest => ComesAgain rest
  | .cut msg _ :: rest => msg ∈ rest.filterMap Delivery.whole? ∧ ComesAgain rest

instance decidableComesAgain : (deliveries : List Delivery) → Decidable (ComesAgain deliveries)
  | [] => isTrue trivial
  | .whole _ :: rest => decidableComesAgain rest
  | .cut _ _ :: rest => @instDecidableAnd _ _ inferInstance (decidableComesAgain rest)

/-! ## What a delivery gets through -/

/-- The attribute that each block of the decoder serves. -/
def blockOrder : List DevConfigShadowId := beforeTopic ++ [.pubTopic, .appType]

/-- The numbers that a delivery gets through. -/
def Delivery.serves (P : Platform) : Delivery → DevConfigShadowId → Option Int32
  | .whole msg, id => served P msg id
  | .cut msg blocks, id => if id ∈ blockOrder.take blocks then served P msg id else none

/-- What the store has for an attribute: its number, and its file. -/
def Board.record (b : Board) (id : DevConfigShadowId) : Int × Option (List UInt8) :=
  ((b.attr id).number, b.flash id.fileName)

/-- What a delivery writes to the store. -/
def Delivery.writes (P : Platform) (delivery : Delivery) :
    Redo.Writes DevConfigShadowId (Int × Option (List UInt8)) := fun id =>
  (delivery.serves P id).map fun v => (id.narrow v, some (id.numContent v))

/-- What a cut gets through is part of what the whole message would. -/
theorem writes_cut_partOf (P : Platform) (msg : List UInt8) (blocks : Nat) :
    Redo.PartOf ((Delivery.cut msg blocks).writes P) ((Delivery.whole msg).writes P) := by
  intro id v h
  have hcut : (Delivery.cut msg blocks).serves P id
      = if id ∈ blockOrder.take blocks then (Delivery.whole msg).serves P id else none := rfl
  unfold Delivery.writes at h ⊢
  by_cases hmem : id ∈ blockOrder.take blocks
  · rwa [hcut, if_pos hmem] at h
  · rw [hcut, if_neg hmem] at h
    cases h

/-! ## Serving -/

theorem serveAll_append (b : Board) (ids ids' : List DevConfigShadowId) :
    b.serveAll (ids ++ ids') req = (b.serveAll ids req).serveAll ids' req := List.foldl_append

theorem serveAll_congr (h : ∀ id ∈ ids, req id = req' id) :
    b.serveAll ids req = b.serveAll ids req' := by
  induction ids generalizing b with
  | nil => rfl
  | cons id rest ih =>
      have hrest : ∀ other ∈ rest, req other = req' other :=
        fun other hother => h other (List.mem_cons_of_mem _ hother)
      show (b.serve id (req id)).serveAll rest req = (b.serve id (req' id)).serveAll rest req'
      rw [h id (List.mem_cons_self ..), ih hrest]

theorem serveAll_none (h : ∀ id ∈ ids, req id = none) : b.serveAll ids req = b := by
  induction ids generalizing b with
  | nil => rfl
  | cons id rest ih =>
      show (b.serve id (req id)).serveAll rest req = b
      rw [h id (List.mem_cons_self ..)]
      exact ih fun other hother => h other (List.mem_cons_of_mem _ hother)

/-- Files that are no attribute's are left alone. -/
theorem serveAll_otherFile {name : String} (h : ∀ id : DevConfigShadowId, id.fileName ≠ name) :
    (b.serveAll ids req).flash name = b.flash name := by
  induction ids generalizing b with
  | nil => rfl
  | cons id rest ih =>
      have hserve : (b.serve id (req id)).flash name = b.flash name := by
        cases req id with
        | none => rfl
        | some v => exact Board.flash_setFile_of_ne (h id).symm
      exact ih.trans hserve

/-- The records after some requests. -/
theorem record_serveAll (hT : b.TableOk) (hnodup : ids.Nodup) :
    (b.serveAll ids req).record = Redo.apply b.record fun id =>
      (if id ∈ ids then req id else none).map fun v => (id.narrow v, some (id.numContent v)) := by
  funext id
  have hnumber := number_serveAll hT hnodup req id
  have hfile : (b.serveAll ids req).flash id.fileName = ((if id ∈ ids then req id else none).map
      fun v => some (id.numContent v)).getD (b.flash id.fileName) := by
    by_cases hmem : id ∈ ids
    · rw [if_pos hmem, (serveAll_of_mem hnodup hmem).2]
      cases req id with
      | none => rfl
      | some v => exact flash_store_self
    · rw [if_neg hmem, (serveAll_of_notMem hmem).2]
      rfl
  unfold Board.record Redo.apply
  rw [hnumber, hfile]
  dsimp only
  cases (if id ∈ ids then req id else none) <;> rfl

/-- Requests for numbers keep a board in order. -/
theorem Board.Durable.serveNumbers (h : b.Durable)
    (hstr : ∀ id, id.valType = .string → req id = none) (ids : List DevConfigShadowId) :
    (b.serveAll ids req).Durable := by
  induction ids generalizing b with
  | nil => exact h
  | cons id rest ih =>
      have hserve : (b.serve id (req id)).Durable := by
        by_cases hty : id.valType = .string
        · rw [hstr id hty]
          exact h
        · exact h.serve hty _
      exact ih hserve

/-! ## One delivery -/

section Accepted

variable {attributes : Option CJson} {version : Int32}

/-- The blocks before the topic, as far as they run. -/
theorem firstBlocks_run (attributes : Option CJson) (version : Int32) (hP : P.FsReliable)
    (hT : b.TableOk) (blocks : Nat) :
    ((([decodeVersion P version, decodeConfInterval P attributes true,
        decodeDaqInterval P attributes true, decodePubInterval P attributes true,
        decodeSensorType P attributes true] : List (Fw Unit)).take blocks).forM fun m => m).run b
      = .ok () (b.serveAll (beforeTopic.take blocks) (requested P attributes version)) := by
  have hrun : ∀ {ms : List (Fw Unit)} {ids : List DevConfigShadowId},
      List.Forall₂ (fun m id => ∀ b : Board, b.TableOk →
        m.run b = .ok () (b.serve id (requested P attributes version id))) ms ids →
      ∀ b : Board, b.TableOk →
        (ms.forM fun m => m).run b = .ok () (b.serveAll ids (requested P attributes version)) := by
    intro ms ids h
    induction h with
    | nil => exact fun b _ => rfl
    | cons hm _ ih =>
        intro b hb
        rw [List.forM_eq_forM, List.forM_cons, run_bind_ok (hm b hb)]
        exact ih _ (hb.serve _ _)
  refine hrun (List.forall₂_take blocks ?_) b hT
  refine .cons (fun b hb => decodeVersion_run attributes version hP hb) <|
    .cons (fun b hb => decodeConfInterval_run attributes version hP hb) <|
    .cons (fun b hb => decodeDaqInterval_run attributes version hP hb) <|
    .cons (fun b hb => decodePubInterval_run attributes version hP hb) <|
    .cons (fun b hb => decodeSensorType_run attributes version hP hb) .nil

/-- The other two blocks, as far as they run. -/
theorem lastBlocks_flash (hP : P.FsReliable) (hT : b.TableOk)
    (h : shadowAttributes (P.parseWithLength msg) = some (attributes, version)) (blocks : Nat) :
    (final ((([decodeTopic P attributes true, decodeAppType P attributes true] :
        List (Fw Unit)).take blocks).forM fun m => m) b).flash
      = (b.serveAll (([.pubTopic, .appType] : List DevConfigShadowId).take blocks)
          (served P msg)).flash := by
  have hpub : served P msg .pubTopic = none := served_of_string rfl
  cases blocks with
  | zero => rfl
  | succ blocks =>
      rw [List.take_succ_cons, List.take_succ_cons, List.forM_eq_forM, List.forM_cons]
      cases htopic : requestedTopic attributes with
      | some s =>
          -- nothing behind the topic is reached
          obtain ⟨b₁, hrun, hb₁⟩ := decodeTopic_some (P := P) htopic b
          have hnone : ∀ id ∈ DevConfigShadowId.pubTopic ::
              ([.appType] : List DevConfigShadowId).take blocks, served P msg id = none := by
            intro id hid
            refine served_behindTopic h (by simp [htopic]) fun hmem => ?_
            rcases List.mem_cons.1 hid with rfl | hid
            · exact absurd hmem (by decide)
            · rw [List.mem_singleton.1 (List.mem_of_mem_take hid)] at hmem
              exact absurd hmem (by decide)
          rw [final_error (run_bind_error hrun), hb₁.flash, serveAll_none hnone]
      | none =>
          rw [final_bind_ok (decodeTopic_none htopic)]
          cases blocks with
          | zero =>
              show b.flash = (b.serve .pubTopic (served P msg .pubTopic)).flash
              rw [hpub]
              rfl
          | succ blocks =>
              have happ := served_noTopic h htopic .appType
              rw [List.take_succ_cons, List.take_nil, List.take_succ_cons, List.take_nil,
                List.forM_cons, final_bind_ok (decodeAppType_run attributes version hP hT)]
              show (Board.notice P _ _).flash = ((b.serve .pubTopic (served P msg .pubTopic)).serve
                .appType (served P msg .appType)).flash
              rw [hpub, happ, flash_notice]
              rfl

end Accepted

/-- The files as the power goes. -/
theorem cutBoard_flash (hP : P.FsReliable) (hT : b.TableOk) (msg : List UInt8) (blocks : Nat) :
    (cutBoard P msg blocks b).flash
      = (b.serveAll (blockOrder.take blocks) (served P msg)).flash := by
  unfold cutBoard
  cases henv : shadowAttributes (P.parseWithLength msg) with
  | none =>
      rw [serveAll_none fun id _ => served_of_discarded henv id]
  | some found =>
      obtain ⟨attributes, version⟩ := found
      have hsplit : decodeBlocks P attributes version true =
          [decodeVersion P version, decodeConfInterval P attributes true,
            decodeDaqInterval P attributes true, decodePubInterval P attributes true,
            decodeSensorType P attributes true] ++
          [decodeTopic P attributes true, decodeAppType P attributes true] := rfl
      have hfirst := firstBlocks_run attributes version hP hT blocks
      have hserved : b.serveAll (beforeTopic.take blocks) (requested P attributes version)
          = b.serveAll (beforeTopic.take blocks) (served P msg) :=
        serveAll_congr fun id hid => (served_beforeTopic henv (List.mem_of_mem_take hid)).symm
      dsimp only
      rw [List.forM_eq_forM] at hfirst
      rw [hsplit, blockOrder, List.take_append, List.take_append, List.forM_eq_forM,
        List.forM_append, final_bind_ok hfirst, serveAll_append, hserved]
      exact lastBlocks_flash hP (hT.serveAll _ _) henv _

/-- A message decoded to its end, or to the reboot at its topic, serves all it serves. -/
theorem served_blockOrder (P : Platform) (msg : List UInt8) (id : DevConfigShadowId) :
    (if id ∈ blockOrder then served P msg id else none) = served P msg id := by
  by_cases hmem : id ∈ blockOrder
  · rw [if_pos hmem]
  · -- only two strings are no block's
    rw [if_neg hmem]
    cases id <;> first | exact (served_of_string rfl).symm | exact absurd (by decide) hmem

theorem configStep_flash (hP : P.FsReliable) (hd : d.board.Durable)
    (hstep : configStep P d (.shadowMsg msg) = some d') :
    d'.board.flash = (d.board.serveAll blockOrder (served P msg)).flash := by
  have hpub : served P msg .pubTopic = none := served_of_string rfl
  have hsplit : d.board.serveAll blockOrder (served P msg)
      = (d.board.serveAll beforeTopic (served P msg)).serve .appType (served P msg .appType) := by
    rw [blockOrder, serveAll_append]
    show ((d.board.serveAll beforeTopic (served P msg)).serve .pubTopic
      (served P msg .pubTopic)).serve .appType (served P msg .appType) = _
    rw [hpub]
    rfl
  rcases configStep_msg_cases hP hd.store.table msg with
    ⟨henv, d₁, hrun, hboard⟩ |
      ⟨attributes, version, henv, ⟨htopic, d₁, hrun, -, hflash⟩ | ⟨htopic, b, hrun, hflash⟩⟩
  · rw [hstep] at hrun
    cases hrun
    rw [hboard, serveAll_none fun id _ => served_of_discarded henv id]
  · rw [hstep] at hrun
    cases hrun
    rw [hflash, ← serveAll_congr fun id _ => served_noTopic henv htopic id, serveAll_append, hsplit]
    rfl
  · rw [hstep] at hrun
    have hserved := hd.serveAll beforeTopic (by decide) (requested P attributes version)
    have hfit : ∀ id, id ≠ .iccid → b.flash.StringFits id := by
      rw [hflash]
      exact hserved.store.files.provisioned.fits
    have hbooted := bootFrom_booted (fun id hid _ => hfit id hid) hrun.symm
    rw [hsplit, served_behindTopic henv htopic (by decide),
      serveAll_congr fun id hid => served_beforeTopic henv hid, Board.serve, ← hflash]
    exact hbooted.loadsTo.flash

/-- What a delivery leaves: a board in order, and in its store what the delivery writes. -/
structure Board.Written (P : Platform) (delivery : Delivery) (b b' : Board) : Prop where
  durable : b'.Durable
  record : b'.record = Redo.apply b.record (delivery.writes P)
  otherFile : ∀ name, (∀ id : DevConfigShadowId, id.fileName ≠ name) → b'.flash name = b.flash name

theorem deliver_written (hP : P.FsReliable) (hd : d.board.Durable) (delivery : Delivery) :
    ∃ d', deliver P d delivery = some d' ∧ d.board.Written P delivery d'.board := by
  have hT := hd.store.table
  cases delivery with
  | whole msg =>
      obtain ⟨d', hstep, hdurable⟩ := configStep_durable hP hd (.shadowMsg msg)
      have hflash := configStep_flash hP hd hstep
      have hrecord : d'.board.record = (d.board.serveAll blockOrder (served P msg)).record := by
        funext id
        unfold Board.record
        rw [hflash, configStep_number hP hd hstep id, number_serveAll hT (by decide),
          served_blockOrder]
      refine ⟨d', hstep, hdurable, ?_, fun name hname => ?_⟩
      · rw [hrecord, record_serveAll hT (by decide)]
        simp only [served_blockOrder]
        rfl
      · rw [hflash, serveAll_otherFile hname]
  | cut msg blocks =>
      have hcut : (d.board.serveAll (blockOrder.take blocks) (served P msg)).Durable :=
        hd.serveNumbers (fun _ => served_of_string) _
      have hflash := cutBoard_flash hP hT msg blocks
      have hinPlace : (cutBoard P msg blocks d.board).flash.FilesInPlace :=
        hflash ▸ hcut.store.files
      obtain ⟨d', hboot, hdurable⟩ := bootFrom_durable hP hinPlace
      have hbooted := bootFrom_booted (fun id hid _ => hinPlace.provisioned.fits id hid) hboot
      have hfiles : d'.board.flash = (cutBoard P msg blocks d.board).flash := hbooted.loadsTo.flash
      have hrecord : d'.board.record
          = (d.board.serveAll (blockOrder.take blocks) (served P msg)).record := by
        funext id
        unfold Board.record
        rw [hfiles, hflash, number_bootFrom hcut hflash hboot]
      have hnodup : (blockOrder.take blocks).Nodup :=
        (List.take_sublist _ _).nodup (by decide)
      refine ⟨d', hboot, hdurable, ?_, fun name hname => ?_⟩
      · rw [hrecord, record_serveAll hT hnodup]
        rfl
      · rw [hfiles, hflash, serveAll_otherFile hname]

/-! ## Runs -/

/-- The last number of an attribute that deliveries get through. -/
def lastThrough (P : Platform) (id : DevConfigShadowId) (deliveries : List Delivery) :
    Option Int32 :=
  (deliveries.filterMap fun delivery => delivery.serves P id).getLast?

theorem last_writes (P : Platform) (id : DevConfigShadowId) (deliveries : List Delivery) :
    Redo.last (deliveries.map (Delivery.writes P)) id
      = (lastThrough P id deliveries).map fun v => (id.narrow v, some (id.numContent v)) := by
  unfold Redo.last lastThrough Delivery.writes
  rw [List.filterMap_map, ← List.getLast?_map, List.map_filterMap]
  rfl

theorem deliverAll_written (hP : P.FsReliable) (hd : d.board.Durable)
    (deliveries : List Delivery) : ∃ d', deliverAll P d deliveries = some d' ∧ d'.board.Durable ∧
      d'.board.record = Redo.run d.board.record (deliveries.map (Delivery.writes P)) ∧
      ∀ name, (∀ id : DevConfigShadowId, id.fileName ≠ name) →
        d'.board.flash name = d.board.flash name := by
  induction deliveries generalizing d with
  | nil => exact ⟨d, rfl, hd, rfl, fun _ _ => rfl⟩
  | cons delivery rest ih =>
      obtain ⟨d₁, hstep, hwritten⟩ := deliver_written hP hd delivery
      obtain ⟨d₂, hrun, hdurable, hrecord, hothers⟩ := ih hwritten.durable
      refine ⟨d₂, ?_, hdurable, ?_, fun name hname => ?_⟩
      · unfold deliverAll
        rw [List.foldlM_cons, hstep]
        exact hrun
      · rw [hrecord, hwritten.record]
        rfl
      · rw [hothers name hname, hwritten.otherFile name hname]

/-- Wherever the power goes, and how often, on files that can be relied on and are there: the device
    boots again, nothing waits to be saved, and each attribute has, in RAM and in its file, the last
    number that got through: of a message that was cut, a number whose block had run. -/
theorem deliverAll_exact (P : Platform) (hP : P.FsReliable) (b : Board)
    (hfl : b.flash.FilesInPlace) : ∃ d₀, bootFrom P b = some d₀ ∧
      ∀ deliveries, ∃ d, deliverAll P d₀ deliveries = some d ∧ d.board.Durable ∧
        ∀ id, d.board.record id = ((lastThrough P id deliveries).map fun v =>
          (id.narrow v, some (id.numContent v))).getD (d₀.board.record id) := by
  obtain ⟨d₀, hboot, hd₀⟩ := bootFrom_durable (P := P) hP hfl
  refine ⟨d₀, hboot, fun deliveries => ?_⟩
  obtain ⟨d, hrun, hdurable, hrecord, -⟩ := deliverAll_written hP hd₀ deliveries
  refine ⟨d, hrun, hdurable, fun id => ?_⟩
  rw [hrecord, Redo.run_apply, last_writes]

/-- Cut after its third block, a message has got its interval to the file. -/
theorem deliverAll_exact_daqDelta :
    let P := Platform.ideal daqDeltaText daqDeltaTree
    ∃ d₀ d, bootFrom P (.switchedOn Flash.provisioned) = some d₀ ∧
      deliverAll P d₀ [.cut daqDeltaText 3] = some d ∧
      d.board.record .daqIntervalS = (300, some (int16Bytes 300)) := by
  intro P
  obtain ⟨d₀, hboot, hall⟩ := deliverAll_exact P (Platform.ideal_reliable _ _)
    (.switchedOn Flash.provisioned) provisioned_filesInPlace
  obtain ⟨d, hrun, -, hrecord⟩ := hall [.cut daqDeltaText 3]
  have hlast : lastThrough P .daqIntervalS [.cut daqDeltaText 3] = some 300 := by decide +kernel
  refine ⟨d₀, d, hboot, hrun, ?_⟩
  rw [hrecord, hlast]
  rfl

/-! ## Messages that come again -/

/-- A delivery as an attempt at the writes of its message. -/
def Delivery.attempt (P : Platform) : Delivery → Redo.Attempt DevConfigShadowId
    (Int × Option (List UInt8))
  | .whole msg => .whole ((Delivery.whole msg).writes P)
  | .cut msg blocks => .cut ((Delivery.cut msg blocks).writes P)

theorem writes_attempt (P : Platform) (delivery : Delivery) :
    (delivery.attempt P).writes = delivery.writes P := by
  cases delivery <;> rfl

theorem whole_attempts (P : Platform) (deliveries : List Delivery) :
    (deliveries.map (Delivery.attempt P)).filterMap Redo.Attempt.whole?
      = (deliveries.filterMap Delivery.whole?).map fun msg => (Delivery.whole msg).writes P := by
  induction deliveries with
  | nil => rfl
  | cons delivery rest ih =>
      cases delivery with
      | whole msg => exact congrArg _ ih
      | cut msg blocks => exact ih

theorem ComesAgain.madeGood {deliveries : List Delivery} (h : ComesAgain deliveries) :
    Redo.MadeGood (deliveries.map (Delivery.attempt P)) := by
  induction deliveries with
  | nil => trivial
  | cons delivery rest ih =>
      cases delivery with
      | whole msg => exact ih h
      | cut msg blocks =>
          refine ⟨⟨_, ?_, writes_cut_partOf P msg blocks⟩, ih h.2⟩
          rw [whole_attempts]
          exact List.mem_map.2 ⟨msg, h.1, rfl⟩

theorem msgRun_eq_deliverAll (P : Platform) (d : Device) (msgs : List (List UInt8)) :
    msgRun P d msgs = deliverAll P d (msgs.map .whole) := by
  unfold msgRun deliverAll
  rw [List.foldlM_map]
  rfl

/-- On files that can be relied on and are there, power losses cost nothing as long as each message
    they cut comes again: whatever else is delivered in between, and however often it is cut, in the
    end every file and every number is what it would be if the messages that got to their end had
    come once each, without a cut. -/
theorem deliverAll_madeGood (P : Platform) (hP : P.FsReliable) (b : Board)
    (hfl : b.flash.FilesInPlace) (deliveries : List Delivery) (hagain : ComesAgain deliveries) :
    ∃ d₀ d d', bootFrom P b = some d₀ ∧ deliverAll P d₀ deliveries = some d ∧
      msgRun P d₀ (deliveries.filterMap Delivery.whole?) = some d' ∧
      d.board.flash = d'.board.flash ∧
      ∀ id, (d.board.attr id).number = (d'.board.attr id).number := by
  obtain ⟨d₀, hboot, hd₀⟩ := bootFrom_durable (P := P) hP hfl
  set msgs := deliveries.filterMap Delivery.whole?
  obtain ⟨d, hrun, -, hrecord, hothers⟩ := deliverAll_written hP hd₀ deliveries
  obtain ⟨d', hrun', -, hrecord', hothers'⟩ := deliverAll_written hP hd₀ (msgs.map .whole)
  have hsame : d.board.record = d'.board.record := by
    have hgood := Redo.runAll_of_madeGood d₀.board.record (hagain.madeGood (P := P))
    unfold Redo.runAll at hgood
    rw [whole_attempts, List.map_map] at hgood
    rw [hrecord, hrecord', List.map_map, ← List.map_congr_left fun x _ => writes_attempt P x]
    exact hgood
  refine ⟨d₀, d, d', hboot, hrun, (msgRun_eq_deliverAll ..).trans hrun', ?_, fun id => ?_⟩
  · funext name
    by_cases hname : ∃ id : DevConfigShadowId, id.fileName = name
    · obtain ⟨id, rfl⟩ := hname
      exact congrArg Prod.snd (congrFun hsame id)
    · have hother : ∀ id : DevConfigShadowId, id.fileName ≠ name := fun id h => hname ⟨id, h⟩
      rw [hothers name hother, hothers' name hother]
  · exact congrArg Prod.fst (congrFun hsame id)

theorem deliverAll_madeGood_daqDelta :
    let P := Platform.ideal daqDeltaText daqDeltaTree
    ∃ d₀ d d', bootFrom P (.switchedOn Flash.provisioned) = some d₀ ∧
      deliverAll P d₀ [.cut daqDeltaText 0, .cut daqDeltaText 3, .whole daqDeltaText] = some d ∧
      msgRun P d₀ [daqDeltaText] = some d' ∧ d.board.flash = d'.board.flash ∧
      ∀ id, (d.board.attr id).number = (d'.board.attr id).number :=
  deliverAll_madeGood (.ideal daqDeltaText daqDeltaTree) (Platform.ideal_reliable _ _)
    (.switchedOn Flash.provisioned) provisioned_filesInPlace
    [.cut daqDeltaText 0, .cut daqDeltaText 3, .whole daqDeltaText] (by decide +kernel)

end Levaware
