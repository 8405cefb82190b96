import Levaware.Encoding.Envelope
import Levaware.Encoding.Requests

set_option autoImplicit false

/-! # The same message again

Shadow messages are delivered at least once. What a second delivery finds in RAM and in the files is
what it would put there, so it changes nothing (`redelivery_rewrites`); but the decoder marks every
value it sets as new, so each of them is written to its file again. -/

namespace Levaware

open Abort

variable {P : Platform} {b b' : Board} {id : DevConfigShadowId} {r : Option Int32}
  {ids : List DevConfigShadowId} {req : DevConfigShadowId → Option Int32}

/-! ## Serving a request that has been served -/

/-- Serving what the board holds only makes the call of `save_to_file`. -/
theorem Board.Holds.serve_eq (h : b.Holds id r) :
    (b.serve id r).config = b.config ∧ (b.serve id r).flash = b.flash := by
  cases r with
  | none => exact ⟨rfl, rfl⟩
  | some v =>
      obtain ⟨hattr, hfile⟩ := h v rfl
      have hset : Function.update b.config.devShadowAttrib id ((b.attr id).withNum v)
          = b.config.devShadowAttrib := by
        rw [← hattr]
        exact Function.update_eq_self id _
      have hwrite : Function.update b.flash id.fileName (some (id.numContent v)) = b.flash := by
        rw [← hfile]
        exact Function.update_eq_self _ _
      constructor
      · exact congrArg (fun table => { b.config with devShadowAttrib := table }) hset
      · exact hwrite

theorem serveAll_again (h : ∀ id ∈ ids, b.Holds id (req id)) :
    (b.serveAll ids req).config = b.config ∧ (b.serveAll ids req).flash = b.flash := by
  induction ids generalizing b with
  | nil => exact ⟨rfl, rfl⟩
  | cons first rest ih =>
      obtain ⟨hconfig, hflash⟩ := (h first (List.mem_cons_self ..)).serve_eq
      have hrest : ∀ id ∈ rest, (b.serve first (req first)).Holds id (req id) := by
        intro id hid
        have hattr : (b.serve first (req first)).attr = b.attr := Board.attr_congr hconfig
        exact (h id (List.mem_cons_of_mem _ hid)).of_eq (congrFun hattr id) (congrFun hflash _)
      obtain ⟨hconfig', hflash'⟩ := ih hrest
      exact ⟨hconfig'.trans hconfig, hflash'.trans hflash⟩

/-! ## The calls of `save_to_file` -/

/-- The effect is a call of `save_to_file`. -/
def Effect.isSave : Effect → Bool
  | .saveToFile _ _ => true
  | _ => false

/-- The calls of `save_to_file` made on the way from `b` to `b'`. -/
def savesBetween (b b' : Board) : List Effect :=
  (b'.trace.drop b.trace.length).filter Effect.isSave

theorem saveCalls_isSave : (saveCalls ids req).filter Effect.isSave = saveCalls ids req := by
  rw [List.filter_eq_self]
  intro e he
  obtain ⟨id, -, hid⟩ := List.mem_filterMap.1 he
  obtain ⟨v, -, rfl⟩ := Option.map_eq_some_iff.1 hid
  rfl

theorem savesBetween_served (b : Board) (ids : List DevConfigShadowId)
    (req : DevConfigShadowId → Option Int32) (r : Option Int32) :
    savesBetween b ((b.serveAll ids req).notice P r) = saveCalls ids req := by
  obtain ⟨notice, htrace, hnone⟩ := trace_notice P (b.serveAll ids req) r
  have hnotice : notice.filter Effect.isSave = [] := by
    rw [List.filter_eq_nil_iff]
    intro e he hsave
    cases e with
    | saveToFile name content => exact hnone name content he
    | copied | appTypeChanged => cases hsave
  unfold savesBetween
  rw [htrace, trace_serveAll, List.append_assoc, List.drop_left, List.filter_append, hnotice,
    saveCalls_isSave, List.append_nil]

/-- No call is made only for no request. -/
theorem saveCalls_eq_nil_iff : saveCalls ids req = [] ↔ ∀ id ∈ ids, req id = none := by
  unfold saveCalls
  rw [List.filterMap_eq_nil_iff]
  refine forall₂_congr ?_
  intro id _
  rw [Option.map_eq_none_iff]

/-! ## The second delivery -/

section Twice

variable {msg : List UInt8} {attributes : Option CJson} {version : Int32} {d : Device}

/-- The requests of a message without a topic, all of which are served. -/
def requestedSaves (P : Platform) (attributes : Option CJson) (version : Int32) : List Effect :=
  saveCalls (beforeTopic ++ [.appType]) (requested P attributes version)

theorem requestedSaves_eq_nil_iff :
    requestedSaves P attributes version = [] ↔
      ∀ id, requested P attributes version id = none := by
  unfold requestedSaves
  rw [saveCalls_eq_nil_iff]
  constructor
  · intro h id
    cases id with
    | iccid | pubTopic | subTopic => rfl
    | _ => exact h _ (by decide)
  · intro h id _
    exact h id

theorem msgEffect_noTopic (hP : P.FsReliable) (hT : d.board.TableOk)
    (hmsg : shadowAttributes (P.parseWithLength msg) = some (attributes, version))
    (htopic : requestedTopic attributes = none) :
    msgEffect P msg d = .ok ()
      ((d.board.serveAll (beforeTopic ++ [.appType]) (requested P attributes version)).notice P
        (requested P attributes version .appType)) := by
  rw [msgEffect_accepted hmsg, awsDecodeShadowValues_run version hP hT htopic]

/-- The second delivery of an accepted message without a topic leaves RAM, dirty flags and files as
    they are. It calls `save_to_file` once for each request of the message, as the first did, and
    each time with the content that the file already has; so it calls it not at all exactly when the
    message requests nothing. -/
theorem redelivery_rewrites (P : Platform) (hP : P.FsReliable) (msg : List UInt8)
    (attributes : Option CJson) (version : Int32)
    (hmsg : shadowAttributes (P.parseWithLength msg) = some (attributes, version))
    (htopic : requestedTopic attributes = none) (d : Device) (hT : d.board.TableOk) :
    ∃ b₁, msgEffect P msg d = .ok () b₁ ∧
      savesBetween d.board b₁ = requestedSaves P attributes version ∧
      ∀ d₁ : Device, d₁.board = b₁ → ∃ b₂, msgEffect P msg d₁ = .ok () b₂ ∧
        b₂.config = b₁.config ∧ b₂.flash = b₁.flash ∧
        savesBetween b₁ b₂ = requestedSaves P attributes version ∧
        (∀ name content, Effect.saveToFile name content ∈ savesBetween b₁ b₂ →
          b₁.flash name = some content) ∧
        (savesBetween b₁ b₂ = [] ↔ ∀ id, requested P attributes version id = none) := by
  set req := requested P attributes version
  set ids := beforeTopic ++ [DevConfigShadowId.appType]
  set served := d.board.serveAll ids req
  set b₁ := served.notice P (req .appType)
  -- the notice at the end is an entry of the trace only
  have hattr : b₁.attr = served.attr := Board.attr_congr (config_notice P _ _)
  have hflash : b₁.flash = served.flash := flash_notice P _ _
  have hT₁ : b₁.TableOk := (hT.serveAll ids req).of_attr_eq hattr
  have hholds : ∀ id ∈ ids, b₁.Holds id (req id) := by
    intro id hid
    exact (serveAll_holds (by decide) hid).of_eq (congrFun hattr id) (congrFun hflash _)
  refine ⟨b₁, msgEffect_noTopic hP hT hmsg htopic, savesBetween_served .., ?_⟩
  intro d₁ hd₁
  have hrun := msgEffect_noTopic (d := d₁) hP (hd₁ ▸ hT₁) hmsg htopic
  rw [hd₁] at hrun
  obtain ⟨hconfig', hflash'⟩ := serveAll_again hholds
  have hsaves : savesBetween b₁ ((b₁.serveAll ids req).notice P (req .appType))
      = requestedSaves P attributes version := savesBetween_served ..
  refine ⟨_, hrun, (config_notice P _ _).trans hconfig', (flash_notice P _ _).trans hflash',
    hsaves, ?_, ?_⟩
  · intro name content hmem
    rw [hsaves] at hmem
    obtain ⟨id, hid, hcall⟩ := List.mem_filterMap.1 hmem
    obtain ⟨v, hv, heq⟩ := Option.map_eq_some_iff.1 hcall
    cases heq
    exact (hholds id hid v hv).2
  · rw [hsaves]
    exact requestedSaves_eq_nil_iff

end Twice

/-- A delta that asks for data every 300 s. -/
def daqDeltaText : List UInt8 :=
  ascii "\x7b\"state\":\x7b\"attributes\":\x7b\"daq_interval_s\":300\x7d\x7d\x7d"

def daqDeltaTree : CJson :=
  .object [("state", .object [("attributes", .object [("daq_interval_s", .number 300)])])]

theorem redelivery_rewrites_daqDelta :
    let P := Platform.ideal daqDeltaText daqDeltaTree
    let attributes := some (CJson.object [("daq_interval_s", .number 300)])
    ∃ b₁, msgEffect P daqDeltaText ⟨.factory, []⟩ = .ok () b₁ ∧
      savesBetween .factory b₁ = requestedSaves P attributes 0 ∧
      ∃ b₂, msgEffect P daqDeltaText ⟨b₁, []⟩ = .ok () b₂ ∧ b₂.config = b₁.config ∧
        b₂.flash = b₁.flash ∧ savesBetween b₁ b₂ = requestedSaves P attributes 0 := by
  intro P attributes
  obtain ⟨b₁, hfirst, hsaves, hagain⟩ := redelivery_rewrites P (Platform.ideal_reliable _ _)
    daqDeltaText attributes 0 (by rfl) (by rfl) ⟨.factory, []⟩ (Board.tableOk_withDefaults _)
  obtain ⟨b₂, hsecond, hconfig, hflash, hsaves', -⟩ := hagain ⟨b₁, []⟩ rfl
  exact ⟨b₁, hfirst, hsaves, b₂, hsecond, hconfig, hflash, hsaves'⟩

/-- Its second delivery writes the two bytes of 300 over the two bytes of 300. -/
theorem daqDelta_written_twice :
    let P := Platform.ideal daqDeltaText daqDeltaTree
    ∃ b₁ b₂, msgEffect P daqDeltaText ⟨.factory, []⟩ = .ok () b₁ ∧
      msgEffect P daqDeltaText ⟨b₁, []⟩ = .ok () b₂ ∧
      b₁.flash "daq_interval" = some [44, 1] ∧
      savesBetween b₁ b₂ = [.saveToFile "daq_interval" [44, 1]] := by
  intro P
  exact ⟨_, _, rfl, rfl, by decide +kernel, by decide +kernel⟩

end Levaware
