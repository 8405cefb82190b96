import Levaware.Encoding.Device

set_option autoImplicit false

/-! # A message with a topic

`config_set_str` copies the string and then falls into the abort meant for a bad index. So a message
whose attributes carry a topic never runs to its end (`topic_never_applied`): the device reboots
with the topic unsaved and the rest of the message, the application type, unread. -/

namespace Levaware

open Abort

variable {P : Platform} {d : Device} {msg : List UInt8} {attributes : Option CJson}
  {version : Int32} {s : CString}

/-! ## The decoder stops at the topic -/

/-- `aws_decode_shadow_values` returns on no board, whatever the file system does. -/
theorem awsDecodeShadowValues_never_returns (version : Int32) (b : Board)
    (htopic : requestedTopic attributes = some s) :
    ∃ e b', (awsDecodeShadowValues P attributes version true).run b = .error e b' := by
  have hany : ∀ {α : Type} (m : Fw α),
      Triple (fun _ => True) m (fun _ _ => True) (fun _ _ => True) := fun m => Triple.trivial m
  have hstop : Triple (fun _ => True) (decodeTopic P attributes true) (fun _ _ => False)
      (fun _ _ => True) := by
    intro b _
    obtain ⟨b', hrun, -⟩ := decodeTopic_some (P := P) htopic b
    rw [hrun]
    trivial
  have htriple : Triple (fun _ => True) (awsDecodeShadowValues P attributes version true)
      (fun _ _ => False) (fun _ _ => True) := by
    unfold awsDecodeShadowValues
    refine (hany _).bind fun _ => (hany _).bind fun _ => (hany _).bind fun _ =>
      (hany _).bind fun _ => (hany _).bind fun _ => ?_
    refine hstop.bind fun _ => ?_
    exact fun _ h => h.elim
  cases hrun : (awsDecodeShadowValues P attributes version true).run b with
  | ok u b' => exact (htriple.ok trivial hrun).elim
  | error e b' => exact ⟨e, b', rfl⟩

/-- On a reliable file system it is `config_set_str` that stops it, before anything of the topic
    or of the application type has reached the flash. -/
theorem topic_not_saved (hP : P.FsReliable) (hT : d.board.TableOk)
    (hmsg : shadowAttributes (P.parseWithLength msg) = some (attributes, version))
    (htopic : requestedTopic attributes = some s) :
    ∃ b, msgEffect P msg d = .error "config.c - set_str range index" b ∧
      b.flash DevConfigShadowId.pubTopic.fileName
        = d.board.flash DevConfigShadowId.pubTopic.fileName ∧
      b.flash DevConfigShadowId.appType.fileName
        = d.board.flash DevConfigShadowId.appType.fileName := by
  obtain ⟨b, hrun, hflash⟩ := awsDecodeShadowValues_topic version hP hT htopic
  refine ⟨b, by rw [msgEffect_accepted hmsg, hrun], ?_, ?_⟩
  · rw [hflash]
    exact (serveAll_of_notMem (by decide)).2
  · rw [hflash]
    exact (serveAll_of_notMem (by decide)).2

/-! ## What a topic should do -/

/-- The message runs to its end; then the topic is in RAM and in its file, whence a reboot loads it,
    and a valid application type of the same message is in RAM and in its file. -/
def TopicApplied (P : Platform) (msg : List UInt8) (d : Device) (attributes : Option CJson)
    (s : CString) : Prop :=
  ∃ b, msgEffect P msg d = .ok () b ∧ configGetStr .pubTopic b = s.bytes ∧
    b.flash DevConfigShadowId.pubTopic.fileName = some s.bytes ∧
    (∀ d', bootFrom P b = some d' → configGetStr .pubTopic d'.board = s.bytes) ∧
    ∀ v, requested P attributes 0 .appType = some v →
      (b.attr .appType).int16Val = v.toInt16 ∧
      b.flash DevConfigShadowId.appType.fileName = some (int16Bytes v.toInt16)

/-- It never does, on any store, flash and platform: the message aborts. -/
theorem topic_never_applied (P : Platform) (d : Device) (msg : List UInt8)
    (attributes : Option CJson) (version : Int32) (s : CString)
    (hmsg : shadowAttributes (P.parseWithLength msg) = some (attributes, version))
    (htopic : CJson.string? (CJson.getObjectItem attributes "topic") = some s)
    (hne : 0 < s.bytes.length) :
    (∃ e b, msgEffect P msg d = .error e b) ∧ ¬ TopicApplied P msg d attributes s := by
  have hrequested : requestedTopic attributes = some s := by
    rw [requestedTopic, htopic, Option.filter_some, if_pos (by simpa using hne)]
  obtain ⟨e, b, hrun⟩ := awsDecodeShadowValues_never_returns (P := P) version d.board hrequested
  have haborts : msgEffect P msg d = .error e b := by rw [msgEffect_accepted hmsg, hrun]
  refine ⟨⟨e, b, haborts⟩, ?_⟩
  rintro ⟨b', hok, -⟩
  rw [haborts] at hok
  cases hok

/-- A delta that moves the device to another topic. -/
def topicText : List UInt8 :=
  ascii "\x7b\"state\":\x7b\"attributes\":\x7b\"topic\":\"dt/x\"\x7d\x7d\x7d"

def newTopic : CString := ⟨ascii "dt/x", by decide⟩

def topicTree : CJson :=
  .object [("state", .object [("attributes", .object [("topic", .string newTopic)])])]

theorem topic_never_applied_newTopic :
    let P := Platform.ideal topicText topicTree
    let attributes := some (CJson.object [("topic", .string newTopic)])
    ∀ d : Device, (∃ e b, msgEffect P topicText d = .error e b) ∧
      ¬ TopicApplied P topicText d attributes newTopic := by
  intro P attributes d
  exact topic_never_applied P d topicText attributes 0 newTopic (by rfl) (by rfl) (by decide)

/-- From a cleared store, the delta aborts in `config_set_str`. -/
theorem newTopic_aborts :
    let P := Platform.ideal topicText topicTree
    let d : Device := ⟨⟨.cleared, fun _ => none, .off, []⟩, []⟩
    (∃ b, msgEffect P topicText d = .error "config.c - set_str range index" b) ∧
      ¬ TopicApplied P topicText d (some (CJson.object [("topic", .string newTopic)]))
        newTopic := by
  intro P d
  have haborts : ∃ b, msgEffect P topicText d = .error "config.c - set_str range index" b :=
    ⟨_, rfl⟩
  refine ⟨haborts, ?_⟩
  obtain ⟨b, hb⟩ := haborts
  rintro ⟨b', hok, -⟩
  rw [hb] at hok
  cases hok

end Levaware
