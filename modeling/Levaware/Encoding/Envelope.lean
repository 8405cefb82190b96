import Levaware.Encoding.AwsDecoding

set_option autoImplicit false

/-! # The envelope of a shadow message

`aws_decode_shadow_msg` finds an attributes object in one of two places of the document and hands
it on. Everything else in the document is ignored: the effect of a message on the board is a
function of a few lookups (`awsDecodeShadowMsg_envelope`). -/

namespace Levaware

open Abort CJson

/-! ## The effect of a message -/

/-- The part of a result that concerns the store: the board, and whether the firmware aborted. -/
def boardResult : EStateM.Result String Device Unit → EStateM.Result String Board Unit
  | .ok a d => .ok a d.board
  | .error e d => .error e d.board

variable (P : Platform)

/-- What `aws_decode_shadow_msg` does to RAM and flash. -/
def msgEffect (msg : List UInt8) (d : Device) : EStateM.Result String Board Unit :=
  boardResult ((awsDecodeShadowMsg P msg).run d)

variable {P} {msg : List UInt8} {d : Device}

theorem parse_run (msg : List UInt8) (d : Device) :
    ∃ outstanding, (cJsonParseWithLength P msg).run d
      = .ok (P.parseWithLength msg) { d with outstanding } := by
  unfold cJsonParseWithLength
  cases P.parseWithLength msg with
  | none => exact ⟨d.outstanding, rfl⟩
  | some root => exact ⟨.tree :: d.outstanding, rfl⟩

theorem delete_run (root : Option CJson) (d : Device) :
    ∃ outstanding, (cJsonDelete root).run d = .ok () { d with outstanding } := by
  cases root with
  | none => exact ⟨d.outstanding, rfl⟩
  | some j => exact ⟨d.outstanding.erase .tree, rfl⟩

/-- A discarded message has no effect. -/
theorem msgEffect_discarded (h : shadowAttributes (P.parseWithLength msg) = none) :
    msgEffect P msg d = .ok () d.board := by
  obtain ⟨held, hparse⟩ := parse_run (P := P) msg d
  obtain ⟨left, hdelete⟩ := delete_run (P.parseWithLength msg) { d with outstanding := held }
  unfold msgEffect awsDecodeShadowMsg
  rw [run_bind_ok hparse]
  split
  · rw [h]
    dsimp only
    rw [hdelete]
    rfl
  · rw [hdelete]
    rfl

/-- An accepted message has the effect of the decoder on what it carries. -/
theorem msgEffect_accepted {attributes : Option CJson} {version : Int32}
    (h : shadowAttributes (P.parseWithLength msg) = some (attributes, version)) :
    msgEffect P msg d = (awsDecodeShadowValues P attributes version true).run d.board := by
  have hroot : (P.parseWithLength msg).isSome := by
    cases hr : P.parseWithLength msg with
    | some root => rfl
    | none => simp [hr, shadowAttributes, CJson.getObjectItem, CJson.isObject] at h
  obtain ⟨held, hparse⟩ := parse_run (P := P) msg d
  unfold msgEffect awsDecodeShadowMsg
  rw [run_bind_ok hparse, if_pos hroot, h]
  dsimp only
  set d₁ : Device := { d with outstanding := .text :: held }
  have hprint : cJsonPrintUnformatted.run { d with outstanding := held } = .ok () d₁ := rfl
  cases hvals : (awsDecodeShadowValues P attributes version true).run d.board with
  | ok u b =>
      have hon : (onBoard (awsDecodeShadowValues P attributes version true)).run d₁
          = .ok () { d₁ with board := b } := by
        rw [onBoard, run_zoom, hvals]
      obtain ⟨left, hdelete⟩ := delete_run (P.parseWithLength msg) { d₁ with board := b }
      rw [run_bind_ok hprint, run_bind_ok hon, hdelete]
      rfl
  | error e b =>
      have hon : (onBoard (awsDecodeShadowValues P attributes version true)).run d₁
          = .error e { d₁ with board := b } := by
        rw [onBoard, run_zoom, hvals]
      rw [run_bind_ok hprint, run_bind_error hon]
      rfl

/-! ## Where the attributes are found -/

section Lookups

variable {root : Option CJson}

/-- The version a message carries, `0` when it has no numeric one. -/
def envelopeVersion (root : Option CJson) : Int32 :=
  (CJson.number? (CJson.getObjectItem root "version")).getD 0

/-- `state.attributes`. -/
def directAttributes (root : Option CJson) : Option CJson :=
  CJson.getObjectItem (CJson.getObjectItem root "state") "attributes"

/-- `state.delta.attributes`. -/
def deltaAttributes (root : Option CJson) : Option CJson :=
  CJson.getObjectItem (CJson.getObjectItem (CJson.getObjectItem root "state") "delta") "attributes"

/-- The documents the decoder discards. -/
def Discarded (root : Option CJson) : Prop :=
  root = none ∨ ¬ CJson.isObject (CJson.getObjectItem root "state") ∨
    (¬ CJson.isObject (directAttributes root) ∧ ¬ CJson.isObject (deltaAttributes root))

/-- The attributes object of any other document. -/
def envelopeAttributes (root : Option CJson) : Option CJson :=
  if CJson.isObject (directAttributes root) then directAttributes root else deltaAttributes root

/-- The lookups of the source, without the checks that the lookups below imply. -/
theorem shadowAttributes_eq (root : Option CJson) :
    shadowAttributes root
      = if CJson.isObject (directAttributes root) then
          some (directAttributes root, envelopeVersion root)
        else if CJson.isObject (deltaAttributes root) then
          some (deltaAttributes root, envelopeVersion root)
        else none := by
  unfold shadowAttributes directAttributes deltaAttributes envelopeVersion
  dsimp only
  set state := CJson.getObjectItem root "state"
  set delta := CJson.getObjectItem state "delta"
  by_cases hdirect : CJson.isObject (CJson.getObjectItem state "attributes")
  · have hstate : CJson.isObject state := isObject_of_isObject_item hdirect
    rw [if_neg (not_not.2 hstate), if_pos hdirect, if_pos hdirect]
  · rw [if_neg hdirect, if_neg hdirect]
    by_cases hattr : CJson.isObject (CJson.getObjectItem delta "attributes")
    · have hdelta : CJson.isObject delta := isObject_of_isObject_item hattr
      have hstate : CJson.isObject state := isObject_of_isObject_item hdelta
      rw [if_neg (not_not.2 hstate), if_neg (not_not.2 hdelta), if_pos hattr]
      exact if_neg (not_not.2 hattr)
    · rw [if_neg hattr, if_pos hattr]
      split_ifs <;> rfl

theorem discarded_iff (root : Option CJson) :
    Discarded root ↔
      ¬ CJson.isObject (directAttributes root) ∧ ¬ CJson.isObject (deltaAttributes root) := by
  refine ⟨?_, fun h => Or.inr (Or.inr h)⟩
  intro h
  have hstate : CJson.isObject (directAttributes root) ∨ CJson.isObject (deltaAttributes root) →
      CJson.isObject (CJson.getObjectItem root "state") := by
    rintro (hdirect | hdelta)
    · exact isObject_of_isObject_item hdirect
    · exact isObject_of_isObject_item (isObject_of_isObject_item hdelta)
  rcases h with rfl | hno | h
  · exact ⟨fun hd => by simpa using isObject_of_isObject_item (isObject_of_isObject_item hd),
      fun hd => by simpa using
        isObject_of_isObject_item (isObject_of_isObject_item (isObject_of_isObject_item hd))⟩
  · exact ⟨fun hd => hno (hstate (Or.inl hd)), fun hd => hno (hstate (Or.inr hd))⟩
  · exact h

theorem shadowAttributes_discarded (h : Discarded root) : shadowAttributes root = none := by
  obtain ⟨hdirect, hdelta⟩ := (discarded_iff root).1 h
  rw [shadowAttributes_eq, if_neg hdirect, if_neg hdelta]

theorem shadowAttributes_accepted (h : ¬ Discarded root) :
    shadowAttributes root = some (envelopeAttributes root, envelopeVersion root) := by
  rw [discarded_iff] at h
  rw [shadowAttributes_eq, envelopeAttributes]
  by_cases hdirect : CJson.isObject (directAttributes root)
  · rw [if_pos hdirect, if_pos hdirect]
  · have hdelta : CJson.isObject (deltaAttributes root) := by
      by_contra hno
      exact h ⟨hdirect, hno⟩
    rw [if_neg hdirect, if_neg hdirect, if_pos hdelta]

end Lookups

/-! ## What the decoder reads of the attributes -/

/-- The member names `aws_decode_shadow_values` looks up. -/
def attributeKeys : List String :=
  ["config_interval_s", "daq_interval_s", "pub_interval_s", "sensor_type", "topic", "app_type"]

theorem awsDecodeShadowValues_congr {attributes attributes' : Option CJson}
    (h : ∀ key ∈ attributeKeys,
      CJson.getObjectItem attributes key = CJson.getObjectItem attributes' key)
    (version : Int32) (isDelta : Bool) :
    awsDecodeShadowValues P attributes version isDelta
      = awsDecodeShadowValues P attributes' version isDelta := by
  unfold awsDecodeShadowValues decodeConfInterval decodeDaqInterval decodePubInterval decodeInterval
    decodeSensorType decodeTopic decodeAppType
  rw [h "config_interval_s" (by decide), h "daq_interval_s" (by decide),
    h "pub_interval_s" (by decide), h "sensor_type" (by decide), h "topic" (by decide),
    h "app_type" (by decide)]

/-- Two documents that agree on the version, on where an attributes object stands, and on the
    members of it that the decoder looks up. -/
structure SameRequest (root root' : Option CJson) : Prop where
  version : envelopeVersion root = envelopeVersion root'
  direct : CJson.isObject (directAttributes root) = CJson.isObject (directAttributes root')
  delta : CJson.isObject (deltaAttributes root) = CJson.isObject (deltaAttributes root')
  directKeys : ∀ key ∈ attributeKeys, CJson.getObjectItem (directAttributes root) key
    = CJson.getObjectItem (directAttributes root') key
  deltaKeys : ∀ key ∈ attributeKeys, CJson.getObjectItem (deltaAttributes root) key
    = CJson.getObjectItem (deltaAttributes root') key

theorem SameRequest.discarded_iff {root root' : Option CJson} (h : SameRequest root root') :
    Discarded root ↔ Discarded root' := by
  rw [Levaware.discarded_iff, Levaware.discarded_iff, h.direct, h.delta]

theorem SameRequest.attributes {root root' : Option CJson} (h : SameRequest root root') :
    ∀ key ∈ attributeKeys, CJson.getObjectItem (envelopeAttributes root) key
      = CJson.getObjectItem (envelopeAttributes root') key := by
  intro key hkey
  unfold envelopeAttributes
  rw [h.direct]
  split
  · exact h.directKeys key hkey
  · exact h.deltaKeys key hkey

/-! ## The envelope -/

/-- The update/delta form of a message: the attributes `A` stand in `state`. -/
def UpdateForm (root : Option CJson) (A : CJson) (version : Int32) : Prop :=
  directAttributes root = some A ∧ CJson.isObject (some A) ∧ envelopeVersion root = version

/-- The get-response form: they stand in `state.delta`, and `state` has none of its own. -/
def GetForm (root : Option CJson) (A : CJson) (version : Int32) : Prop :=
  ¬ CJson.isObject (directAttributes root) ∧ deltaAttributes root = some A ∧
    CJson.isObject (some A) ∧ envelopeVersion root = version

/-- Whatever the message and the store: a discarded message leaves the board as it was, and any
    other has the effect of `aws_decode_shadow_values` on the attributes and the version it
    carries. So the two forms of a message have one effect, and members that the decoder does not
    look up have none. -/
theorem awsDecodeShadowMsg_envelope (P : Platform) :
    (∀ msg d, Discarded (P.parseWithLength msg) → msgEffect P msg d = .ok () d.board) ∧
    (∀ msg d, ¬ Discarded (P.parseWithLength msg) →
      msgEffect P msg d = (awsDecodeShadowValues P (envelopeAttributes (P.parseWithLength msg))
        (envelopeVersion (P.parseWithLength msg)) true).run d.board) ∧
    (∀ msg msg' A version d d', UpdateForm (P.parseWithLength msg) A version →
      GetForm (P.parseWithLength msg') A version → d.board = d'.board →
      msgEffect P msg d = msgEffect P msg' d') ∧
    (∀ msg msg' d d', SameRequest (P.parseWithLength msg) (P.parseWithLength msg') →
      d.board = d'.board → msgEffect P msg d = msgEffect P msg' d') := by
  have hdiscarded : ∀ msg d, Discarded (P.parseWithLength msg) →
      msgEffect P msg d = .ok () d.board :=
    fun msg d h => msgEffect_discarded (shadowAttributes_discarded h)
  have haccepted : ∀ msg d, ¬ Discarded (P.parseWithLength msg) →
      msgEffect P msg d = (awsDecodeShadowValues P (envelopeAttributes (P.parseWithLength msg))
        (envelopeVersion (P.parseWithLength msg)) true).run d.board :=
    fun msg d h => msgEffect_accepted (shadowAttributes_accepted h)
  refine ⟨hdiscarded, haccepted, ?_, ?_⟩
  · rintro msg msg' A version d d' ⟨hA, hobj, hv⟩ ⟨hno, hA', -, hv'⟩ hboard
    have h : ¬ Discarded (P.parseWithLength msg) := by
      rw [discarded_iff]
      exact fun hd => hd.1 (hA ▸ hobj)
    have h' : ¬ Discarded (P.parseWithLength msg') := by
      rw [discarded_iff]
      exact fun hd => hd.2 (hA' ▸ hobj)
    rw [haccepted msg d h, haccepted msg' d' h', hv, hv', hboard, envelopeAttributes,
      envelopeAttributes, if_neg hno, if_pos (hA ▸ hobj), hA, hA']
  · intro msg msg' d d' hsame hboard
    by_cases h : Discarded (P.parseWithLength msg)
    · rw [hdiscarded msg d h, hdiscarded msg' d' (hsame.discarded_iff.1 h), hboard]
    · rw [haccepted msg d h, haccepted msg' d' (fun hd => h (hsame.discarded_iff.2 hd)),
        hsame.version, awsDecodeShadowValues_congr hsame.attributes, hboard]

/-- An interval with a version: as an update, as the answer to a get request, and as an update with
    a desired value beside it. -/
def hourText : List UInt8 :=
  ascii "\x7b\"version\":7,\"state\":\x7b\"attributes\":\x7b\"daq_interval_s\":3600\x7d\x7d\x7d"

def hourGetText : List UInt8 :=
  ascii ("\x7b\"state\":\x7b\"delta\":\x7b\"attributes\":\x7b\"daq_interval_s\":3600" ++
    "\x7d\x7d\x7d,\"version\":7\x7d")

def hourDesiredText : List UInt8 :=
  ascii ("\x7b\"version\":7,\"state\":\x7b\"desired\":\x7b\"daq_interval_s\":1\x7d," ++
    "\"attributes\":\x7b\"daq_interval_s\":3600\x7d\x7d\x7d")

def hourAttributes : CJson := .object [("daq_interval_s", .number 3600)]

def hourTree : CJson :=
  .object [("version", .number 7), ("state", .object [("attributes", hourAttributes)])]

def hourGetTree : CJson :=
  .object [("state", .object [("delta", .object [("attributes", hourAttributes)])]),
    ("version", .number 7)]

def hourDesiredTree : CJson :=
  .object [("version", .number 7), ("state", .object
    [("desired", .object [("daq_interval_s", .number 1)]), ("attributes", hourAttributes)])]

/-- What does not parse has no effect, and the three messages have that of the interval. -/
theorem awsDecodeShadowMsg_envelope_hour :
    let P : Platform := { Platform.ideal [] .null with
      parseWithLength := fun msg =>
        if msg = hourText then some hourTree
        else if msg = hourGetText then some hourGetTree
        else if msg = hourDesiredText then some hourDesiredTree
        else none }
    let d : Device := ⟨⟨.cleared, fun _ => none, .off, []⟩, []⟩
    let d' : Device := { d with outstanding := [.text] }
    msgEffect P (ascii "\x7b") d = .ok () d.board ∧
    msgEffect P hourText d = (awsDecodeShadowValues P (some hourAttributes) 7 true).run d.board ∧
    msgEffect P hourText d = msgEffect P hourGetText d' ∧
    msgEffect P hourText d = msgEffect P hourDesiredText d' := by
  intro P d d'
  have hother : ascii "\x7b" ≠ hourText ∧ ascii "\x7b" ≠ hourGetText ∧
      ascii "\x7b" ≠ hourDesiredText := by decide
  have hdiffer : hourGetText ≠ hourText ∧ hourDesiredText ≠ hourText ∧
      hourDesiredText ≠ hourGetText := by decide
  have hnone : P.parseWithLength (ascii "\x7b") = none := by simp [P, hother]
  have hupdate : P.parseWithLength hourText = some hourTree := by simp [P]
  have hget : P.parseWithLength hourGetText = some hourGetTree := by simp [P, hdiffer]
  have hdesired : P.parseWithLength hourDesiredText = some hourDesiredTree := by simp [P, hdiffer]
  have hupdateForm : UpdateForm (P.parseWithLength hourText) hourAttributes 7 := by
    rw [hupdate]
    exact ⟨rfl, rfl, rfl⟩
  have hgetForm : GetForm (P.parseWithLength hourGetText) hourAttributes 7 := by
    rw [hget]
    exact ⟨by decide, rfl, rfl, rfl⟩
  have hsame : SameRequest (P.parseWithLength hourText) (P.parseWithLength hourDesiredText) := by
    rw [hupdate, hdesired]
    exact ⟨rfl, rfl, rfl, fun _ _ => rfl, fun _ _ => rfl⟩
  have hread : ¬ Discarded (P.parseWithLength hourText) := by
    rw [discarded_iff, hupdate]
    exact fun h => h.1 rfl
  obtain ⟨hdiscards, hreads, halike, hignores⟩ := awsDecodeShadowMsg_envelope P
  have hvalues := hreads hourText d hread
  rw [hupdate] at hvalues
  exact ⟨hdiscards _ d (Or.inl hnone), hvalues, halike _ _ _ _ d d' hupdateForm hgetForm rfl,
    hignores _ _ d d' hsame rfl⟩

end Levaware
