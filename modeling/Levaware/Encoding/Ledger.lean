import Levaware.Encoding.Topic

set_option autoImplicit false

/-! # The cJSON objects a message leaves behind

`clean_exit` deletes the parsed tree on every path. The text that `cJSON_PrintUnformatted` prints
for the log is never freed, so every message that is saved and returns leaves one behind
(`shadowMsg_ledger`). -/

namespace Levaware

open Abort History

variable (P : Platform)

/-- The message carries nothing to save: it does not parse, or lacks the objects looked for. -/
def MsgDiscarded (msg : List UInt8) : Prop := shadowAttributes (P.parseWithLength msg) = none

/-- What a message leaves allocated. -/
def unreleased (msg : List UInt8) : List CJsonObj :=
  if (shadowAttributes (P.parseWithLength msg)).isSome then [.text] else []

variable {P} {msg : List UInt8} {d d' : Device} {ledger : List CJsonObj}

/-! ## One message -/

theorem unreleased_of_discarded (h : MsgDiscarded P msg) : unreleased P msg = [] := by
  unfold MsgDiscarded at h
  unfold unreleased
  rw [h]
  rfl

theorem unreleased_of_saved {found : Option CJson × Int32}
    (h : shadowAttributes (P.parseWithLength msg) = some found) : unreleased P msg = [.text] := by
  unfold unreleased
  rw [h]
  rfl

theorem onBoard_ledger {α : Type} (m : Fw α) :
    Triple (fun d => d.outstanding = ledger) (onBoard m) (fun _ d => d.outstanding = ledger)
      (fun _ _ => True) := by
  intro d hd
  unfold onBoard
  rw [run_zoom]
  cases m.run d.board with
  | ok a b => exact hd
  | error e b => exact True.intro

theorem cJsonPrintUnformatted_ledger :
    Triple (fun d => d.outstanding = ledger) cJsonPrintUnformatted
      (fun _ d => d.outstanding = .text :: ledger) (fun _ _ => True) :=
  Triple.modify fun _ hd => congrArg _ hd

theorem cJsonDelete_ledger (root : CJson) :
    Triple (fun d => d.outstanding = ledger) (cJsonDelete (some root))
      (fun _ d => d.outstanding = ledger.erase .tree) (fun _ _ => True) :=
  Triple.modify fun _ hd => congrArg (fun l => List.erase l .tree) hd

/-- The tree is released whichever way the message takes; the text is not. -/
theorem shadowMsg_ledger (msg : List UInt8) :
    Triple (fun d => d.outstanding = ledger) (awsDecodeShadowMsg P msg)
      (fun _ d => d.outstanding = unreleased P msg ++ ledger) (fun _ _ => True) := by
  cases hparse : P.parseWithLength msg with
  | none =>
      have hdiscarded : MsgDiscarded P msg := by
        unfold MsgDiscarded
        rw [hparse]
        rfl
      rw [unreleased_of_discarded hdiscarded]
      unfold awsDecodeShadowMsg cJsonParseWithLength
      rw [hparse]
      exact Triple.pure fun d hd => hd
  | some root =>
      have hacquire : Triple (fun d => d.outstanding = ledger) (cJsonParseWithLength P msg)
          (fun rootObj d => rootObj = some root ∧ d.outstanding = .tree :: ledger)
          (fun _ _ => True) := by
        unfold cJsonParseWithLength
        rw [hparse]
        intro d hd
        exact ⟨rfl, congrArg _ hd⟩
      unfold awsDecodeShadowMsg
      refine hacquire.bind fun rootObj => ?_
      rintro d ⟨rfl, hd⟩
      refine (?_ : Triple (fun d => d.outstanding = .tree :: ledger) _ _ _) d hd
      cases hshadow : shadowAttributes (some root) with
      | none =>
          rw [unreleased_of_discarded ((congrArg shadowAttributes hparse).trans hshadow)]
          exact (cJsonDelete_ledger root).conseq (fun _ h => h)
            (fun _ _ h => h.trans (List.erase_cons_head ..)) (fun _ _ h => h)
      | some found =>
          rw [unreleased_of_saved ((congrArg shadowAttributes hparse).trans hshadow)]
          refine cJsonPrintUnformatted_ledger.bind fun _ => (onBoard_ledger _).bind fun _ => ?_
          exact (cJsonDelete_ledger root).conseq (fun _ h => h)
            (fun _ _ h => h.trans rfl) (fun _ _ h => h)

/-! ## A sequence of messages -/

/-- The call leaves nothing allocated, if it returns. -/
def LeavesNothing (P : Platform) (d : Device) (msg : List UInt8) : Prop :=
  ∀ d', (awsDecodeShadowMsg P msg).run d = .ok () d' → d'.outstanding = []

/-- The message is discarded, if the call returns. -/
def DiscardedOrAborts (P : Platform) (d : Device) (msg : List UInt8) : Prop :=
  ∀ d', (awsDecodeShadowMsg P msg).run d = .ok () d' → MsgDiscarded P msg

theorem unreleased_eq_nil_iff : unreleased P msg = [] ↔ MsgDiscarded P msg := by
  unfold unreleased MsgDiscarded
  cases shadowAttributes (P.parseWithLength msg) <;> simp

theorem leavesNothing_iff (hd : d.outstanding = []) :
    LeavesNothing P d msg ↔ DiscardedOrAborts P d msg := by
  have hone : ∀ d', (awsDecodeShadowMsg P msg).run d = .ok () d' →
      (d'.outstanding = [] ↔ MsgDiscarded P msg) := by
    intro d' hrun
    rw [(shadowMsg_ledger msg).ok hd hrun, List.append_nil, unreleased_eq_nil_iff]
  constructor
  · exact fun h d' hrun => (hone d' hrun).1 (h d' hrun)
  · exact fun h d' hrun => (hone d' hrun).2 (h d' hrun)

theorem bootFrom_ledger {b : Board} (h : bootFrom P b = some d) : d.outstanding = [] := by
  unfold bootFrom at h
  cases hrun : (configDevShadowAttribInit P).run b.powerCycle with
  | ok u b' =>
      rw [hrun] at h
      cases h
      rfl
  | error e b' => simp [hrun] at h

/-- A call that does not return reboots the device, and nothing survives a reboot. -/
theorem configStep_returns_or_boots (hstep : configStep P d (.shadowMsg msg) = some d') :
    (awsDecodeShadowMsg P msg).run d = .ok () d' ∨ d'.outstanding = [] := by
  unfold configStep ConfigOp.run at hstep
  dsimp only at hstep
  cases hrun : (awsDecodeShadowMsg P msg).run d with
  | ok u d'' =>
      rw [hrun] at hstep
      cases hstep
      exact Or.inl rfl
  | error e d'' =>
      rw [hrun] at hstep
      exact Or.inr (bootFrom_ledger hstep)

theorem configStep_ledger (hleaves : LeavesNothing P d msg)
    (hstep : configStep P d (.shadowMsg msg) = some d') : d'.outstanding = [] := by
  rcases configStep_returns_or_boots hstep with hrun | hboot
  · exact hleaves d' hrun
  · exact hboot

/-- The message is discarded, or it carries a topic. -/
def DiscardedOrTopic (P : Platform) (msg : List UInt8) : Prop :=
  MsgDiscarded P msg ∨ ∃ attributes version,
    shadowAttributes (P.parseWithLength msg) = some (attributes, version) ∧
      (requestedTopic attributes).isSome

/-- On a reliable file system the topic is what a message aborts at. -/
theorem discardedOrAborts_iff (hP : P.FsReliable) (hT : d.board.TableOk) :
    DiscardedOrAborts P d msg ↔ DiscardedOrTopic P msg := by
  constructor
  · intro h
    cases hshadow : shadowAttributes (P.parseWithLength msg) with
    | none => exact Or.inl hshadow
    | some found =>
        obtain ⟨attributes, version⟩ := found
        refine Or.inr ⟨attributes, version, hshadow, ?_⟩
        by_contra htopic
        have hnone : requestedTopic attributes = none := by simpa using htopic
        have hvalues := awsDecodeShadowValues_run version hP hT hnone
        obtain ⟨d', hrun, -⟩ := msgEffect_ok ((msgEffect_accepted hshadow).trans hvalues)
        have hdiscarded : shadowAttributes (P.parseWithLength msg) = none := h d' hrun
        rw [hshadow] at hdiscarded
        cases hdiscarded
  · rintro (hdiscarded | ⟨attributes, version, hshadow, htopic⟩) d' hrun
    · exact hdiscarded
    · obtain ⟨s, hs⟩ := Option.isSome_iff_exists.1 htopic
      obtain ⟨e, b, hvalues⟩ := awsDecodeShadowValues_never_returns (P := P) version d.board hs
      obtain ⟨d'', herror, -⟩ := msgEffect_error ((msgEffect_accepted hshadow).trans hvalues)
      rw [hrun] at herror
      cases herror

/-- Whatever becomes of a message, the tree does not outlive it. -/
theorem configStep_noTree (hd : CJsonObj.tree ∉ d.outstanding)
    (hstep : configStep P d (.shadowMsg msg) = some d') : CJsonObj.tree ∉ d'.outstanding := by
  rcases configStep_returns_or_boots hstep with hrun | hboot
  · have htext : CJsonObj.tree ∉ unreleased P msg := by
      unfold unreleased
      split_ifs <;> decide
    rw [(shadowMsg_ledger msg).ok rfl hrun, List.mem_append]
    exact fun hmem => hmem.elim htext hd
  · rw [hboot]
    exact List.not_mem_nil

/-- Every call of the sequence that returns leaves nothing allocated. -/
def LedgerEmptied (P : Platform) (d₀ : Device) (msgs : List (List UInt8)) : Prop :=
  EveryStep (fun d msg => configStep P d (.shadowMsg msg)) d₀ (LeavesNothing P) msgs

/-- All along a sequence of messages, nothing is left allocated by a call that returns exactly if
    every such call discards its message. On a reliable file system the messages alone decide: each
    that is received is discarded, or stops at its topic. No tree is ever left. -/
theorem ledger_emptied_iff (P : Platform) (d₀ : Device) (hd₀ : d₀.outstanding = [])
    (msgs : List (List UInt8)) :
    (LedgerEmptied P d₀ msgs ↔
      EveryStep (fun d msg => configStep P d (.shadowMsg msg)) d₀ (DiscardedOrAborts P) msgs) ∧
    (P.FsReliable → d₀.board.Bootable → (LedgerEmptied P d₀ msgs ↔
      EveryStep (fun d msg => configStep P d (.shadowMsg msg)) d₀
        (fun _ msg => DiscardedOrTopic P msg) msgs)) ∧
    ∀ d, msgRun P d₀ msgs = some d → CJsonObj.tree ∉ d.outstanding := by
  refine ⟨?_, ?_, ?_⟩
  · exact everyStep_congr (I := fun d => d.outstanding = []) hd₀
      (fun _ _ _ _ hleaves hstep => configStep_ledger hleaves hstep)
      (fun _ _ hd => leavesNothing_iff hd)
  · intro hP hb
    refine everyStep_congr (I := fun d => d.outstanding = [] ∧ d.board.Bootable) ⟨hd₀, hb⟩ ?_ ?_
    · rintro d msg d' ⟨-, hboot⟩ hleaves hstep
      exact ⟨configStep_ledger hleaves hstep, (configStep_msg_int16 hP hboot hstep).1⟩
    · rintro d msg ⟨hd, hboot⟩
      rw [leavesNothing_iff hd, discardedOrAborts_iff hP hboot.table]
  · intro d hrun
    refine foldlM_track (R := fun _ d => CJsonObj.tree ∉ d.outstanding) ?_
      (fun _ _ _ _ hd hstep => configStep_noTree hd hstep) hrun
    rw [hd₀]
    exact List.not_mem_nil

/-- A message that is not JSON, then one with a topic. -/
theorem ledger_emptied_iff_topic :
    LedgerEmptied (.ideal topicText topicTree) ⟨.factory, []⟩ [[], topicText] := by
  have hiff := (ledger_emptied_iff (.ideal topicText topicTree) ⟨.factory, []⟩ rfl
    [[], topicText]).2.1 (Platform.ideal_reliable _ _) factory_defaultStore.bootable
  refine hiff.2 ?_
  intro done msg rest d hmsgs _
  have hmem : msg ∈ [[], topicText] := by simp [hmsgs]
  rcases List.mem_cons.1 hmem with rfl | hmem
  · exact Or.inl rfl
  · rw [List.mem_singleton] at hmem
    subst hmem
    exact Or.inr ⟨some (.object [("topic", .string newTopic)]), 0, rfl, rfl⟩

/-- A delta with the interval of a minute between two configuration updates. -/
def minuteText : List UInt8 :=
  ascii "\x7b\"state\":\x7b\"attributes\":\x7b\"config_interval_s\":60\x7d\x7d\x7d"

def minuteTree : CJson :=
  .object [("state", .object [("attributes", .object [("config_interval_s", .number 60)])])]

/-- Twice this delta leaves two texts. -/
theorem ledger_texts_left :
    let P := Platform.ideal minuteText minuteTree
    (∃ d, msgRun P ⟨.factory, []⟩ [minuteText, minuteText] = some d ∧
      d.outstanding = [.text, .text]) ∧
    ¬ LedgerEmptied P ⟨.factory, []⟩ [minuteText] := by
  intro P
  refine ⟨⟨_, rfl, rfl⟩, fun hemptied => ?_⟩
  have hreturns : ∃ d', (awsDecodeShadowMsg P minuteText).run ⟨.factory, []⟩ = .ok () d' :=
    ⟨_, rfl⟩
  rcases hreturns with ⟨d', hrun⟩
  have hempty := hemptied [] minuteText [] ⟨.factory, []⟩ rfl rfl d' hrun
  have hsaved : ¬ MsgDiscarded P minuteText := fun h => by cases h
  exact hsaved (unreleased_eq_nil_iff.1 (List.append_eq_nil_iff.1
    (((shadowMsg_ledger minuteText).ok rfl hrun).symm.trans hempty)).1)

end Levaware
