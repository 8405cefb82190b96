import Levaware.Config.BootRecovery
import Levaware.Encoding.EnumTypes

set_option autoImplicit false

/-! # The notice about a new application type

After `aws_decode_shadow_values` has saved an application type it compares the number with the file
to see whether the type has changed, and takes "same" for "changed". The file holds the number by
then, so the branch is taken for every real application type, new or not (`app_type_notice_iff`). -/

namespace Levaware

open Abort

variable {P : Platform} {b b' : Board} {attributes : Option CJson} {version v : Int32}

/-- On the way from `b` to `b'` the decoder took the branch "App_type changed, needs a reboot". -/
def RebootNoticed (b b' : Board) : Prop :=
  ∃ v, Effect.appTypeChanged v ∈ b'.trace.drop b.trace.length

/-- The application type in its file. -/
def persistedAppType (fl : Flash) : Option Int16 :=
  (fl DevConfigShadowId.appType.fileName).bind fun content =>
    if 2 ≤ content.length then some (readInt16 content) else none

/-- Of the numbers that pass the check, a `char` holds the real types and no others. -/
theorem inCharRange_iff_isReal (h : AppId.unknown.toNat < P.toEnum v ∧
    P.toEnum v < AppId.num.toNat) :
    P.InCharRange v.toInt16 ↔ EnumAttr.app.IsReal v.toInt16.toInt := by
  have hlow : -2 ^ 31 ≤ v.toInt := v.le_toInt
  have hhigh : v.toInt < 2 ^ 31 := v.toInt_lt
  obtain ⟨hpos, hlt⟩ : 0 < P.toEnum v ∧ P.toEnum v < 5 := h
  -- whatever the width of the enumeration, the low byte of the number is a type
  have hmod : 0 < v.toInt % 256 ∧ v.toInt % 256 < 5 := by
    unfold Platform.toEnum at hpos hlt
    split_ifs at hpos hlt <;> omega
  have hreal : EnumAttr.app.IsReal v.toInt16.toInt ↔
      0 < v.toInt16.toInt ∧ v.toInt16.toInt < 5 := Iff.rfl
  rw [hreal]
  unfold Platform.InCharRange
  rw [Int32.toInt_toInt16, Int.bmod_def]
  split_ifs <;> omega

theorem requested_appType (h : requested P attributes version .appType = some v) :
    AppId.unknown.toNat < P.toEnum v ∧ P.toEnum v < AppId.num.toNat := by
  simpa using (Option.filter_eq_some_iff.1 h).2

/-- The trace a message leaves, from the start of its processing. -/
theorem drop_trace_served (b : Board) (ids : List DevConfigShadowId)
    (req : DevConfigShadowId → Option Int32) (v : Int32) :
    ((b.serveAll ids req).notice P (some v)).trace.drop b.trace.length
      = saveCalls ids req ++ if P.InCharRange v.toInt16 then [.appTypeChanged v] else [] := by
  simp only [Board.notice]
  split
  · rw [Board.trace_log, trace_serveAll, List.append_assoc, List.drop_left]
  · rw [trace_serveAll, List.drop_left, List.append_nil]

/-- For every store and flash and every message without a topic that asks for an application type:
    the branch is taken exactly when the 16-bit number stored names an application. So it tells
    whether the type differs from the one in the file before, exactly when that comes to the same:
    for a real type, when it does differ. -/
theorem app_type_notice_iff (P : Platform) (hP : P.FsReliable) (b : Board) (hT : b.TableOk)
    (attributes : Option CJson) (version v : Int32) (htopic : requestedTopic attributes = none)
    (hv : requested P attributes version .appType = some v) :
    ∃ b', (awsDecodeShadowValues P attributes version true).run b = .ok () b' ∧
      (RebootNoticed b b' ↔ EnumAttr.app.IsReal v.toInt16.toInt) ∧
      ∀ old, persistedAppType b.flash = some old →
        ((RebootNoticed b b' ↔ v.toInt ≠ old.toInt) ↔
          (EnumAttr.app.IsReal v.toInt16.toInt ↔ v.toInt ≠ old.toInt)) := by
  have hrun := awsDecodeShadowValues_run version hP hT htopic
  rw [hv] at hrun
  have hnoticed : RebootNoticed b
      ((b.serveAll (beforeTopic ++ [.appType]) (requested P attributes version)).notice P (some v))
      ↔ EnumAttr.app.IsReal v.toInt16.toInt := by
    rw [← inCharRange_iff_isReal (requested_appType hv)]
    unfold RebootNoticed
    rw [drop_trace_served]
    -- the saves leave no such entry, so the branch does
    have hsaves : ∀ v', Effect.appTypeChanged v' ∉
        saveCalls (beforeTopic ++ [.appType]) (requested P attributes version) := by
      intro v' hmem
      obtain ⟨id, -, hcall⟩ := List.mem_filterMap.1 hmem
      obtain ⟨w, -, heq⟩ := Option.map_eq_some_iff.1 hcall
      cases heq
    constructor
    · rintro ⟨v', hmem⟩
      by_contra hchar
      rw [if_neg hchar, List.append_nil] at hmem
      exact hsaves v' hmem
    · intro hchar
      rw [if_pos hchar]
      exact ⟨v, List.mem_append_right _ (List.mem_singleton_self _)⟩
  refine ⟨_, hrun, hnoticed, ?_⟩
  intro old _
  rw [hnoticed]

/-- A message that asks for the application type `v`. -/
def appTypeRequest (v : Int32) : CJson := .object [("app_type", .number v)]

theorem app_type_notice_iff_motion :
    let P := Platform.ideal [] .null
    ∃ b', (awsDecodeShadowValues P (some (appTypeRequest 2)) 0 true).run .provisioned = .ok () b' ∧
      (RebootNoticed .provisioned b' ↔ EnumAttr.app.IsReal (2 : Int32).toInt16.toInt) ∧
      ((RebootNoticed .provisioned b' ↔ (2 : Int32).toInt ≠ (1 : Int16).toInt) ↔
        (EnumAttr.app.IsReal (2 : Int32).toInt16.toInt ↔
          (2 : Int32).toInt ≠ (1 : Int16).toInt)) := by
  intro P
  obtain ⟨b', hrun, hnoticed, hiff⟩ := app_type_notice_iff P (Platform.ideal_reliable _ _)
    .provisioned ⟨fun _ => rfl, fun _ => rfl⟩ (some (appTypeRequest 2)) 0 2 (by rfl) (by rfl)
  exact ⟨b', hrun, hnoticed, hiff 1 (by decide +kernel)⟩

/-- The type in the file is `DISTANCE`, the message asks for it again, and the branch is
    taken. -/
theorem same_app_type_noticed :
    let P := Platform.ideal [] .null
    persistedAppType Board.provisioned.flash = some 1 ∧
    ∃ b', (awsDecodeShadowValues P (some (appTypeRequest 1)) 0 true).run .provisioned = .ok () b' ∧
      RebootNoticed .provisioned b' ∧
      ¬ (RebootNoticed .provisioned b' ↔ (1 : Int32).toInt ≠ (1 : Int16).toInt) := by
  intro P
  have hnoticed : Effect.appTypeChanged 1 ∈
      [Effect.saveToFile "app_type" [1, 0], .appTypeChanged 1] := by decide
  refine ⟨by decide +kernel, _, rfl, ⟨1, hnoticed⟩, ?_⟩
  intro h
  exact h.1 ⟨1, hnoticed⟩ (by decide)

end Levaware
