import Levaware.Encoding.Registers
import Levaware.Encoding.SameStore

set_option autoImplicit false

/-! # What a message does to the numbers

On files that can be relied on, a message takes every number to the one it gives the attribute, as
the attribute's type narrows it (`configStep_number`), also when it ends in a reboot. -/

namespace Levaware

open Abort WriteBack

variable {P : Platform} {b b' : Board} {d d' : Device} {msg : List UInt8} {id : DevConfigShadowId}

/-! ## What a message gives -/

theorem served_of_discarded (h : shadowAttributes (P.parseWithLength msg) = none)
    (id : DevConfigShadowId) : served P msg id = none := by
  rw [served, h, Option.bind_none]

/-- No message asks for a string by number. -/
theorem served_of_string (hty : id.valType = .string) : served P msg id = none := by
  have hreq : ∀ attributes version, requested P attributes version id = none := by
    intro attributes version
    cases id <;> first | rfl | cases hty
  unfold served
  cases shadowAttributes (P.parseWithLength msg) with
  | none => rfl
  | some found =>
      rw [Option.bind_some, hreq]
      exact ite_self _

section Accepted

variable {attributes : Option CJson} {version : Int32}

theorem served_beforeTopic
    (h : shadowAttributes (P.parseWithLength msg) = some (attributes, version))
    (hid : id ∈ beforeTopic) : served P msg id = requested P attributes version id := by
  rw [served, h, Option.bind_some]
  exact if_neg fun hand => hand.2 hid

theorem served_noTopic
    (h : shadowAttributes (P.parseWithLength msg) = some (attributes, version))
    (htopic : requestedTopic attributes = none) (id : DevConfigShadowId) :
    served P msg id = requested P attributes version id := by
  rw [served, h, Option.bind_some]
  exact if_neg fun hand => by simp [htopic] at hand

theorem served_behindTopic
    (h : shadowAttributes (P.parseWithLength msg) = some (attributes, version))
    (htopic : (requestedTopic attributes).isSome) (hid : id ∉ beforeTopic) :
    served P msg id = none := by
  rw [served, h, Option.bind_some]
  exact if_pos ⟨htopic, hid⟩

end Accepted

/-! ## What it does -/

/-- The number as the field of the attribute holds it. -/
def DevConfigShadowId.narrow (id : DevConfigShadowId) (v : Int32) : Int :=
  match id.valType with
  | .int16 => v.toInt16.toInt
  | .int => v.toInt
  | _ => 0

theorem number_withNum {a : DevShadowAttrib} (hty : a.valType = id.valType) (v : Int32) :
    (a.withNum v).number = id.narrow v := by
  unfold DevShadowAttrib.number DevConfigShadowId.narrow DevShadowAttrib.withNum
  rw [← hty]
  cases hv : a.valType <;> simp

theorem number_serve (hT : b.TableOk) (id : DevConfigShadowId) (r : Option Int32) :
    ((b.serve id r).attr id).number = (r.map id.narrow).getD (b.attr id).number := by
  cases r with
  | none => rfl
  | some v =>
      rw [Board.serve, attr_store_self]
      exact number_withNum (hT.valType id) v

theorem number_serveAll (hT : b.TableOk) {ids : List DevConfigShadowId} (hnodup : ids.Nodup)
    (req : DevConfigShadowId → Option Int32) (id : DevConfigShadowId) :
    ((b.serveAll ids req).attr id).number
      = ((if id ∈ ids then req id else none).map id.narrow).getD (b.attr id).number := by
  by_cases hmem : id ∈ ids
  · rw [if_pos hmem, (serveAll_of_mem hnodup hmem).1]
    exact number_serve hT id _
  · rw [if_neg hmem, (serveAll_of_notMem hmem).1]
    rfl

/-- A boot loads the numbers of a board in order that has the same files. -/
theorem number_bootFrom (h : b.Durable) (hflash : b'.flash = b.flash)
    (hboot : bootFrom P b' = some d) (id : DevConfigShadowId) :
    (d.board.attr id).number = (b.attr id).number := by
  have hfit : ∀ other, other ≠ .iccid → b'.flash.StringFits other :=
    hflash ▸ h.store.files.provisioned.fits
  obtain ⟨d₁, hboot₁, hsame⟩ := bootFrom_sameStore hflash hboot
  have hbooted := bootFrom_booted (fun other hother _ => hflash ▸ hfit other hother) hboot₁
  rw [hsame.board.attr]
  have hty := (h.store.table.valType id).trans (hbooted.tableOk.valType id).symm
  exact ((h.sameNumber_boot hbooted id).number_eq hty).symm

/-- A message takes every number to the one it gives, also when it ends in a reboot. -/
theorem configStep_number (hP : P.FsReliable) (hd : d.board.Durable)
    (hstep : configStep P d (.shadowMsg msg) = some d') (id : DevConfigShadowId) :
    (d'.board.attr id).number
      = ((served P msg id).map id.narrow).getD (d.board.attr id).number := by
  have hT := hd.store.table
  unfold served
  rcases configStep_msg_cases hP hT msg with
    ⟨henv, d₁, hrun, hboard⟩ |
      ⟨attributes, version, henv, ⟨htopic, d₁, hrun, hconfig, -⟩ | ⟨htopic, b, hrun, hflash⟩⟩
  · rw [hstep] at hrun
    cases hrun
    rw [henv, hboard]
    rfl
  · rw [hstep] at hrun
    cases hrun
    have hattr : d'.board.attr = _ := Board.attr_congr hconfig
    rw [henv, hattr, number_serveAll hT (by decide), Option.bind_some, htopic]
    by_cases hmem : id ∈ beforeTopic ++ [.appType]
    · simp [hmem]
    · -- only strings are left out, and nothing requests them
      rw [if_neg hmem]
      cases id <;> first | rfl | exact absurd (by decide) hmem
  · rw [hstep] at hrun
    have hserved := hd.serveAll beforeTopic (by decide) (requested P attributes version)
    rw [number_bootFrom hserved hflash hrun.symm, number_serveAll hT (by decide), henv,
      Option.bind_some]
    by_cases hmem : id ∈ beforeTopic <;> simp [hmem, htopic]

/-- A board in order has in its files the numbers of RAM. -/
theorem Board.Durable.synced (h : b.Durable) (id : DevConfigShadowId) :
    b.bank id = Cell.synced (b.attr id).number := by
  have hdisk : b.fileNumber id = (b.attr id).number := by
    unfold Board.fileNumber
    cases hc : b.flash id.fileName with
    | some content =>
        exact ((h.number id content hc).number_eq (valType_loadFrom _ _).symm).symm
    | none =>
        -- the one file that may be missing is a string's
        have hid : id = .iccid := by
          by_contra hid
          obtain ⟨content, hsome, -⟩ := h.store.files id hid
          rw [hc] at hsome
          cases hsome
        subst hid
        exact (number_of_string (h.store.table.valType .iccid)).symm
  unfold Board.bank Cell.synced
  rw [hdisk, h.clean id]

end Levaware
