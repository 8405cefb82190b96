import Levaware.Config.Loading

set_option autoImplicit false

/-! # What `config_init` does around the loading

Before it loads the attributes, `config_init` mounts the file system, reads the serial number and
asks the modem for its identities; after it, it looks for attributes without a file. None of this
touches the attribute table or a file, short of an abort. -/

namespace Levaware

open Abort

variable {P : Platform} {b b' : Board}

/-! ## Queries -/

theorem isFileExists_keeps {b₀ : Board} (name : String) :
    Triple (fun b => b = b₀) (isFileExists P name) (fun _ b => b = b₀) (fun _ b => b = b₀) := by
  have hstat : Triple (fun b => b = b₀) (fsStat P name) (fun _ b => b = b₀)
      (fun _ b => b = b₀) := by
    rintro b rfl
    unfold fsStat
    cases hf : b.flash name <;> simp [hf]
  unfold isFileExists
  refine hstat.bind fun p => Triple.ite (fun _ => Triple.pure fun _ h => h) fun _ =>
    Triple.ite (fun _ => Triple.pure fun _ h => h) fun _ => Triple.throw fun _ h => h

/-- `b` differs from `b₀` in the modem and in the two identities read from it at most. -/
structure ModemFrame (b₀ b : Board) : Prop where
  attr : b.attr = b₀.attr
  serialNumber : b.config.serialNumber = b₀.config.serialNumber
  flash : b.flash = b₀.flash
  trace : b.trace = b₀.trace

theorem ModemFrame.refl (b : Board) : ModemFrame b b := ⟨rfl, rfl, rfl, rfl⟩

theorem onModem_frame {α : Type} {b₀ : Board} (m : EStateM String UiccState α) :
    Triple (ModemFrame b₀) (onModem m) (fun _ => ModemFrame b₀) (fun _ => ModemFrame b₀) := by
  intro b hb
  unfold onModem
  rw [run_zoom]
  cases m.run b.modem with
  | ok a s => exact ⟨hb.attr, hb.serialNumber, hb.flash, hb.trace⟩
  | error e s => exact ⟨hb.attr, hb.serialNumber, hb.flash, hb.trace⟩

theorem readModemIds_frame {b₀ : Board} :
    Triple (ModemFrame b₀) (readModemIds P) (fun _ => ModemFrame b₀) (fun _ => ModemFrame b₀) := by
  have hget : Triple (ModemFrame b₀) (get : Fw Board) (fun _ => ModemFrame b₀)
      (fun _ => ModemFrame b₀) := Triple.get fun _ h => h
  have himei : ∀ imei, Triple (ModemFrame b₀)
      (modify fun b => { b with config := { b.config with imei } } : Fw PUnit)
      (fun _ => ModemFrame b₀) (fun _ => ModemFrame b₀) := fun imei =>
    Triple.modify fun b hb => ⟨hb.attr, hb.serialNumber, hb.flash, hb.trace⟩
  have hiccid : ∀ iccid, Triple (ModemFrame b₀)
      (modify fun b => { b with config := { b.config with iccid } } : Fw PUnit)
      (fun _ => ModemFrame b₀) (fun _ => ModemFrame b₀) := fun iccid =>
    Triple.modify fun b hb => ⟨hb.attr, hb.serialNumber, hb.flash, hb.trace⟩
  unfold readModemIds
  exact hget.bind fun _ => (onModem_frame _).bind fun imei => (himei imei).bind fun _ =>
    hget.bind fun _ => (onModem_frame _).bind hiccid

theorem modemGetImei_run (hB : P.BootReady) (buf : CBuf imeiLen) (m : UiccState) :
    ∃ imei, (modemGetImei P.modem buf).run m = .ok imei m := by
  have hret : ¬ (modemInfoStringGet P.modem.imei buf).1 < 0 := by
    have := hB.imei
    unfold modemInfoStringGet
    split <;> simpa using this
  refine ⟨(modemInfoStringGet P.modem.imei buf).2, ?_⟩
  unfold modemGetImei
  simp [hret]

theorem modemGetIccid_run (hB : P.BootReady) (buf : CBuf iccidLen) (m : UiccState) :
    ∃ iccid m', (modemGetIccid P.modem buf).run m = .ok iccid m' := by
  unfold modemGetIccid
  simp [hB.cfun41]

/-- A modem routine that returns, run on the board. -/
theorem onModem_run {α : Type} {m : EStateM String UiccState α} {a : α} {s : UiccState}
    (h : m.run b.modem = .ok a s) : (onModem m).run b = .ok a { b with modem := s } := by
  rw [onModem, run_zoom, h]

/-- With a modem that answers, the identities are read. -/
theorem readModemIds_run (hB : P.BootReady) (b : Board) :
    ∃ b', (readModemIds P).run b = .ok () b' ∧ ModemFrame b b' := by
  have himei : ∀ buf : CBuf imeiLen, Triple (fun _ => True) (onModem (modemGetImei P.modem buf))
      (fun _ _ => True) (fun _ _ => False) := by
    intro buf b _
    obtain ⟨imei, h⟩ := modemGetImei_run hB buf b.modem
    rw [onModem_run h]
    trivial
  have hiccid : ∀ buf : CBuf iccidLen, Triple (fun _ => True) (onModem (modemGetIccid P.modem buf))
      (fun _ _ => True) (fun _ _ => False) := by
    intro buf b _
    obtain ⟨iccid, m, h⟩ := modemGetIccid_run hB buf b.modem
    rw [onModem_run h]
    trivial
  have hget : Triple (fun _ => True) (get : Fw Board) (fun _ _ => True) (fun _ _ => False) :=
    Triple.get fun _ _ => trivial
  have hset : ∀ f : Board → Board, Triple (fun _ => True) (modify f : Fw PUnit)
      (fun _ _ => True) (fun _ _ => False) := fun f => Triple.modify fun _ _ => trivial
  have hreturns : Triple (fun _ => True) (readModemIds P) (fun _ _ => True) (fun _ _ => False) := by
    unfold readModemIds
    exact hget.bind fun _ => (himei _).bind fun imei => (hset _).bind fun _ =>
      hget.bind fun _ => (hiccid _).bind fun iccid => hset _
  cases hrun : (readModemIds P).run b with
  | ok u b' => exact ⟨b', rfl, readModemIds_frame.ok (ModemFrame.refl b) hrun⟩
  | error e b' => exact (hreturns.error trivial hrun).elim

/-! ## The serial number -/

theorem readSerialNumber_missing (h : b.flash serialNumberFileName = none) :
    (readSerialNumber P).run b = .error "is_file_exists" b := by
  unfold readSerialNumber
  rw [run_bind_error (isFileExists_missing h)]

/-- With the file there, the serial number is read, or left alone when the file is empty. -/
theorem readSerialNumber_present (hP : P.FsReliable) {content : List UInt8}
    (h : b.flash serialNumberFileName = some content) :
    ∃ b', (readSerialNumber P).run b = .ok () b' ∧ b'.flash = b.flash ∧ b'.attr = b.attr := by
  unfold readSerialNumber logEffect
  rw [run_bind_ok (isFileExists_present hP h)]
  by_cases hlen : 0 < content.length
  · rw [if_pos (by simpa using hlen), run_bind_ok (EStateM.run_get b),
      run_bind_ok (readFile_present hP h _)]
    dsimp only
    rw [run_bind_ok (EStateM.run_modify _ _), run_bind_ok (EStateM.run_modify _ _),
      if_neg (by omega)]
    exact ⟨_, rfl, rfl, rfl⟩
  · rw [if_neg (by simpa using hlen)]
    exact ⟨b, rfl, rfl, rfl⟩

/-! ## Files found missing -/

/-- While every attribute has a file that is not empty, the closing loop does nothing. -/
theorem saveIfMissing_run (hP : P.FsReliable) (hT : b.TableOk)
    (hfiles : ∀ id : DevConfigShadowId, id ≠ .iccid →
      ∃ content, b.flash id.fileName = some content ∧ 0 < content.length)
    (ids : List DevConfigShadowId) : (ids.forM (saveIfMissing P)).run b = .ok () b := by
  have hround : ∀ id, (saveIfMissing P id).run b = .ok () b := by
    intro id
    unfold saveIfMissing
    by_cases hid : id = .iccid
    · rw [if_neg (by simp [hid])]
      rfl
    · obtain ⟨content, hc, hlen⟩ := hfiles id hid
      rw [if_pos hid, run_bind_ok (EStateM.run_get b), hT.filename,
        run_bind_ok (isFileExists_present hP hc)]
      simp [hlen]
  induction ids with
  | nil => rfl
  | cons id rest ih =>
      show (saveIfMissing P id >>= fun _ => rest.forM (saveIfMissing P)).run b = _
      rw [run_bind_ok (hround id)]
      exact ih

end Levaware
