import Levaware.Config.Loading

set_option autoImplicit false

/-! # What a save reports

`config_save_attribute_to_file` keeps the number of bytes written in the variable it tests as an
error code, so the test goes the wrong way round: a save that wrote nothing returns early, with the
`0` that means success, and any other save clears the dirty flag, complete or not. The result and
the flag are right exactly when the file system writes everything it is asked to
(`save_result_iff`). -/

namespace Levaware

open Abort

variable {P : Platform} {b b' b₀ b₁ : Board} {id : DevConfigShadowId} {n : Int}

/-! ## One attribute -/

/-- The bytes a save of the attribute asks for: none when there is nothing to write. -/
def DevShadowAttrib.requestedBytes (a : DevShadowAttrib) : Nat := (a.content.getD []).length

/-- `save_to_file` reports `n` bytes for the attribute, if it is called at all. -/
def Reports (P : Platform) (b : Board) (id : DevConfigShadowId) (n : Int) : Prop :=
  (b.attr id).isNewVal = true → ∃ b₁, (saveVal P (b.attr id)).run b = .ok n b₁

/-- There was nothing to save, or all of it was written. -/
def SavedInFull (b : Board) (id : DevConfigShadowId) (n : Int) : Prop :=
  (b.attr id).isNewVal = false ∨ n = (b.attr id).requestedBytes

instance : Decidable (SavedInFull b id n) := inferInstanceAs (Decidable (_ ∨ _))

/-- What a save from `b` to `b'` owes its caller: the result tells whether the attribute is saved,
    and an attribute that is not stays dirty. -/
structure SaveContract (b b' : Board) (id : DevConfigShadowId) (n result : Int) : Prop where
  result_iff : result = 0 ↔ SavedInFull b id n
  cleared : (b'.attr id).isNewVal = false → SavedInFull b id n

/-- Writing the value leaves RAM as it is. -/
theorem saveVal_config (a : DevShadowAttrib) :
    Triple (fun b => b = b₀) (saveVal P a) (fun _ b => b.config = b₀.config)
      (fun _ b => b.config = b₀.config) := by
  have hsave : ∀ content, Triple (fun b => b = b₀) (saveToFile P content a.filename)
      (fun _ b => b.config = b₀.config) (fun _ b => b.config = b₀.config) := by
    intro content
    exact saveToFile_frame.conseq (fun _ h => h) (fun _ _ h => h.config) fun _ _ h => h.config
  unfold saveVal
  split
  · exact hsave _
  · exact hsave _
  · exact hsave _
  · exact Triple.pure fun b h => congrArg Board.config h

theorem saveVal_attr (h : (saveVal P (b.attr id)).run b = .ok n b₁) : b₁.attr = b.attr := by
  have hconfig : b₁.config = b.config := (saveVal_config (b.attr id)).ok rfl h
  exact Board.attr_congr hconfig

/-- A save of a dirty attribute returns `0` whatever was written, and only a save that wrote nothing
    leaves the attribute dirty. -/
theorem configSave_reported (hnew : (b.attr id).isNewVal = true)
    (h : (saveVal P (b.attr id)).run b = .ok n b₁) :
    ∃ b', (configSaveAttributeToFile P id).run b = .ok 0 b' ∧
      ((b'.attr id).isNewVal = true ↔ n = 0) := by
  have hattr := saveVal_attr h
  unfold configSaveAttributeToFile
  rw [run_bind_ok (EStateM.run_get b)]
  simp only [hnew, if_true]
  rw [run_bind_ok h]
  -- `if (!err)` on the number of bytes: none is taken for a failure, but 0 is what it returns
  by_cases hn : n = 0
  · rw [if_pos hn]
    refine ⟨b₁, by rw [hn]; rfl, ?_⟩
    rw [hattr, hnew]
    simpa using hn
  · rw [if_neg hn]
    refine ⟨_, rfl, ?_⟩
    rw [Board.attr_setAttr_self]
    simpa using hn

/-- Any save that completes returns `0`. -/
theorem configSave_returns_zero (id : DevConfigShadowId) :
    Triple (fun _ => True) (configSaveAttributeToFile P id) (fun result _ => result = 0)
      (fun _ _ => True) := by
  intro b _
  cases hnew : (b.attr id).isNewVal with
  | false =>
      rw [configSave_clean hnew]
  | true =>
      cases hsave : (saveVal P (b.attr id)).run b with
      | ok n b₁ =>
          obtain ⟨b', hrun, -⟩ := configSave_reported hnew hsave
          rw [hrun]
      | error e b₁ =>
          have hrun : (configSaveAttributeToFile P id).run b = .error e b₁ := by
            unfold configSaveAttributeToFile
            rw [run_bind_ok (EStateM.run_get b)]
            simp only [hnew, if_true]
            rw [run_bind_error hsave]
          rw [hrun]
          trivial

/-! ## All attributes -/

/-- A loop that only keeps the result of its last round. -/
theorem foldlM_last {α β : Type} (f : α → Fw β) (init : β) (l : List α) :
    (l.foldlM (fun _ x => f x) init : Fw β) = (fun rs => rs.getLastD init) <$> l.mapM f := by
  induction l generalizing init with
  | nil => simp
  | cons x rest ih =>
      simp only [List.foldlM_cons, List.mapM_cons, ih, map_eq_pure_bind, bind_assoc, pure_bind]
      congr 1
      funext r
      congr 1
      funext rs
      rw [List.getLastD_cons]

/-- The saves of `config_save_all_attributes_to_file` with the result of each. -/
def saveResults (P : Platform) : Fw (List Int) :=
  DevConfigShadowId.all.mapM (configSaveAttributeToFile P)

theorem saveResults_zero :
    Triple (fun _ => True) (saveResults P) (fun results _ => ∀ r ∈ results, r = 0)
      (fun _ _ => True) := by
  unfold saveResults
  suffices h : ∀ ids : List DevConfigShadowId, Triple (fun _ => True)
      (ids.mapM (configSaveAttributeToFile P)) (fun results _ => ∀ r ∈ results, r = 0)
      (fun _ _ => True) from h _
  intro ids
  induction ids with
  | nil => exact Triple.pure (by simp)
  | cons id rest ih =>
      -- the postcondition of the first save does not depend on the state, so the rest can start
      rw [List.mapM_cons]
      refine Triple.bind (configSave_returns_zero id) ?_
      intro r b hr
      subst hr
      refine (ih.bind ?_) b trivial
      intro rs
      exact Triple.pure (by simp)

/-- Saving everything returns the result of the last save, so `0` as every save does. -/
theorem saveAll_zero_iff {results : List Int} (h : (saveResults P).run b = .ok results b') :
    ∃ result, (configSaveAllAttributesToFile P).run b = .ok result b' ∧
      (result = 0 ↔ ∀ r ∈ results, r = 0) := by
  have hzero : ∀ r ∈ results, r = 0 := saveResults_zero.ok trivial h
  refine ⟨results.getLastD 0, ?_, ?_⟩
  · unfold configSaveAllAttributesToFile
    rw [foldlM_last, run_map]
    have hrun : (DevConfigShadowId.all.mapM (configSaveAttributeToFile P)).run b
        = .ok results b' := h
    rw [hrun]
  · refine ⟨fun _ => hzero, ?_⟩
    intro _
    cases hlast : results.getLast? with
    | none => simp [List.getLastD_eq_getLast?, hlast]
    | some r =>
        rw [List.getLastD_eq_getLast?, hlast]
        exact hzero r (List.mem_of_getLast? hlast)

/-! ## The law -/

/-- Whatever the attribute, its value and type, and the number of bytes `save_to_file` reports: the
    result and the dirty flag of a save are right exactly when the attribute was clean or everything
    was written. The result of saving all attributes is `0` exactly when every save's was. -/
theorem save_result_iff (P : Platform) :
    (∀ b id n, Reports P b id n → ∃ result b',
      (configSaveAttributeToFile P id).run b = .ok result b' ∧
      (SaveContract b b' id n result ↔ SavedInFull b id n)) ∧
    (∀ b results b', (saveResults P).run b = .ok results b' → ∃ result,
      (configSaveAllAttributesToFile P).run b = .ok result b' ∧
      (result = 0 ↔ ∀ r ∈ results, r = 0)) := by
  refine ⟨?_, fun b results b' h => saveAll_zero_iff h⟩
  intro b id n hn
  cases hnew : (b.attr id).isNewVal with
  | false =>
      have hfull : SavedInFull b id n := Or.inl hnew
      refine ⟨0, b, configSave_clean hnew, fun _ => hfull, ?_⟩
      intro _
      exact ⟨by simp [hfull], fun _ => hfull⟩
  | true =>
      obtain ⟨b₁, hsave⟩ := hn hnew
      obtain ⟨b', hrun, hdirty⟩ := configSave_reported hnew hsave
      refine ⟨0, b', hrun, fun h => h.result_iff.1 rfl, ?_⟩
      intro hfull
      exact ⟨by simp [hfull], fun _ => hfull⟩

/-- A file system that writes one byte of whatever it is given. -/
def Platform.oneByteWrites : Platform :=
  { Platform.ideal [] .null with writeRc := fun _ _ => 1 }

/-- The default store with the DAQ interval waiting to be saved. -/
def Board.daqDirty : Board :=
  Board.factory.setAttr .daqIntervalS { Board.factory.attr .daqIntervalS with isNewVal := true }

/-- One of the two bytes is written: the save reports success and forgets that the value is new. -/
theorem oneByteWrite_reported_saved :
    let P := Platform.oneByteWrites
    Reports P .daqDirty .daqIntervalS 1 ∧
      ∃ b', (configSaveAttributeToFile P .daqIntervalS).run .daqDirty = .ok 0 b' ∧
        (b'.attr .daqIntervalS).isNewVal = false ∧
        ¬ SaveContract .daqDirty b' .daqIntervalS 1 0 := by
  intro P
  refine ⟨fun _ => ⟨_, rfl⟩, _, rfl, rfl, ?_⟩
  intro h
  exact absurd (h.result_iff.1 rfl) (by decide)

end Levaware
