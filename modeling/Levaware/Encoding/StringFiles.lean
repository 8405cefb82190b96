import Levaware.Encoding.Isolation
import Levaware.Encoding.SameStore

set_option autoImplicit false

/-! # String files that fit

No message and no save writes a string, so string files that fit their fields fit for ever
(`ConfigOp.run_safe`). While they do, no boot copies past the end of a field, so that a device which
has its identity in RAM already loads what a device without one loads
(`configDevShadowAttribInit_alike`). -/

namespace Levaware

open Abort

variable {P : Platform} {b b' : Board} {id : DevConfigShadowId} {d : Device}

/-! ## Strings that stay where they are -/

/-- The attributes that are numbers. -/
def Numeric (id : DevConfigShadowId) : Prop := id.valType ≠ .string

/-- The table is in place, no string waits to be saved, and the string files fit. -/
structure Board.StringsSafe (b : Board) : Prop where
  table : b.TableOk
  clean : ∀ id, id.valType = .string → (b.attr id).isNewVal = false
  fits : ∀ id, id ≠ .iccid → b.flash.StringFits id

theorem FlashKept.file (h : FlashKept Numeric b b') (hid : id.valType = .string) :
    b'.flash id.fileName = b.flash id.fileName := by
  refine h _ fun other hother heq => hother ?_
  rw [← DevConfigShadowId.fileName_injective heq]
  exact hid

theorem FlashKept.stringFits (h : FlashKept Numeric b b') (hfit : b.flash.StringFits id) :
    b'.flash.StringFits id := by
  intro hid content hc
  exact hfit hid content (h.file hid ▸ hc)

theorem KeptOutside.stringsSafe (h : KeptOutside Numeric b b') (hb : b.StringsSafe) :
    b'.StringsSafe where
  table := h.table
  clean id hid := by
    rw [h.attr id fun hnum => hnum hid]
    exact hb.clean id hid
  fits id hid := h.flash.stringFits (hb.fits id hid)

/-- A message keeps to the numbers, whatever it carries: a topic is not saved. -/
theorem awsDecodeShadowValues_numeric (attributes : Option CJson) (version : Int32)
    (isDelta : Bool) (b₀ : Board) :
    KeepsOutside Numeric b₀ (awsDecodeShadowValues P attributes version isDelta) := by
  have hnumeric : ∀ id ∈ beforeTopic ++ [.appType], Numeric id := beforeTopic_numeric
  refine (decodeVersion_keepsOutside version fun _ => hnumeric _ (by decide)).bind fun _ => ?_
  refine (decodeInterval_keepsOutside attributes isDelta _ _
    fun _ => hnumeric _ (by decide)).bind fun _ => ?_
  refine (decodeInterval_keepsOutside attributes isDelta _ _
    fun _ => hnumeric _ (by decide)).bind fun _ => ?_
  refine (decodeInterval_keepsOutside attributes isDelta _ _
    fun _ => hnumeric _ (by decide)).bind fun _ => ?_
  refine (decodeSensorType_keepsOutside attributes isDelta
    fun _ => hnumeric _ (by decide)).bind fun _ => ?_
  refine (decodeTopic_keepsOutside attributes isDelta).bind fun _ => ?_
  exact decodeAppType_keepsOutside attributes isDelta fun _ => hnumeric _ (by decide)

/-- So does a save of everything. -/
theorem configSaveAll_numeric {b₀ : Board} (hb : b₀.StringsSafe) :
    KeepsOutside Numeric b₀ (configSaveAllAttributesToFile P) := by
  have hsave : ∀ id, KeepsOutside Numeric b₀ (configSaveAttributeToFile P id) := by
    intro id
    by_cases hid : id.valType = .string
    · intro b h
      have hclean : (b.attr id).isNewVal = false := by
        rw [h.attr id fun hnum => hnum hid]
        exact hb.clean id hid
      rw [configSave_clean hclean]
      exact h
    · exact configSave_keepsOutside hid
  unfold configSaveAllAttributesToFile
  suffices hall : ∀ (ids : List DevConfigShadowId) (n : Int), KeepsOutside Numeric b₀
      (ids.foldlM (fun _ idx => configSaveAttributeToFile P idx) n) from hall _ _
  intro ids
  induction ids with
  | nil => exact fun n => Preserves.pure n
  | cons id rest ih =>
      intro n
      rw [List.foldlM_cons]
      exact (hsave id).bind ih

/-! ## Operations -/

/-- What `aws_decode_shadow_values` does to the board, a message does. -/
theorem awsDecodeShadowMsg_preserves {I J : Board → Prop}
    (h : ∀ attributes version, Preserves I J (awsDecodeShadowValues P attributes version true))
    (msg : List UInt8) :
    Preserves (fun d => I d.board) (fun d => J d.board) (awsDecodeShadowMsg P msg) := by
  have hheap : ∀ f : List CJsonObj → List CJsonObj, Preserves (fun d => I d.board)
      (fun d => J d.board)
      (modify fun d => { d with outstanding := f d.outstanding } : DevM PUnit) := fun f =>
    Preserves.modify fun _ hd => hd
  have hdelete : ∀ root, Preserves (fun d => I d.board) (fun d => J d.board) (cJsonDelete root) :=
    fun root => Preserves.ite (fun _ => hheap fun l => l.erase .tree) fun _ => Preserves.pure _
  have hparse : Preserves (fun d => I d.board) (fun d => J d.board) (cJsonParseWithLength P msg) :=
    Preserves.ite (fun _ => (hheap (.tree :: ·)).bind fun _ => Preserves.pure _)
      fun _ => Preserves.pure _
  unfold awsDecodeShadowMsg
  refine hparse.bind fun root => Preserves.ite (fun _ => ?_) fun _ => hdelete root
  cases shadowAttributes root with
  | none => exact hdelete root
  | some found =>
      exact (hheap (.text :: ·)).bind fun _ =>
        ((h found.1 found.2).zoom fun _ _ => rfl).bind fun _ => hdelete root

/-- What an operation leaves is in order for the next one, or for the boot after an abort. -/
theorem ConfigOp.run_safe (op : ConfigOp) :
    Preserves (fun d => d.board.StringsSafe)
      (fun d => ∀ id, id ≠ .iccid → d.board.flash.StringFits id) (op.run P) := by
  have hboard : ∀ {α : Type} (m : Fw α),
      (∀ b₀ : Board, b₀.StringsSafe → KeepsOutside Numeric b₀ m) →
      Preserves Board.StringsSafe (fun b => ∀ id, id ≠ .iccid → b.flash.StringFits id) m := by
    intro α m hm
    refine Triple.of_each fun b₀ hb₀ b hb => ?_
    subst hb
    exact (hm b hb₀).conseq (fun _ h => h) (fun _ _ h => h.stringsSafe hb₀)
      (fun _ _ h id hid => h.stringFits (hb₀.fits id hid)) b (KeptOutside.refl hb₀.table)
  cases op with
  | shadowMsg msg =>
      exact awsDecodeShadowMsg_preserves (fun attributes version =>
        hboard _ fun b₀ _ => awsDecodeShadowValues_numeric attributes version true b₀) msg
  | saveAll =>
      have hsave := hboard _ fun b₀ hb₀ => configSaveAll_numeric (P := P) hb₀
      exact Preserves.discard (hsave.zoom fun _ _ => rfl)
  | reboot => exact Preserves.throw (fun _ h => h.fits) _

/-! ## Booting -/

/-- Boards in the middle of a boot. -/
structure LoadingAlike (b b' : Board) : Prop where
  same : b.SameStore b'
  table : b.TableOk
  fits : ∀ id, id ≠ .iccid → b.flash.StringFits id

/-- A string that fits is copied alike. -/
theorem copyToStrVal_blind {src : List UInt8} (h : src.length < strValLen) :
    Blind (copyToStrVal P id src) :=
  (logEffect_blind _).bind fun _ => Blind.ite (fun _ => modifyAttr_blind _) fun hlong =>
    absurd h hlong

theorem loadContents_alike (hT : b.TableOk) {fileContents : CBuf 256}
    (hfit : id.valType = .string → fileContents.str.length < strValLen) (h : b.SameStore b') :
    Alike (fun c c' => c = b ∧ c' = b') (loadContents P id fileContents)
      (loadContents P id fileContents) Board.SameStore Board.SameFlash := by
  rintro _ _ ⟨rfl, rfl⟩
  unfold loadContents
  rw [run_bind_ok (EStateM.run_get _), run_bind_ok (EStateM.run_get _), ← h.attr]
  dsimp only
  rw [hT.valType]
  refine Blind.ite (fun _ => modifyAttr_blind _) (fun _ => ?_) _ _ h
  refine Blind.ite (fun _ => modifyAttr_blind _) (fun _ => ?_)
  exact Blind.ite (fun hstr => copyToStrVal_blind (hfit hstr.1)) fun _ => Blind.pure _

theorem loadAttrib_alike (id : DevConfigShadowId) :
    Alike LoadingAlike (loadAttrib P id) (loadAttrib P id) LoadingAlike Board.SameFlash := by
  intro b b' h
  have hload : Alike (fun c c' => c = b ∧ c' = b') (loadAttrib P id) (loadAttrib P id)
      Board.SameStore Board.SameFlash := by
    refine loadAttrib_of_contents h.same h.same fun hid content hc => ?_
    rw [h.table.filename] at hc
    exact loadContents_alike h.table (fun hs => h.fits id hid hs content hc) h.same
  rcases hload b b' ⟨rfl, rfl⟩ with ⟨a, c, c', hrun, hrun', hsame⟩ | hstop
  · refine Or.inl ⟨a, c, c', hrun, hrun', ?_⟩
    rcases loadAttrib_run (P := P) (h.table.filename id) (h.table.valType id) (h.fits id) with
      ⟨e, herror, -⟩ | ⟨c₁, hok, hto, -, hattr⟩
    · rw [hrun] at herror
      cases herror
    · rw [hrun] at hok
      cases hok
      obtain ⟨hty, hfn⟩ := loaded_table b.flash id (b.attr id)
      have htable := h.table.setAttr (hty.trans (h.table.valType id))
        (hfn.trans (h.table.filename id))
      exact ⟨hsame, htable.of_attr_eq hattr, hto.flash ▸ h.fits⟩
  · exact Or.inr hstop

/-- A boot of two boards with the same store, whatever else RAM has. -/
theorem configDevShadowAttribInit_alike (hfit : ∀ id, id ≠ .iccid → b.flash.StringFits id) :
    Alike (fun c c' => c.flash = b.flash ∧ c.SameStore c') (configDevShadowAttribInit P)
      (configDevShadowAttribInit P) Board.SameStore Board.SameFlash := by
  have hdefaults : Alike (fun c c' => c.flash = b.flash ∧ c.SameStore c') setDefaults setDefaults
      LoadingAlike Board.SameFlash := by
    rintro c c' ⟨hflash, hsame⟩
    refine Or.inl ⟨(), _, _, setDefaults_run c, setDefaults_run c', ⟨?_, hsame.flash⟩,
      c.tableOk_withDefaults, hflash ▸ hfit⟩
    show (fun id => (c.attr id).setDefault id) = fun id => (c'.attr id).setDefault id
    rw [hsame.attr]
  have hloop : Alike LoadingAlike (DevConfigShadowId.all.forM (loadAttrib P))
      (DevConfigShadowId.all.forM (loadAttrib P)) LoadingAlike Board.SameFlash :=
    Alike.forM fun id _ => loadAttrib_alike id
  exact hdefaults.bind fun _ =>
    hloop.conseq (fun _ _ h => h) (fun _ _ h => h.same) fun _ _ h => h

theorem bootFrom_safe (hfit : ∀ id, id ≠ .iccid → b.flash.StringFits id)
    (hboot : bootFrom P b = some d) : d.board.StringsSafe := by
  have hbooted := bootFrom_booted (fun id hid _ => hfit id hid) hboot
  refine ⟨hbooted.tableOk, fun id _ => hbooted.clean id, ?_⟩
  have hflash : d.board.flash = b.flash := hbooted.loadsTo.flash
  rw [hflash]
  exact hfit

end Levaware
