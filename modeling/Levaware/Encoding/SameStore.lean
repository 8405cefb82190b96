import Levaware.Encoding.Durability
import Levaware.Encoding.Ledger
import Levaware.Lib.Simulation

set_option autoImplicit false

/-! # What the configuration depends on

The attribute table and the files decide what becomes of the attribute table and the files: serial
number, IMEI, ICCID, the state of the SIM and everything that happened before have no influence on
it. `Blind` says this of a routine: every routine that a message or a save calls is blind. A boot
finds RAM cleared, so a string that overruns its field makes the same of it on every device, and so
a whole run is blind too (`configRun_sameStore`). -/

namespace Levaware

open Abort

/-! ## Blind routines -/

/-- The same attribute table and the same files. -/
structure Board.SameStore (b b' : Board) : Prop where
  attr : b.attr = b'.attr
  flash : b.flash = b'.flash

def Board.SameFlash (b b' : Board) : Prop := b.flash = b'.flash

/-- On boards with the same store the routine does the same: with the same answer and the same store
    if it returns, for the same reason and with the same files if it aborts. -/
def Blind {α : Type} (m : Fw α) : Prop :=
  Alike Board.SameStore m m Board.SameStore Board.SameFlash

variable {P : Platform} {α β : Type} {b b' : Board} {id : DevConfigShadowId} {name : String}

theorem Board.SameStore.refl (b : Board) : b.SameStore b := ⟨rfl, rfl⟩

theorem Board.SameStore.symm (h : b.SameStore b') : b'.SameStore b := ⟨h.attr.symm, h.flash.symm⟩

theorem Board.SameStore.trans {b'' : Board} (h : b.SameStore b') (h' : b'.SameStore b'') :
    b.SameStore b'' := ⟨h.attr.trans h'.attr, h.flash.trans h'.flash⟩

theorem Board.SameStore.setFile (h : b.SameStore b') (content : List UInt8) :
    (b.setFile name content).SameStore (b'.setFile name content) :=
  ⟨h.attr, by simp [Board.setFile, h.flash]⟩

theorem Blind.pure (a : α) : Blind (pure a) := Alike.pure fun _ _ h => h

theorem Blind.erabort (reason : String) : Blind (erabort reason : Fw α) :=
  Alike.throw fun _ _ h => h.flash

theorem Blind.bind {m : Fw α} {f : α → Fw β} (hm : Blind m) (hf : ∀ a, Blind (f a)) :
    Blind (m >>= f) := Alike.bind hm hf

theorem Blind.ite {c : Prop} [Decidable c] {m n : Fw α} (hm : c → Blind m) (hn : ¬ c → Blind n) :
    Blind (if c then m else n) := Alike.ite hm hn

theorem Blind.discard {m : Fw α} (h : Blind m) : Blind (discard m : Fw PUnit) := Alike.discard h

/-- Reading an attribute. -/
theorem Blind.get_attr {f : DevShadowAttrib → Fw α} (hf : ∀ a, Blind (f a)) :
    Blind (do let a := (← get).attr id; f a) := by
  refine Alike.get_bind fun b b' h => ?_
  rintro _ _ ⟨rfl, rfl⟩
  rw [← h.attr]
  exact hf _ _ _ h

/-- Reading a file. -/
theorem Blind.get_file {f : Option (List UInt8) → Fw α} (hf : ∀ c, Blind (f c)) :
    Blind (do let c := (← get).flash name; f c) := by
  refine Alike.get_bind fun b b' h => ?_
  rintro _ _ ⟨rfl, rfl⟩
  rw [← h.flash]
  exact hf _ _ _ h

theorem modifyAttr_blind (f : DevShadowAttrib → DevShadowAttrib) : Blind (modifyAttr id f) :=
  Alike.modify fun b b' h => ⟨by simp [h.attr], h.flash⟩

theorem logEffect_blind (e : Effect) : Blind (logEffect e) :=
  Alike.modify fun _ _ h => ⟨h.attr, h.flash⟩

/-! ## Files -/

theorem fsOpen_blind (create : Bool) : Blind (fsOpen P name create) := by
  intro b b' h
  have hname : b'.flash name = b.flash name := congrFun h.flash.symm name
  unfold fsOpen
  simp only [EStateM.run_bind, EStateM.run_get, hname]
  cases b.flash name with
  | some content => exact Or.inl ⟨_, b, b', rfl, rfl, h⟩
  | none =>
      cases create with
      | false => exact Or.inl ⟨_, b, b', rfl, rfl, h⟩
      | true =>
          by_cases hrc : P.openRc name < 0
          · exact Or.inl ⟨P.openRc name, b, b', by simp [hrc], by simp [hrc], h⟩
          · exact Or.inl ⟨P.openRc name, b.setFile name [], b'.setFile name [], by simp [hrc],
              by simp [hrc], h.setFile []⟩

theorem fsStat_blind : Blind (fsStat P name) := by
  intro b b' h
  have hname : b'.flash name = b.flash name := congrFun h.flash.symm name
  unfold fsStat
  simp only [EStateM.run_bind, EStateM.run_get, hname]
  cases b.flash name with
  | some content => exact Or.inl ⟨_, b, b', rfl, rfl, h⟩
  | none => exact Or.inl ⟨_, b, b', rfl, rfl, h⟩

theorem fsTruncate_blind (length : Nat) : Blind (fsTruncate P name length) := by
  intro b b' h
  have hname : b'.flash name = b.flash name := congrFun h.flash.symm name
  unfold fsTruncate
  simp only [EStateM.run_bind, EStateM.run_get, hname]
  by_cases hrc : P.truncateRc name = 0
  · exact Or.inl ⟨P.truncateRc name, _, _, by simp [hrc]; rfl, by simp [hrc], h.setFile _⟩
  · exact Or.inl ⟨P.truncateRc name, b, b', by simp [hrc], by simp [hrc], h⟩

theorem fsWrite_blind (content : List UInt8) : Blind (fsWrite P name content) := by
  intro b b' h
  have hname : b'.flash name = b.flash name := congrFun h.flash.symm name
  unfold fsWrite
  simp only [EStateM.run_bind, EStateM.run_get, hname]
  by_cases hrc : 0 ≤ P.writeRc name content.length
  · exact Or.inl ⟨P.writeRc name content.length, _, _, by simp [hrc]; rfl, by simp [hrc],
      h.setFile _⟩
  · exact Or.inl ⟨P.writeRc name content.length, b, b', by simp [hrc], by simp [hrc], h⟩

theorem fsRead_blind {n : Nat} (buf : CBuf n) : Blind (fsRead P name buf) := by
  refine Blind.get_file (f := fun c => if P.readRc name < 0 then pure (P.readRc name, buf)
    else pure (((min n (c.getD []).length : Nat) : Int), buf.blit (c.getD []))) fun c => ?_
  exact Blind.ite (fun _ => Blind.pure _) fun _ => Blind.pure _

theorem saveToFile_blind (content : List UInt8) : Blind (saveToFile P content name) := by
  have hwrite : Blind (do
      let rc ← fsWrite P name content
      if 0 ≤ rc then return rc
      erabort "save_to_file - failed to write") :=
    (fsWrite_blind content).bind fun rc => Blind.ite (fun _ => Blind.pure _) fun _ =>
      Blind.erabort _
  unfold saveToFile
  refine (logEffect_blind _).bind fun _ => (fsOpen_blind true).bind fun rc =>
    Blind.ite (fun _ => (Blind.erabort _).bind fun _ => ?_) fun _ => ?_
  all_goals
    refine fsStat_blind.bind fun p => Blind.ite (fun _ => ?_) fun _ => hwrite
    exact (fsTruncate_blind _).bind fun rc' =>
      Blind.ite (fun _ => (Blind.erabort _).bind fun _ => hwrite) fun _ => hwrite

theorem readFile_blind {n : Nat} (buf : CBuf n) : Blind (readFile P buf name) := by
  have hread : Blind (do
      let p ← fsRead P name buf
      if 0 ≤ p.1 then return p
      erabort "read_file - failed to read") :=
    (fsRead_blind buf).bind fun p => Blind.ite (fun _ => Blind.pure _) fun _ => Blind.erabort _
  have hstat : Blind (do
      let p ← fsStat P name
      if p.1 ≠ 0 then erabort "read_file - failed to get stat"
      let p ← fsRead P name buf
      if 0 ≤ p.1 then return p
      erabort "read_file - failed to read") :=
    fsStat_blind.bind fun p => Blind.ite (fun _ => (Blind.erabort _).bind fun _ => hread)
      fun _ => hread
  unfold readFile
  exact (fsOpen_blind false).bind fun rc =>
    Blind.ite (fun _ => (Blind.erabort _).bind fun _ => hstat) fun _ => hstat

/-! ## Setting and saving -/

theorem saveVal_blind (a : DevShadowAttrib) : Blind (saveVal P a) := by
  unfold saveVal
  split
  · exact saveToFile_blind _
  · exact saveToFile_blind _
  · exact saveToFile_blind _
  · exact Blind.pure _

theorem configSave_blind : Blind (configSaveAttributeToFile P id) := by
  refine Blind.get_attr (f := fun a => do
    if a.isNewVal then
      let err ← saveVal P a
      if err = 0 then return err
    modifyAttr id fun a => { a with isNewVal := false }
    return 0) fun a => ?_
  have hclean : Blind (do
      modifyAttr id fun a => { a with isNewVal := false }
      return (0 : Int)) := (modifyAttr_blind _).bind fun _ => Blind.pure _
  exact Blind.ite (fun _ => (saveVal_blind a).bind fun err =>
    Blind.ite (fun _ => Blind.pure _) fun _ => hclean) fun _ => hclean

theorem configSaveAll_blind : Blind (configSaveAllAttributesToFile P) :=
  Alike.foldlM (fun _ _ _ => configSave_blind) 0

theorem configSetInt16_blind (val : Int16) (isNewVal : Bool) :
    Blind (configSetInt16 id val isNewVal) :=
  Blind.ite (fun _ => modifyAttr_blind _) fun _ => Blind.erabort _

theorem configSetInt_blind (val : Int32) (isNewVal : Bool) :
    Blind (configSetInt id val isNewVal) :=
  Blind.ite (fun _ => modifyAttr_blind _) fun _ => Blind.erabort _

/-- The abort at its end hides what an overrun makes of RAM. -/
theorem configSetStr_blind (s : CString) (isNewVal : Bool) :
    Blind (configSetStr P id s isNewVal) := by
  by_cases hs : 0 < s.bytes.length
  · intro b b' h
    have hb := configSetStr_triple (P := P) b id s isNewVal hs b rfl
    have hb' := configSetStr_triple (P := P) b' id s isNewVal hs b' rfl
    cases hrun : (configSetStr P id s isNewVal).run b with
    | ok u c =>
        rw [hrun] at hb
        exact hb.elim
    | error e c =>
        cases hrun' : (configSetStr P id s isNewVal).run b' with
        | ok u c' =>
            rw [hrun'] at hb'
            exact hb'.elim
        | error e' c' =>
            rw [hrun] at hb
            rw [hrun'] at hb'
            obtain ⟨rfl, hc⟩ := hb
            obtain ⟨rfl, hc'⟩ := hb'
            refine Or.inr ⟨_, c, c', rfl, rfl, ?_⟩
            rw [Board.SameFlash, hc.flash, hc'.flash, h.flash]
  · unfold configSetStr
    rw [if_neg fun h => hs h.2]
    exact Blind.erabort _

theorem configDiffFlashInt16_blind (validVal : Int16) :
    Blind (configDiffFlashInt16 P id validVal) :=
  Blind.get_attr (f := fun a => do
    let p ← readFile P (CBuf.zero 16) a.filename
    let readVal := P.charToInt16 (p.2.bytes.headD 0)
    return readVal == validVal) fun _ => (readFile_blind _).bind fun _ => Blind.pure _

/-! ## The decoder -/

section Decoder

variable (attributes : Option CJson) (version : Int32) (isDelta : Bool)

theorem setAndSaveInt16_blind (val : Int32) : Blind (setAndSaveInt16 P id val isDelta) :=
  (configSetInt16_blind _ _).bind fun _ => configSave_blind.discard

theorem decodeInterval_blind (key : String) (minimum : Int32) :
    Blind (decodeInterval P attributes key minimum id isDelta) := by
  unfold decodeInterval
  split
  · exact setAndSaveInt16_blind _ _
  · exact Blind.pure _

theorem decodeSensorType_blind : Blind (decodeSensorType P attributes isDelta) := by
  unfold decodeSensorType
  split
  · exact Blind.ite (fun _ => setAndSaveInt16_blind _ _) fun _ => Blind.pure _
  · exact Blind.pure _

theorem decodeTopic_blind : Blind (decodeTopic P attributes isDelta) := by
  unfold decodeTopic
  split
  · exact Blind.ite (fun _ => (configSetStr_blind _ _).bind fun _ => configSave_blind.discard)
      fun _ => Blind.pure _
  · exact Blind.pure _

theorem decodeAppType_blind : Blind (decodeAppType P attributes isDelta) := by
  unfold decodeAppType
  split
  · refine Blind.ite (fun _ => ?_) fun _ => Blind.pure _
    refine (setAndSaveInt16_blind _ _).bind fun _ => (configDiffFlashInt16_blind _).bind fun _ => ?_
    exact Blind.ite (fun _ => logEffect_blind _) fun _ => Blind.pure _
  · exact Blind.pure _

theorem awsDecodeShadowValues_blind :
    Blind (awsDecodeShadowValues P attributes version isDelta) := by
  have hversion : Blind (decodeVersion P version) :=
    Blind.ite (fun _ => (configSetInt_blind _ _).bind fun _ => configSave_blind.discard)
      fun _ => Blind.pure _
  refine hversion.bind fun _ => ?_
  refine (decodeInterval_blind attributes isDelta _ _).bind fun _ => ?_
  refine (decodeInterval_blind attributes isDelta _ _).bind fun _ => ?_
  refine (decodeInterval_blind attributes isDelta _ _).bind fun _ => ?_
  refine (decodeSensorType_blind attributes isDelta).bind fun _ => ?_
  exact (decodeTopic_blind attributes isDelta).bind fun _ => decodeAppType_blind attributes isDelta

end Decoder

/-! ## Booting -/

/-- The same RAM and the same files. -/
structure Board.SameMemory (b b' : Board) : Prop where
  config : b.config = b'.config
  flash : b.flash = b'.flash

theorem Board.SameMemory.store (h : b.SameMemory b') : b.SameStore b' :=
  ⟨Board.attr_congr h.config, h.flash⟩

theorem logEffect_sameMemory (e : Effect) :
    Alike Board.SameMemory (logEffect e) (logEffect e) Board.SameMemory Board.SameFlash :=
  Alike.modify fun _ _ h => ⟨h.config, h.flash⟩

theorem modifyAttr_sameMemory (f : DevShadowAttrib → DevShadowAttrib) :
    Alike Board.SameMemory (modifyAttr id f) (modifyAttr id f) Board.SameMemory Board.SameFlash :=
  Alike.modify fun b b' h => ⟨by simp [Board.setAttr, Board.attr, h.config], h.flash⟩

/-- From the same RAM, a copy past the end of its field makes the same of it. -/
theorem copyToStrVal_sameMemory (src : List UInt8) :
    Alike Board.SameMemory (copyToStrVal P id src) (copyToStrVal P id src) Board.SameMemory
      Board.SameFlash := by
  unfold copyToStrVal
  refine (logEffect_sameMemory _).bind fun _ => ?_
  refine Alike.ite (fun _ => modifyAttr_sameMemory _) fun _ => Alike.modify fun b b' h => ?_
  exact ⟨congrArg (P.spill · id src) h.config, h.flash⟩

theorem loadContents_sameMemory (fileContents : CBuf 256) :
    Alike Board.SameMemory (loadContents P id fileContents) (loadContents P id fileContents)
      Board.SameMemory Board.SameFlash := by
  refine Alike.get_bind fun b b' h => ?_
  rintro _ _ ⟨rfl, rfl⟩
  rw [← h.store.attr]
  refine Alike.ite (fun _ => modifyAttr_sameMemory _) (fun _ => ?_) _ _ h
  refine Alike.ite (fun _ => modifyAttr_sameMemory _) (fun _ => ?_)
  exact Alike.ite (fun _ => copyToStrVal_sameMemory _) fun _ => Alike.pure fun _ _ h => h

/-- Both boards read the whole file, or neither reads it. -/
theorem readFile_both {n : Nat} (h : b.SameStore b') (buf : CBuf n) (name : String) :
    (∃ e, (readFile P buf name).run b = .error e b ∧ (readFile P buf name).run b' = .error e b') ∨
    ∃ content, b.flash name = some content ∧
      (readFile P buf name).run b = .ok (((min n content.length : Nat) : Int), buf.blit content) b ∧
      (readFile P buf name).run b'
        = .ok (((min n content.length : Nat) : Int), buf.blit content) b' := by
  have hblind : Blind (readFile P buf name) := readFile_blind buf
  rcases hblind b b' h with ⟨a, c, c', hrun, hrun', -⟩ | ⟨e, c, c', hrun, hrun', -⟩
  · right
    rcases readFile_cases (P := P) buf name b with ⟨e, herror, -⟩ | ⟨content, hcontent, hok⟩
    · rw [herror] at hrun
      cases hrun
    · rcases readFile_cases (P := P) buf name b' with ⟨e, herror, -⟩ | ⟨content', hcontent', hok'⟩
      · rw [herror] at hrun'
        cases hrun'
      · rw [← h.flash, hcontent] at hcontent'
        cases hcontent'
        exact ⟨content, hcontent, hok, hok'⟩
  · left
    rcases readFile_cases (P := P) buf name b with ⟨e₁, herror, -⟩ | ⟨content, -, hok⟩
    · rcases readFile_cases (P := P) buf name b' with ⟨e₂, herror', -⟩ | ⟨content, -, hok⟩
      · rw [herror] at hrun
        rw [herror'] at hrun'
        cases hrun
        cases hrun'
        exact ⟨e, herror, herror'⟩
      · rw [hok] at hrun'
        cases hrun'
    · rw [hok] at hrun
      cases hrun

/-- A round of the loading loop: what becomes of the contents decides. -/
theorem loadAttrib_of_contents {post : Board → Board → Prop} (h : b.SameStore b')
    (hskip : post b b') (hload : id ≠ .iccid → ∀ content,
      b.flash (b.attr id).filename = some content →
      Alike (fun c c' => c = b ∧ c' = b') (loadContents P id (fileBuf content))
        (loadContents P id (fileBuf content)) post Board.SameFlash) :
    Alike (fun c c' => c = b ∧ c' = b') (loadAttrib P id) (loadAttrib P id) post
      Board.SameFlash := by
  rintro c c' ⟨rfl, rfl⟩
  unfold loadAttrib
  by_cases hid : id = .iccid
  · rw [if_neg (not_not.2 hid)]
    exact Or.inl ⟨(), c, c', rfl, rfl, hskip⟩
  rw [if_pos hid, run_bind_ok (EStateM.run_get c), run_bind_ok (EStateM.run_get c'), ← h.attr]
  rcases readFile_both (P := P) h (CBuf.zero 256) (c.attr id).filename with
    ⟨e, hrun, hrun'⟩ | ⟨content, hcontent, hrun, hrun'⟩
  · rw [run_bind_error hrun, run_bind_error hrun']
    exact Or.inr ⟨e, c, c', rfl, rfl, h.flash⟩
  · rw [run_bind_ok hrun, run_bind_ok hrun']
    dsimp only
    rw [if_pos (Int.natCast_nonneg _)]
    exact hload hid content hcontent c c' ⟨rfl, rfl⟩

/-- What a boot makes of the files depends on nothing else. -/
theorem configDevShadowAttribInit_sameMemory :
    Alike Board.SameMemory (configDevShadowAttribInit P) (configDevShadowAttribInit P)
      Board.SameMemory Board.SameFlash := by
  have hdefaults : Alike Board.SameMemory setDefaults setDefaults Board.SameMemory
      Board.SameFlash := by
    intro b b' h
    refine Or.inl ⟨(), _, _, setDefaults_run b, setDefaults_run b', ⟨?_, h.flash⟩⟩
    simp [Board.withDefaults, Board.attr, h.config]
  have hload : ∀ id, Alike Board.SameMemory (loadAttrib P id) (loadAttrib P id) Board.SameMemory
      Board.SameFlash := by
    intro id b b' h
    refine loadAttrib_of_contents h.store h (fun _ content _ => ?_) b b' ⟨rfl, rfl⟩
    rintro c c' ⟨rfl, rfl⟩
    exact loadContents_sameMemory _ c c' h
  exact hdefaults.bind fun _ => Alike.forM fun id _ => hload id

/-! ## Whole runs -/

/-- The same store, and the same cJSON objects on the heap. -/
structure Device.SameStore (d d' : Device) : Prop where
  board : d.board.SameStore d'.board
  outstanding : d.outstanding = d'.outstanding

variable {d d' e : Device}

theorem Device.SameStore.symm (h : d.SameStore d') : d'.SameStore d :=
  ⟨h.board.symm, h.outstanding.symm⟩

theorem Device.SameStore.trans (h : d.SameStore d') (h' : d'.SameStore e) : d.SameStore e :=
  ⟨h.board.trans h'.board, h.outstanding.trans h'.outstanding⟩

theorem bootFrom_sameStore (h : b.SameFlash b') (hboot : bootFrom P b = some d) :
    ∃ d', bootFrom P b' = some d' ∧ d.SameStore d' := by
  have hpowered : b.powerCycle.SameMemory b'.powerCycle := ⟨rfl, h⟩
  unfold bootFrom at hboot ⊢
  rcases configDevShadowAttribInit_sameMemory (P := P) b.powerCycle b'.powerCycle hpowered with
    ⟨u, c, c', hrun, hrun', hsame⟩ | ⟨e, c, c', hrun, hrun', -⟩
  · rw [hrun] at hboot
    cases hboot
    rw [hrun']
    exact ⟨_, rfl, hsame.store, rfl⟩
  · rw [hrun] at hboot
    cases hboot

theorem onBoard_alike {α : Type} {m : Fw α} (h : Blind m) :
    Alike Device.SameStore (onBoard m) (onBoard m) Device.SameStore
      fun d d' => d.board.SameFlash d'.board :=
  Alike.zoom h (fun _ _ hd => hd.board) (fun _ _ _ _ hd hb => ⟨hb, hd.outstanding⟩)
    fun _ _ _ _ _ hb => hb

theorem awsDecodeShadowMsg_alike (msg : List UInt8) :
    Alike Device.SameStore (awsDecodeShadowMsg P msg) (awsDecodeShadowMsg P msg) Device.SameStore
      fun d d' => d.board.SameFlash d'.board := by
  have hheap : ∀ f : List CJsonObj → List CJsonObj, Alike Device.SameStore
      (modify fun d => { d with outstanding := f d.outstanding } : DevM PUnit)
      (modify fun d => { d with outstanding := f d.outstanding }) Device.SameStore
      fun d d' => d.board.SameFlash d'.board := fun f =>
    Alike.modify fun _ _ h => ⟨h.board, congrArg f h.outstanding⟩
  have hdelete : ∀ root, Alike Device.SameStore (cJsonDelete root) (cJsonDelete root)
      Device.SameStore fun d d' => d.board.SameFlash d'.board := fun root =>
    Alike.ite (fun _ => hheap fun l => l.erase .tree) fun _ => Alike.pure fun _ _ h => h
  have hparse : Alike Device.SameStore (cJsonParseWithLength P msg) (cJsonParseWithLength P msg)
      Device.SameStore fun d d' => d.board.SameFlash d'.board :=
    Alike.ite (fun _ => (hheap (.tree :: ·)).bind fun _ => Alike.pure fun _ _ h => h)
      fun _ => Alike.pure fun _ _ h => h
  unfold awsDecodeShadowMsg
  refine hparse.bind fun root => ?_
  refine Alike.ite (fun _ => ?_) fun _ => hdelete root
  cases shadowAttributes root with
  | none => exact hdelete root
  | some found =>
      exact (hheap (.text :: ·)).bind fun _ =>
        (onBoard_alike (awsDecodeShadowValues_blind found.1 found.2 true)).bind fun _ =>
          hdelete root

theorem ConfigOp.run_alike (op : ConfigOp) :
    Alike Device.SameStore (op.run P) (op.run P) Device.SameStore
      fun d d' => d.board.SameFlash d'.board := by
  cases op with
  | shadowMsg msg => exact awsDecodeShadowMsg_alike msg
  | saveAll => exact (onBoard_alike configSaveAll_blind).discard
  | reboot => exact Alike.throw fun _ _ h => h.board.flash

/-- One operation, with the boot after an abort. -/
theorem configStep_sameStore (op : ConfigOp) (h : d.SameStore d')
    (hstep : configStep P d op = some e) : ∃ e', configStep P d' op = some e' ∧ e.SameStore e' := by
  unfold configStep at hstep ⊢
  rcases op.run_alike (P := P) d d' h with ⟨u, c, c', hrun, hrun', hsame⟩ |
    ⟨reason, c, c', hrun, hrun', hflash⟩
  · rw [hrun] at hstep
    cases hstep
    rw [hrun']
    exact ⟨c', rfl, hsame⟩
  · rw [hrun] at hstep
    rw [hrun']
    exact bootFrom_sameStore hflash hstep

theorem configRun_forward (h : d.SameStore d') (ops : List ConfigOp)
    (hrun : configRun P d ops = some e) :
    ∃ e', configRun P d' ops = some e' ∧ e.SameStore e' := by
  induction ops generalizing d d' with
  | nil =>
      cases hrun
      exact ⟨d', rfl, h⟩
  | cons op ops ih =>
      unfold configRun at hrun ⊢
      rw [List.foldlM_cons, Option.bind_eq_bind, Option.bind_eq_some_iff] at hrun
      obtain ⟨c, hstep, hrest⟩ := hrun
      obtain ⟨c', hstep', hsame⟩ := configStep_sameStore op h hstep
      rw [List.foldlM_cons, hstep']
      exact ih hsame hrest

/-- Whatever the platform, two devices with the same attribute table, the same files and the same
    heap go the same way through every sequence of messages, saves and reboots, to the end or up to
    the same boot loop. Identity, modem and history, in which they may differ, have no influence. -/
theorem configRun_sameStore (P : Platform) (d d' : Device) (h : d.SameStore d')
    (ops : List ConfigOp) :
    (configRun P d ops = none ∧ configRun P d' ops = none) ∨
    ∃ e e', configRun P d ops = some e ∧ configRun P d' ops = some e' ∧ e.SameStore e' := by
  cases hrun : configRun P d ops with
  | some e =>
      obtain ⟨e', hrun', hsame⟩ := configRun_forward h ops hrun
      exact Or.inr ⟨e, e', rfl, hrun', hsame⟩
  | none =>
      refine Or.inl ⟨rfl, ?_⟩
      cases hrun' : configRun P d' ops with
      | none => rfl
      | some e' =>
          obtain ⟨e, hrun'', -⟩ := configRun_forward h.symm ops hrun'
          rw [hrun] at hrun''
          cases hrun''

/-- Another device with the configuration of a new one. -/
def Board.otherIdentity : Board :=
  { Board.provisioned with
    config := { Board.provisioned.config with
      serialNumber := (CBuf.zero _).strcpy (ascii "LW3-0002")
      imei := (CBuf.zero _).strcpy (ascii "351358811334570") }
    modem := ⟨true⟩
    trace := [.appTypeChanged 2] }

theorem configRun_sameStore_identity :
    let P := Platform.ideal minuteText minuteTree
    let ops := [.shadowMsg minuteText, .reboot]
    (configRun P ⟨.provisioned, []⟩ ops = none ∧ configRun P ⟨.otherIdentity, []⟩ ops = none) ∨
    ∃ e e', configRun P ⟨.provisioned, []⟩ ops = some e ∧
      configRun P ⟨.otherIdentity, []⟩ ops = some e' ∧ e.SameStore e' :=
  configRun_sameStore (.ideal minuteText minuteTree) ⟨.provisioned, []⟩ ⟨.otherIdentity, []⟩
    ⟨⟨rfl, rfl⟩, rfl⟩ [.shadowMsg minuteText, .reboot]

end Levaware
