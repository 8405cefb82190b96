import Levaware.Config.Saving

set_option autoImplicit false

/-! # What loading at boot does

`config_dev_shadow_attrib_init` sets every attribute to its default and then reads the attribute
files in table order. A read either delivers the whole file or aborts, so on any file system a
completed run is exact: each attribute is its default overwritten by its file (`Flash.loaded`). The
one thing that can go wrong silently is a string file that does not fit its field;
`Flash.FitsWhenReached` rules it out for the files the loop gets to. -/

namespace Levaware

open Abort

/-! ## Reading is all or nothing -/

/-- The zero-filled buffer of the loader after a file has been read into it. -/
def fileBuf (content : List UInt8) : CBuf 256 := (CBuf.zero 256).blit content

theorem fileBuf_bytes {content : List UInt8} (h : content.length < 256) :
    (fileBuf content).bytes = content ++ 0 :: List.replicate (255 - content.length) 0 := by
  have hzero : (CBuf.zero 256).bytes.drop content.length
      = 0 :: List.replicate (255 - content.length) 0 := by
    show (List.replicate 256 (0 : UInt8)).drop content.length = _
    rw [List.drop_replicate, ← List.replicate_succ]
    congr 1
    omega
  rw [fileBuf, CBuf.blit_bytes _ h.le, hzero]

/-- The buffer ends the string where the file ends, or earlier. -/
theorem str_fileBuf {content : List UInt8} (h : content.length < 256) :
    (fileBuf content).str = cstr content := by
  rw [CBuf.str, fileBuf_bytes h, cstr_append_zero]

/-- A file short enough for a string field loads into it. -/
theorem str_fileBuf_fits {content : List UInt8} (h : content.length < strValLen) :
    (fileBuf content).str.length < strValLen := by
  have hshort : content.length < 128 := h
  rw [str_fileBuf (by omega)]
  exact lt_of_le_of_lt (cstr_length_le content) h

theorem readInt16_fileBuf (v : Int16) : readInt16 (fileBuf (int16Bytes v)).bytes = v := by
  rw [fileBuf_bytes (by simp), readInt16_int16Bytes]

theorem readInt32_fileBuf (v : Int32) : readInt32 (fileBuf (int32Bytes v)).bytes = v := by
  rw [fileBuf_bytes (by simp), readInt32_int32Bytes]

variable {P : Platform} {b b' : Board} {id : DevConfigShadowId}

theorem fsOpen_existing_cases (name : String) (b : Board) :
    (b.flash name = none ∧ (fsOpen P name false).run b = .ok (-enoent) b) ∨
    ∃ content, b.flash name = some content ∧
      (fsOpen P name false).run b = .ok (P.openRc name) b := by
  cases h : b.flash name with
  | none => exact Or.inl ⟨rfl, fsOpen_missing h⟩
  | some content => exact Or.inr ⟨content, rfl, by simp [fsOpen, h]⟩

/-- `read_file` aborts with the board untouched, or the file is there and has been read. On a
    reliable file system only a missing file makes it abort. -/
theorem readFile_cases {n : Nat} (buf : CBuf n) (name : String) (b : Board) :
    (∃ e, (readFile P buf name).run b = .error e b ∧ (P.FsReliable → b.flash name = none)) ∨
    ∃ content, b.flash name = some content ∧
      (readFile P buf name).run b
        = .ok (((min n content.length : Nat) : Int), buf.blit content) b := by
  unfold readFile
  rcases fsOpen_existing_cases (P := P) name b with ⟨hnone, hopen⟩ | ⟨content, hf, hopen⟩
  · left
    rw [run_bind_ok hopen, if_pos (by decide)]
    exact ⟨_, rfl, fun _ => hnone⟩
  · rw [run_bind_ok hopen]
    have hstat : (fsStat P name).run b = .ok (P.statRc name, content.length) b := by
      simp [fsStat, hf]
    by_cases ho : P.openRc name < 0
    · left
      rw [if_pos ho]
      exact ⟨_, rfl, fun hP => absurd ho (by simp [hP.openRc])⟩
    rw [if_neg ho, run_bind_ok hstat]
    by_cases hs : P.statRc name = 0
    · by_cases hr : P.readRc name < 0
      · left
        have hread : (fsRead P name buf).run b = .ok (P.readRc name, buf) b := by
          simp [fsRead, hr]
        simp only [hs, ne_eq, not_true_eq_false, if_false]
        rw [run_bind_ok hread, if_neg (by omega)]
        exact ⟨_, rfl, fun hP => absurd hr (by simp [hP.readRc])⟩
      · right
        have hread : (fsRead P name buf).run b
            = .ok (((min n content.length : Nat) : Int), buf.blit content) b := by
          simp [fsRead, hr, hf]
        refine ⟨content, hf, ?_⟩
        simp only [hs, ne_eq, not_true_eq_false, if_false]
        rw [run_bind_ok hread, if_pos (Int.natCast_nonneg _)]
        rfl
    · left
      simp only [ne_eq, hs, not_false_eq_true, if_true]
      exact ⟨_, rfl, fun hP => absurd (hP.statRc name) hs⟩

/-- Reading a file changes nothing. -/
theorem readFile_preserves {I J : Board → Prop} (h : ∀ b, I b → J b) {n : Nat} (buf : CBuf n)
    (name : String) : Preserves I J (readFile P buf name) := by
  intro b hb
  rcases readFile_cases (P := P) buf name b with ⟨e, hrun, -⟩ | ⟨content, -, hrun⟩
  · rw [hrun]
    exact h b hb
  · rw [hrun]
    exact hb

/-! ## Fitting copies -/

/-- A copy into a field, its terminator included, stays within the field. -/
def Effect.Fits : Effect → Prop
  | .copied bytes capacity => bytes ≤ capacity
  | _ => True

instance (e : Effect) : Decidable e.Fits := by
  cases e <;> unfold Effect.Fits <;> infer_instance

/-- `b'` is `b` with other attribute values, reached through copies that all fit. -/
structure Board.LoadsTo (b b' : Board) : Prop where
  flash : b'.flash = b.flash
  modem : b'.modem = b.modem
  serialNumber : b'.config.serialNumber = b.config.serialNumber
  trace : ∃ copies, b'.trace = b.trace ++ copies ∧ ∀ e ∈ copies, e.Fits

theorem Board.LoadsTo.refl (b : Board) : b.LoadsTo b :=
  ⟨rfl, rfl, rfl, [], by simp, by simp⟩

theorem Board.LoadsTo.trans {b'' : Board} (h : b.LoadsTo b') (h' : b'.LoadsTo b'') :
    b.LoadsTo b'' := by
  obtain ⟨copies, htr, hfit⟩ := h.trace
  obtain ⟨copies', htr', hfit'⟩ := h'.trace
  refine ⟨h'.flash.trans h.flash, h'.modem.trans h.modem,
    h'.serialNumber.trans h.serialNumber, copies ++ copies', ?_, ?_⟩
  · rw [htr', htr, List.append_assoc]
  · intro e he
    rcases List.mem_append.1 he with he | he
    · exact hfit e he
    · exact hfit' e he

theorem Board.LoadsTo.setAttr (b : Board) (id : DevConfigShadowId) (a : DevShadowAttrib) :
    b.LoadsTo (b.setAttr id a) :=
  ⟨rfl, rfl, rfl, [], by simp, by simp⟩

theorem Board.LoadsTo.log (b : Board) {e : Effect} (he : e.Fits) : b.LoadsTo (b.log e) :=
  ⟨rfl, rfl, rfl, [e], rfl, by simpa using he⟩

/-! ## One attribute -/

/-- The attribute after its file's contents have been stored in it. -/
def DevShadowAttrib.loadFrom (a : DevShadowAttrib) (content : List UInt8) : DevShadowAttrib :=
  match a.valType with
  | .int16 => { a with int16Val := readInt16 (fileBuf content).bytes }
  | .int => { a with intVal := readInt32 (fileBuf content).bytes }
  | .string =>
      if 0 < (fileBuf content).str.length then
        { a with strVal := (CBuf.zero _).strcpy (fileBuf content).str }
      else a
  | _ => a

@[simp] theorem valType_loadFrom (a : DevShadowAttrib) (content : List UInt8) :
    (a.loadFrom content).valType = a.valType := by
  unfold DevShadowAttrib.loadFrom
  split <;> first | rfl | (split <;> rfl)

@[simp] theorem filename_loadFrom (a : DevShadowAttrib) (content : List UInt8) :
    (a.loadFrom content).filename = a.filename := by
  unfold DevShadowAttrib.loadFrom
  split <;> first | rfl | (split <;> rfl)

@[simp] theorem isNewVal_loadFrom (a : DevShadowAttrib) (content : List UInt8) :
    (a.loadFrom content).isNewVal = a.isNewVal := by
  unfold DevShadowAttrib.loadFrom
  split <;> first | rfl | (split <;> rfl)

theorem setDefault_terminated (a : DevShadowAttrib) (id : DevConfigShadowId)
    (h : a.strVal.Terminated) : (a.setDefault id).strVal.Terminated := by
  cases id with
  | iccid | pubTopic | subTopic => exact CBuf.strcpy_terminated _ (by decide)
  | _ => exact h

theorem loadFrom_terminated {a : DevShadowAttrib} {content : List UInt8}
    (hfit : a.valType = .string → (fileBuf content).str.length < strValLen)
    (h : a.strVal.Terminated) : (a.loadFrom content).strVal.Terminated := by
  unfold DevShadowAttrib.loadFrom
  split
  · exact h
  · exact h
  · next hty =>
      split
      · exact CBuf.strcpy_terminated _ (hfit hty)
      · exact h
  · exact h

@[simp] theorem attr_setAttr (b : Board) (id : DevConfigShadowId) (a : DevShadowAttrib) :
    (b.setAttr id a).attr = Function.update b.attr id a := rfl

/-- A string with room for its terminator is copied as a whole. -/
theorem copyToStrVal_run (P : Platform) (b : Board) (id : DevConfigShadowId) {src : List UInt8}
    (h : src.length < strValLen) :
    ∃ b', (copyToStrVal P id src).run b = .ok () b' ∧ b.LoadsTo b' ∧
      b'.attr = Function.update b.attr id
        { b.attr id with strVal := (CBuf.zero _).strcpy src } := by
  refine ⟨(b.log (.copied (src.length + 1) strValLen)).setAttr id
    { b.attr id with strVal := (CBuf.zero _).strcpy src }, ?_, ?_, by simp⟩
  · simp [copyToStrVal, logEffect, modifyAttr, h]
  · have hfits : (Effect.copied (src.length + 1) strValLen).Fits := h
    exact (Board.LoadsTo.log b hfits).trans (.setAttr _ id _)

/-- Storing a file's contents: one case for each value type, as in the source. -/
theorem loadContents_run {content : List UInt8}
    (hfit : (b.attr id).valType = .string → (fileBuf content).str.length < strValLen) :
    ∃ b', (loadContents P id (fileBuf content)).run b = .ok () b' ∧ b.LoadsTo b' ∧
      b'.attr = Function.update b.attr id ((b.attr id).loadFrom content) := by
  have hself : Function.update b.attr id (b.attr id) = b.attr := Function.update_eq_self id _
  unfold loadContents
  rw [run_bind_ok (EStateM.run_get b)]
  cases hty : (b.attr id).valType with
  | int16 =>
      refine ⟨b.setAttr id { b.attr id with int16Val := readInt16 (fileBuf content).bytes },
        by simp [modifyAttr, hty], .setAttr .., ?_⟩
      simp [DevShadowAttrib.loadFrom, hty]
  | int =>
      refine ⟨b.setAttr id { b.attr id with intVal := readInt32 (fileBuf content).bytes },
        by simp [modifyAttr, hty], .setAttr .., ?_⟩
      simp [DevShadowAttrib.loadFrom, hty]
  | string =>
      by_cases hlen : 0 < (fileBuf content).str.length
      · obtain ⟨b', hrun, hto, hattr⟩ := copyToStrVal_run P b id (hfit hty)
        refine ⟨b', ?_, hto, ?_⟩
        · rw [if_neg (by simp [hty]), if_neg (by simp [hty]), if_pos ⟨hty, hlen⟩]
          exact hrun
        · rw [hattr]
          simp [DevShadowAttrib.loadFrom, hty, hlen]
      · exact ⟨b, by simp [hty, hlen], .refl b, by simp [DevShadowAttrib.loadFrom, hty, hlen]⟩
  | num | invalid =>
      exact ⟨b, by simp [hty], .refl b, by simp [DevShadowAttrib.loadFrom, hty]⟩

/-! ## The loading loop -/

/-- The file of the attribute, if any, holds a string that fits its field. -/
def Flash.StringFits (fl : Flash) (id : DevConfigShadowId) : Prop :=
  id.valType = .string → ∀ content, fl id.fileName = some content →
    (fileBuf content).str.length < strValLen

/-- The string files fit, as far as the loading loop gets: it stops at the first missing file. -/
def Flash.FitsWhenReached (fl : Flash) : Prop :=
  ∀ id : DevConfigShadowId, id ≠ .iccid →
    (∀ other : DevConfigShadowId, other ≠ .iccid → other.toNat < id.toNat →
      (fl other.fileName).isSome) → fl.StringFits id

/-- The attribute as `config_dev_shadow_attrib_init` leaves it, given its default. -/
def Flash.loaded (fl : Flash) (id : DevConfigShadowId) (a : DevShadowAttrib) : DevShadowAttrib :=
  if id = .iccid then a
  else match fl id.fileName with
    | some content => a.loadFrom content
    | none => a

theorem loaded_of_some {fl : Flash} {id : DevConfigShadowId} {content : List UInt8}
    (hid : id ≠ .iccid) (h : fl id.fileName = some content) (a : DevShadowAttrib) :
    fl.loaded id a = a.loadFrom content := by
  unfold Flash.loaded
  rw [if_neg hid, h]

/-- One round of the loop, on any file system: it stops with the board as it was, or the file was
    there and the attribute has been loaded from it. -/
theorem loadAttrib_run (hfn : (b.attr id).filename = id.fileName)
    (hty : (b.attr id).valType = id.valType) (hfit : id ≠ .iccid → b.flash.StringFits id) :
    (∃ e, (loadAttrib P id).run b = .error e b ∧ id ≠ .iccid ∧
      (P.FsReliable → b.flash id.fileName = none)) ∨
    ∃ b', (loadAttrib P id).run b = .ok () b' ∧ b.LoadsTo b' ∧
      (id ≠ .iccid → (b.flash id.fileName).isSome) ∧
      b'.attr = Function.update b.attr id (b.flash.loaded id (b.attr id)) := by
  unfold loadAttrib
  by_cases hid : id = .iccid
  · right
    refine ⟨b, by simp [hid], .refl b, fun h => absurd hid h, ?_⟩
    simp [Flash.loaded, hid]
  rw [if_pos hid, run_bind_ok (EStateM.run_get b), hfn]
  rcases readFile_cases (P := P) (CBuf.zero 256) id.fileName b with ⟨e, hread, hP⟩ | ⟨c, hf, hread⟩
  · left
    rw [run_bind_error hread]
    exact ⟨e, rfl, hid, hP⟩
  · right
    obtain ⟨b', hrun, hto, hattr⟩ := loadContents_run (P := P) (b := b)
      (fun h => hfit hid (hty ▸ h) c hf)
    refine ⟨b', ?_, hto, fun _ => by simp [hf], ?_⟩
    · rw [run_bind_ok hread]
      dsimp only
      rw [if_pos (Int.natCast_nonneg _)]
      exact hrun
    · simp [hattr, Flash.loaded, hid, hf]

/-- The table order is the order of the enumerators. -/
theorem DevConfigShadowId.mem_of_toNat_lt {done rest : List DevConfigShadowId}
    {id other : DevConfigShadowId} (hall : DevConfigShadowId.all = done ++ id :: rest)
    (h : other.toNat < id.toNat) : other ∈ done := by
  have hsorted : (done ++ id :: rest).Pairwise (fun i j => i.toNat < j.toNat) := by
    rw [← hall]
    decide
  have hmem : other ∈ done ++ id :: rest := hall ▸ DevConfigShadowId.mem_all other
  rcases List.mem_append.1 hmem with hd | hr
  · exact hd
  · have hlater := (List.pairwise_append.1 hsorted).2.1
    rcases List.mem_cons.1 hr with rfl | hrest
    · exact absurd h (lt_irrefl _)
    · exact absurd ((List.pairwise_cons.1 hlater).1 other hrest) (by omega)

/-- After the rounds in `done`: those attributes are loaded, their files were there, and the other
    attributes still have their defaults `d`. -/
structure LoadInv (b₀ : Board) (done : List DevConfigShadowId) (b : Board) : Prop where
  loadsTo : b₀.LoadsTo b
  present : ∀ id ∈ done, id ≠ .iccid → (b₀.flash id.fileName).isSome
  attr : ∀ id, b.attr id = if id ∈ done then b₀.flash.loaded id (b₀.attr id) else b₀.attr id

/-- What a loop that aborted leaves: nothing but fitting copies, and a file is missing unless the
    file system failed. -/
structure LoadStop (P : Platform) (b₀ b : Board) : Prop where
  loadsTo : b₀.LoadsTo b
  missing : P.FsReliable → ∃ id : DevConfigShadowId, id ≠ .iccid ∧ b₀.flash id.fileName = none

theorem loadLoop_triple {b₀ : Board} (hT : b₀.TableOk) (hfit : b₀.flash.FitsWhenReached) :
    Triple (fun b => b = b₀) (DevConfigShadowId.all.forM (loadAttrib P))
      (fun _ => LoadInv b₀ DevConfigShadowId.all) (fun _ => LoadStop P b₀) := by
  refine (Triple.forM (I := LoadInv b₀) fun done id rest hall b hb => ?_).conseq ?_
    (fun _ _ h => h) (fun _ _ h => h)
  · have hnot : id ∉ done := by
      have hnodup := DevConfigShadowId.nodup_all
      rw [hall] at hnodup
      exact fun h => (List.nodup_append.1 hnodup).2.2 id h id (List.mem_cons_self ..) rfl
    have hattr : b.attr id = b₀.attr id := by rw [hb.attr, if_neg hnot]
    have hfits : id ≠ .iccid → b.flash.StringFits id := by
      rw [hb.loadsTo.flash]
      exact fun hid => hfit id hid fun other hother hlt =>
        hb.present other (DevConfigShadowId.mem_of_toNat_lt hall hlt) hother
    rcases loadAttrib_run (P := P) (by rw [hattr, hT.filename]) (by rw [hattr, hT.valType]) hfits
      with ⟨e, hrun, hne, hmiss⟩ | ⟨b', hrun, hto, hpres, hupd⟩
    · rw [hrun]
      exact ⟨hb.loadsTo, fun hP => ⟨id, hne, hb.loadsTo.flash ▸ hmiss hP⟩⟩
    · rw [hrun]
      refine ⟨hb.loadsTo.trans hto, ?_, ?_⟩
      · intro i hi hne
        rcases List.mem_append.1 hi with hi | hi
        · exact hb.present i hi hne
        · rw [List.mem_singleton] at hi
          subst hi
          rw [← hb.loadsTo.flash]
          exact hpres hne
      · intro i
        rw [hupd, hb.loadsTo.flash]
        by_cases hi : i = id
        · subst hi
          simp [hattr]
        · simp [hb.attr, hi]
  · rintro b rfl
    exact ⟨.refl b, by simp, fun id => by simp⟩

/-! ## The whole initialization -/

/-- The attribute table after the compiled-in defaults have been set. -/
def Board.withDefaults (b : Board) : Board :=
  { b with
    config := { b.config with devShadowAttrib := fun id => (b.attr id).setDefault id }
    trace := b.trace ++ [.copied (iccidDefaultVal.length + 1) strValLen,
      .copied (pubTopicDefaultVal.length + 1) strValLen,
      .copied (subTopicDefaultVal.length + 1) strValLen] }

/-- The compiled-in values, before anything has been written to flash. -/
def Board.factory : Board :=
  { config := .cleared, flash := fun _ => none, modem := .off, trace := [] : Board }.withDefaults

theorem setDefaults_run (b : Board) : setDefaults.run b = .ok () b.withDefaults := by
  simp [setDefaults, logEffect, Board.log, Board.withDefaults]

/-- The compiled-in strings fit their fields. -/
theorem Board.LoadsTo.withDefaults (b : Board) : b.LoadsTo b.withDefaults :=
  ⟨rfl, rfl, rfl, _, rfl, by decide⟩

theorem Board.tableOk_withDefaults (b : Board) : b.withDefaults.TableOk :=
  ⟨fun _ => rfl, fun _ => rfl⟩

/-- Loading a file leaves the type and the name of an attribute alone. -/
theorem loaded_table (fl : Flash) (id : DevConfigShadowId) (a : DevShadowAttrib) :
    (fl.loaded id a).valType = a.valType ∧ (fl.loaded id a).filename = a.filename := by
  unfold Flash.loaded
  split
  · exact ⟨rfl, rfl⟩
  · split
    · exact ⟨valType_loadFrom a _, filename_loadFrom a _⟩
    · exact ⟨rfl, rfl⟩

/-- What `config_dev_shadow_attrib_init` leaves when it completes: every file was there, and every
    attribute is its default overwritten by its file. -/
structure Board.Booted (b₀ b : Board) : Prop where
  loadsTo : b₀.LoadsTo b
  present : ∀ id : DevConfigShadowId, id ≠ .iccid → (b₀.flash id.fileName).isSome
  attr : ∀ id, b.attr id = b₀.flash.loaded id ((b₀.attr id).setDefault id)

theorem Board.Booted.tableOk {b₀ b : Board} (h : b₀.Booted b) : b.TableOk := by
  constructor
  · intro id
    rw [h.attr, (loaded_table b₀.flash id _).1]
    rfl
  · intro id
    rw [h.attr, (loaded_table b₀.flash id _).2]
    rfl

/-- Nothing waits to be saved after a boot. -/
theorem Board.Booted.clean {b₀ b : Board} (h : b₀.Booted b) (id : DevConfigShadowId) :
    (b.attr id).isNewVal = false := by
  have hdefault : ((b₀.attr id).setDefault id).isNewVal = false := rfl
  rw [h.attr, Flash.loaded]
  split
  · exact hdefault
  · split
    · rw [isNewVal_loadFrom, hdefault]
    · exact hdefault

theorem configDevShadowAttribInit_triple {b₀ : Board} (hfit : b₀.flash.FitsWhenReached) :
    Triple (fun b => b = b₀) (configDevShadowAttribInit P)
      (fun _ => b₀.Booted) (fun _ => LoadStop P b₀) := by
  have hto := Board.LoadsTo.withDefaults b₀
  have hloop := loadLoop_triple (P := P) b₀.tableOk_withDefaults hfit
  have hdef : Triple (fun b => b = b₀) setDefaults (fun _ b => b = b₀.withDefaults)
      (fun _ => LoadStop P b₀) := by
    rintro b rfl
    rw [setDefaults_run]
  refine hdef.bind fun _ => hloop.conseq (fun _ h => h) (fun _ b hb => ?_) (fun _ b hb => ?_)
  · refine ⟨hto.trans hb.loadsTo, fun id => hb.present id (DevConfigShadowId.mem_all id), ?_⟩
    intro id
    rw [hb.attr, if_pos (DevConfigShadowId.mem_all id)]
    rfl
  · exact ⟨hto.trans hb.loadsTo, hb.missing⟩

/-- The files `config_dev_shadow_attrib_init` needs: none missing, and the strings fit. -/
structure Flash.Provisioned (fl : Flash) : Prop where
  present : ∀ id : DevConfigShadowId, id ≠ .iccid → (fl id.fileName).isSome
  fits : ∀ id : DevConfigShadowId, id ≠ .iccid → fl.StringFits id

/-- On a reliable file system with every file in place the initialization completes. -/
theorem configDevShadowAttribInit_run (hP : P.FsReliable) {b : Board}
    (hfl : b.flash.Provisioned) :
    ∃ b', (configDevShadowAttribInit P).run b = .ok () b' ∧ b.Booted b' := by
  have hreached : b.flash.FitsWhenReached := fun id hid _ => hfl.fits id hid
  have htriple := configDevShadowAttribInit_triple (P := P) hreached
  cases hrun : (configDevShadowAttribInit P).run b with
  | ok u b' => exact ⟨b', rfl, htriple.ok rfl hrun⟩
  | error e b' =>
      obtain ⟨id, hid, hnone⟩ := (htriple.error rfl hrun).missing hP
      exact absurd (hfl.present id hid) (by simp [hnone])

end Levaware
