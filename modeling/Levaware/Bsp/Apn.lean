import Levaware.Bsp.Modem

set_option autoImplicit false

/-! # The APN of the SIM (`modem.c`)

At start-up `lte_connect_init` reads the ICCID and then has `modem_init_apn_pdp_context` look up the
APN by the first characters of the IMSI. `modem_get_iccid` ends with `AT+CFUN=40`, so the SIM is
off when the IMSI is asked for: the look-up goes by what `imsi_str` held before
(`apn_selection_iff`). -/

namespace Levaware

open Abort

/-! ## The look-up table -/

/-- `LTE_APN_LEN`. -/
def lteApnLen : Nat := 63 + 1

/-- `LTE_IMSI_LEN`. -/
def lteImsiLen : Nat := 15 + 1

/-- `DEFAULT_CONTEXT_CID`. -/
def defaultContextCid : Nat := 0

/-- `MCCMNC_LEN`. -/
def mccmncLen : Nat := 6

/-- `enum pdn_fam`. -/
inductive PdnFam where
  | ipv4 | ipv6 | ipv4v6
  deriving DecidableEq, Repr

/-- `struct pdn_context_definition`. The MCC/MNC characters have no NUL after them, the APN has. -/
structure PdnContextDefinition where
  mccmncCharacters : List UInt8
  length_eq : mccmncCharacters.length = mccmncLen
  apnStr : CBuf lteApnLen
  terminated : apnStr.Terminated
  pdntype : PdnFam

/-- A row written as in the initializer of the table. -/
def PdnContextDefinition.row (mccmnc apn : String) (pdntype : PdnFam)
    (hmccmnc : (ascii mccmnc).length = mccmncLen := by decide)
    (hapn : (ascii apn).length < lteApnLen := by decide) : PdnContextDefinition where
  mccmncCharacters := ascii mccmnc
  length_eq := hmccmnc
  apnStr := (CBuf.zero _).strcpy (ascii apn)
  terminated := CBuf.strcpy_terminated _ hapn
  pdntype := pdntype

/-- `apn_lookup_table`. -/
def apnLookupTable : List PdnContextDefinition :=
  [.row "302610" "bell-example.apn" .ipv4v6,
   .row "302720" "m2minternet.apn" .ipv4v6,
   .row "310370" "m2m.com.attz" .ipv4v6,
   .row "302221" "telus-example.apn" .ipv4]

/-! ## The modem -/

/-- The IMSI of a SIM: MCC, MNC and a subscriber number, at most fifteen digits in all. -/
structure Imsi where
  digits : List UInt8
  noNul : (0 : UInt8) ∉ digits
  mccmnc : mccmncLen ≤ digits.length
  length_lt : digits.length < lteImsiLen

/-- The first six characters. -/
def Imsi.mccmncCharacters (imsi : Imsi) : List UInt8 := imsi.digits.take mccmncLen

/-- A packet data context as `pdn_ctx_configure` is told to set it up. -/
structure PdnContext where
  cid : Nat
  apn : List UInt8
  family : PdnFam
  deriving DecidableEq, Repr

/-- The libraries that the start-up of the link calls, with their return codes. -/
structure LteLib where
  modem : ModemLib
  imsi : Imsi
  /-- What the query for the IMSI returns while the SIM is off. -/
  imsiError : Int
  imsiError_neg : imsiError < 0
  modemInfoInit : Int
  /-- `AT+CNEC=16`. -/
  cnec : Int
  /-- `AT+CGEREP=1`. -/
  cgerep : Int
  pdnInit : Int
  pdnDefaultCallbackSet : Int
  pdnCtxConfigure : Int

/-- The static variables of `modem.c`, the SIM and the contexts configured so far. `κ` stands for
    the callbacks. -/
structure ModemVars (κ : Type) where
  uicc : UiccState
  apnStr : CBuf lteApnLen
  pdnFamily : PdnFam
  imsiStr : CBuf lteImsiLen
  pdpContextNotify : Option κ
  contexts : List PdnContext

variable {κ : Type}

/-- The variables as the start-up of the program clears them. -/
def ModemVars.boot (uicc : UiccState) : ModemVars κ where
  uicc := uicc
  apnStr := CBuf.zero _
  pdnFamily := .ipv4
  imsiStr := CBuf.zero _
  pdpContextNotify := none
  contexts := []

variable (L : LteLib) (table : List PdnContextDefinition)

/-- The answer to `MODEM_INFO_IMSI`: the SIM has to be on. -/
def LteLib.imsiAnswer (uicc : UiccState) : Int × List UInt8 :=
  if uicc.uiccActive then (L.imsi.digits.length, L.imsi.digits) else (L.imsiError, [])

/-- The loop of `modem_lookup_apn`, from the entry `i` on; `found` is the flag `match`. -/
def lookupLoop (imsiStr : CBuf lteImsiLen) (i : Nat) (found : Bool)
    (pdn : Option PdnContextDefinition) : Bool × Option PdnContextDefinition :=
  if h : i < table.length ∧ found = false then
    let pdn := table.get ⟨i, h.1⟩
    lookupLoop imsiStr (i + 1) (imsiStr.bytes.take mccmncLen = pdn.mccmncCharacters) pdn
  else (found, pdn)
termination_by table.length - i

/-- `modem_lookup_apn`. The return code of the query is not looked at. -/
def modemLookupApn : EStateM String (ModemVars κ) Unit :=
  modify fun m =>
    let (_, imsiStr) := modemInfoStringGet (L.imsiAnswer m.uicc) m.imsiStr
    match lookupLoop table imsiStr 0 false none with
    | (true, some pdn) =>
        { m with imsiStr, apnStr := m.apnStr.strcpy pdn.apnStr.str, pdnFamily := pdn.pdntype }
    | _ => { m with imsiStr, apnStr := m.apnStr.strcpy (ascii "eseye1"), pdnFamily := .ipv4v6 }

/-- `modem_init_apn_pdp_context`. -/
def modemInitApnPdpContext (pdpChangeCallback : κ) : EStateM String (ModemVars κ) Unit := do
  modify fun m => { m with pdpContextNotify := some pdpChangeCallback }
  if L.cnec ≠ 0 then erabort "modem.c: failed at+cnec cmd"
  if L.cgerep ≠ 0 then erabort "modem.c:failed at_cgerep cmd"
  if L.pdnInit ≠ 0 then erabort "modem.c: failed pdn_init"
  if L.pdnDefaultCallbackSet ≠ 0 then erabort "modem.c: failed pdn_callback reg"
  modemLookupApn L table
  modify fun m => { m with
    contexts := m.contexts ++ [⟨defaultContextCid, m.apnStr.str, m.pdnFamily⟩] }
  if L.pdnCtxConfigure ≠ 0 then erabort "modem.c: failed pdn configure"

/-- `lte_connect_init` up to the set-up of the link controller; `iccid` is its buffer as it is on
    the stack. What follows leaves the contexts alone. -/
def lteConnectInitModem (iccid : CBuf iccidLen) (lteProcPdpStatus : κ) :
    EStateM String (ModemVars κ) Unit := do
  if L.modemInfoInit ≠ 0 then erabort "lte_connect: modem_info_init"
  let _iccid ← zoom ModemVars.uicc (fun uicc m => { m with uicc }) (modemGetIccid L.modem iccid)
  modemInitApnPdpContext L table lteProcPdpStatus

/-! ## The look-up -/

/-- The first row with the given characters. -/
def firstMatch (table : List PdnContextDefinition) (mccmnc : List UInt8) :
    Option PdnContextDefinition :=
  table.find? fun row => row.mccmncCharacters = mccmnc

/-- The default context for a SIM with the given characters: that of the first row with them, and
    Eseye's if there is none. -/
def apnFor (table : List PdnContextDefinition) (mccmnc : List UInt8) : PdnContext :=
  match firstMatch table mccmnc with
  | some row => ⟨defaultContextCid, row.apnStr.str, row.pdntype⟩
  | none => ⟨defaultContextCid, ascii "eseye1", .ipv4v6⟩

variable {L table} {imsiStr : CBuf lteImsiLen} {m : ModemVars κ}

theorem lookupLoop_found (i : Nat) (pdn : Option PdnContextDefinition) :
    lookupLoop table imsiStr i true pdn = (true, pdn) := by
  unfold lookupLoop
  rw [dif_neg (by simp)]

/-- Past the rows `done`, the loop finds the first match among the `rest`. -/
theorem lookupLoop_append (imsiStr : CBuf lteImsiLen) (rest done : List PdnContextDefinition)
    (pdn : Option PdnContextDefinition) :
    match firstMatch rest (imsiStr.bytes.take mccmncLen) with
    | some row => lookupLoop (done ++ rest) imsiStr done.length false pdn = (true, some row)
    | none => (lookupLoop (done ++ rest) imsiStr done.length false pdn).1 = false := by
  induction rest generalizing done pdn with
  | nil =>
      show (lookupLoop (done ++ []) imsiStr done.length false pdn).1 = false
      unfold lookupLoop
      rw [dif_neg (by simp)]
  | cons row rest ih =>
      have hrow : done.length < (done ++ row :: rest).length := by simp
      have hget : (done ++ row :: rest).get ⟨done.length, hrow⟩ = row := by simp
      have hstep : lookupLoop (done ++ row :: rest) imsiStr done.length false pdn
          = lookupLoop (done ++ row :: rest) imsiStr (done.length + 1)
            (imsiStr.bytes.take mccmncLen = row.mccmncCharacters) (some row) := by
        rw [lookupLoop, dif_pos ⟨hrow, rfl⟩, hget]
      by_cases hmatch : imsiStr.bytes.take mccmncLen = row.mccmncCharacters
      · have hfirst : firstMatch (row :: rest) (imsiStr.bytes.take mccmncLen) = some row :=
          List.find?_cons_of_pos (by simpa using hmatch.symm)
        rw [hfirst, hstep, decide_eq_true hmatch]
        exact lookupLoop_found _ _
      · have hrest : firstMatch (row :: rest) (imsiStr.bytes.take mccmncLen)
            = firstMatch rest (imsiStr.bytes.take mccmncLen) :=
          List.find?_cons_of_neg (by simpa using fun h => hmatch h.symm)
        have hih := ih (done ++ [row]) (some row)
        rw [List.length_append, List.length_singleton, List.append_assoc,
          List.singleton_append] at hih
        rw [hrest, hstep, decide_eq_false hmatch]
        exact hih

/-- What the look-up leaves in the cache, for an IMSI buffer with the characters `mccmnc`. -/
theorem modemLookupApn_run {mccmnc : List UInt8}
    (h : (modemInfoStringGet (L.imsiAnswer m.uicc) m.imsiStr).2.bytes.take mccmncLen = mccmnc) :
    ∃ m', (modemLookupApn L table).run m = .ok () m' ∧ m'.contexts = m.contexts ∧
      apnFor table mccmnc = ⟨defaultContextCid, m'.apnStr.str, m'.pdnFamily⟩ := by
  have hloop := lookupLoop_append (modemInfoStringGet (L.imsiAnswer m.uicc) m.imsiStr).2 table []
    none
  rw [h, List.nil_append, List.length_nil] at hloop
  refine ⟨_, EStateM.run_modify _ _, ?_⟩
  unfold apnFor
  -- the APN of a row and the fallback both fit the buffer
  cases hfirst : firstMatch table mccmnc with
  | some row =>
      rw [hfirst] at hloop
      have hstr : (m.apnStr.strcpy row.apnStr.str).str = row.apnStr.str :=
        CBuf.str_strcpy _ (row.apnStr.terminated_iff.1 row.terminated) (zero_notMem_cstr _)
      dsimp only
      rw [hloop]
      exact ⟨rfl, by rw [hstr]⟩
  | none =>
      rw [hfirst] at hloop
      have hstr : (m.apnStr.strcpy (ascii "eseye1")).str = ascii "eseye1" :=
        CBuf.str_strcpy _ (by decide) (by decide)
      dsimp only at hloop ⊢
      rw [← Prod.eta (lookupLoop _ _ _ _ _), hloop]
      exact ⟨rfl, by rw [hstr]⟩

/-- The search itself is right: with the SIM on, the IMSI decides. -/
theorem modemLookupApn_active (hactive : m.uicc.uiccActive = true) :
    ∃ m', (modemLookupApn L table).run m = .ok () m' ∧ m'.contexts = m.contexts ∧
      apnFor table L.imsi.mccmncCharacters
        = ⟨defaultContextCid, m'.apnStr.str, m'.pdnFamily⟩ := by
  refine modemLookupApn_run ?_
  have hanswer : L.imsiAnswer m.uicc
      = ((L.imsi.digits.length : Int), L.imsi.digits) := if_pos hactive
  have hwhole : L.imsi.digits.take (lteImsiLen - 1) = L.imsi.digits :=
    List.take_of_length_le (Nat.le_pred_of_lt L.imsi.length_lt)
  rw [hanswer, modemInfoStringGet, if_neg (by simp)]
  dsimp only
  rw [hwhole, CBuf.strcpy_bytes _ L.imsi.length_lt, List.take_append_of_le_length L.imsi.mccmnc]
  rfl

/-- With the SIM off the buffer keeps what it had. -/
theorem modemLookupApn_off (L : LteLib) (table : List PdnContextDefinition)
    (hoff : m.uicc = UiccState.off) :
    ∃ m', (modemLookupApn L table).run m = .ok () m' ∧ m'.contexts = m.contexts ∧
      apnFor table (m.imsiStr.bytes.take mccmncLen)
        = ⟨defaultContextCid, m'.apnStr.str, m'.pdnFamily⟩ := by
  refine modemLookupApn_run ?_
  have hanswer : L.imsiAnswer m.uicc = (L.imsiError, []) := by
    rw [hoff]
    rfl
  rw [hanswer, modemInfoStringGet, if_pos L.imsiError_neg]

/-! ## The start-up -/

/-- The libraries accept every step before the context is configured. The start-up checks each. -/
structure LteLib.StartsUp (L : LteLib) : Prop where
  modemInfoInit : L.modemInfoInit = 0
  cfun41 : L.modem.cfun41 = 0
  cnec : L.cnec = 0
  cgerep : L.cgerep = 0
  pdnInit : L.pdnInit = 0
  pdnDefaultCallbackSet : L.pdnDefaultCallbackSet = 0

/-- The context configured is that for the characters the IMSI buffer held before. -/
theorem modemInitApnPdpContext_contexts (hL : L.StartsUp) (callback : κ)
    (hoff : m.uicc = UiccState.off) :
    (final (modemInitApnPdpContext L table callback) m).contexts
      = m.contexts ++ [apnFor table (m.imsiStr.bytes.take mccmncLen)] := by
  rcases modemLookupApn_off L table (m := { m with pdpContextNotify := some callback }) hoff with
    ⟨m', hrun, hcontexts, hapn⟩
  unfold modemInitApnPdpContext
  rw [final_bind_ok (EStateM.run_modify _ _)]
  simp only [hL.cnec, hL.cgerep, hL.pdnInit, hL.pdnDefaultCallbackSet, ne_eq, not_true_eq_false,
    if_false]
  rw [final_bind_ok hrun, final_bind_ok (EStateM.run_modify _ _)]
  -- the call has been made by the time its return code is looked at
  by_cases herr : L.pdnCtxConfigure = 0
  · rw [if_neg (not_not_intro herr), hapn, ← hcontexts]
    rfl
  · rw [if_pos herr, hapn, ← hcontexts]
    rfl

theorem lteConnectInitModem_contexts (hL : L.StartsUp) (iccid : CBuf iccidLen) (callback : κ)
    (m : ModemVars κ) :
    (final (lteConnectInitModem L table iccid callback) m).contexts
      = m.contexts ++ [apnFor table (m.imsiStr.bytes.take mccmncLen)] := by
  rcases modemGetIccid_off hL.cfun41 iccid m.uicc with ⟨iccid', hiccid⟩
  have hzoom : (zoom ModemVars.uicc (fun uicc m => { m with uicc })
      (modemGetIccid L.modem iccid)).run m = .ok iccid' { m with uicc := .off } := by
    rw [run_zoom, hiccid]
  unfold lteConnectInitModem
  simp only [hL.modemInfoInit, ne_eq, not_true_eq_false, if_false]
  rw [final_bind_ok hzoom]
  exact modemInitApnPdpContext_contexts hL callback rfl

/-- The start-up configures one context, by the SIM. -/
def ConfiguresBySim (L : LteLib) (table : List PdnContextDefinition) (iccid : CBuf iccidLen)
    (uicc : UiccState) (callback : κ) : Prop :=
  (final (lteConnectInitModem L table iccid callback) (.boot uicc)).contexts
    = [apnFor table L.imsi.mccmncCharacters]

/-- The characters in the IMSI buffer as the start-up finds it. -/
def blankMccmnc : List UInt8 := List.replicate mccmncLen 0

theorem configuresBySim_iff (table : List PdnContextDefinition) (hL : L.StartsUp)
    (iccid : CBuf iccidLen) (uicc : UiccState) (callback : κ) :
    ConfiguresBySim L table iccid uicc callback ↔
      apnFor table blankMccmnc = apnFor table L.imsi.mccmncCharacters := by
  unfold ConfiguresBySim
  rw [lteConnectInitModem_contexts hL]
  exact List.singleton_inj

/-- A table without a row for an empty IMSI buffer has the fallback for it. -/
theorem apnFor_blank (h : ∀ row ∈ table, row.mccmncCharacters ≠ blankMccmnc) :
    apnFor table blankMccmnc = ⟨defaultContextCid, ascii "eseye1", .ipv4v6⟩ := by
  have hnone : firstMatch table blankMccmnc = none := by
    unfold firstMatch
    rw [List.find?_eq_none]
    simpa using h
  unfold apnFor
  rw [hnone]

theorem eq_apnFor_iff (mccmnc : List UInt8) :
    ⟨defaultContextCid, ascii "eseye1", .ipv4v6⟩ = apnFor table mccmnc ↔
      ∀ row, firstMatch table mccmnc = some row →
        row.apnStr.str = ascii "eseye1" ∧ row.pdntype = .ipv4v6 := by
  unfold apnFor
  cases firstMatch table mccmnc with
  | none => simp
  | some row => simp [eq_comm]

/-- The context configured is that of the SIM exactly if the table gives an empty IMSI buffer the
    same one: with no row for that, if the first row that matches the SIM, should there be one, is
    a copy of the fallback. -/
theorem apn_selection_iff (L : LteLib) (hL : L.StartsUp) (table : List PdnContextDefinition)
    (iccid : CBuf iccidLen) (uicc : UiccState) (callback : κ) :
    (ConfiguresBySim L table iccid uicc callback ↔
      apnFor table blankMccmnc = apnFor table L.imsi.mccmncCharacters) ∧
    ((∀ row ∈ table, row.mccmncCharacters ≠ blankMccmnc) →
      (ConfiguresBySim L table iccid uicc callback ↔
        ∀ row, firstMatch table L.imsi.mccmncCharacters = some row →
          row.apnStr.str = ascii "eseye1" ∧ row.pdntype = .ipv4v6)) := by
  have hiff := configuresBySim_iff table hL iccid uicc callback
  refine ⟨hiff, fun hblank => ?_⟩
  rw [hiff, apnFor_blank hblank]
  exact eq_apnFor_iff _

/-- A Rogers SIM in a modem that answers every call. -/
def rogersLib : LteLib where
  modem := { imei := (15, ascii "352656100000000"), iccid := (20, ascii "89302720401012345678"),
             cfun41 := 0 }
  imsi := ⟨ascii "302720123456789", by decide, by decide, by decide⟩
  imsiError := -5
  imsiError_neg := by decide
  modemInfoInit := 0
  cnec := 0
  cgerep := 0
  pdnInit := 0
  pdnDefaultCallbackSet := 0
  pdnCtxConfigure := 0

/-- The same modem with an Eseye SIM, whose characters are in no row. -/
def eseyeLib : LteLib :=
  { rogersLib with imsi := ⟨ascii "204047123456789", by decide, by decide, by decide⟩ }

theorem apn_selection_iff_eseye :
    ConfiguresBySim eseyeLib apnLookupTable (CBuf.zero _) .off () ∧
      apnFor apnLookupTable eseyeLib.imsi.mccmncCharacters
        = ⟨defaultContextCid, ascii "eseye1", .ipv4v6⟩ := by
  have hstarts : eseyeLib.StartsUp := ⟨rfl, rfl, rfl, rfl, rfl, rfl⟩
  have hiff := (apn_selection_iff eseyeLib hstarts apnLookupTable (CBuf.zero _) .off ()).1
  exact ⟨hiff.2 (by decide), by decide⟩

/-- A Rogers SIM, which has a row, is given the APN of Eseye. -/
theorem apn_selection_rogers :
    (final (lteConnectInitModem rogersLib apnLookupTable (CBuf.zero _) ()) (.boot .off)).contexts
      = [⟨defaultContextCid, ascii "eseye1", .ipv4v6⟩] ∧
    apnFor apnLookupTable rogersLib.imsi.mccmncCharacters
      = ⟨defaultContextCid, ascii "m2minternet.apn", .ipv4v6⟩ ∧
    ¬ ConfiguresBySim rogersLib apnLookupTable (CBuf.zero _) .off () := by
  have hstarts : rogersLib.StartsUp := ⟨rfl, rfl, rfl, rfl, rfl, rfl⟩
  refine ⟨?_, by decide, ?_⟩
  · rw [lteConnectInitModem_contexts hstarts]
    decide
  · rw [configuresBySim_iff _ hstarts]
    decide

end Levaware
