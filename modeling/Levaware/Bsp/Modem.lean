import Levaware.Lib.Bytes
import Levaware.Lib.Abort

set_option autoImplicit false

/-! # Aborts, and the modem's identities and events (`sys_wrapper.c`, `modem.c`)

`erabort`; `modem_get_imei` and `modem_get_iccid` as they call the modem information library; and
`pdn_event_handler`, which the PDN library calls. The libraries are not part of the repository:
`ModemLib` holds the answers of the first, and `modemInfoStringGet` the documented way it hands a
string to the caller. -/

namespace Levaware

/-- `erabort`: log the reason and reboot, never to return. -/
def erabort {σ α : Type} (reason : String) : EStateM String σ α := throw reason

/-! ## Modem queries -/

def imeiLen : Nat := 15 + 1

def iccidLen : Nat := 20 + 1

/-- The answers of the modem library: a return code (negative on failure) and the string read. -/
structure ModemLib where
  imei : Int × List UInt8
  iccid : Int × List UInt8
  /-- Return code of `AT+CFUN=41`, which powers the UICC. -/
  cfun41 : Int

/-- The modem state these queries touch: whether the UICC is powered. -/
structure UiccState where
  uiccActive : Bool
  deriving DecidableEq

def UiccState.off : UiccState := { uiccActive := false }

/-- `modem_info_string_get`: on success the string, cut to the buffer and NUL-terminated. -/
def modemInfoStringGet {n : Nat} (answer : Int × List UInt8) (buf : CBuf n) : Int × CBuf n :=
  if answer.1 < 0 then (answer.1, buf) else (answer.1, buf.strcpy (answer.2.take (n - 1)))

/-- `modem_get_imei`. -/
def modemGetImei {n : Nat} (M : ModemLib) (deviceImei : CBuf n) :
    EStateM String UiccState (CBuf n) := do
  let (ret, imei) := modemInfoStringGet M.imei deviceImei
  if ret < 0 then erabort "modem_get_imei"
  return imei

/-- `modem_get_iccid`: the UICC is powered for the query and switched off after it. -/
def modemGetIccid {n : Nat} (M : ModemLib) (iccidp : CBuf n) :
    EStateM String UiccState (CBuf n) := do
  if M.cfun41 ≠ 0 then erabort "modem.c: Failed activate UICC"
  modify fun m => { m with uiccActive := true }
  let (ret, iccid) := modemInfoStringGet M.iccid iccidp
  -- no ICCID usually means no SIM, which is no reason to abort
  let iccid := if ret < 0 then iccidp.strncpy (ascii "No UICC installed") n else iccid
  modify fun m => { m with uiccActive := false }
  return iccid

/-- A query that returns leaves the UICC off. -/
theorem modemGetIccid_off {n : Nat} {M : ModemLib} (h : M.cfun41 = 0) (iccidp : CBuf n)
    (uicc : UiccState) : ∃ iccid, (modemGetIccid M iccidp).run uicc = .ok iccid .off := by
  unfold modemGetIccid
  rw [h]
  exact ⟨_, rfl⟩

/-! ## PDN events -/

/-- The `PDN_EVENT_` codes, and those that a later SDK may add. -/
inductive PdnEvent where
  | cnecEsm | activated | deactivated | ipv6Up | ipv6Down
  | undefined (event : Nat)
  deriving DecidableEq, Repr

/-- `pdn_event_handler`: two of the events of a PDP context go on to the callback that
    `modem_init_apn_pdp_context` was given. The context id and the reason are only logged. -/
def pdnEventHandler {m : Type → Type} [Monad m] (pdpContextNotify : Bool → m Unit)
    (_cid : UInt8) (event : PdnEvent) (_reason : Int32) : m Unit :=
  match event with
  | .activated => pdpContextNotify true
  | .deactivated => pdpContextNotify false
  | .cnecEsm | .ipv6Up | .ipv6Down | .undefined _ => pure ()

end Levaware
