import Levaware.Encoding.CJson
import Levaware.Config.Datastore

set_option autoImplicit false

/-! # What the firmware is linked against

The configuration code calls Zephyr's file system, the modem library and cJSON, and some of its
expressions mean what the compiler decides. `Platform` gathers all of it; the model is a function
of it and each result names the part of it that it relies on. -/

namespace Levaware

structure Platform where
  /-- Return code of `fs_mount`. -/
  mountRc : Int
  /-- Return code of `fs_open` on a file that is there or may be created. -/
  openRc : String → Int
  /-- Return code of `fs_stat` on a file that is there. -/
  statRc : String → Int
  truncateRc : String → Int
  /-- Return code of `fs_read` when negative; otherwise all bytes there for the buffer are read. -/
  readRc : String → Int
  /-- Return code of `fs_write`, given how many bytes are to be written: it may write fewer. -/
  writeRc : String → Nat → Int
  modem : ModemLib
  /-- `cJSON_ParseWithLength`; `none` is `NULL`. -/
  parseWithLength : List UInt8 → Option CJson
  /-- What RAM holds after a `strcpy` of that string has run past the end of the `str_val` of that
      attribute. -/
  spill : DeviceConfig → DevConfigShadowId → List UInt8 → DeviceConfig
  /-- Whether an enumeration takes the smallest type that holds it (`-fshort-enums`). -/
  shortEnums : Bool
  /-- Whether plain `char` is signed. -/
  charSigned : Bool

namespace Platform

/-- The file system calls succeed in full. -/
structure FsReliable (P : Platform) : Prop where
  openRc : ∀ f, P.openRc f = 0
  statRc : ∀ f, P.statRc f = 0
  truncateRc : ∀ f, P.truncateRc f = 0
  readRc : ∀ f, P.readRc f = 0
  writeRc : ∀ f n, P.writeRc f n = n

/-- The file system mounts and the modem answers the two boot-time commands that are fatal when
    they fail. -/
structure BootReady (P : Platform) : Prop where
  mountRc : 0 ≤ P.mountRc
  imei : 0 ≤ P.modem.imei.1
  cfun41 : P.modem.cfun41 = 0

/-- `(enum e)v` for an enumeration without negative enumerators: the value in its unsigned type. -/
def toEnum (P : Platform) (v : Int32) : Nat :=
  (v.toInt % (if P.shortEnums then 2 ^ 8 else 2 ^ 32)).toNat

/-- `(int16_t)c` for a plain `char`. -/
def charToInt16 (P : Platform) (c : UInt8) : Int16 :=
  if P.charSigned then c.toInt8.toInt16 else c.toUInt16.toInt16

/-- A platform on which every call succeeds, with the enumerations and the `char` of the target's
    ABI. `parseWithLength` knows one text. -/
def ideal (text : List UInt8) (tree : CJson) : Platform where
  mountRc := 0
  openRc _ := 0
  statRc _ := 0
  truncateRc _ := 0
  readRc _ := 0
  writeRc _ n := n
  modem := ⟨(15, ascii "351358811334569"), (19, ascii "8901260852390088291"), 0⟩
  parseWithLength msg := if msg = text then some tree else none
  spill config _ _ := config
  shortEnums := true
  charSigned := false

theorem ideal_reliable (text : List UInt8) (tree : CJson) : (ideal text tree).FsReliable :=
  ⟨fun _ => rfl, fun _ => rfl, fun _ => rfl, fun _ => rfl, fun _ _ => rfl⟩

theorem ideal_bootReady (text : List UInt8) (tree : CJson) : (ideal text tree).BootReady :=
  ⟨le_refl 0, Int.natCast_nonneg 15, rfl⟩

end Platform

end Levaware
