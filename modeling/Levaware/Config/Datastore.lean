import Levaware.Bsp.Modem
import Levaware.Lib.Abort
import Mathlib.Logic.Function.Basic

set_option autoImplicit false

/-! # The configuration datastore (`config.h`)

The attribute table, the device configuration kept in RAM, and the board the configuration code
runs on: RAM, the littlefs files and the modem. `erabort` reboots the device, so a firmware
routine is a state program that may stop for good (`Fw`); the state at the stop is what the reboot
finds. -/

namespace Levaware

/-! ## Sizes and compiled-in values -/

def serialNumberLen : Nat := 50

def strValLen : Nat := 128

def serialNumberFileName : String := "serial_number"

def daqIntervalDefaultValS : Int16 := 60

def pubIntervalDefaultValS : Int16 := 60

def configIntervalDefaultValS : Int16 := 60

def appTypeDefaultVal : Int16 := 1

def configVersionDefaultVal : Int32 := 0

def iccidDefaultVal : List UInt8 := ascii "000"

def pubTopicDefaultVal : List UInt8 := ascii "dt/00000000-0000-0000-0000-000000000000"

def subTopicDefaultVal : List UInt8 := ascii "sub_topic"

def daqIntervalMinimumS : Int32 := 1

def pubIntervalMinimumS : Int32 := 60

/-- `enum app_id_t`. -/
inductive AppId where
  | unknown | distance | motion | audio | hybrid | num | invalid
  deriving DecidableEq, Repr

/-- The value of the enumerator. -/
def AppId.toNat : AppId → Nat
  | .unknown => 0 | .distance => 1 | .motion => 2 | .audio => 3 | .hybrid => 4 | .num => 5
  | .invalid => 6

/-- `enum external_sensor`. -/
inductive ExternalSensor where
  | unknown | terabee | maxbotix | radar | num | invalid
  deriving DecidableEq, Repr

/-- The value of the enumerator. -/
def ExternalSensor.toNat : ExternalSensor → Nat
  | .unknown => 0 | .terabee => 1 | .maxbotix => 2 | .radar => 3 | .num => 4 | .invalid => 5

/-! ## The attribute table -/

/-- `enum dev_config_shadow_id_t`, the indices of the attribute table. -/
inductive DevConfigShadowId where
  | daqIntervalS | pubIntervalS | iccid | confUpdateIntervalS | sensorType | appType
  | confVersion | pubTopic | subTopic
  deriving DecidableEq, Repr

namespace DevConfigShadowId

/-- The value of the enumerator. -/
def toNat : DevConfigShadowId → Nat
  | .daqIntervalS => 0 | .pubIntervalS => 1 | .iccid => 2 | .confUpdateIntervalS => 3
  | .sensorType => 4 | .appType => 5 | .confVersion => 6 | .pubTopic => 7 | .subTopic => 8

/-- The indices in the order `for (idx = 0; idx < DEV_CONFIG_NUM; idx++)` visits them. -/
def all : List DevConfigShadowId :=
  [.daqIntervalS, .pubIntervalS, .iccid, .confUpdateIntervalS, .sensorType, .appType,
    .confVersion, .pubTopic, .subTopic]

theorem mem_all (id : DevConfigShadowId) : id ∈ all := by cases id <;> decide

theorem nodup_all : all.Nodup := by decide

end DevConfigShadowId

/-- `DEV_CONFIG_NUM`, the bound the accessors check their index against. -/
def devConfigNum : Nat := 9

theorem DevConfigShadowId.toNat_lt (id : DevConfigShadowId) : id.toNat < devConfigNum := by
  cases id <;> decide

/-- `enum dev_config_val_type_t`. -/
inductive DevConfigValType where
  | int16 | int | string | num | invalid
  deriving DecidableEq, Repr

/-- `struct dev_shadow_attrib_t`. Only compiled-in names are ever copied to `filename`, so it is
    kept as the text itself. -/
structure DevShadowAttrib where
  devConfShadowId : DevConfigShadowId
  valType : DevConfigValType
  int16Val : Int16
  intVal : Int32
  strVal : CBuf strValLen
  isNewVal : Bool
  filename : String
  deriving DecidableEq

/-- `struct device_config_t`. -/
structure DeviceConfig where
  serialNumber : CBuf serialNumberLen
  imei : CBuf imeiLen
  iccid : CBuf iccidLen
  devShadowAttrib : DevConfigShadowId → DevShadowAttrib

/-- The zero-filled `.bss` storage a boot starts from. -/
def DeviceConfig.cleared : DeviceConfig where
  serialNumber := .zero _
  imei := .zero _
  iccid := .zero _
  devShadowAttrib _ :=
    { devConfShadowId := .daqIntervalS, valType := .int16, int16Val := 0, intVal := 0,
      strVal := .zero _, isNewVal := false, filename := "" }

/-! ## The board -/

/-- The littlefs files below `/lfs`, by name. -/
abbrev Flash := String → Option (List UInt8)

/-- What a run leaves behind besides the state: the copies into the string fields of the device
    configuration (bytes written, capacity), the calls of `save_to_file`, and the decoder's notice
    that the application type changed. -/
inductive Effect where
  | copied (bytes capacity : Nat)
  | saveToFile (fileName : String) (content : List UInt8)
  | appTypeChanged (appType : Int32)
  deriving DecidableEq

/-- The board as the configuration code sees it. -/
structure Board where
  config : DeviceConfig
  flash : Flash
  modem : UiccState
  trace : List Effect

namespace Board

variable (b : Board) (id : DevConfigShadowId)

/-- `device_config.dev_shadow_attrib[id]`. -/
def attr : DevShadowAttrib := b.config.devShadowAttrib id

def setAttr (a : DevShadowAttrib) : Board :=
  { b with config :=
      { b.config with devShadowAttrib := Function.update b.config.devShadowAttrib id a } }

def setFile (fileName : String) (content : List UInt8) : Board :=
  { b with flash := Function.update b.flash fileName (some content) }

def log (e : Effect) : Board := { b with trace := b.trace ++ [e] }

/-- Power lost or `sys_reboot`: RAM is cleared and the modem restarts, the files stay. -/
def powerCycle : Board := { b with config := .cleared, modem := .off }

section Lemmas

variable {b id} {id' : DevConfigShadowId} {a : DevShadowAttrib} {fileName : String}
  {content : List UInt8} {e : Effect}

theorem attr_congr {b b' : Board} (h : b'.config = b.config) : b'.attr = b.attr := by
  unfold attr
  rw [h]

@[simp] theorem attr_setAttr_self : (b.setAttr id a).attr id = a := by simp [attr, setAttr]

theorem attr_setAttr_of_ne (h : id' ≠ id) : (b.setAttr id a).attr id' = b.attr id' := by
  simp [attr, setAttr, Function.update_of_ne h]

@[simp] theorem flash_setAttr : (b.setAttr id a).flash = b.flash := rfl

@[simp] theorem trace_setAttr : (b.setAttr id a).trace = b.trace := rfl

@[simp] theorem setAttr_attr_self : b.setAttr id (b.attr id) = b := by
  simp [setAttr, attr]

@[simp] theorem attr_setFile : (b.setFile fileName content).attr = b.attr := rfl

@[simp] theorem flash_setFile_self :
    (b.setFile fileName content).flash fileName = some content := by simp [setFile]

theorem flash_setFile_of_ne {other : String} (h : other ≠ fileName) :
    (b.setFile fileName content).flash other = b.flash other := by
  simp [setFile, Function.update_of_ne h]

@[simp] theorem setFile_setFile (content' : List UInt8) :
    (b.setFile fileName content).setFile fileName content' = b.setFile fileName content' := by
  simp [setFile]

@[simp] theorem trace_setFile : (b.setFile fileName content).trace = b.trace := rfl

@[simp] theorem attr_log : (b.log e).attr = b.attr := rfl

@[simp] theorem flash_log : (b.log e).flash = b.flash := rfl

@[simp] theorem trace_log : (b.log e).trace = b.trace ++ [e] := rfl

@[simp] theorem flash_powerCycle : b.powerCycle.flash = b.flash := rfl

end Lemmas

end Board

/-- A firmware routine of the configuration code. -/
abbrev Fw := EStateM String Board

def modifyAttr (id : DevConfigShadowId) (f : DevShadowAttrib → DevShadowAttrib) : Fw Unit :=
  modify fun b => b.setAttr id (f (b.attr id))

def logEffect (e : Effect) : Fw Unit := modify fun b => b.log e

end Levaware
