import Levaware.Config.Files

set_option autoImplicit false

/-! # The configuration datastore manager (`config.c`)

Boot-time loading, saving of changed attributes, and the accessors. The index of an accessor is an
enumerator of the table, so the range checks never fail; they are kept as the source has them. -/

namespace Levaware

open Abort

/-! ## Compiled-in defaults -/

/-- The `*_FILE_NAME` of each attribute. -/
def DevConfigShadowId.fileName : DevConfigShadowId → String
  | .daqIntervalS => "daq_interval"
  | .pubIntervalS => "pub_interval"
  | .iccid => "ICCID_value"
  | .confUpdateIntervalS => "config_interval"
  | .sensorType => "sensor_type"
  | .appType => "app_type"
  | .confVersion => "config_version"
  | .pubTopic => "pub_topic"
  | .subTopic => "sub_topic"

/-- The value type of each attribute. -/
def DevConfigShadowId.valType : DevConfigShadowId → DevConfigValType
  | .daqIntervalS | .pubIntervalS | .confUpdateIntervalS | .sensorType | .appType => .int16
  | .confVersion => .int
  | .iccid | .pubTopic | .subTopic => .string

/-- The default value of the attribute `id`, stored in the field its type uses. The storage of the
    ICCID is not cleared first. -/
def DevShadowAttrib.setDefaultVal (a : DevShadowAttrib) : DevConfigShadowId → DevShadowAttrib
  | .daqIntervalS => { a with int16Val := daqIntervalDefaultValS }
  | .pubIntervalS => { a with int16Val := pubIntervalDefaultValS }
  | .iccid => { a with strVal := a.strVal.strcpy iccidDefaultVal }
  | .confUpdateIntervalS => { a with int16Val := configIntervalDefaultValS }
  | .sensorType => { a with int16Val := Int16.ofNat ExternalSensor.terabee.toNat }
  | .appType => { a with int16Val := appTypeDefaultVal }
  | .confVersion => { a with intVal := configVersionDefaultVal }
  | .pubTopic => { a with strVal := (CBuf.zero _).strcpy pubTopicDefaultVal }
  | .subTopic => { a with strVal := (CBuf.zero _).strcpy subTopicDefaultVal }

/-- One block of assignments at the head of `config_dev_shadow_attrib_init`. -/
def DevShadowAttrib.setDefault (a : DevShadowAttrib) (id : DevConfigShadowId) : DevShadowAttrib :=
  { a.setDefaultVal id with
    devConfShadowId := id, valType := id.valType, isNewVal := false, filename := id.fileName }

/-- The nine blocks together, with the copies they make into string fields. -/
def setDefaults : Fw Unit := do
  modify fun b => { b with config := { b.config with
    devShadowAttrib := fun id => (b.attr id).setDefault id } }
  for s in [iccidDefaultVal, pubTopicDefaultVal, subTopicDefaultVal] do
    logEffect (.copied (s.length + 1) strValLen)

/-! ## Loading -/

variable (P : Platform)

/-- `memset` of a `str_val` followed by `strcpy` into it. -/
def copyToStrVal (id : DevConfigShadowId) (src : List UInt8) : Fw Unit := do
  logEffect (.copied (src.length + 1) strValLen)
  if src.length < strValLen then
    modifyAttr id fun a => { a with strVal := (CBuf.zero _).strcpy src }
  else modify fun b => { b with config := P.spill b.config id src }

/-- Store the contents of a file read at boot, by the type of the attribute. -/
def loadContents (idx : DevConfigShadowId) (fileContents : CBuf 256) : Fw Unit := do
  let attrib := (← get).attr idx
  if attrib.valType = .int16 then
    modifyAttr idx fun a => { a with int16Val := readInt16 fileContents.bytes }
  else if attrib.valType = .int then
    modifyAttr idx fun a => { a with intVal := readInt32 fileContents.bytes }
  else if attrib.valType = .string ∧ 0 < fileContents.str.length then
    copyToStrVal P idx fileContents.str
  -- anything else is logged as an unknown type, an empty string included

/-- One round of the loading loop: the ICCID is skipped. -/
def loadAttrib (idx : DevConfigShadowId) : Fw Unit := do
  if idx ≠ .iccid then
    let (numBytes, fileContents) ← readFile P (CBuf.zero 256) ((← get).attr idx).filename
    if 0 ≤ numBytes then loadContents P idx fileContents
    else modifyAttr idx fun a => { a with isNewVal := true }

/-- `config_dev_shadow_attrib_init`. -/
def configDevShadowAttribInit : Fw Unit := do
  setDefaults
  DevConfigShadowId.all.forM (loadAttrib P)

/-! ## Saving -/

/-- The chain of `if`s over the value type: the number of bytes written, and `0` for an invalid
    type. -/
def saveVal (attrib : DevShadowAttrib) : Fw Int :=
  match attrib.valType with
  | .int16 => saveToFile P (int16Bytes attrib.int16Val) attrib.filename
  | .int => saveToFile P (int32Bytes attrib.intVal) attrib.filename
  | .string => saveToFile P attrib.strVal.str attrib.filename
  | _ => return 0

/-- `config_save_attribute_to_file`. -/
def configSaveAttributeToFile (idx : DevConfigShadowId) : Fw Int := do
  let attrib := (← get).attr idx
  if attrib.isNewVal then
    let err ← saveVal P attrib
    -- `err` is the number of bytes written: only a save that wrote nothing ends here
    if err = 0 then return err
  modifyAttr idx fun a => { a with isNewVal := false }
  return 0

/-- `config_save_all_attributes_to_file`: the result of the last save. -/
def configSaveAllAttributesToFile : Fw Int :=
  DevConfigShadowId.all.foldlM (fun _ idx => configSaveAttributeToFile P idx) 0

/-! ## Start-up -/

def onModem {α : Type} (m : EStateM String UiccState α) : Fw α :=
  zoom Board.modem (fun s b => { b with modem := s }) m

/-- The serial number is read into `device_config` unless its file is empty. -/
def readSerialNumber : Fw Unit := do
  if ← isFileExists P serialNumberFileName then
    let (err, serialNumber) ← readFile P (← get).config.serialNumber serialNumberFileName
    modify fun b => { b with config := { b.config with serialNumber } }
    logEffect (.copied err.toNat serialNumberLen)
    if err < 0 then erabort "config_init - reading serial number"

/-- One round of the loop that writes the files found missing. -/
def saveIfMissing (attr : DevConfigShadowId) : Fw Unit := do
  if attr ≠ .iccid then
    if !(← isFileExists P ((← get).attr attr).filename) then
      discard <| configSaveAttributeToFile P attr

/-- The IMEI and the ICCID are asked of the modem. -/
def readModemIds : Fw Unit := do
  let imei ← onModem (modemGetImei P.modem (← get).config.imei)
  modify fun b => { b with config := { b.config with imei } }
  let iccid ← onModem (modemGetIccid P.modem (← get).config.iccid)
  modify fun b => { b with config := { b.config with iccid } }

/-- `config_init`. -/
def configInit : Fw Unit := do
  configFsInit P
  readSerialNumber P
  readModemIds P
  configDevShadowAttribInit P
  DevConfigShadowId.all.forM (saveIfMissing P)

/-! ## Accessors -/

/-- `config_get_int16`. -/
def configGetInt16 (index : DevConfigShadowId) : Fw Int16 := do
  if index.toNat < devConfigNum then return ((← get).attr index).int16Val
  erabort "config - bad index value"

/-- `config_set_int16`. -/
def configSetInt16 (index : DevConfigShadowId) (val : Int16) (isNewVal : Bool) : Fw Unit := do
  if index.toNat < devConfigNum then
    modifyAttr index fun a => { a with int16Val := val, isNewVal }
  else erabort "config - bad index value"

/-- `config_get_int`. -/
def configGetInt (index : DevConfigShadowId) : Fw Int32 := do
  if index.toNat < devConfigNum then return ((← get).attr index).intVal
  erabort "config - index out of range"

/-- `config_set_int`. -/
def configSetInt (index : DevConfigShadowId) (val : Int32) (isNewVal : Bool) : Fw Unit := do
  if index.toNat < devConfigNum then
    modifyAttr index fun a => { a with intVal := val, isNewVal }
  else erabort "config - index out of range"

/-- `config_get_str`: the string at the returned pointer, if the field has a NUL. -/
def configGetStr (index : DevConfigShadowId) (b : Board) : List UInt8 :=
  if index ≠ .iccid then (b.attr index).strVal.str else b.config.iccid.str

/-- `config_set_str`. Nothing returns before the abort at its end. -/
def configSetStr (index : DevConfigShadowId) (val : CString) (isNewVal : Bool) : Fw Unit := do
  if index.toNat < devConfigNum ∧ 0 < val.bytes.length then
    copyToStrVal P index val.bytes
    modifyAttr index fun a => { a with isNewVal }
  erabort "config.c - set_str range index"

/-- `config_diff_flash_int16`: true if the values are the same. -/
def configDiffFlashInt16 (index : DevConfigShadowId) (validVal : Int16) : Fw Bool := do
  let (_, fileContents) ← readFile P (CBuf.zero 16) ((← get).attr index).filename
  let readVal := P.charToInt16 (fileContents.bytes.headD 0)
  return readVal == validVal

/-- `config_get_serial_number`: the string at the returned pointer, if the field has a NUL. From a
    field without one C would read on into the field behind it, `imei`. -/
def configGetSerialNumber (b : Board) : List UInt8 := b.config.serialNumber.str

end Levaware
