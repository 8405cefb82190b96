import Levaware.Config.Config

set_option autoImplicit false

/-! # Decoding of AWS shadow messages (`aws_decoding.c`)

`aws_decode_shadow_values` works on the board alone. `aws_decode_shadow_msg` also holds cJSON
objects; the device is the board together with the cJSON objects not yet released. -/

namespace Levaware

open Abort

/-! ## The values of an attributes object -/

def daySeconds : Int32 := 60 * 60 * 24

def minuteSeconds : Int32 := 60

/-- "Peg" an interval to its bounds. -/
def pegInterval (minimum val : Int32) : Int32 :=
  if val < minimum then minimum else if daySeconds < val then daySeconds else val

variable (P : Platform)

/-- Set an INT16 attribute and save it. -/
def setAndSaveInt16 (index : DevConfigShadowId) (val : Int32) (isDelta : Bool) : Fw Unit := do
  configSetInt16 index val.toInt16 isDelta
  discard <| configSaveAttributeToFile P index

/-- The block of one interval member. -/
def decodeInterval (attributes : Option CJson) (key : String) (minimum : Int32)
    (index : DevConfigShadowId) (isDelta : Bool) : Fw Unit :=
  match CJson.number? (CJson.getObjectItem attributes key) with
  | some val => setAndSaveInt16 P index (pegInterval minimum val) isDelta
  | none => return

/-- The version of the shadow service is recorded first. -/
def decodeVersion (version : Int32) : Fw Unit := do
  if 0 < version then
    configSetInt .confVersion version true
    discard <| configSaveAttributeToFile P .confVersion

def decodeConfInterval (attributes : Option CJson) : Bool → Fw Unit :=
  decodeInterval P attributes "config_interval_s" minuteSeconds .confUpdateIntervalS

def decodeDaqInterval (attributes : Option CJson) : Bool → Fw Unit :=
  decodeInterval P attributes "daq_interval_s" daqIntervalMinimumS .daqIntervalS

def decodePubInterval (attributes : Option CJson) : Bool → Fw Unit :=
  decodeInterval P attributes "pub_interval_s" pubIntervalMinimumS .pubIntervalS

def decodeSensorType (attributes : Option CJson) (isDelta : Bool) : Fw Unit :=
  match CJson.number? (CJson.getObjectItem attributes "sensor_type") with
  | some val =>
      if ExternalSensor.unknown.toNat < P.toEnum val ∧ P.toEnum val < ExternalSensor.invalid.toNat
      then setAndSaveInt16 P .sensorType val isDelta
      else return
  | none => return

def decodeTopic (attributes : Option CJson) (isDelta : Bool) : Fw Unit :=
  match CJson.string? (CJson.getObjectItem attributes "topic") with
  | some val =>
      if 0 < val.bytes.length then do
        configSetStr P .pubTopic val isDelta
        discard <| configSaveAttributeToFile P .pubTopic
      else return
  | none => return

def decodeAppType (attributes : Option CJson) (isDelta : Bool) : Fw Unit :=
  match CJson.number? (CJson.getObjectItem attributes "app_type") with
  | some val =>
      if AppId.unknown.toNat < P.toEnum val ∧ P.toEnum val < AppId.num.toNat then do
        setAndSaveInt16 P .appType val isDelta
        -- the comparison answers true when the values are the same
        if ← configDiffFlashInt16 P .appType val.toInt16 then
          logEffect (.appTypeChanged val)
      else return
  | none => return

/-- `aws_decode_shadow_values`. -/
def awsDecodeShadowValues (attributes : Option CJson) (version : Int32) (isDelta : Bool) :
    Fw Unit := do
  decodeVersion P version
  decodeConfInterval P attributes isDelta
  decodeDaqInterval P attributes isDelta
  decodePubInterval P attributes isDelta
  decodeSensorType P attributes isDelta
  decodeTopic P attributes isDelta
  decodeAppType P attributes isDelta

/-! ## The message -/

/-- A cJSON object on the heap: a parsed tree or a printed text. -/
inductive CJsonObj where
  | tree | text
  deriving DecidableEq

/-- The board and the cJSON objects allocated and not released. -/
structure Device where
  board : Board
  outstanding : List CJsonObj

/-- A routine of the message decoder. -/
abbrev DevM := EStateM String Device

def onBoard {α : Type} (m : Fw α) : DevM α :=
  zoom Device.board (fun b d => { d with board := b }) m

def cJsonParseWithLength (msg : List UInt8) : DevM (Option CJson) := do
  let root := P.parseWithLength msg
  if root.isSome then modify fun d => { d with outstanding := .tree :: d.outstanding }
  return root

/-- `cJSON_Delete`; of `NULL` it does nothing. -/
def cJsonDelete (root : Option CJson) : DevM Unit := do
  if root.isSome then modify fun d => { d with outstanding := d.outstanding.erase .tree }

/-- `cJSON_PrintUnformatted`: only the allocation matters, the text goes to the log. -/
def cJsonPrintUnformatted : DevM Unit :=
  modify fun d => { d with outstanding := .text :: d.outstanding }

/-- Between the parse and `clean_exit`: the object that is decoded, unless the message is
    discarded. -/
def shadowAttributes (rootObj : Option CJson) : Option (Option CJson × Int32) :=
  let stateObj := CJson.getObjectItem rootObj "state"
  if ¬ CJson.isObject stateObj then none
  else
    let version := (CJson.number? (CJson.getObjectItem rootObj "version")).getD 0
    let attributes := CJson.getObjectItem stateObj "attributes"
    if CJson.isObject attributes then some (attributes, version)
    else
      -- a get response has the attributes in `state.delta`
      let deltaObj := CJson.getObjectItem stateObj "delta"
      if ¬ CJson.isObject deltaObj then none
      else
        let attributes := CJson.getObjectItem deltaObj "attributes"
        if ¬ CJson.isObject attributes then none else some (attributes, version)

/-- `aws_decode_shadow_msg`. -/
def awsDecodeShadowMsg (msg : List UInt8) : DevM Unit := do
  let rootObj ← cJsonParseWithLength P msg
  if rootObj.isSome then
    match shadowAttributes rootObj with
    | some (attributes, version) =>
        cJsonPrintUnformatted
        onBoard (awsDecodeShadowValues P attributes version true)
    | none => pure ()
  cJsonDelete rootObj

end Levaware
