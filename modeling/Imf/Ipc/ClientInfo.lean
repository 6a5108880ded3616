/-
# Imf.Ipc.ClientInfo -- the client info and its way through a parcel

A client hands its info to the service, and the service hands it to the input method.  On the
wire stands `InputClientInfoInner` with the text config and the attribute nested in it, each
written and read by hand; `inputClientInfoToInner` and `innerToInputClientInfo` copy the info
into it and back, field by field.

Strings are their bytes, doubles their bits, and an enumeration with a fixed underlying type
holds any value of that type.  A remote object is its handle; a client stands for the object
that `AsObject` gives and `iface_cast` takes.  The field `attribute` of the info is called
`clientAttribute`.
-/
import Imf.Lib.EntryMap
import Imf.Lib.Parcel

namespace Imf.Ipc

set_option autoImplicit false

open Lib (EntryMap Parcel)
open Lib.Parcel

/-! ## Enumerations -/

structure CapitalizeMode where
  value : Int32
  deriving DecidableEq, Repr

structure RequestKeyboardReason where
  value : Int32
  deriving DecidableEq, Repr

structure ClientState where
  value : UInt32
  deriving DecidableEq, Repr

structure ClientType where
  value : UInt32
  deriving DecidableEq, Repr

structure ImeType where
  value : Int32
  deriving DecidableEq, Repr

namespace CapitalizeMode

def none : CapitalizeMode := ⟨0⟩
def sentences : CapitalizeMode := ⟨1⟩
def words : CapitalizeMode := ⟨2⟩
def characters : CapitalizeMode := ⟨3⟩

/-- One of the values the enumeration declares. -/
def Declared (mode : CapitalizeMode) : Prop := none.value ≤ mode.value ∧ mode.value ≤ characters.value

end CapitalizeMode

namespace RequestKeyboardReason

def none : RequestKeyboardReason := ⟨0⟩
def mouse : RequestKeyboardReason := ⟨1⟩
def touch : RequestKeyboardReason := ⟨2⟩
def other : RequestKeyboardReason := ⟨20⟩

end RequestKeyboardReason

namespace ClientState

def inactive : ClientState := ⟨0⟩
def active : ClientState := ⟨1⟩

end ClientState

namespace ClientType

def capi : ClientType := ⟨0⟩
def js : ClientType := ⟨1⟩
def cj : ClientType := ⟨2⟩

/-- The type a client has unless it says otherwise. -/
def innerKit : ClientType := ⟨3⟩

end ClientType

namespace ImeType

def ime : ImeType := ⟨0⟩
def proxyIme : ImeType := ⟨1⟩
def imeMirror : ImeType := ⟨2⟩
def none : ImeType := ⟨3⟩

end ImeType

/-! ## Values of a private command, custom settings -/

abbrev Str := List UInt8

inductive PrivateDataValue where
  | string (value : Str)
  | bool (value : Bool)
  | number (value : Int32)
  deriving DecidableEq, Repr

inductive CustomValueType where
  | string (value : Str)
  | number (value : Int32)
  | bool (value : Bool)
  deriving DecidableEq, Repr

abbrev ValueMap := EntryMap Str PrivateDataValue

abbrev CustomSettings := EntryMap Str CustomValueType

def MAX_VALUE_MAP_COUNT : UInt32 := 256

def MAX_EXTRA_ARRAY_SIZE : UInt32 := 1024 * 1024

structure ExtraConfig where
  customSettings : CustomSettings := EntryMap.empty
  deriving DecidableEq, Repr

structure ExtraConfigInner where
  customSettings : CustomSettings := EntryMap.empty
  deriving DecidableEq, Repr

structure Value where
  valueMap : ValueMap := EntryMap.empty
  deriving DecidableEq, Repr

/-! ## The info and what it is made of -/

structure InputAttribute where
  inputPattern : Int32 := 0
  enterKeyType : Int32 := 0
  inputOption : Int32 := 0
  isTextPreviewSupported : Bool := false
  bundleName : Str := []
  immersiveMode : Int32 := 0
  gradientMode : Int32 := 0
  fluidLightMode : Int32 := 0
  editorWindowId : UInt32 := 0
  editorDisplayId : UInt64 := 0
  windowId : UInt32 := 0
  callingDisplayId : UInt64 := 0
  displayGroupId : UInt64 := 0
  callingScreenId : UInt64 := 0
  placeholder : List UInt16 := []
  abilityName : List UInt16 := []
  capitalizeMode : CapitalizeMode := .none
  needAutoInputNumkey : Bool := false
  extraConfig : ExtraConfig := {}
  consumeKeyEvents : Bool := false
  deriving DecidableEq, Repr

namespace InputAttribute

def PATTERN_PASSWORD : Int32 := 0x00000007
def PATTERN_PASSWORD_NUMBER : Int32 := 0x00000008
def PATTERN_PASSWORD_SCREEN_LOCK : Int32 := 0x00000009
def PATTERN_NEWPASSWORD : Int32 := 0x0000000b
def PATTERN_ONE_TIME_CODE : Int32 := 0x0000000d
def PATTERN_ONE_TIME_CODE_NUMBER : Int32 := 0x0000000f

variable (inputAttribute : InputAttribute)

def getSecurityFlag : Bool :=
  inputAttribute.inputPattern = PATTERN_PASSWORD || inputAttribute.inputPattern =
    PATTERN_PASSWORD_SCREEN_LOCK ||
    PATTERN_PASSWORD_NUMBER = inputAttribute.inputPattern || PATTERN_NEWPASSWORD =
      inputAttribute.inputPattern

def isOneTimeCodeFlag : Bool :=
  inputAttribute.inputPattern = PATTERN_ONE_TIME_CODE || inputAttribute.inputPattern =
    PATTERN_ONE_TIME_CODE_NUMBER

def isSecurityImeFlag : Bool := inputAttribute.getSecurityFlag

end InputAttribute

structure InputAttributeInner where
  inputPattern : Int32 := 0
  enterKeyType : Int32 := 0
  inputOption : Int32 := 0
  isTextPreviewSupported : Bool := false
  bundleName : Str := []
  immersiveMode : Int32 := 0
  gradientMode : Int32 := 0
  fluidLightMode : Int32 := 0
  editorWindowId : UInt32 := 0
  editorDisplayId : UInt64 := 0
  windowId : UInt32 := 0
  callingDisplayId : UInt64 := 0
  displayGroupId : UInt64 := 0
  placeholder : List UInt16 := []
  abilityName : List UInt16 := []
  capitalizeMode : CapitalizeMode := .none
  needAutoInputNumkey : Bool := false
  extraConfig : ExtraConfigInner := {}
  consumeKeyEvents : Bool := false
  deriving DecidableEq, Repr

/-- The bits of `-1.0`. -/
def minusOne : UInt64 := 0xBFF0000000000000

structure CursorInfo where
  left : UInt64 := minusOne
  top : UInt64 := minusOne
  width : UInt64 := minusOne
  height : UInt64 := minusOne
  displayId : UInt64 := 0
  deriving DecidableEq, Repr

structure CursorInfoInner where
  left : UInt64 := minusOne
  top : UInt64 := minusOne
  width : UInt64 := minusOne
  height : UInt64 := minusOne
  displayId : UInt64 := 0
  deriving DecidableEq, Repr

structure TextSelection where
  oldBegin : Int32 := -1
  oldEnd : Int32 := -1
  newBegin : Int32 := -1
  newEnd : Int32 := -1
  deriving DecidableEq, Repr

structure TextSelectionInner where
  oldBegin : Int32 := -1
  oldEnd : Int32 := -1
  newBegin : Int32 := -1
  newEnd : Int32 := -1
  deriving DecidableEq, Repr

structure TextTotalConfig where
  inputAttribute : InputAttribute := {}
  cursorInfo : CursorInfo := {}
  textSelection : TextSelection := {}
  windowId : UInt32 := 0
  positionY : UInt64 := 0
  height : UInt64 := 0
  privateCommand : ValueMap := EntryMap.empty
  requestKeyboardReason : RequestKeyboardReason := .none
  abilityToken : Option Nat := none
  isSimpleKeyboardEnabled : Bool := false
  deriving DecidableEq, Repr

structure TextTotalConfigInner where
  inputAttribute : InputAttributeInner := {}
  cursorInfo : CursorInfoInner := {}
  textSelection : TextSelectionInner := {}
  windowId : UInt32 := 0
  positionY : UInt64 := 0
  height : UInt64 := 0
  commandValue : Value := {}
  requestKeyboardReason : RequestKeyboardReason := .none
  isSimpleKeyboardEnabled : Bool := false
  abilityToken : Option Nat := none
  deriving DecidableEq, Repr

structure BindImeData where
  pid : Int32
  type : ImeType := .ime
  deriving DecidableEq, Repr

def BindImeData.isRealIme (data : BindImeData) : Bool := data.type == .ime

def INVALID_PID : Int32 := -1

structure InputClientInfo where
  pid : Int32 := -1
  uid : Int32 := -1
  userID : Int32 := 0
  isShowKeyboard : Bool := false
  config : TextTotalConfig := {}
  eventFlag : UInt32 := 0
  clientAttribute : InputAttribute := {}
  client : Option Nat := none
  channel : Option Nat := none
  deathRecipient : Option Nat := none
  state : ClientState := .inactive
  isNotifyInputStart : Bool := true
  isStylusActivation : Bool := false
  needHide : Bool := false
  uiExtensionTokenId : UInt32 := 0
  uiExtensionHostPid : Int32 := INVALID_PID
  type : ClientType := .innerKit
  name : Str := []
  bindImeData : Option BindImeData := none
  clientGroupId : UInt64 := 0
  deriving DecidableEq, Repr

structure InputClientInfoInner where
  pid : Int32 := -1
  uid : Int32 := -1
  userID : Int32 := 0
  isShowKeyboard : Bool := false
  config : TextTotalConfigInner := {}
  eventFlag : UInt32 := 0
  clientAttribute : InputAttributeInner := {}
  client : Option Nat := none
  channel : Option Nat := none
  deathRecipient : Option Nat := none
  state : ClientState := .inactive
  isNotifyInputStart : Bool := true
  isStylusActivation : Bool := false
  needHide : Bool := false
  uiExtensionTokenId : UInt32 := 0
  type : ClientType := .innerKit
  name : Str := []
  deriving DecidableEq, Repr

/-! ## Copies -/

def extraConfigToInner (extraConfig : ExtraConfig) : ExtraConfigInner :=
  { customSettings := extraConfig.customSettings }

def innerToExtraConfig (inner : ExtraConfigInner) : ExtraConfig :=
  { customSettings := inner.customSettings }

def attributeToInner (a : InputAttribute) : InputAttributeInner :=
  { inputPattern := a.inputPattern
    inputOption := a.inputOption
    enterKeyType := a.enterKeyType
    isTextPreviewSupported := a.isTextPreviewSupported
    bundleName := a.bundleName
    immersiveMode := a.immersiveMode
    gradientMode := a.gradientMode
    fluidLightMode := a.fluidLightMode
    editorWindowId := a.editorWindowId
    editorDisplayId := a.editorDisplayId
    windowId := a.windowId
    callingDisplayId := a.callingDisplayId
    displayGroupId := a.displayGroupId
    placeholder := a.placeholder
    abilityName := a.abilityName
    capitalizeMode := a.capitalizeMode
    needAutoInputNumkey := a.needAutoInputNumkey
    extraConfig := extraConfigToInner a.extraConfig
    consumeKeyEvents := a.consumeKeyEvents }

def innerToAttribute (inner : InputAttributeInner) : InputAttribute :=
  { inputPattern := inner.inputPattern
    inputOption := inner.inputOption
    enterKeyType := inner.enterKeyType
    isTextPreviewSupported := inner.isTextPreviewSupported
    bundleName := inner.bundleName
    immersiveMode := inner.immersiveMode
    gradientMode := inner.gradientMode
    fluidLightMode := inner.fluidLightMode
    editorWindowId := inner.editorWindowId
    editorDisplayId := inner.editorDisplayId
    windowId := inner.windowId
    callingDisplayId := inner.callingDisplayId
    displayGroupId := inner.displayGroupId
    placeholder := inner.placeholder
    abilityName := inner.abilityName
    capitalizeMode := inner.capitalizeMode
    needAutoInputNumkey := inner.needAutoInputNumkey
    extraConfig := innerToExtraConfig inner.extraConfig
    consumeKeyEvents := inner.consumeKeyEvents }

def cursorInfoToInner (cursorInfo : CursorInfo) : CursorInfoInner :=
  { left := cursorInfo.left
    top := cursorInfo.top
    width := cursorInfo.width
    height := cursorInfo.height
    displayId := cursorInfo.displayId }

def innerToCursorInfo (inner : CursorInfoInner) : CursorInfo :=
  { left := inner.left
    top := inner.top
    width := inner.width
    height := inner.height
    displayId := inner.displayId }

def textSelectionToInner (textSelection : TextSelection) : TextSelectionInner :=
  { oldBegin := textSelection.oldBegin
    oldEnd := textSelection.oldEnd
    newBegin := textSelection.newBegin
    newEnd := textSelection.newEnd }

def innerToSelection (inner : TextSelectionInner) : TextSelection :=
  { oldBegin := inner.oldBegin
    oldEnd := inner.oldEnd
    newBegin := inner.newBegin
    newEnd := inner.newEnd }

def textTotalConfigToInner (config : TextTotalConfig) : TextTotalConfigInner :=
  { inputAttribute := attributeToInner config.inputAttribute
    cursorInfo := cursorInfoToInner config.cursorInfo
    textSelection := textSelectionToInner config.textSelection
    windowId := config.windowId
    positionY := config.positionY
    height := config.height
    commandValue := { valueMap := config.privateCommand }
    requestKeyboardReason := config.requestKeyboardReason
    abilityToken := config.abilityToken
    isSimpleKeyboardEnabled := config.isSimpleKeyboardEnabled }

def innerToTextTotalConfig (inner : TextTotalConfigInner) : TextTotalConfig :=
  { inputAttribute := innerToAttribute inner.inputAttribute
    cursorInfo := innerToCursorInfo inner.cursorInfo
    textSelection := innerToSelection inner.textSelection
    windowId := inner.windowId
    positionY := inner.positionY
    height := inner.height
    privateCommand := inner.commandValue.valueMap
    requestKeyboardReason := inner.requestKeyboardReason
    abilityToken := inner.abilityToken
    isSimpleKeyboardEnabled := inner.isSimpleKeyboardEnabled }

def inputClientInfoToInner (info : InputClientInfo) : InputClientInfoInner :=
  { pid := info.pid
    uid := info.uid
    userID := info.userID
    isShowKeyboard := info.isShowKeyboard
    config := textTotalConfigToInner info.config
    eventFlag := info.eventFlag
    clientAttribute := attributeToInner info.clientAttribute
    client := info.client
    channel := info.channel
    deathRecipient := info.deathRecipient
    state := info.state
    isNotifyInputStart := info.isNotifyInputStart
    isStylusActivation := info.isStylusActivation
    needHide := info.needHide
    uiExtensionTokenId := info.uiExtensionTokenId
    type := info.type
    name := info.name }

def innerToInputClientInfo (inner : InputClientInfoInner) : InputClientInfo :=
  { pid := inner.pid
    uid := inner.uid
    userID := inner.userID
    isShowKeyboard := inner.isShowKeyboard
    config := innerToTextTotalConfig inner.config
    eventFlag := inner.eventFlag
    clientAttribute := innerToAttribute inner.clientAttribute
    client := inner.client
    channel := inner.channel
    deathRecipient := inner.deathRecipient
    state := inner.state
    isNotifyInputStart := inner.isNotifyInputStart
    isStylusActivation := inner.isStylusActivation
    needHide := inner.needHide
    uiExtensionTokenId := inner.uiExtensionTokenId
    type := inner.type
    name := inner.name }

/-! ## Writers -/

/-- The index of the alternative, and the value. -/
def PrivateDataValue.write : PrivateDataValue → Parcel
  | .string value => writeInt32 0 ++ writeString value
  | .bool value => writeInt32 1 ++ writeBool value
  | .number value => writeInt32 2 ++ writeInt32 value

def CustomValueType.write : CustomValueType → Parcel
  | .string value => writeInt32 0 ++ writeString value
  | .number value => writeInt32 1 ++ writeInt32 value
  | .bool value => writeInt32 2 ++ writeBool value

/-- The size, then key and value of every entry: both maps are written this way. -/
def writeMap {ν : Type} (write : ν → Parcel) (m : EntryMap Str ν) : Parcel :=
  writeUint32 (UInt32.ofNat m.entries.length) ++
    m.entries.flatMap fun entry => writeString entry.1 ++ write entry.2

def Value.marshalling (v : Value) : Parcel := writeMap PrivateDataValue.write v.valueMap

def ExtraConfigInner.marshalling (c : ExtraConfigInner) : Parcel :=
  writeMap CustomValueType.write c.customSettings

def InputAttributeInner.marshalling (a : InputAttributeInner) : Parcel :=
  List.flatten [
    writeInt32 a.inputPattern,
    writeInt32 a.enterKeyType,
    writeInt32 a.inputOption,
    writeBool a.isTextPreviewSupported,
    writeString a.bundleName,
    writeInt32 a.immersiveMode,
    writeUint32 a.editorWindowId,
    writeUint64 a.editorDisplayId,
    writeUint32 a.windowId,
    writeUint64 a.callingDisplayId,
    writeUint64 a.displayGroupId,
    writeString16 a.placeholder,
    writeString16 a.abilityName,
    writeInt32 a.capitalizeMode.value,
    writeBool a.needAutoInputNumkey,
    writeInt32 a.gradientMode,
    writeInt32 a.fluidLightMode,
    writeParcelable a.extraConfig.marshalling,
    writeBool a.consumeKeyEvents]

def CursorInfoInner.marshalling (c : CursorInfoInner) : Parcel :=
  List.flatten [
    writeDouble c.left,
    writeDouble c.top,
    writeDouble c.width,
    writeDouble c.height,
    writeUint64 c.displayId]

def TextSelectionInner.marshalling (t : TextSelectionInner) : Parcel :=
  List.flatten [
    writeInt32 t.oldBegin,
    writeInt32 t.oldEnd,
    writeInt32 t.newBegin,
    writeInt32 t.newEnd]

def TextTotalConfigInner.marshalling (t : TextTotalConfigInner) : Parcel :=
  List.flatten [
    writeParcelable t.inputAttribute.marshalling,
    writeParcelable t.cursorInfo.marshalling,
    writeParcelable t.textSelection.marshalling,
    writeUint32 t.windowId,
    writeDouble t.positionY,
    writeDouble t.height,
    writeParcelable t.commandValue.marshalling,
    writeInt32 t.requestKeyboardReason.value,
    -- a null token leaves no mark
    t.abilityToken.elim [] writeRemoteObject,
    writeBool t.isSimpleKeyboardEnabled]

/-- A mark whether the object is there, and the object. -/
def writeOptional : Option Nat → Parcel
  | none => writeBool false
  | some object => writeBool true ++ writeRemoteObject object

def InputClientInfoInner.marshallingTwo (i : InputClientInfoInner) : Parcel :=
  List.flatten [
    writeOptional i.client,
    writeOptional i.channel]

def InputClientInfoInner.marshallingOne (i : InputClientInfoInner) : Parcel :=
  List.flatten [
    writeUint32 i.state.value,
    writeBool i.isNotifyInputStart,
    writeBool i.isStylusActivation,
    writeBool i.needHide,
    writeUint32 i.uiExtensionTokenId,
    writeUint32 i.type.value,
    writeString i.name]

def InputClientInfoInner.marshalling (i : InputClientInfoInner) : Parcel :=
  List.flatten [
    writeInt32 i.pid,
    writeInt32 i.uid,
    writeInt32 i.userID,
    writeBool i.isShowKeyboard,
    writeParcelable i.config.marshalling,
    writeUint32 i.eventFlag,
    writeParcelable i.clientAttribute.marshalling,
    i.marshallingTwo,
    i.marshallingOne]

/-! ## Readers -/

/-- One entry of a private command: an unknown alternative leaves the map as it is. -/
def Value.readEntry (valueMap : ValueMap) : Reader ValueMap := do
  let key ← readString
  let valueType ← readInt32
  if valueType = 0 then
    return valueMap.insert key (.string (← readString))
  else if valueType = 1 then
    return valueMap.insert key (.bool (← readBool))
  else if valueType = 2 then
    return valueMap.insert key (.number (← readInt32))
  else
    return valueMap

def ExtraConfigInner.readEntry (customSettings : CustomSettings) : Reader CustomSettings := do
  let key ← readString
  let valueType ← readInt32
  if valueType = 0 then
    return customSettings.insert key (.string (← readString))
  else if valueType = 2 then
    return customSettings.insert key (.bool (← readBool))
  else if valueType = 1 then
    return customSettings.insert key (.number (← readInt32))
  else
    return customSettings

/-- The size, at most `limit`, then so many entries: both maps are read this way. -/
def readMap {ν : Type} (limit : UInt32) (readEntry : EntryMap Str ν → Reader (EntryMap Str ν)) :
    Reader (EntryMap Str ν) := do
  let size ← readUint32
  if size = 0 then return EntryMap.empty
  else if size > limit then failure
  else readTimes readEntry size.toNat EntryMap.empty

def Value.readFromParcel : Reader Value := do
  return { valueMap := ← readMap MAX_VALUE_MAP_COUNT readEntry }

def ExtraConfigInner.readFromParcel : Reader ExtraConfigInner := do
  return { customSettings := ← readMap MAX_EXTRA_ARRAY_SIZE readEntry }

def InputAttributeInner.readFromParcel : Reader InputAttributeInner := do
  let inputPattern ← readInt32
  let enterKeyType ← readInt32
  let inputOption ← readInt32
  let isTextPreviewSupported ← readBool
  let bundleName ← readString
  let immersiveMode ← readInt32
  let editorWindowId ← readUint32
  let editorDisplayId ← readUint64
  let windowId ← readUint32
  let callingDisplayId ← readUint64
  let displayGroupId ← readUint64
  let placeholder ← readString16
  let abilityName ← readString16
  let readCapitalizeMode ← readInt32
  let capitalizeMode : CapitalizeMode :=
    if readCapitalizeMode < CapitalizeMode.none.value ∨
      readCapitalizeMode > CapitalizeMode.characters.value
    then ⟨0⟩ else ⟨readCapitalizeMode⟩
  let needAutoInputNumkey ← readBool
  let gradientMode ← readInt32
  let fluidLightMode ← readInt32
  let extraConfig ← readParcelable ExtraConfigInner.readFromParcel
  let consumeKeyEvents ← readBool
  return { inputPattern, enterKeyType, inputOption, isTextPreviewSupported, bundleName, immersiveMode,
           editorWindowId, editorDisplayId, windowId, callingDisplayId, displayGroupId, placeholder,
           abilityName, capitalizeMode, needAutoInputNumkey, gradientMode, fluidLightMode, extraConfig,
           consumeKeyEvents }

def CursorInfoInner.readFromParcel : Reader CursorInfoInner := do
  let left ← readDouble
  let top ← readDouble
  let width ← readDouble
  let height ← readDouble
  let displayId ← readUint64
  return { left, top, width, height, displayId }

def TextSelectionInner.readFromParcel : Reader TextSelectionInner := do
  let oldBegin ← readInt32
  let oldEnd ← readInt32
  let newBegin ← readInt32
  let newEnd ← readInt32
  return { oldBegin, oldEnd, newBegin, newEnd }

def TextTotalConfigInner.readFromParcel : Reader TextTotalConfigInner := do
  let inputAttribute ← readParcelable InputAttributeInner.readFromParcel
  let cursorInfo ← readParcelable CursorInfoInner.readFromParcel
  let textSelection ← readParcelable TextSelectionInner.readFromParcel
  let windowId ← readUint32
  let positionY ← readDouble
  let height ← readDouble
  let commandValue ← readParcelable Value.readFromParcel
  let requestKeyboardReasonData ← readInt32
  let abilityToken ← readRemoteObject
  let isSimpleKeyboardEnabled ← readBool
  return { inputAttribute, cursorInfo, textSelection, windowId, positionY, height, commandValue,
           requestKeyboardReason := ⟨requestKeyboardReasonData⟩, abilityToken, isSimpleKeyboardEnabled }

/-- The object, where the mark before it says that it is there. -/
def readOptional : Reader (Option Nat) := do
  if ← readBool then readRemoteObject else return none

def InputClientInfoInner.readFromParcel : Reader InputClientInfoInner := do
  let pid ← readInt32
  let uid ← readInt32
  let userID ← readInt32
  let isShowKeyboard ← readBool
  let config ← readParcelable TextTotalConfigInner.readFromParcel
  let eventFlag ← readUint32
  let clientAttribute ← readParcelable InputAttributeInner.readFromParcel
  let client ← readOptional
  let channel ← readOptional
  let stateData ← readUint32
  let isNotifyInputStart ← readBool
  let isStylusActivation ← readBool
  let needHide ← readBool
  let uiExtensionTokenId ← readUint32
  let typeData ← readUint32
  let name ← readString
  return { pid, uid, userID, isShowKeyboard, config, eventFlag, clientAttribute, client, channel,
           state := ⟨stateData⟩, isNotifyInputStart, isStylusActivation, needHide, uiExtensionTokenId,
           type := ⟨typeData⟩, name }

/-! ## Every part is decoded as it was written -/

theorem Value.decodes_entry (m : ValueMap) (entry : Str × PrivateDataValue) :
    Decodes (Value.readEntry m) (writeString entry.1 ++ entry.2.write) (m.insert entry.1 entry.2) := by
  obtain ⟨key, value⟩ := entry
  refine (decodes_string key).bind ?_
  cases value with
  | string value => exact (decodes_int32 0).bind ((decodes_string value).bind (decodes_pure _))
  | bool value => exact (decodes_int32 1).bind ((decodes_bool value).bind (decodes_pure _))
  | number value => exact (decodes_int32 2).bind ((decodes_int32 value).bind (decodes_pure _))

theorem ExtraConfigInner.decodes_entry (m : CustomSettings) (entry : Str × CustomValueType) :
    Decodes (ExtraConfigInner.readEntry m) (writeString entry.1 ++ entry.2.write)
      (m.insert entry.1 entry.2) := by
  obtain ⟨key, value⟩ := entry
  refine (decodes_string key).bind ?_
  cases value with
  | string value => exact (decodes_int32 0).bind ((decodes_string value).bind (decodes_pure _))
  | number value => exact (decodes_int32 1).bind ((decodes_int32 value).bind (decodes_pure _))
  | bool value => exact (decodes_int32 2).bind ((decodes_bool value).bind (decodes_pure _))

/-- A map within the reader's limit is read back, entry by entry. -/
theorem decodes_map {ν : Type} {limit : UInt32} {write : ν → Parcel}
    {readEntry : EntryMap Str ν → Reader (EntryMap Str ν)}
    (once : ∀ (m : EntryMap Str ν) (entry : Str × ν),
      Decodes (readEntry m) (writeString entry.1 ++ write entry.2) (m.insert entry.1 entry.2))
    (m : EntryMap Str ν) (small : m.entries.length ≤ limit.toNat) :
    Decodes (readMap limit readEntry) (writeMap write m) m := by
  have size : (UInt32.ofNat m.entries.length).toNat = m.entries.length :=
    UInt32.toNat_ofNat_of_lt' (Nat.lt_of_le_of_lt small limit.toNat_lt)
  have within : ¬ UInt32.ofNat m.entries.length > limit := by
    rw [gt_iff_lt, UInt32.lt_iff_toNat_lt, size]
    exact Nat.not_lt.2 small
  refine (decodes_uint32 _).bind ?_
  by_cases zero : UInt32.ofNat m.entries.length = 0
  · have none : m.entries = [] := by
      rw [← List.length_eq_zero_iff, ← size, zero]
      rfl
    rw [if_pos zero, none, show m = EntryMap.empty from EntryMap.ext none]
    exact decodes_pure _
  · have all := decodes_times once m.entries EntryMap.empty
    rw [EntryMap.insert_all] at all
    rw [if_neg zero, if_neg within, size]
    exact all

theorem Value.decodes (v : Value) (small : v.valueMap.entries.length ≤ MAX_VALUE_MAP_COUNT.toNat) :
    Decodes Value.readFromParcel v.marshalling v :=
  (decodes_map Value.decodes_entry v.valueMap small).wrap Value.mk

theorem ExtraConfigInner.decodes (c : ExtraConfigInner)
    (small : c.customSettings.entries.length ≤ MAX_EXTRA_ARRAY_SIZE.toNat) :
    Decodes ExtraConfigInner.readFromParcel c.marshalling c :=
  (decodes_map ExtraConfigInner.decodes_entry c.customSettings small).wrap ExtraConfigInner.mk

/-- The reader's range check lets every declared mode pass. -/
theorem CapitalizeMode.checked {mode : CapitalizeMode} (declared : mode.Declared) :
    (if mode.value < none.value ∨ mode.value > characters.value then (⟨0⟩ : CapitalizeMode)
      else ⟨mode.value⟩) = mode := by
  refine if_neg ?_
  rintro (below | above)
  · exact Int32.not_lt.2 declared.1 below
  · exact Int32.not_lt.2 declared.2 above

theorem InputAttributeInner.decodes (a : InputAttributeInner) (declared : a.capitalizeMode.Declared)
    (small : a.extraConfig.customSettings.entries.length ≤ MAX_EXTRA_ARRAY_SIZE.toNat) :
    Decodes InputAttributeInner.readFromParcel a.marshalling a := by
  refine (decodes_int32 a.inputPattern).bind ?_
  refine (decodes_int32 a.enterKeyType).bind ?_
  refine (decodes_int32 a.inputOption).bind ?_
  refine (decodes_bool a.isTextPreviewSupported).bind ?_
  refine (decodes_string a.bundleName).bind ?_
  refine (decodes_int32 a.immersiveMode).bind ?_
  refine (decodes_uint32 a.editorWindowId).bind ?_
  refine (decodes_uint64 a.editorDisplayId).bind ?_
  refine (decodes_uint32 a.windowId).bind ?_
  refine (decodes_uint64 a.callingDisplayId).bind ?_
  refine (decodes_uint64 a.displayGroupId).bind ?_
  refine (decodes_string16 a.placeholder).bind ?_
  refine (decodes_string16 a.abilityName).bind ?_
  refine (decodes_int32 a.capitalizeMode.value).bind ?_
  rw [CapitalizeMode.checked declared]
  refine (decodes_bool a.needAutoInputNumkey).bind ?_
  refine (decodes_int32 a.gradientMode).bind ?_
  refine (decodes_int32 a.fluidLightMode).bind ?_
  refine (a.extraConfig.decodes small).parcelable.bind ?_
  exact (decodes_bool a.consumeKeyEvents).bind (decodes_pure a)

theorem CursorInfoInner.decodes (c : CursorInfoInner) :
    Decodes CursorInfoInner.readFromParcel c.marshalling c := by
  refine (decodes_double c.left).bind ?_
  refine (decodes_double c.top).bind ?_
  refine (decodes_double c.width).bind ?_
  refine (decodes_double c.height).bind ?_
  exact (decodes_uint64 c.displayId).bind (decodes_pure c)

theorem TextSelectionInner.decodes (t : TextSelectionInner) :
    Decodes TextSelectionInner.readFromParcel t.marshalling t := by
  refine (decodes_int32 t.oldBegin).bind ?_
  refine (decodes_int32 t.oldEnd).bind ?_
  refine (decodes_int32 t.newBegin).bind ?_
  exact (decodes_int32 t.newEnd).bind (decodes_pure t)

/-- The token, with nothing written for a null one: what stands behind it is a bool. -/
theorem decodes_token {β : Type} (token : Option Nat) {next : Option Nat → Reader β} {flag : Bool}
    {second : Parcel} {result : β} (after : Decodes (next token) (writeBool flag ++ second) result) :
    Decodes (readRemoteObject >>= next)
      (token.elim [] writeRemoteObject ++ (writeBool flag ++ second)) result := by
  cases token with
  | none => exact decodes_null (fun _ equal => Item.noConfusion equal) after
  | some object => exact (decodes_object object).bind after

theorem TextTotalConfigInner.decodes (t : TextTotalConfigInner)
    (declared : t.inputAttribute.capitalizeMode.Declared)
    (custom : t.inputAttribute.extraConfig.customSettings.entries.length ≤ MAX_EXTRA_ARRAY_SIZE.toNat)
    (command : t.commandValue.valueMap.entries.length ≤ MAX_VALUE_MAP_COUNT.toNat) :
    Decodes TextTotalConfigInner.readFromParcel t.marshalling t := by
  refine (t.inputAttribute.decodes declared custom).parcelable.bind ?_
  refine t.cursorInfo.decodes.parcelable.bind ?_
  refine t.textSelection.decodes.parcelable.bind ?_
  refine (decodes_uint32 t.windowId).bind ?_
  refine (decodes_double t.positionY).bind ?_
  refine (decodes_double t.height).bind ?_
  refine (t.commandValue.decodes command).parcelable.bind ?_
  refine (decodes_int32 t.requestKeyboardReason.value).bind ?_
  refine decodes_token t.abilityToken ?_
  exact (decodes_bool t.isSimpleKeyboardEnabled).bind (decodes_pure t)

theorem decodes_optional (object : Option Nat) :
    Decodes readOptional (writeOptional object) object := by
  cases object with
  | none => exact (decodes_bool false).bind (decodes_pure none)
  | some object => exact (decodes_bool true).bind (decodes_object object)

/-- All but the death recipient, which is not written. -/
theorem InputClientInfoInner.decodes (i : InputClientInfoInner)
    (declared : i.clientAttribute.capitalizeMode.Declared)
    (custom : i.clientAttribute.extraConfig.customSettings.entries.length ≤ MAX_EXTRA_ARRAY_SIZE.toNat)
    (config : Decodes TextTotalConfigInner.readFromParcel i.config.marshalling i.config) :
    Decodes InputClientInfoInner.readFromParcel i.marshalling { i with deathRecipient := none } := by
  have parts : List.flatten [i.marshallingTwo, i.marshallingOne] =
      writeOptional i.client ++ (writeOptional i.channel ++ i.marshallingOne) := by
    simp [marshallingTwo]
  refine (decodes_int32 i.pid).bind ?_
  refine (decodes_int32 i.uid).bind ?_
  refine (decodes_int32 i.userID).bind ?_
  refine (decodes_bool i.isShowKeyboard).bind ?_
  refine config.parcelable.bind ?_
  refine (decodes_uint32 i.eventFlag).bind ?_
  refine (i.clientAttribute.decodes declared custom).parcelable.bind ?_
  rw [parts]
  refine (decodes_optional i.client).bind ?_
  refine (decodes_optional i.channel).bind ?_
  refine (decodes_uint32 i.state.value).bind ?_
  refine (decodes_bool i.isNotifyInputStart).bind ?_
  refine (decodes_bool i.isStylusActivation).bind ?_
  refine (decodes_bool i.needHide).bind ?_
  refine (decodes_uint32 i.uiExtensionTokenId).bind ?_
  refine (decodes_uint32 i.type.value).bind ?_
  exact (decodes_string i.name).bind (decodes_pure _)

/-! ## There and back -/

/-- What the copies keep of an attribute: the screen of the caller stays behind. -/
def InputAttribute.carried (a : InputAttribute) : InputAttribute := { a with callingScreenId := 0 }

/-- The info with all that `InputClientInfoInner` does not carry at its default. -/
def InputClientInfo.carried (info : InputClientInfo) : InputClientInfo :=
  { info with
    config := { info.config with inputAttribute := info.config.inputAttribute.carried }
    clientAttribute := info.clientAttribute.carried
    deathRecipient := none
    uiExtensionHostPid := INVALID_PID
    bindImeData := none
    clientGroupId := 0 }

theorem innerToInputClientInfo_toInner (info : InputClientInfo) :
    innerToInputClientInfo { inputClientInfoToInner info with deathRecipient := none } = info.carried :=
  rfl

/-- The sizes and the mode that the readers accept. -/
structure InputAttribute.WithinLimits (a : InputAttribute) : Prop where
  declared : a.capitalizeMode.Declared
  custom : a.extraConfig.customSettings.entries.length ≤ MAX_EXTRA_ARRAY_SIZE.toNat

/-- Copy, write, read and copy back. -/
def transfer (info : InputClientInfo) (rest : Parcel) : Option (InputClientInfo × Parcel) := do
  let (inner, left) ← InputClientInfoInner.readFromParcel
    ((inputClientInfoToInner info).marshalling ++ rest)
  return (innerToInputClientInfo inner, left)

/-- **The client info survives the parcel.**  Whatever follows it, all that the inner info
carries comes back as it was, and what follows is left. -/
theorem client_info_survives (info : InputClientInfo) (rest : Parcel)
    (attribute_ok : info.clientAttribute.WithinLimits)
    (config_ok : info.config.inputAttribute.WithinLimits)
    (command : info.config.privateCommand.entries.length ≤ MAX_VALUE_MAP_COUNT.toNat) :
    transfer info rest = some (info.carried, rest) := by
  have config : Decodes TextTotalConfigInner.readFromParcel
      (inputClientInfoToInner info).config.marshalling (inputClientInfoToInner info).config :=
    TextTotalConfigInner.decodes _ config_ok.declared config_ok.custom command
  have read := InputClientInfoInner.decodes (inputClientInfoToInner info) attribute_ok.declared
    attribute_ok.custom config rest
  unfold transfer
  rw [read, ← innerToInputClientInfo_toInner]
  rfl

/-! ## Poles -/

/-- A client without an ability token, with a value of every alternative. -/
def noted : InputClientInfo :=
  { pid := 17
    isShowKeyboard := true
    config :=
      { inputAttribute :=
          { capitalizeMode := .words
            extraConfig :=
              { customSettings := ⟨[([107], .string [97]), ([108], .number (-3)),
                ([109], .bool true)], by decide⟩ } }
        privateCommand := ⟨[([112], .number 5), ([113], .bool false), ([], .string [98])], by decide⟩ }
    client := some 4
    deathRecipient := some 9
    state := .active }

theorem noted_survives :
    noted.clientAttribute.WithinLimits ∧ noted.config.inputAttribute.WithinLimits ∧
      noted.config.privateCommand.entries.length ≤ MAX_VALUE_MAP_COUNT.toNat ∧
      transfer noted [.object 7] = some (noted.carried, [.object 7]) := by
  have attribute_ok : noted.clientAttribute.WithinLimits := ⟨⟨by decide, by decide⟩, by decide⟩
  have config_ok : noted.config.inputAttribute.WithinLimits := ⟨⟨by decide, by decide⟩, by decide⟩
  have command : noted.config.privateCommand.entries.length ≤ MAX_VALUE_MAP_COUNT.toNat := by decide
  exact ⟨attribute_ok, config_ok, command,
    client_info_survives noted [.object 7] attribute_ok config_ok command⟩

end Imf.Ipc
