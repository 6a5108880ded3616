/-
# Imf.Enabled.Table -- the table of enabled input methods

`services/adapter/settings_data_provider/include/ime_enabled_info_manager.h`: one entry per
input method of a user, and its JSON.  `ImeEnabledCfg::Unmarshal` fills in what it finds and
leaves the rest at its default; where the table is read its result is ignored, so reading is
a total function here.

`unmarshal_marshal` is the round trip, up to what `c_str()` cuts off.
-/
import Imf.Json.Serializable

namespace Imf.Enabled

set_option autoImplicit false

open Lib (Json)
open Imf.Json

/-- `EnabledStatus`, an `enum class` over `int32_t`: values read from JSON or received from
a caller need not be one of the three. -/
structure EnabledStatus where
  code : Int32
  deriving DecidableEq

namespace EnabledStatus

def disabled : EnabledStatus := ⟨0⟩

def basicMode : EnabledStatus := ⟨1⟩

def fullExperienceMode : EnabledStatus := ⟨2⟩

end EnabledStatus

structure ExtraInfo where
  isDefaultIme : Bool := false
  isDefaultImeSet : Bool := false
  isTmpIme : Bool := false
  currentSubName : String := ""
  deriving DecidableEq

structure ImeEnabledInfo where
  bundleName : String := ""
  extensionName : String := ""
  enabledStatus : EnabledStatus := .disabled
  stateUpdateTime : String := ""
  extraInfo : ExtraInfo := {}
  deriving DecidableEq

structure ImeEnabledCfg where
  version : String := "empty"
  enabledInfos : List ImeEnabledInfo := []
  deriving DecidableEq

namespace ImeEnabledInfo

def isDefault (info : ImeEnabledInfo) : Bool := info.extraInfo.isDefaultIme

def isTmp (info : ImeEnabledInfo) : Bool := info.extraInfo.isTmpIme

def enabled (info : ImeEnabledInfo) : Bool := decide (info.enabledStatus ≠ .disabled)

end ImeEnabledInfo

/-! ## JSON -/

def ExtraInfo.marshal (info : ExtraInfo) : List (String × Json) :=
  [("isDefaultIme", .bool info.isDefaultIme), ("isDefaultImeSet", .bool info.isDefaultImeSet),
   ("isTmpIme", .bool info.isTmpIme), ("currentSubName", ofString info.currentSubName)]

def ImeEnabledInfo.marshal (info : ImeEnabledInfo) : List (String × Json) :=
  [("bundleName", ofString info.bundleName), ("extensionName", ofString info.extensionName),
   ("enabledStatus", ofInt32 info.enabledStatus.code),
   ("stateUpdateTime", ofString info.stateUpdateTime),
   ("extraInfo", .obj info.extraInfo.marshal)]

def ImeEnabledCfg.marshal (cfg : ImeEnabledCfg) : List (String × Json) :=
  [("version", ofString cfg.version),
   ("inputmethods", .arr (cfg.enabledInfos.map fun info => .obj info.marshal))]

def unmarshalExtraInfo (node : Json) : ExtraInfo where
  isDefaultIme := (getBool node "isDefaultIme").getD false
  isDefaultImeSet := (getBool node "isDefaultImeSet").getD false
  isTmpIme := (getBool node "isTmpIme").getD false
  currentSubName := (getString node "currentSubName").getD ""

/-- An item that is no object stays as `resize` made it. -/
def unmarshalInfo : Json → ImeEnabledInfo
  | .obj fields =>
      { bundleName := (getString (.obj fields) "bundleName").getD ""
        extensionName := (getString (.obj fields) "extensionName").getD ""
        enabledStatus := ⟨(getInt32 (.obj fields) "enabledStatus").getD 0⟩
        stateUpdateTime := (getString (.obj fields) "stateUpdateTime").getD ""
        extraInfo :=
          (getObject (fun node => some (unmarshalExtraInfo node)) (.obj fields) "extraInfo").getD {} }
  | _ => {}

def unmarshalCfg (node : Json) : ImeEnabledCfg where
  version := (getString node "version").getD "empty"
  enabledInfos :=
    match getSubNode node "inputmethods" with
    | some (.arr items) => items.map unmarshalInfo
    | _ => []

/-! ## Round trip -/

/-- The strings of an entry as C strings. -/
def ImeEnabledInfo.cText (info : ImeEnabledInfo) : ImeEnabledInfo where
  bundleName := cStr info.bundleName
  extensionName := cStr info.extensionName
  enabledStatus := info.enabledStatus
  stateUpdateTime := cStr info.stateUpdateTime
  extraInfo := { info.extraInfo with currentSubName := cStr info.extraInfo.currentSubName }

def ImeEnabledCfg.cText (cfg : ImeEnabledCfg) : ImeEnabledCfg where
  version := cStr cfg.version
  enabledInfos := cfg.enabledInfos.map ImeEnabledInfo.cText

section RoundTrip

variable {node : Json} {name : String}

theorem getString_ofString {s : String} (found : getSubNode node name = some (ofString s)) :
    getString node name = some (cStr s) := by
  rw [getString, found, ofString]
  show some (cStr (cStr s)) = _
  rw [cStr_eq (cStr_nulFree s)]

theorem getBool_of {b : Bool} (found : getSubNode node name = some (.bool b)) :
    getBool node name = some b := by
  rw [getBool, found]

theorem unmarshalExtraInfo_marshal (info : ExtraInfo) :
    unmarshalExtraInfo (.obj info.marshal) =
      { info with currentSubName := cStr info.currentSubName } := by
  have isDefaultIme : getBool (.obj info.marshal) "isDefaultIme" = some info.isDefaultIme :=
    getBool_of (getSubNode_of_find (by decide) (by simp [ExtraInfo.marshal, sameKey]))
  have isDefaultImeSet : getBool (.obj info.marshal) "isDefaultImeSet" = some info.isDefaultImeSet :=
    getBool_of (getSubNode_of_find (by decide) (by simp [ExtraInfo.marshal, sameKey]))
  have isTmpIme : getBool (.obj info.marshal) "isTmpIme" = some info.isTmpIme :=
    getBool_of (getSubNode_of_find (by decide) (by simp [ExtraInfo.marshal, sameKey]))
  have currentSubName : getString (.obj info.marshal) "currentSubName" =
      some (cStr info.currentSubName) :=
    getString_ofString (getSubNode_of_find (by decide) (by simp [ExtraInfo.marshal, sameKey]))
  simp only [unmarshalExtraInfo, isDefaultIme, isDefaultImeSet, isTmpIme, currentSubName,
    Option.getD_some]

theorem unmarshalInfo_marshal (info : ImeEnabledInfo) :
    unmarshalInfo (.obj info.marshal) = info.cText := by
  have bundleName : getString (.obj info.marshal) "bundleName" = some (cStr info.bundleName) :=
    getString_ofString (getSubNode_of_find (by decide) (by simp [ImeEnabledInfo.marshal, sameKey]))
  have extensionName : getString (.obj info.marshal) "extensionName" =
      some (cStr info.extensionName) :=
    getString_ofString (getSubNode_of_find (by decide) (by simp [ImeEnabledInfo.marshal, sameKey]))
  have enabledStatus : getInt32 (.obj info.marshal) "enabledStatus" = some info.enabledStatus.code :=
    getInt32_of (getSubNode_of_find (by decide) (by simp [ImeEnabledInfo.marshal, sameKey]))
  have stateUpdateTime : getString (.obj info.marshal) "stateUpdateTime" =
      some (cStr info.stateUpdateTime) :=
    getString_ofString (getSubNode_of_find (by decide) (by simp [ImeEnabledInfo.marshal, sameKey]))
  have found : getSubNode (.obj info.marshal) "extraInfo" = some (.obj info.extraInfo.marshal) :=
    getSubNode_of_find (by decide) (by simp [ImeEnabledInfo.marshal, sameKey])
  have extraInfo : getObject (fun node => some (unmarshalExtraInfo node)) (.obj info.marshal)
      "extraInfo" = some (unmarshalExtraInfo (.obj info.extraInfo.marshal)) := by
    rw [getObject, found]
  simp only [unmarshalInfo, bundleName, extensionName, enabledStatus, stateUpdateTime, extraInfo,
    Option.getD_some, unmarshalExtraInfo_marshal, ImeEnabledInfo.cText]

/-- What is written is read back, every string cut at its first NUL. -/
theorem unmarshal_marshal (cfg : ImeEnabledCfg) : unmarshalCfg (.obj cfg.marshal) = cfg.cText := by
  have version : getString (.obj cfg.marshal) "version" = some (cStr cfg.version) :=
    getString_ofString (getSubNode_of_find (by decide) (by simp [ImeEnabledCfg.marshal, sameKey]))
  have found : getSubNode (.obj cfg.marshal) "inputmethods" =
      some (.arr (cfg.enabledInfos.map fun info => .obj info.marshal)) :=
    getSubNode_of_find (by decide) (by simp [ImeEnabledCfg.marshal, sameKey])
  have entries : (cfg.enabledInfos.map fun info => Json.obj info.marshal).map unmarshalInfo =
      cfg.enabledInfos.map ImeEnabledInfo.cText := by
    rw [List.map_map]
    exact List.map_congr_left fun info _ => unmarshalInfo_marshal info
  simp only [unmarshalCfg, version, found, entries, Option.getD_some, ImeEnabledCfg.cText]

theorem plain_extraInfo (info : ExtraInfo) : Plain (.obj info.marshal) := by
  show PlainFields info.marshal
  exact ⟨by decide, trivial, by decide, trivial, by decide, trivial, by decide,
    plain_ofString _, trivial⟩

theorem plain_info (info : ImeEnabledInfo) : Plain (.obj info.marshal) := by
  show PlainFields info.marshal
  exact ⟨by decide, plain_ofString _, by decide, plain_ofString _, by decide, plain_ofInt32 _,
    by decide, plain_ofString _, by decide, plain_extraInfo _, trivial⟩

theorem plain_cfg (cfg : ImeEnabledCfg) : Plain (.obj cfg.marshal) := by
  have items : PlainItems (cfg.enabledInfos.map fun info => Json.obj info.marshal) := by
    rw [plainItems_iff]
    intro item inside
    obtain ⟨info, -, rfl⟩ := List.mem_map.1 inside
    exact plain_info info
  show PlainFields cfg.marshal
  exact ⟨by decide, plain_ofString _, by decide, items, trivial⟩

end RoundTrip

/-! ## Text -/

section Text

variable (cjson : CJson)

/-- `ImeEnabledCfg::Marshall`. -/
def ImeEnabledCfg.text (cfg : ImeEnabledCfg) : String := cjson.print (.obj cfg.marshal)

/-- `ImeEnabledCfg::Unmarshall` into a fresh configuration. -/
def readCfg (text : String) : ImeEnabledCfg :=
  match cjson.parse (cStr text) with
  | some node => unmarshalCfg node
  | none => {}

variable {cjson}

theorem readCfg_text (lawful : cjson.Lawful) (cfg : ImeEnabledCfg) :
    readCfg cjson (cfg.text cjson) = cfg.cText := by
  rw [readCfg, ImeEnabledCfg.text, lawful.cStr_print, lawful.parse_print _ (plain_cfg cfg)]
  exact unmarshal_marshal cfg

end Text

end Imf.Enabled
