/-
# Imf.Client.Controller -- the fields of InputMethodController

What an editor's `InputMethodController` holds: the text listener, the text config, the two caches
of what the input method was told last, the flags of the session and the agents of the bound input
methods.  Every definition here is one section under a lock, one access of an atomic, or a function
that is made of these; the other modules put them together, one after another or interleaved.

Calls into the listener and reports are left out: they do not come back to the fields.
-/
import Mathlib.Data.Rat.Init
import Mathlib.Logic.Basic
import Imf.Ipc.ClientInfo
import Imf.Text.StringUtils

namespace Imf.Client

set_option autoImplicit false

open Ipc (ClientState ClientType ImeType InputAttribute)

def NO_ERROR : Int32 := 0
def ERROR_PARAMETER_CHECK_FAILED : Int32 := 14
def ERROR_CLIENT_NOT_EDITABLE : Int32 := 51
def ERROR_CLIENT_NOT_BOUND : Int32 := 55
def ERROR_TRY_IME_START_FAILED : Int32 := 93

def INVALID_VALUE : Int := -1
def MAX_PLACEHOLDER_SIZE : Int32 := 255
def MAX_ABILITY_NAME_SIZE : Int32 := 127
def IME_MIRROR_NAME : String := "proxyIme_IME_MIRROR"

/-! ## Text configs -/

/-- The coordinates are finite. -/
structure CursorInfo where
  left : Rat := -1
  top : Rat := -1
  width : Rat := -1
  height : Rat := -1
  displayId : Nat := 0
  deriving DecidableEq

/-- `stop` is the source's `end`. -/
structure Range where
  start : Int := INVALID_VALUE
  stop : Int := INVALID_VALUE
  deriving DecidableEq

structure TextConfig where
  inputAttribute : InputAttribute := {}
  cursorInfo : CursorInfo := {}
  range : Range := {}
  windowId : Nat := 0
  deriving DecidableEq

/-- `ImmersiveMode::NONE_IMMERSIVE` to `ImmersiveMode::END`.  The other modes are only logged. -/
def isValidTextConfig (textConfig : TextConfig) : Int32 :=
  if textConfig.inputAttribute.immersiveMode < 0 ∨ 4 ≤ textConfig.inputAttribute.immersiveMode then
    ERROR_PARAMETER_CHECK_FAILED
  else NO_ERROR

/-- What the service answers, or the cache of it, about the capacities of the device. -/
structure Capacities where
  isSupportPcMode : Bool
  isPcMode : Bool
  isDisablePcModeImmersiveMode : Bool
  isDisableImmersiveMode : Bool
  deriving DecidableEq

def shouldOverrideImmersiveMode (capacities : Capacities) (textConfig : TextConfig) : Bool :=
  if textConfig.inputAttribute.immersiveMode = 0 then false
  else if capacities.isSupportPcMode then
    if capacities.isPcMode then capacities.isDisablePcModeImmersiveMode
    else capacities.isDisableImmersiveMode
  else capacities.isDisableImmersiveMode

def calibrateImmersiveParam (inputAttribute : InputAttribute) (shouldOverrideImmersiveMode : Bool) :
    InputAttribute :=
  let inputAttribute := if shouldOverrideImmersiveMode then { inputAttribute with
    immersiveMode := 0 } else inputAttribute
  if inputAttribute.immersiveMode = 0 then
    { inputAttribute with gradientMode := 0, fluidLightMode := 0 }
  else if inputAttribute.gradientMode = 0 then { inputAttribute with fluidLightMode := 0 }
  else inputAttribute

/-- `TruncateUtf16String`, with the ICU of `Text.icuModel`. -/
def truncateUtf16String (text : List UInt16) (maxChars : Int32) : List UInt16 :=
  (Text.truncateUtf16String Text.icuModel text maxChars).getD text

/-- The attribute that `SaveTextConfig` stores. -/
def savedAttribute (capacities : Capacities) (textConfig : TextConfig) : InputAttribute :=
  let calibrated :=
    calibrateImmersiveParam textConfig.inputAttribute
      (shouldOverrideImmersiveMode capacities textConfig)
  { calibrated with
    placeholder := truncateUtf16String calibrated.placeholder MAX_PLACEHOLDER_SIZE
    abilityName := truncateUtf16String calibrated.abilityName MAX_ABILITY_NAME_SIZE }

/-! ## The controller -/

/-- `agent` is made with the entry and is there for as long as the entry, so it is its number.  What
it was told last: a text with its selection, and the left, top and height of a cursor. -/
structure AgentInfo where
  agentObject : Nat
  imeType : ImeType
  selection : Option (List UInt16 × Int × Int) := .none
  cursor : Option (Rat × Rat × Rat) := .none
  deriving DecidableEq

/-- A listener is a number.  `state`, `isShowKeyboard`, `type` and `isNotifyInputStart` are those of
`clientInfo_`. -/
structure Controller where
  textListener : Option Nat := .none
  textConfig : TextConfig := {}
  cursorInfo : CursorInfo := {}
  isTextNotified : Bool := false
  textString : List UInt16 := []
  selectOldBegin : Int := 0
  selectOldEnd : Int := 0
  selectNewBegin : Int := 0
  selectNewEnd : Int := 0
  isBound : Bool := false
  isEditable : Bool := false
  agentInfoList : List AgentInfo := []
  state : ClientState := .inactive
  isShowKeyboard : Bool := false
  type : ClientType := .innerKit
  isNotifyInputStart : Bool := true
  isDiedAttached : Bool := false
  deriving DecidableEq

/-- What the service answers to an attach.  A null agent is nothing; an `imeInfo` is its bundle name. -/
structure Answer where
  capacities : Capacities
  ret : Int32
  agents : List (Option Nat)
  imeInfos : List String
  deriving DecidableEq

/-- The arguments of an attach. -/
structure Request where
  listener : Option Nat
  isShowKeyboard : Bool
  textConfig : TextConfig
  type : ClientType := .innerKit
  deriving DecidableEq

namespace Controller

variable (s : Controller)

/-- `IsBound`. -/
def checkBound : Bool := s.state = .active && s.isBound

/-- `IsEditable`. -/
def checkEditable : Bool := s.state = .active && s.isEditable

def setTextListener (listener : Option Nat) : Controller := { s with textListener := listener }

/-- `ClearEditorCache`, under `editorContentLock_`. -/
def clearEditorContent (isNewEditor : Bool) : Controller :=
  if isNewEditor || !s.isBound then
    { s with
      isTextNotified := false
      textString := []
      selectOldBegin := INVALID_VALUE
      selectOldEnd := INVALID_VALUE
      selectNewBegin := INVALID_VALUE
      selectNewEnd := INVALID_VALUE }
  else s

/-- `ClearEditorCache`, under `textConfigLock_`. -/
def clearTextConfig : Controller := { s with textConfig := {} }

/-- `ClearEditorCache`, under `cursorInfoMutex_`. -/
def clearCursorInfo : Controller := { s with cursorInfo := {} }

def clearEditorCache (isNewEditor : Bool) : Controller :=
  ((s.clearEditorContent isNewEditor).clearTextConfig).clearCursorInfo

/-- `SaveTextConfig`, under `textConfigLock_`.  `scale` is the window-scale callback. -/
def storeTextConfig (scale : Nat → CursorInfo → CursorInfo) (capacities : Capacities)
    (textConfig : TextConfig) :
    Controller :=
  { s with
    textConfig :=
      { textConfig with
        inputAttribute := savedAttribute capacities textConfig
        cursorInfo := scale textConfig.windowId textConfig.cursorInfo } }

/-- `SaveTextConfig`, under `editorContentLock_`. -/
def storeRange (range : Range) : Controller :=
  if range.start ≠ INVALID_VALUE then
    { s with
      selectOldBegin := s.selectNewBegin
      selectOldEnd := s.selectNewEnd
      selectNewBegin := range.start
      selectNewEnd := range.stop }
  else s

def saveTextConfig (scale : Nat → CursorInfo → CursorInfo) (capacities : Capacities)
    (textConfig : TextConfig) :
    Controller :=
  (s.storeTextConfig scale capacities textConfig).storeRange textConfig.range

def clearAgentInfo : Controller := { s with agentInfoList := [] }

def setAgent (agentObject : Nat) (bundleName : String) : Controller :=
  if s.agentInfoList.any (fun agentInfo => agentInfo.agentObject = agentObject) then s
  else
    { s with
      agentInfoList := s.agentInfoList ++
        [{ agentObject, imeType := if bundleName = IME_MIRROR_NAME then .imeMirror else .none }] }

def getAgent : Option AgentInfo := s.agentInfoList.find? fun agentInfo => agentInfo.imeType ≠ .imeMirror

def onInputReady (agentObject : Option Nat) (bundleName : String) : Controller :=
  let s := if bundleName ≠ IME_MIRROR_NAME then { s with isBound := true, isEditable := true } else s
  match agentObject with
  | .none => s
  | some agentObject => s.setAgent agentObject bundleName

def setInputReady (agents : List (Option Nat)) (imeInfos : List String) : Controller :=
  if agents.length ≠ imeInfos.length then s
  else (agents.zip imeInfos).foldl (fun s ready => s.onInputReady ready.1 ready.2) s

/-- `OnInputStop`, but for `OnTmpInputStop`. -/
def onInputStop : Controller :=
  { s.clearAgentInfo with
    isBound := false
    isEditable := false
    isTextNotified := false
    textString := []
    selectOldBegin := INVALID_VALUE
    selectOldEnd := INVALID_VALUE
    selectNewBegin := INVALID_VALUE
    selectNewEnd := INVALID_VALUE }

def onTmpInputStop : Controller :=
  { s.clearAgentInfo with isBound := false, isEditable := false, isTextNotified := false }

/-- `SendRequestToAllAgents`, of a request that an agent does not refuse. -/
def sendRequestToAllAgents (task : AgentInfo → AgentInfo) : Controller :=
  { s with
    agentInfoList := s.agentInfoList.map fun agentInfo =>
      if agentInfo.imeType = .imeMirror && s.textConfig.inputAttribute.isSecurityImeFlag then agentInfo
      else task agentInfo }

/-- `OnSelectionChange`, under `editorContentLock_`, and whether it goes on. -/
def updateContent (text : List UInt16) (start stop : Int) : Controller × Bool :=
  let isTextNotified := s.isTextNotified
  let s := { s with isTextNotified := true }
  if isTextNotified && s.textString = text && s.selectNewBegin = start &&
      s.selectNewEnd = stop then (s, false)
  else
    ({ s with
        textString := text
        selectOldBegin := s.selectNewBegin
        selectOldEnd := s.selectNewEnd
        selectNewBegin := start
        selectNewEnd := stop }, true)

def onSelectionChange (text : List UInt16) (start stop : Int) : Controller × Int32 :=
  if s.checkBound = false then (s, ERROR_CLIENT_NOT_BOUND)
  else if s.checkEditable = false then (s, ERROR_CLIENT_NOT_EDITABLE)
  else
    let s := { s with textConfig := { s.textConfig with range := ⟨start, stop⟩ } }
    let (s, changed) := s.updateContent text start stop
    if changed = false then (s, NO_ERROR)
    else
      (s.sendRequestToAllAgents fun agentInfo =>
        { agentInfo with selection := some (text, s.selectNewBegin, s.selectNewEnd) }, NO_ERROR)

/-- The agents are sent the left, the top and the height. -/
def onCursorUpdate (scale : Nat → CursorInfo → CursorInfo) (cursorInfo : CursorInfo) :
    Controller × Int32 :=
  if s.checkBound = false then (s, ERROR_CLIENT_NOT_BOUND)
  else if s.checkEditable = false then (s, ERROR_CLIENT_NOT_EDITABLE)
  else
    let cursorInfo := scale s.textConfig.windowId cursorInfo
    let s := { s with textConfig := { s.textConfig with cursorInfo } }
    if s.cursorInfo = cursorInfo then (s, NO_ERROR)
    else
      (({ s with cursorInfo } : Controller).sendRequestToAllAgents fun agentInfo =>
        { agentInfo with cursor := some (cursorInfo.left, cursorInfo.top, cursorInfo.height) },
        NO_ERROR)

/-- `PrepareAttach`. -/
def prepareAttach (scale : Nat → CursorInfo → CursorInfo) (request : Request)
    (capacities : Capacities) : Controller :=
  let isNotifyInputStart : Bool := s.textListener ≠ request.listener
  let s := { s with isNotifyInputStart }
  let s := (s.clearEditorCache isNotifyInputStart).setTextListener request.listener
  let s := s.saveTextConfig scale capacities request.textConfig
  { s with isShowKeyboard := request.isShowKeyboard, type := request.type }

/-- `AttachExec`: one try of an attach. -/
def attachExec (scale : Nat → CursorInfo → CursorInfo) (request : Request) (answer : Answer) :
    Controller × Int32 :=
  if isValidTextConfig request.textConfig ≠ NO_ERROR then (s, ERROR_PARAMETER_CHECK_FAILED)
  else
    let s := s.prepareAttach scale request answer.capacities
    if answer.ret ≠ NO_ERROR then (s.setTextListener .none, answer.ret)
    else (({ s with state := .active } : Controller).setInputReady answer.agents answer.imeInfos,
      NO_ERROR)

end Controller

/-! ## What an attach touches -/

section Frames

variable {scale : Nat → CursorInfo → CursorInfo} {request : Request}

/-- `OnInputReady` changes the two flags and the agents. -/
theorem onInputReady_frame (s : Controller) (agentObject : Option Nat) (bundleName : String) :
    ∃ isBound isEditable agentInfoList,
      s.onInputReady agentObject bundleName = { s with isBound, isEditable, agentInfoList } := by
  unfold Controller.onInputReady Controller.setAgent
  dsimp only
  split
  · split <;> exact ⟨_, _, _, rfl⟩
  · split
    · split <;> exact ⟨_, _, _, rfl⟩
    · split <;> exact ⟨_, _, _, rfl⟩

theorem setInputReady_frame (s : Controller) (agents : List (Option Nat)) (imeInfos : List String) :
    ∃ isBound isEditable agentInfoList,
      s.setInputReady agents imeInfos = { s with isBound, isEditable, agentInfoList } := by
  unfold Controller.setInputReady
  split
  · exact ⟨_, _, _, rfl⟩
  · generalize agents.zip imeInfos = ready
    induction ready generalizing s with
    | nil => exact ⟨_, _, _, rfl⟩
    | cons first rest ih =>
        obtain ⟨isBound, isEditable, agentInfoList, changed⟩ := onInputReady_frame s first.1 first.2
        rw [List.foldl_cons, changed]
        exact ih _

/-- When `PrepareAttach` clears the editor content. -/
theorem clears_iff (s : Controller) (request : Request) :
    (decide (s.textListener ≠ request.listener) || !s.isBound) = true ↔
      s.textListener ≠ request.listener ∨ s.isBound = false := by
  cases s.isBound <;> simp

/-- A try that fails, when the config is valid. -/
theorem attachExec_failed {s : Controller} (valid : isValidTextConfig request.textConfig = NO_ERROR)
    {answer : Answer} (failed : answer.ret ≠ NO_ERROR) :
    s.attachExec scale request answer =
      ((s.prepareAttach scale request answer.capacities).setTextListener none, answer.ret) := by
  unfold Controller.attachExec
  rw [if_neg (not_not.2 valid)]
  dsimp only
  rw [if_pos failed]

/-- A try that succeeds. -/
theorem attachExec_succeeded {s : Controller} (valid : isValidTextConfig request.textConfig = NO_ERROR)
    {answer : Answer} (ok : answer.ret = NO_ERROR) :
    s.attachExec scale request answer =
      (({ s.prepareAttach scale request answer.capacities with
        state := .active } : Controller).setInputReady
        answer.agents answer.imeInfos, NO_ERROR) := by
  unfold Controller.attachExec
  rw [if_neg (not_not.2 valid)]
  dsimp only
  rw [if_neg (not_not.2 ok)]

theorem attachExec_invalid {s : Controller} (invalid : isValidTextConfig request.textConfig ≠ NO_ERROR)
    (answer : Answer) : s.attachExec scale request answer = (s, ERROR_PARAMETER_CHECK_FAILED) :=
  if_pos invalid

end Frames

/-! ## What is stored stays -/

/-- What a calibration leaves, field by field. -/
theorem calibrate_eq (inputAttribute : InputAttribute) (override : Bool) :
    calibrateImmersiveParam inputAttribute override =
      { inputAttribute with
        immersiveMode := if override then 0 else inputAttribute.immersiveMode
        gradientMode := if override ∨ inputAttribute.immersiveMode = 0 then 0
          else inputAttribute.gradientMode
        fluidLightMode :=
          if override ∨ inputAttribute.immersiveMode = 0 ∨ inputAttribute.gradientMode = 0 then 0
          else inputAttribute.fluidLightMode } := by
  unfold calibrateImmersiveParam
  cases override with
  | true => simp
  | false =>
      by_cases plain : inputAttribute.immersiveMode = 0
      · simp [plain]
      · by_cases even : inputAttribute.gradientMode = 0
        · simp [plain, even]
        · simp [plain, even]

end Imf.Client
