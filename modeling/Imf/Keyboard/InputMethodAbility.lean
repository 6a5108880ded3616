/-
# Imf.Keyboard.InputMethodAbility -- the keyboard of one input method

What `InputMethodAbility` does in the process of an input method: text fields are bound to it and
go, the service and the input method itself ask for the keyboard to be shown and hidden, panels are
created and destroyed, and the service, the text field or the window manager may go at any moment.
The panels are reduced to their flag and the state of their window; what the window manager and the
text field answer is the scene of a call.

The calls are taken one after the other.  The source sees to that for the commands of the keyboard by
`keyboardCmdLock_` and for the calls of the service by its task manager; `StartInput` takes no such
lock, `CreatePanel` and `DestroyPanel` run in the thread of the application and `OnNotifyPreemption`
in the one of the IPC, so a run here says nothing about those that overlap with another call.
`StartInputInner` puts its second half behind the callbacks of the input method, and anything may come
between.  Not modelled:
what is only passed on (text, cursor and selection, colours, sizes of panels), the notices that
tell the service of an input start or stop, and the panels that the application still holds after
they were destroyed.

* `channel_iff`: which text field the input method talks to.
-/
import Imf.Common.ErrorCode
import Imf.Lib.Run
import Imf.Panel.Layout
import Imf.Session.InputTypes

namespace Imf.Keyboard

set_option autoImplicit false

open Lib (run Since)
open Panel (PanelFlag)
open InputTypes (InputType)
open Ipc (InputClientInfo)

/-! ## Data -/

/-- A remote object: the text field of a client. -/
abbrev Remote := Nat

inductive PanelType where
  | SOFT_KEYBOARD
  | STATUS_BAR
  deriving DecidableEq, Repr

inductive Trigger where
  | IME_APP
  | IMF
  deriving DecidableEq, Repr

inductive WindowState where
  | created
  | shown
  | hidden
  deriving DecidableEq, Repr

structure InputMethodPanel where
  panelFlag : PanelFlag
  windowState : WindowState := .created
  deriving DecidableEq, Repr

structure PanelStatusInfo where
  panelType : PanelType
  panelFlag : PanelFlag
  inputType : InputType := .none
  visible : Bool
  trigger : Trigger
  sessionId : UInt32 := 0
  clientSessionId : Int32 := -1
  deriving DecidableEq, Repr

/-- `requestKeyboardReason`: the code of the reason, 0 for none. -/
structure AttachOptions where
  isSimpleKeyboardEnabled : Bool := false
  requestKeyboardReason : Int32 := 0
  deriving DecidableEq, Repr

/-- What is told to a text field, to the service (`hideKeyboardSelf`) and to the input method, and the
task that `CreatePanel` posts. -/
inductive Told where
  | panelStatusInfo (channel : Remote) (info : PanelStatusInfo)
  | keyboardStatus (channel : Remote) (isShow : Bool)
  | keyboardHeight (channel : Remote) (height : UInt32)
  | finishTextPreview (channel : Remote)
  | hideKeyboardSelf
  | onKeyboardStatus (isShow : Bool)
  | onInputStart
  | onInputFinish
  | onInputStop
  | onAttachOptionsChanged (options : AttachOptions)
  | taskImsaShowKeyboard
  deriving DecidableEq, Repr

/-- `pending`: the second halves of `StartInputInner` that wait for the input method, with whether they
show the keyboard.  `watched`: the channels whose death is watched.  `told`: the last one at the end. -/
structure InputMethodAbility where
  imeListener : Bool := false
  textInputClientListener : Bool := false
  panels : PanelType → Option InputMethodPanel := fun _ => none
  dataChannelObject : Option Remote := none
  watched : List Remote := []
  controlChannel : Bool := false
  isImeMirrorEnable : Bool := false
  isProxyIme : Bool := false
  isShowAfterCreate : Bool := false
  isImeTerminating : Bool := false
  isInputStartNotified : Bool := false
  inputType : InputType := .none
  attachOptions : AttachOptions := {}
  callingDisplayId : UInt64 := 0
  cmdId : Nat := 0
  pending : List Bool := []
  told : List Told := []

/-- What the window manager and the text field answer to one call. -/
structure Scene where
  shows : Bool := true
  hides : PanelType → Bool := fun _ => true
  created : Bool := true
  watches : Bool := true
  posted : Bool := true
  textConfig : Option Int32 := some 0

namespace InputMethodAbility

variable (scene : Scene) (s : InputMethodAbility)

def tell (told : Told) : InputMethodAbility := { s with told := s.told ++ [told] }

/-- `++cmdId_`. -/
def nextCmd : InputMethodAbility := { s with cmdId := s.cmdId + 1 }

/-- `isShowAfterCreate_.store(true)`. -/
def awaitShow : InputMethodAbility := { s with isShowAfterCreate := true }

/-- `isShowAfterCreate_.store(false)`. -/
def forgetShow : InputMethodAbility := { s with isShowAfterCreate := false }

def clearAttachOptions : InputMethodAbility := { s with attachOptions := {} }

/-- To the input method, when it listens. -/
def tellIme (told : Told) : InputMethodAbility := if s.imeListener then s.tell told else s

/-- To a text field, when there is a channel to it. -/
def tellClient (channel : Option Remote) (told : Remote → Told) : InputMethodAbility :=
  match channel with
  | some channel => s.tell (told channel)
  | none => s

def setPanel (type : PanelType) (panel : Option InputMethodPanel) : InputMethodAbility :=
  { s with panels := fun other => if other = type then panel else s.panels other }

/-! ## Channels -/

/-- `GetInputDataChannelProxyWrap`, `GetInputDataChannelProxy`. -/
def getInputDataChannelProxy : Option Remote :=
  if s.isImeMirrorEnable then none else s.dataChannelObject

def setInputDataChannel (object : Remote) : InputMethodAbility :=
  if s.dataChannelObject = some object then s
  else
    { s with
      dataChannelObject := some object
      watched := (s.watched.filter fun channel => some channel ≠ s.dataChannelObject) ++
        if scene.watches then [object] else [] }

def clearDataChannel (channel : Option Remote) : InputMethodAbility :=
  if s.dataChannelObject = none ∨ channel = none then s
  else if s.dataChannelObject = channel then
    { s with
      dataChannelObject := none
      watched := s.watched.filter fun object => some object ≠ s.dataChannelObject }
  else s

/-- `NotifyPanelStatusInfo` over a channel. -/
def notifyPanelStatusInfo (info : PanelStatusInfo) (channel : Option Remote) : InputMethodAbility :=
  let info := { info with inputType := s.inputType }
  if info.panelFlag = .FLG_CANDIDATE_COLUMN ∧ info.inputType ≠ .voicekbInput then s
  else
    let s := s.tellClient channel fun channel => .panelStatusInfo channel info
    if s.controlChannel ∧ info.panelType = .SOFT_KEYBOARD ∧ info.trigger = .IME_APP ∧ ¬ info.visible ∧
        ¬ s.isImeTerminating then s.tell .hideKeyboardSelf
    else s

def finishTextPreview : InputMethodAbility := s.tellClient s.getInputDataChannelProxy .finishTextPreview

/-- `NotifyKeyboardHeight`; the height of a panel that is not fixed is no height. -/
def notifyKeyboardHeight (panelHeight : UInt32) (panelFlag : PanelFlag) : InputMethodAbility :=
  s.tellClient s.getInputDataChannelProxy fun channel =>
    .keyboardHeight channel (if panelFlag = .FLG_FIXED then panelHeight else 0)

def sendKeyboardStatus (isShow : Bool) : InputMethodAbility :=
  s.tellClient s.getInputDataChannelProxy fun channel => .keyboardStatus channel isShow

/-! ## Panels -/

/-- `InputMethodPanel::ShowPanel` of a panel that is in `panels_`. -/
def panelShow (type : PanelType) (panel : InputMethodPanel) : ErrorCode × InputMethodAbility :=
  if panel.windowState = .shown then (.noError, s)
  else if scene.shows then (.noError, s.setPanel type (some { panel with windowState := .shown }))
  else (.errorOperatePanel, s)

/-- `InputMethodPanel::HidePanel`. -/
def panelHide (type : PanelType) (panel : InputMethodPanel) : ErrorCode × InputMethodAbility :=
  if panel.windowState = .hidden then (.noError, s)
  else if scene.hides type then (.noError, s.setPanel type (some { panel with windowState := .hidden }))
  else (.errorOperatePanel, s)

def showPanelFlag (type : PanelType) (panel : InputMethodPanel) (trigger : Trigger) :
    ErrorCode × InputMethodAbility :=
  if trigger = .IME_APP ∧ s.getInputDataChannelProxy = none then (.errorImaChannelNullptr, s)
  else
    let (ret, s) := s.panelShow scene type panel
    if ret = .noError then
      (.noError, s.notifyPanelStatusInfo
        { panelType := type, panelFlag := panel.panelFlag, visible := true, trigger }
          s.getInputDataChannelProxy)
    else (ret, s)

def hidePanelFlag (type : PanelType) (panel : InputMethodPanel) (trigger : Trigger) (sessionId : UInt32)
    (clientSessionId : Int32) : ErrorCode × InputMethodAbility :=
  let (ret, s) := s.panelHide scene type panel
  if ret ≠ .noError then (ret, s)
  else
    let s := s.notifyPanelStatusInfo
      { panelType := type, panelFlag := panel.panelFlag, visible := false, trigger, sessionId,
        clientSessionId }
      s.getInputDataChannelProxy
    (.noError, if trigger = .IMF ∧ type = .SOFT_KEYBOARD then s.finishTextPreview else s)

def createPanel (type : PanelType) (flag : PanelFlag) : ErrorCode × InputMethodAbility :=
  if (s.panels type).isSome ∨ ¬ scene.created then (.errorOperatePanel, s)
  else
    let s := s.setPanel type (some { panelFlag := flag })
    if s.isShowAfterCreate ∧ type = .SOFT_KEYBOARD ∧ flag ≠ .FLG_CANDIDATE_COLUMN then
      (.noError, s.forgetShow.tell .taskImsaShowKeyboard)
    else (.noError, s)

def destroyPanel (type : PanelType) : ErrorCode × InputMethodAbility :=
  match s.panels type with
  | none => (.errorBadParameters, s)
  | some panel => (.noError, (s.panelHide scene type panel).2.setPanel type none)

def showPanel (type : PanelType) : ErrorCode × InputMethodAbility :=
  match s.panels type with
  | none => (.errorBadParameters, s)
  | some panel => s.showPanelFlag scene type panel .IME_APP

def hidePanel (type : PanelType) : ErrorCode × InputMethodAbility :=
  match s.panels type with
  | none => (.errorBadParameters, s)
  | some panel =>
      if s.isImeTerminating ∧ type = .SOFT_KEYBOARD then (.noError, s)
      else
        let s :=
          if s.isShowAfterCreate ∧ type = .SOFT_KEYBOARD ∧ panel.panelFlag ≠ .FLG_CANDIDATE_COLUMN then
            s.forgetShow
          else s
        s.hidePanelFlag scene type panel .IME_APP 0 (-1)

/-- `ChangePanelFlag` of the soft keyboard, as far as the window manager takes it. -/
def changePanelFlag (flag : PanelFlag) : InputMethodAbility :=
  match s.panels .SOFT_KEYBOARD with
  | none => s
  | some panel => if scene.created then s.setPanel .SOFT_KEYBOARD (some
      { panel with panelFlag := flag }) else s

/-! ## The keyboard -/

def showKeyboardImplWithoutLock (cmdId : Nat) : ErrorCode × InputMethodAbility :=
  if cmdId ≠ s.cmdId then (.noError, s)
  else if ¬ s.imeListener then (.errorIme, s)
  else
    match s.panels .SOFT_KEYBOARD with
    | some panel =>
        let s := s.tellIme (.onKeyboardStatus true)
        if panel.panelFlag = .FLG_CANDIDATE_COLUMN then
          (.noError, s.notifyKeyboardHeight 0 panel.panelFlag)
        else s.showPanelFlag scene .SOFT_KEYBOARD panel .IMF
    | none =>
        let s := s.awaitShow.sendKeyboardStatus true
        (.noError, s.tellIme (.onKeyboardStatus true))

def hideKeyboardTrigger (trigger : Trigger) (sessionId : UInt32) (clientSessionId : Int32) :
    ErrorCode × InputMethodAbility :=
  let s := s.forgetShow
  if ¬ s.imeListener then (.errorIme, s)
  else
    match s.panels .SOFT_KEYBOARD with
    | some panel =>
        let s := s.tellIme (.onKeyboardStatus false)
        if panel.panelFlag = .FLG_CANDIDATE_COLUMN ∧ s.inputType ≠ .voicekbInput then (.noError, s)
        else s.hidePanelFlag scene .SOFT_KEYBOARD panel trigger sessionId clientSessionId
    | none =>
        let s := (s.tellIme (.onKeyboardStatus false)).sendKeyboardStatus false
        (.noError, if s.controlChannel ∧ trigger = .IME_APP then s.tell .hideKeyboardSelf else s)

def hideKeyboardImplWithoutLock (cmdId : Nat) (sessionId : UInt32) (clientSessionId : Int32) :
    ErrorCode × InputMethodAbility :=
  if cmdId ≠ s.cmdId then (.noError, s) else s.hideKeyboardTrigger scene .IMF sessionId clientSessionId

/-- `InvokeAttachOptionsCallback`: the input method is told, unless nothing is new. -/
def invokeAttachOptionsCallback (options : AttachOptions) (isFirstNotify : Bool) : InputMethodAbility :=
  if ¬ isFirstNotify ∧ s.attachOptions = options then s
  else
    let s := { s with attachOptions := options }
    if s.textInputClientListener then s.tell (.onAttachOptionsChanged options) else s

def handleRequestKeyboardReasonChanged (requestKeyboardReason : Int32) : InputMethodAbility :=
  s.invokeAttachOptionsCallback
    { isSimpleKeyboardEnabled := s.attachOptions.isSimpleKeyboardEnabled, requestKeyboardReason } false

def showKeyboard (requestKeyboardReason : Int32) : ErrorCode × InputMethodAbility :=
  let s := s.nextCmd
  let cmdCount := s.cmdId
  (s.handleRequestKeyboardReasonChanged requestKeyboardReason).showKeyboardImplWithoutLock scene
    cmdCount

def hideKeyboard : ErrorCode × InputMethodAbility :=
  let s := s.nextCmd
  s.hideKeyboardImplWithoutLock scene s.cmdId 0 (-1)

def hideKeyboardSelf : ErrorCode × InputMethodAbility :=
  if s.isImeTerminating then (.noError, s)
  else
    let (ret, s) := s.hideKeyboardTrigger scene .IME_APP 0 (-1)
    (if ret = .errorClientNullPointer then ret else .noError, s)

def hideCandidatePanel : ErrorCode × InputMethodAbility :=
  match s.panels .SOFT_KEYBOARD with
  | none => (.errorIme, s)
  | some panel =>
      if panel.panelFlag ≠ .FLG_CANDIDATE_COLUMN then (.noError, s)
      else s.hidePanelFlag scene .SOFT_KEYBOARD panel .IMF 0 (-1)

/-! ## Text fields -/

/-- `InvokeStartInputCallback`. -/
def invokeStartInputCallback (options : AttachOptions) (callingDisplayId : UInt64)
    (isNotifyInputStart : Bool) :
    ErrorCode × InputMethodAbility :=
  if ¬ s.imeListener then (.errorIme, s)
  else
    let isFirstNotify := isNotifyInputStart || ! s.isInputStartNotified
    let s := { s with callingDisplayId }.invokeAttachOptionsCallback options isFirstNotify
    (.noError, if isFirstNotify then
      { s with isInputStartNotified := true }.tellIme .onInputStart else s)

/-- `InvokeStartInputCallbackWithInfoRestruct`: the text field is asked anew for its configuration. -/
def invokeStartInputCallbackWithInfoRestruct (clientInfo : InputClientInfo) :
    ErrorCode × InputMethodAbility :=
  match s.getInputDataChannelProxy.bind fun _ => scene.textConfig with
  | some requestKeyboardReason =>
      s.invokeStartInputCallback
        { isSimpleKeyboardEnabled := clientInfo.config.isSimpleKeyboardEnabled, requestKeyboardReason }
        clientInfo.config.inputAttribute.callingDisplayId clientInfo.isNotifyInputStart
  | none =>
      if ¬ s.imeListener then (.errorIme, s)
      else (.noError, if clientInfo.isNotifyInputStart then s.tellIme .onInputStart else s)

def startInputCallback (clientInfo : InputClientInfo) (isBindFromClient : Bool) :
    ErrorCode × InputMethodAbility :=
  if isBindFromClient then
    s.invokeStartInputCallback
      ⟨clientInfo.config.isSimpleKeyboardEnabled, clientInfo.config.requestKeyboardReason.value⟩
      clientInfo.config.inputAttribute.callingDisplayId clientInfo.isNotifyInputStart
  else s.invokeStartInputCallbackWithInfoRestruct scene clientInfo

/-- The second half of `StartInputInner`. -/
def startInputShowPanel (needShow : Bool) : InputMethodAbility :=
  let s := if needShow then (s.showKeyboardImplWithoutLock scene s.cmdId).2 else s
  { s with isImeTerminating := false }

/-- The panel goes before the text field is served: a password field, or another display. -/
def startInputHidePanel (clientInfo : InputClientInfo) : InputMethodAbility :=
  if (clientInfo.needHide ∧ ¬ s.isProxyIme) ∨
    s.callingDisplayId ≠ clientInfo.config.inputAttribute.callingDisplayId then
    match s.panels .SOFT_KEYBOARD with
    | some panel => (s.panelHide scene .SOFT_KEYBOARD panel).2
    | none => s
  else s

def startInputInner (clientInfo : InputClientInfo) (isBindFromClient : Bool) :
    ErrorCode × InputMethodAbility :=
  match clientInfo.channel with
  | none => (.errorImaChannelNullptr, s)
  | some channel =>
      let s := (s.setInputDataChannel scene channel).startInputHidePanel scene clientInfo
      let (ret, s) := s.startInputCallback scene clientInfo isBindFromClient
      if ret ≠ .noError then (ret, s)
      else if ¬ s.imeListener ∨ ¬ scene.posted then
        (.noError, s.startInputShowPanel scene clientInfo.isShowKeyboard)
      else (.noError, { s with pending := s.pending ++ [clientInfo.isShowKeyboard] })

/-- The task manager goes on with the first half that waits. -/
def complete : InputMethodAbility :=
  match s.pending with
  | [] => s
  | needShow :: pending => { s with pending }.startInputShowPanel scene needShow

def clearInputType : InputMethodAbility :=
  if s.inputType ≠ .securityInput then { s with inputType := .none } else s

def stopInput (channelObject : Option Remote) (sessionId : UInt32) (clientSessionId : Int32) :
    InputMethodAbility :=
  let s := s.nextCmd
  let s := (s.hideKeyboardImplWithoutLock scene s.cmdId sessionId clientSessionId).2
  (s.clearDataChannel channelObject).clearAttachOptions.clearInputType.tellIme .onInputFinish

/-- The loop of `OnClientInactive`, for one panel. -/
def inactivePanel (channel : Remote) (type : PanelType) : InputMethodAbility :=
  match s.panels type with
  | none => s
  | some panel =>
      if type = .SOFT_KEYBOARD ∧ panel.panelFlag = .FLG_FIXED then s
      else
        let (ret, s) := s.panelHide scene type panel
        if ret ≠ .noError then s
        else
          let s := s.notifyPanelStatusInfo
            { panelType := type, panelFlag := panel.panelFlag, visible := false,
              trigger := .IME_APP } (some channel)
          if type = .SOFT_KEYBOARD then s.finishTextPreview else s

/-- A keyboard that is not fixed goes with the text field. -/
def inactiveStatus : InputMethodAbility :=
  match s.panels .SOFT_KEYBOARD with
  | some panel => if panel.panelFlag ≠ .FLG_FIXED then s.tellIme (.onKeyboardStatus false) else s
  | none => s

def onClientInactive (channel : Remote) : InputMethodAbility :=
  let s := (s.tellIme .onInputFinish).inactiveStatus
  let s := (s.inactivePanel scene channel .SOFT_KEYBOARD).inactivePanel scene channel .STATUS_BAR
  (s.clearDataChannel (some channel)).clearAttachOptions

/-- `OnCallingDisplayIdChanged`, with the display of the keyboard. -/
def onCallingDisplayIdChanged (keyboardDisplayId : UInt64) : InputMethodAbility :=
  if s.callingDisplayId = keyboardDisplayId then s
  else
    let s := { s with callingDisplayId := keyboardDisplayId }
    match s.panels .SOFT_KEYBOARD with
    | some panel =>
        if panel.panelFlag = PanelFlag.FLG_FIXED then
          (s.hidePanelFlag scene .SOFT_KEYBOARD panel .IMF 0 (-1)).2 else s
    | none => s

/-! ## The service -/

def onStopInputService (isTerminateIme : Bool) : ErrorCode × InputMethodAbility :=
  if ¬ s.imeListener then (.errorImeNotStarted, s)
  else if isTerminateIme then (.noError, { s with isImeTerminating := true }.tellIme .onInputStop)
  else (.noError, s)

def onRemoteSaDied : InputMethodAbility :=
  { s.clearDataChannel s.dataChannelObject with controlChannel := false }.tellIme .onInputStop

end InputMethodAbility

/-! ## Runs -/

inductive Event where
  | setImeListener
  | setTextInputClientListener
  | startInput (clientInfo : InputClientInfo) (isBindFromClient : Bool) (scene : Scene)
  | complete (scene : Scene)
  | stopInput (channelObject : Option Remote) (sessionId : UInt32)
      (clientSessionId : Int32) (scene : Scene)
  | onClientInactive (channel : Remote) (scene : Scene)
  | showKeyboard (requestKeyboardReason : Int32) (scene : Scene)
  | hideKeyboard (scene : Scene)
  | hideKeyboardSelf (scene : Scene)
  | hideCandidatePanel (scene : Scene)
  | createPanel (type : PanelType) (flag : PanelFlag) (scene : Scene)
  | destroyPanel (type : PanelType) (scene : Scene)
  | showPanel (type : PanelType) (scene : Scene)
  | hidePanel (type : PanelType) (scene : Scene)
  | changePanelFlag (flag : PanelFlag) (scene : Scene)
  | onSetInputType (inputType : InputType)
  | exitCurrentInputType
  | onCallingDisplayIdChanged (keyboardDisplayId : UInt64) (scene : Scene)
  | onInitInputControlChannel
  | onInputDataChannelDied (channel : Remote)
  | onRemoteSaDied
  | onStopInputService (isTerminateIme : Bool)
  | onNotifyPreemption (scene : Scene)
  | setProxyIme (isProxyIme : Bool)
  | setImeMirrorEnable (isImeMirrorEnable : Bool)
  /-- The window manager shows or hides a window of its own accord. -/
  | windowChanged (type : PanelType) (windowState : WindowState)

def step (s : InputMethodAbility) : Event → InputMethodAbility
  | .setImeListener => { s with imeListener := true }
  | .setTextInputClientListener => { s with textInputClientListener := true }
  | .startInput clientInfo isBindFromClient scene =>
      (s.startInputInner scene clientInfo isBindFromClient).2
  | .complete scene => s.complete scene
  | .stopInput channelObject sessionId clientSessionId scene =>
      s.stopInput scene channelObject sessionId clientSessionId
  | .onClientInactive channel scene => s.onClientInactive scene channel
  | .showKeyboard requestKeyboardReason scene => (s.showKeyboard scene requestKeyboardReason).2
  | .hideKeyboard scene => (s.hideKeyboard scene).2
  | .hideKeyboardSelf scene => (s.hideKeyboardSelf scene).2
  | .hideCandidatePanel scene => (s.hideCandidatePanel scene).2
  | .createPanel type flag scene => (s.createPanel scene type flag).2
  | .destroyPanel type scene => (s.destroyPanel scene type).2
  | .showPanel type scene => (s.showPanel scene type).2
  | .hidePanel type scene => (s.hidePanel scene type).2
  | .changePanelFlag flag scene => s.changePanelFlag scene flag
  | .onSetInputType inputType => { s with inputType }
  | .exitCurrentInputType => s.clearInputType
  | .onCallingDisplayIdChanged keyboardDisplayId scene =>
      s.onCallingDisplayIdChanged scene keyboardDisplayId
  | .onInitInputControlChannel => { s with controlChannel := true }
  | .onInputDataChannelDied channel => s.clearDataChannel (some channel)
  | .onRemoteSaDied => s.onRemoteSaDied
  | .onStopInputService isTerminateIme => (s.onStopInputService isTerminateIme).2
  | .onNotifyPreemption scene => s.stopInput scene s.dataChannelObject 0 (-1)
  | .setProxyIme isProxyIme => { s with isProxyIme }
  | .setImeMirrorEnable isImeMirrorEnable => { s with isImeMirrorEnable }
  | .windowChanged type windowState =>
      match s.panels type with
      | none => s
      | some panel => s.setPanel type (some { panel with windowState })

/-! ## What the keyboard leaves alone -/

namespace InputMethodAbility

/-- All but the panels and what is said about them. -/
def still (s : InputMethodAbility) : InputMethodAbility :=
  { s with panels := fun _ => none, told := [] }

/-- And all but a show that waits for a panel. -/
def rest (s : InputMethodAbility) : InputMethodAbility := s.still.forgetShow

theorem rest_of_still {s s' : InputMethodAbility} (same : s'.still = s.still) : s'.rest = s.rest :=
  congrArg forgetShow same

section Rest

variable (scene : Scene) (s : InputMethodAbility)

@[simp] theorem still_tell (told : Told) : (s.tell told).still = s.still := rfl

@[simp] theorem still_tellIme (told : Told) : (s.tellIme told).still = s.still := by
  unfold tellIme
  split <;> rfl

@[simp] theorem still_setPanel (type : PanelType) (panel : Option InputMethodPanel) :
    (s.setPanel type panel).still = s.still := rfl

@[simp] theorem still_tellClient (channel : Option Remote) (told : Remote → Told) :
    (s.tellClient channel told).still = s.still := by
  cases channel <;> rfl

@[simp] theorem still_sendKeyboardStatus (isShow : Bool) :
    (s.sendKeyboardStatus isShow).still = s.still :=
  still_tellClient ..

@[simp] theorem still_notifyKeyboardHeight (panelHeight : UInt32) (panelFlag : PanelFlag) :
    (s.notifyKeyboardHeight panelHeight panelFlag).still = s.still :=
  still_tellClient ..

@[simp] theorem still_finishTextPreview : s.finishTextPreview.still = s.still := still_tellClient ..

@[simp] theorem still_notifyPanelStatusInfo (info : PanelStatusInfo) (channel : Option Remote) :
    (s.notifyPanelStatusInfo info channel).still = s.still := by
  unfold notifyPanelStatusInfo
  dsimp only
  split
  · rfl
  · split <;> simp

@[simp] theorem still_panelShow (type : PanelType) (panel : InputMethodPanel) :
    (s.panelShow scene type panel).2.still = s.still := by
  unfold panelShow
  split
  · rfl
  · split <;> rfl

@[simp] theorem still_panelHide (type : PanelType) (panel : InputMethodPanel) :
    (s.panelHide scene type panel).2.still = s.still := by
  unfold panelHide
  split
  · rfl
  · split <;> rfl

@[simp] theorem still_showPanelFlag (type : PanelType) (panel : InputMethodPanel) (trigger : Trigger) :
    (s.showPanelFlag scene type panel trigger).2.still = s.still := by
  unfold showPanelFlag
  split
  · rfl
  · dsimp only
    split <;> simp

@[simp] theorem still_hidePanelFlag (type : PanelType) (panel : InputMethodPanel) (trigger : Trigger)
    (sessionId : UInt32) (clientSessionId : Int32) :
    (s.hidePanelFlag scene type panel trigger sessionId clientSessionId).2.still = s.still := by
  unfold hidePanelFlag
  dsimp only
  split
  · simp
  · split <;> simp

@[simp] theorem rest_createPanel (type : PanelType) (flag : PanelFlag) :
    (s.createPanel scene type flag).2.rest = s.rest := by
  unfold createPanel
  split
  · rfl
  · dsimp only
    split <;> rfl

@[simp] theorem still_destroyPanel (type : PanelType) :
    (s.destroyPanel scene type).2.still = s.still := by
  unfold destroyPanel
  split <;> simp

@[simp] theorem still_showPanel (type : PanelType) : (s.showPanel scene type).2.still = s.still := by
  unfold showPanel
  split <;> simp

@[simp] theorem rest_forgetShow : s.forgetShow.rest = s.rest := rfl

@[simp] theorem rest_awaitShow : s.awaitShow.rest = s.rest := rfl

@[simp] theorem rest_hidePanelFlag (type : PanelType) (panel : InputMethodPanel) (trigger : Trigger)
    (sessionId : UInt32) (clientSessionId : Int32) :
    (s.hidePanelFlag scene type panel trigger sessionId clientSessionId).2.rest = s.rest :=
  rest_of_still (still_hidePanelFlag ..)

@[simp] theorem rest_hidePanel (type : PanelType) : (s.hidePanel scene type).2.rest = s.rest := by
  unfold hidePanel
  split
  · rfl
  · split
    · rfl
    · dsimp only
      split <;> simp

@[simp] theorem still_changePanelFlag (flag : PanelFlag) :
    (s.changePanelFlag scene flag).still = s.still := by
  unfold changePanelFlag
  split
  · rfl
  · split <;> rfl

@[simp] theorem rest_tellIme (told : Told) : (s.tellIme told).rest = s.rest :=
  rest_of_still (still_tellIme ..)

@[simp] theorem rest_sendKeyboardStatus (isShow : Bool) : (s.sendKeyboardStatus isShow).rest = s.rest :=
  rest_of_still (still_sendKeyboardStatus ..)

@[simp] theorem rest_showKeyboardImplWithoutLock (cmdId : Nat) :
    (s.showKeyboardImplWithoutLock scene cmdId).2.rest = s.rest := by
  unfold showKeyboardImplWithoutLock
  split
  · rfl
  · split
    · rfl
    · split
      · apply rest_of_still
        dsimp only
        split <;> simp
      · simp

@[simp] theorem rest_hideKeyboardTrigger (trigger : Trigger) (sessionId : UInt32)
    (clientSessionId : Int32) :
    (s.hideKeyboardTrigger scene trigger sessionId clientSessionId).2.rest = s.rest := by
  unfold hideKeyboardTrigger
  dsimp only
  split
  · rfl
  · split
    · split <;> simp
    · split
      · exact (rest_of_still (still_tell ..)).trans (by simp)
      · simp

@[simp] theorem rest_hideKeyboardImplWithoutLock (cmdId : Nat) (sessionId : UInt32)
    (clientSessionId : Int32) :
    (s.hideKeyboardImplWithoutLock scene cmdId sessionId clientSessionId).2.rest = s.rest := by
  unfold hideKeyboardImplWithoutLock
  split <;> simp

@[simp] theorem rest_hideKeyboardSelf : (s.hideKeyboardSelf scene).2.rest = s.rest := by
  unfold hideKeyboardSelf
  split <;> simp

@[simp] theorem still_hideCandidatePanel : (s.hideCandidatePanel scene).2.still = s.still := by
  unfold hideCandidatePanel
  split
  · rfl
  · split <;> simp

@[simp] theorem still_startInputHidePanel (clientInfo : InputClientInfo) :
    (s.startInputHidePanel scene clientInfo).still = s.still := by
  unfold startInputHidePanel
  split
  · split <;> simp
  · rfl

@[simp] theorem still_inactiveStatus : s.inactiveStatus.still = s.still := by
  unfold inactiveStatus
  split
  · split <;> simp
  · rfl

@[simp] theorem still_inactivePanel (channel : Remote) (type : PanelType) :
    (s.inactivePanel scene channel type).still = s.still := by
  unfold inactivePanel
  split
  · rfl
  · split
    · rfl
    · dsimp only
      split
      · simp
      · split <;> simp

end Rest

/-! ## The text field it talks to -/

section Channel

variable (scene : Scene) {s s' : InputMethodAbility}

/-- The channel and the watch on its death. -/
def bound (s : InputMethodAbility) : Option Remote × List Remote := (s.dataChannelObject, s.watched)

theorem bound_of_rest (same : s'.rest = s.rest) : s'.bound = s.bound := by
  show s'.rest.bound = s.rest.bound
  rw [same]

variable (s)

theorem bound_tellIme (told : Told) : (s.tellIme told).bound = s.bound :=
  bound_of_rest (s.rest_tellIme told)

theorem bound_clearInputType : s.clearInputType.bound = s.bound := by
  unfold clearInputType
  split <;> rfl

theorem bound_invokeAttachOptionsCallback (options : AttachOptions) (isFirstNotify : Bool) :
    (s.invokeAttachOptionsCallback options isFirstNotify).bound = s.bound := by
  unfold invokeAttachOptionsCallback
  split
  · rfl
  · dsimp only
    split <;> rfl

theorem bound_invokeStartInputCallback (options : AttachOptions) (callingDisplayId : UInt64)
    (isNotifyInputStart : Bool) :
    (s.invokeStartInputCallback options callingDisplayId isNotifyInputStart).2.bound = s.bound := by
  unfold invokeStartInputCallback
  split
  · rfl
  · dsimp only
    split
    · rw [bound_tellIme]
      exact bound_invokeAttachOptionsCallback ..
    · exact bound_invokeAttachOptionsCallback ..

theorem bound_invokeStartInputCallbackWithInfoRestruct (clientInfo : InputClientInfo) :
    (s.invokeStartInputCallbackWithInfoRestruct scene clientInfo).2.bound = s.bound := by
  unfold invokeStartInputCallbackWithInfoRestruct
  split
  · exact bound_invokeStartInputCallback ..
  · split
    · rfl
    · dsimp only
      split
      · exact bound_tellIme ..
      · rfl

theorem bound_startInputCallback (clientInfo : InputClientInfo) (isBindFromClient : Bool) :
    (s.startInputCallback scene clientInfo isBindFromClient).2.bound = s.bound := by
  unfold startInputCallback
  split
  · exact bound_invokeStartInputCallback ..
  · exact bound_invokeStartInputCallbackWithInfoRestruct ..

theorem bound_startInputShowPanel (needShow : Bool) :
    (s.startInputShowPanel scene needShow).bound = s.bound := by
  cases needShow with
  | false => rfl
  | true =>
      have shown := bound_of_rest (s.rest_showKeyboardImplWithoutLock scene s.cmdId)
      exact shown

theorem bound_startInputInner (clientInfo : InputClientInfo) (isBindFromClient : Bool) :
    (s.startInputInner scene clientInfo isBindFromClient).2.bound =
      match clientInfo.channel with
      | none => s.bound
      | some channel => (s.setInputDataChannel scene channel).bound := by
  unfold startInputInner
  cases clientInfo.channel with
  | none => rfl
  | some channel =>
      have hidden := bound_of_rest (rest_of_still
        ((s.setInputDataChannel scene channel).still_startInputHidePanel scene clientInfo))
      have called := (bound_startInputCallback scene _ clientInfo isBindFromClient).trans hidden
      dsimp only
      split
      · exact called
      · split
        · exact (bound_startInputShowPanel ..).trans called
        · exact called

theorem bound_complete : (s.complete scene).bound = s.bound := by
  unfold complete
  split
  · rfl
  · exact bound_startInputShowPanel ..

theorem bound_clearDataChannel_of_bound {s s' : InputMethodAbility} (same : s'.bound = s.bound)
    (channel : Option Remote) :
    (s'.clearDataChannel channel).bound = (s.clearDataChannel channel).bound := by
  obtain ⟨object, watched⟩ := Prod.mk.inj same
  unfold clearDataChannel
  rw [object]
  split
  · exact same
  · split
    · show (none, s'.watched.filter _) = (none, s.watched.filter _)
      rw [watched]
    · exact same

theorem bound_stopInput (channelObject : Option Remote) (sessionId : UInt32) (clientSessionId : Int32) :
    (s.stopInput scene channelObject sessionId clientSessionId).bound =
      (s.clearDataChannel channelObject).bound := by
  unfold stopInput
  rw [bound_tellIme, bound_clearInputType]
  refine bound_clearDataChannel_of_bound ?_ channelObject
  exact (bound_of_rest (s := s.nextCmd) (rest_hideKeyboardImplWithoutLock ..)).trans rfl

theorem bound_onClientInactive (channel : Remote) :
    (s.onClientInactive scene channel).bound = (s.clearDataChannel (some channel)).bound := by
  unfold onClientInactive
  refine bound_clearDataChannel_of_bound (bound_of_rest (rest_of_still ?_)) (some channel)
  simp

theorem bound_onCallingDisplayIdChanged (keyboardDisplayId : UInt64) :
    (s.onCallingDisplayIdChanged scene keyboardDisplayId).bound = s.bound := by
  unfold onCallingDisplayIdChanged
  split
  · rfl
  · dsimp only
    split
    · split
      · exact (bound_of_rest (rest_of_still (still_hidePanelFlag ..))).trans rfl
      · rfl
    · rfl

end Channel

end InputMethodAbility

section Runs

variable {s : InputMethodAbility}

/-- The text field that an event leaves bound. -/
def Event.channelAfter (channel : Option Remote) : Event → Option Remote
  | .startInput clientInfo _ _ => clientInfo.channel.or channel
  | .stopInput channelObject _ _ _ => if channel = channelObject then none else channel
  | .onClientInactive inactive _ => if channel = some inactive then none else channel
  | .onInputDataChannelDied died => if channel = some died then none else channel
  | .onRemoteSaDied => none
  | .onNotifyPreemption _ => none
  | _ => channel

theorem channel_setInputDataChannel (scene : Scene) (object : Remote) :
    (s.setInputDataChannel scene object).dataChannelObject = some object := by
  unfold InputMethodAbility.setInputDataChannel
  split
  case isTrue same => exact same
  case isFalse => rfl

theorem channel_clearDataChannel (channel : Option Remote) :
    (s.clearDataChannel channel).dataChannelObject =
      if s.dataChannelObject = channel then none else s.dataChannelObject := by
  unfold InputMethodAbility.clearDataChannel
  by_cases unset : s.dataChannelObject = none ∨ channel = none
  · rw [if_pos unset]
    rcases unset with none | none
    · rw [none]
      split <;> rfl
    · rw [none]
      split
      case isTrue same => exact same
      case isFalse => rfl
  · rw [if_neg unset]
    split <;> rfl

theorem bound_clearDataChannel_all :
    (s.clearDataChannel s.dataChannelObject).dataChannelObject = none := by
  rw [channel_clearDataChannel, if_pos rfl]

/-- What a step does to the channel and the watch is what it says about the channel. -/
theorem step_bound (s : InputMethodAbility) (e : Event) :
    (step s e).bound =
      match e with
      | .startInput clientInfo _ scene =>
          match clientInfo.channel with
          | none => s.bound
          | some channel => (s.setInputDataChannel scene channel).bound
      | .stopInput channelObject _ _ _ => (s.clearDataChannel channelObject).bound
      | .onClientInactive channel _ => (s.clearDataChannel (some channel)).bound
      | .onInputDataChannelDied channel => (s.clearDataChannel (some channel)).bound
      | .onRemoteSaDied => (s.clearDataChannel s.dataChannelObject).bound
      | .onNotifyPreemption _ => (s.clearDataChannel s.dataChannelObject).bound
      | _ => s.bound := by
  open InputMethodAbility in
  cases e with
  | setImeListener => rfl
  | setTextInputClientListener => rfl
  | startInput clientInfo isBindFromClient scene => exact bound_startInputInner ..
  | complete scene => exact bound_complete ..
  | stopInput channelObject sessionId clientSessionId scene => exact bound_stopInput ..
  | onClientInactive channel scene => exact bound_onClientInactive ..
  | showKeyboard requestKeyboardReason scene =>
      refine (bound_of_rest (rest_showKeyboardImplWithoutLock ..)).trans ?_
      exact (bound_invokeAttachOptionsCallback ..).trans rfl
  | hideKeyboard scene =>
      exact (bound_of_rest (s := s.nextCmd) (rest_hideKeyboardImplWithoutLock ..)).trans rfl
  | hideKeyboardSelf scene => exact bound_of_rest (rest_hideKeyboardSelf ..)
  | hideCandidatePanel scene => exact bound_of_rest (rest_of_still (still_hideCandidatePanel ..))
  | createPanel type flag scene => exact bound_of_rest (rest_createPanel ..)
  | destroyPanel type scene => exact bound_of_rest (rest_of_still (still_destroyPanel ..))
  | showPanel type scene => exact bound_of_rest (rest_of_still (still_showPanel ..))
  | hidePanel type scene => exact bound_of_rest (rest_hidePanel ..)
  | changePanelFlag flag scene => exact bound_of_rest (rest_of_still (still_changePanelFlag ..))
  | onSetInputType inputType => rfl
  | exitCurrentInputType => exact bound_clearInputType s
  | onCallingDisplayIdChanged keyboardDisplayId scene => exact bound_onCallingDisplayIdChanged ..
  | onInitInputControlChannel => rfl
  | onInputDataChannelDied channel => rfl
  | onRemoteSaDied => exact (bound_tellIme ..).trans rfl
  | onStopInputService isTerminateIme =>
      show (s.onStopInputService isTerminateIme).2.bound = s.bound
      unfold onStopInputService
      split
      · rfl
      · split
        · exact (bound_tellIme ..).trans rfl
        · rfl
  | onNotifyPreemption scene => exact bound_stopInput ..
  | setProxyIme isProxyIme => rfl
  | setImeMirrorEnable isImeMirrorEnable => rfl
  | windowChanged type windowState =>
      simp only [step]
      split <;> rfl

theorem step_channel (s : InputMethodAbility) (e : Event) :
    (step s e).dataChannelObject = e.channelAfter s.dataChannelObject := by
  have bound := congrArg Prod.fst (step_bound s e)
  cases e with
  | startInput clientInfo isBindFromClient scene =>
      simp only [Event.channelAfter] at bound ⊢
      cases channel : clientInfo.channel with
      | none =>
          rw [channel] at bound
          exact bound
      | some channel' =>
          rw [channel] at bound
          exact bound.trans (channel_setInputDataChannel ..)
  | stopInput channelObject sessionId clientSessionId scene =>
      exact bound.trans (channel_clearDataChannel ..)
  | onClientInactive channel scene => exact bound.trans (channel_clearDataChannel ..)
  | onInputDataChannelDied channel => exact bound.trans (channel_clearDataChannel ..)
  | onRemoteSaDied => exact bound.trans bound_clearDataChannel_all
  | onNotifyPreemption scene => exact bound.trans bound_clearDataChannel_all
  | _ => exact bound

/-- An event that binds the text field to the input method. -/
def Event.Binds (channel : Remote) : Event → Prop
  | .startInput clientInfo _ _ => clientInfo.channel = some channel
  | _ => False

/-- An event that leaves the text field bound: it starts no other one, and neither stops nor loses
it. -/
def Event.KeepsBound (channel : Remote) : Event → Prop
  | .startInput clientInfo _ _ => clientInfo.channel = none ∨ clientInfo.channel = some channel
  | .stopInput channelObject _ _ _ => channelObject ≠ some channel
  | .onClientInactive inactive _ => inactive ≠ channel
  | .onInputDataChannelDied died => died ≠ channel
  | .onRemoteSaDied => False
  | .onNotifyPreemption _ => False
  | _ => True

theorem channelAfter_iff {current : Option Remote} {channel : Remote} (e : Event) :
    e.channelAfter current = some channel ↔ e.Binds channel ∨
      (current = some channel ∧ e.KeepsBound channel) := by
  cases e with
  | startInput clientInfo isBindFromClient scene =>
      simp only [Event.channelAfter, Event.Binds, Event.KeepsBound]
      cases clientInfo.channel with
      | none => simp
      | some started => simp
  | stopInput channelObject sessionId clientSessionId scene =>
      simp only [Event.channelAfter, Event.Binds, Event.KeepsBound]
      split <;> grind
  | onClientInactive inactive scene =>
      simp only [Event.channelAfter, Event.Binds, Event.KeepsBound]
      split <;> grind
  | onInputDataChannelDied died =>
      simp only [Event.channelAfter, Event.Binds, Event.KeepsBound]
      split <;> grind
  | _ => simp [Event.channelAfter, Event.Binds, Event.KeepsBound]

/-- **The text field it talks to** is the last one that was bound, as long as nothing has stopped it,
made it inactive, killed it, or taken the service or the session away since; what is said late about
another text field does nothing. -/
theorem channel_iff (es : List Event) (channel : Remote) :
    (run step {} es).dataChannelObject = some channel ↔
      Since step (fun _ e => e.Binds channel) (fun e => e.KeepsBound channel) {} es := by
  refine Lib.run_iff_since (I := fun _ => True)
    (P := fun s : InputMethodAbility => s.dataChannelObject = some channel)
    (fun _ _ _ => trivial) (fun s e _ => ?_) trivial ?_ es
  · rw [step_channel]
    exact channelAfter_iff e
  · intro impossible
    cases impossible

end Runs

end Imf.Keyboard
