/-
# Imf.Session.InputTypes -- which input method serves a text field

The system configuration gives some kinds of input (a password, the camera, a stylus) an input
method of their own.  While such an input type is started the service serves it in place of the
input method the user has chosen; a text field, a switch, a hidden keyboard or a death ends it.
Two stores have to agree for that: `InputTypeManager`, which only remembers what was started, and
the data of the real input method, which starts and stops change under it and may leave in any
state when they fail.

`Guarded` is what they agree on in every run, whatever fails: while a type is started, the input
method that runs, starts or exits is one the system configuration names.  So no password field is
left to another one (`password_served`).  `field_served` says which input method a new text field
gets: a case for each branch of `EnsureImeAvailable`.  `step` is a call for one user's session;
`serve` is a call for one of several users, whose sessions share the one `InputTypeManager`.  The
calls run one after the other, and what the enabled table, the ability manager and the input
method answer is part of the scene of a call.
-/
import Imf.Lib.Run
import Imf.Session.Lifecycle

namespace Imf.InputTypes

set_option autoImplicit false

open Lib (run run_always)
open Lifecycle (ImeAction ImeEvent imeEventConverter)

/-! ## The configuration -/

inductive InputType where
  | none
  | cameraInput
  | securityInput
  | voiceInput
  | voicekbInput
  | pushToTalkInput
  | stylusInput
  deriving DecidableEq, Repr

structure ImeIdentification where
  bundleName : String := ""
  subName : String := ""
  deriving DecidableEq, Repr

structure ImeNativeCfg where
  imeId : String := ""
  bundleName : String := ""
  subName : String := ""
  extName : String := ""
  deriving DecidableEq, Repr

/-- The element the ability manager is asked for. -/
def ImeNativeCfg.ime (cfg : ImeNativeCfg) : String × String := (cfg.bundleName, cfg.extName)

/-- What the system configuration names: the input types as they were read, if they could be read,
and the default input method (empty fields for one that is abnormal). -/
structure Config where
  inputTypes : Option (List (InputType × ImeIdentification))
  defaultIme : ImeNativeCfg

namespace Config

variable (config : Config)

def getImeByInputType (type : InputType) : Except ErrorCode ImeIdentification :=
  match config.inputTypes with
  | none => .error .errorParseConfigFile
  | some inputTypes =>
      match inputTypes.lookup type with
      | none => .error .errorImsaInputTypeNotFound
      | some ime => .ok ime

/-- `inputTypeImeList_`: of two entries for one type the map keeps the first. -/
def inputTypeImeList : List ImeIdentification :=
  match config.inputTypes with
  | none => []
  | some inputTypes => inputTypes.filterMap fun entry => inputTypes.lookup entry.1

def isInputType (ime : ImeIdentification) : Bool := config.inputTypeImeList.contains ime

def isInputTypeBundle (bundleName : String) : Bool :=
  config.inputTypeImeList.any fun ime => ime.bundleName == bundleName

def isVoiceKbIme (ime : ImeIdentification) : Bool :=
  match config.getImeByInputType .voicekbInput with
  | .ok voiceKbIme => voiceKbIme == ime
  | .error _ => false

def isSysIme (bundleName : String) : Bool :=
  bundleName != "" && bundleName == config.defaultIme.bundleName

def getDefaultImeCfg : Option ImeNativeCfg :=
  if config.defaultIme.bundleName = "" ∨ config.defaultIme.extName = "" then none
  else some config.defaultIme

/-- An input method the system configuration names. -/
def Named (bundleName : String) : Prop :=
  config.isInputTypeBundle bundleName = true ∨ bundleName = config.defaultIme.bundleName

instance (bundleName : String) : Decidable (config.Named bundleName) :=
  inferInstanceAs (Decidable (_ ∨ _))

end Config

/-! ## The session -/

/-- What a call for a session works on: `InputTypeManager`, which is not the session's own (see
`Service`), the real input method of the session, and what both are asked about: the input method
the enabled table names as the current one, the locks and the exam mode.  Of the real input method
its name, its status and the lock it was started under are followed; whether its core is there is
told by the scene. -/
structure State where
  isStarted : Bool := false
  currentTypeIme : ImeIdentification := {}
  realImeData : Option ImeData := none
  currentImeCfg : Option ImeNativeCfg := none
  /-- Whether `runningIme_` still names an input method from before the service was restarted. -/
  runningIme : Bool := false
  firstStartNeedRetry : Bool := true
  isDeviceLockAndScreenLocked : Bool := false
  isExamMode : Bool := false
  deriving DecidableEq, Repr

/-- What one call meets outside the session. -/
structure Scene where
  /-- `imeStartLock_` is free. -/
  tryLock : Bool := true
  /-- The input method of before the restart is found gone. -/
  oldImeStopped : Bool := true
  /-- The input method that is starting has been at it for more than eight seconds. -/
  startTimeOut : Bool := false
  /-- The real input method has a core. -/
  core : Bool := true
  stopInputService : Bool := true
  /-- The death of the input method that was told to stop is handled in time. -/
  diesInTime : Bool := true
  isRunningIme : Bool := true
  stopExtensionAbility : Bool := true
  /-- The same for one that is stopped by force. -/
  diesInForce : Bool := true
  isStillRunningIme : Bool := false
  connection : Bool := true
  connectExtensionAbility : Bool := true
  /-- The input method registers its core and agent in time. -/
  setsCoreAndAgent : Bool := true
  setSubtype : Bool := true
  sendPrivateData : Bool := true
  /-- The name of the extension of an installed bundle. -/
  imeProperty : String → Option String := fun _ => none
  isImeInstalled : ImeNativeCfg → Bool := fun _ => true
  /-- The current input method after a temporary one is set, and after one is chosen. -/
  afterSetTmpIme : String → Option ImeNativeCfg → Option ImeNativeCfg := fun _ cfg => cfg
  afterSetCurrentIme : String → String → Option ImeNativeCfg → Option ImeNativeCfg := fun _ _ cfg => cfg

namespace State

variable (s : State)

/-- `InputTypeManager::Set`. -/
def set (isStarted : Bool) (currentTypeIme : ImeIdentification) : State :=
  { s with isStarted, currentTypeIme }

def readyImeData : Option ImeData := s.realImeData.filter fun data => data.imeStatus = .ready

def removeRealImeData : State := { s with realImeData := none }

def setTmpIme (scene : Scene) (imeId : String) : State :=
  { s with currentImeCfg := scene.afterSetTmpIme imeId s.currentImeCfg }

def setCurrentIme (scene : Scene) (imeId subName : String) : State :=
  { s with currentImeCfg := scene.afterSetCurrentIme imeId subName s.currentImeCfg }

/-- `GetImeAction`. -/
def getImeAction (event : ImeEvent) : ImeAction × State :=
  match s.realImeData with
  | none => (.doActionInNullImeData, s)
  | some data =>
      match imeEventConverter.lookup (data.imeStatus, event) with
      | none => (.doActionInImeEventConvertFailed, s)
      | some (imeStatus, action) => (action, { s with realImeData := some { data with imeStatus } })

/-- What `OnImeDied` does to one that was exiting. -/
def exitingImeDied : State := s.removeRealImeData.set false {}

end State

/-- Goes on after a call that succeeded, and returns the code of one that did not. -/
def andThen (outcome : ErrorCode × State) (next : State → ErrorCode × State) : ErrorCode × State :=
  if outcome.1 = .noError then next outcome.2 else outcome

/-! ## Starting and stopping the real input method -/

section Start

variable (config : Config) (scene : Scene)

def changeToDefaultImeIfNeed (targetIme : ImeNativeCfg) (s : State) :
    Except ErrorCode ImeNativeCfg × State :=
  if ¬ s.isDeviceLockAndScreenLocked then (.ok targetIme, s)
  else
    match config.getDefaultImeCfg with
    | none => (.error .errorImsaDefaultImeNotFound, s)
    | some defaultIme =>
        if defaultIme.bundleName = targetIme.bundleName then (.ok targetIme, s)
        else (.ok defaultIme, s.setTmpIme scene defaultIme.imeId)

/-- `InitRealImeData`, with `isFirstStart` unless the connection cannot be created. -/
def initRealImeData (ime : String × String) (s : State) : Option Bool × State :=
  match s.realImeData with
  | some _ => (some false, s)
  | none =>
      if scene.connection then
        let isStartedInScreenLocked := s.isDeviceLockAndScreenLocked
        (some true, { s with realImeData := some { ime, isStartedInScreenLocked } })
      else (none, s)

/-- `OnSetCoreAndAgent`, with whether the start is told of it. -/
def onSetCoreAndAgent (s : State) : Bool × State :=
  let (action, s) := s.getImeAction .setCoreAndAgent
  (action = .doSetCoreAndAgent, s)

/-- `StartInputService` once it is known which input method to start. -/
def connectIme (imeToStart : ImeNativeCfg) (skipWaitAfterTimeout : Bool) (s : State) :
    ErrorCode × State :=
  match initRealImeData scene imeToStart.ime s with
  | (none, s) => (.errorImsaMallocFailed, s)
  | (some isFirstStart, s) =>
      if ¬ scene.connectExtensionAbility then
        (.errorImsaImeConnectFailed, if isFirstStart then s.removeRealImeData else s)
      else if ¬ skipWaitAfterTimeout then (.errorImsaImeStartTimeout, s)
      else if ¬ scene.setsCoreAndAgent then (.errorImsaImeStartTimeout, s)
      else
        let (isImeStarted, s) := onSetCoreAndAgent s
        (if isImeStarted then .noError else .errorImsaImeStartTimeout, s)

def startInputService (ime : ImeNativeCfg) (skipWaitAfterTimeout : Bool) (s : State) :
    ErrorCode × State :=
  match changeToDefaultImeIfNeed config scene ime s with
  | (.error code, s) => (code, s)
  | (.ok imeToStart, s) => connectIme scene imeToStart skipWaitAfterTimeout s

def forceStopCurrentIme (isNeedWait : Bool) (s : State) : ErrorCode × State :=
  if s.realImeData = none then (.noError, s)
  else if ¬ scene.isRunningIme then (.noError, s.removeRealImeData)
  else if ¬ scene.stopExtensionAbility then (.errorImsaImeDisconnectFailed, s)
  else if ¬ isNeedWait then (.errorImsaImeStartMoreThanEightSecond, s)
  else
    let s := if scene.diesInForce then s.exitingImeDied else s
    if scene.isStillRunningIme then (.errorImsaForceStopImeTimeout, s)
    else (.noError, s.removeRealImeData)

def stopReadyCurrentIme (s : State) : ErrorCode × State :=
  if s.realImeData = none then (.noError, s)
  else if ¬ scene.core then forceStopCurrentIme scene true s
  else if ¬ scene.stopInputService then forceStopCurrentIme scene true s
  else if ¬ scene.diesInTime then forceStopCurrentIme scene true s
  else (.noError, s.exitingImeDied)

def stopCurrentIme (s : State) : ErrorCode × State :=
  match s.getImeAction .stopIme with
  | (.doActionInNullImeData, s) => (.noError, s)
  | (.doActionInImeEventConvertFailed, s) => (.errorImsaImeEventConvertFailed, s)
  | (.stopReadyIme, s) => stopReadyCurrentIme scene s
  | (_, s) => forceStopCurrentIme scene true s

def startNewIme (ime : ImeNativeCfg) (s : State) : ErrorCode × State :=
  andThen (stopCurrentIme scene s) (startInputService config scene ime true)

def handleStartImeTimeout (ime : ImeNativeCfg) (s : State) : ErrorCode × State :=
  match s.getImeAction .startImeTimeout with
  | (.doActionInNullImeData, s) => startInputService config scene ime true s
  | (.doActionInImeEventConvertFailed, s) => (.errorImsaImeEventConvertFailed, s)
  | (.doNothing, s) => (.noError, s)
  | (_, s) => andThen (forceStopCurrentIme scene false s) (startInputService config scene ime true)

/-- `StartCurrentIme(ime)`: the input method that is there is the one to start. -/
def startSameIme (ime : ImeNativeCfg) (s : State) : ErrorCode × State :=
  match s.getImeAction .startIme with
  | (.doActionInImeEventConvertFailed, s) => (.errorImsaImeEventConvertFailed, s)
  | (.doActionInNullImeData, s) => startInputService config scene ime true s
  | (.doNothing, s) => (.noError, s)
  | (.handleStartingIme, s) =>
      if scene.startTimeOut then handleStartImeTimeout config scene ime s
      else startInputService config scene ime false s
  | (_, s) => andThen (forceStopCurrentIme scene true s) (startInputService config scene ime true)

/-- Both ways in which the input method of before the restart can be found gone start the new one. -/
def handleFirstStart (ime : ImeNativeCfg) (isStopCurrentIme : Bool) (s : State) : ErrorCode × State :=
  if ¬ s.runningIme then startInputService config scene ime true s
  else if isStopCurrentIme then (.noError, s)
  else if scene.oldImeStopped then
    startInputService config scene ime true { s with runningIme := false, firstStartNeedRetry := true }
  else (.errorImsaRebootOldImeNotStop, { s with firstStartNeedRetry := false })

def startIme (ime : Option ImeNativeCfg) (isStopCurrentIme : Bool) (s : State) : ErrorCode × State :=
  if ¬ scene.tryLock then (.errorTryImeStartFailed, s)
  else
    match ime with
    | none => (.errorImsaImeToStartNullptr, s)
    | some ime =>
        match s.realImeData with
        | none => handleFirstStart config scene ime isStopCurrentIme s
        | some data =>
            if data.ime = ime.ime ∧ ¬ isStopCurrentIme then startSameIme config scene ime s
            else startNewIme config scene ime s

end Start

/-! ## The sessions of input types -/

/-- What the service knows of a text field that attaches. -/
structure InputClientInfo extends Ipc.InputClientInfo where
  /-- `IsRestrictedDefaultImeByDisplay` of the display it calls from. -/
  isRestrictedDefaultIme : Bool := false
  deriving DecidableEq, Repr

namespace InputClientInfo

variable (client : InputClientInfo)

def getSecurityFlag : Bool := client.config.inputAttribute.getSecurityFlag

def isSecurityImeFlag : Bool := client.config.inputAttribute.isSecurityImeFlag

theorem isSecurityImeFlag_eq : client.isSecurityImeFlag = client.getSecurityFlag := rfl

def isOneTimeCodeFlag : Bool := client.config.inputAttribute.isOneTimeCodeFlag

def isPreconfiguredDefaultImeSpecified : Bool :=
  client.isRestrictedDefaultIme || client.config.isSimpleKeyboardEnabled || client.isOneTimeCodeFlag

/-- `IsOneTimeCodeInput`. -/
def isOneTimeCodeInput : Bool := client.isOneTimeCodeFlag || client.isSecurityImeFlag

end InputClientInfo

section Session

variable (config : Config) (scene : Scene)

def getImeNativeCfg (bundleName subName : String) : Option ImeNativeCfg :=
  (scene.imeProperty bundleName).map fun extName =>
    { imeId := bundleName ++ "/" ++ extName, bundleName, subName, extName }

/-- The part of `GetImeToStart` that chooses, and whether it falls back on the default one. -/
def imeToStart (currentImeCfg : Option ImeNativeCfg) : ImeNativeCfg × Bool :=
  match currentImeCfg with
  | none => ({ config.defaultIme with subName := "" }, true)
  | some cfg =>
      if cfg.imeId = "" ∨ ¬ scene.isImeInstalled cfg then
        ({ config.defaultIme with subName := "" }, true)
      else (cfg, false)

def getImeToStart (s : State) : ImeNativeCfg × State :=
  let (ime, fallsBack) := imeToStart config scene s.currentImeCfg
  (ime, if fallsBack then s.setCurrentIme scene ime.imeId "" else s)

def isInputTypeImeStarted (type : InputType) (s : State) : Bool :=
  s.isStarted &&
    match config.getImeByInputType type with
    | .ok ime => ime == s.currentTypeIme
    | .error _ => false

def getCurrentInputType (s : State) : InputType :=
  if isInputTypeImeStarted config .securityInput s then .securityInput
  else if isInputTypeImeStarted config .cameraInput s then .cameraInput
  else if isInputTypeImeStarted config .voiceInput s then .voiceInput
  else if isInputTypeImeStarted config .voicekbInput s then .voicekbInput
  else if isInputTypeImeStarted config .stylusInput s then .stylusInput
  else .none

/-- `SwitchSubtype` and `SwitchSubtypeWithoutStartIme`. -/
def switchSubtype (s : State) : ErrorCode :=
  if s.readyImeData = none ∨ ¬ scene.core then .errorImeNotStarted
  else if scene.setSubtype then .noError
  else .errorRemote

def sendVoicePrivateCommand (s : State) : ErrorCode :=
  if s.readyImeData = none then .errorImeNotStarted
  else if scene.sendPrivateData then .noError
  else .errorRemote

def notifySubTypeChangedToIme (bundleName subName : String) (s : State) : ErrorCode × State :=
  let s := if subName ≠ "" ∧ config.isInputType ⟨bundleName, subName⟩ then s.set true
    ⟨bundleName, subName⟩ else s
  (switchSubtype scene s, s)

def getInputTypeToStart (s : State) : Option ImeNativeCfg :=
  let ime :=
    if s.currentTypeIme.bundleName = "" then
      match config.getImeByInputType (getCurrentInputType config s) with
      | .ok ime => ime
      | .error _ => s.currentTypeIme
    else s.currentTypeIme
  getImeNativeCfg scene ime.bundleName ime.subName

/-- The part of `GetRealCurrentIme` that asks the client bound to the real input method. -/
def imeOfBoundClient (clientInfo : InputClientInfo) (s : State) : Option ImeNativeCfg :=
  let inputTypeIme :=
    if clientInfo.getSecurityFlag then
      let ime : ImeIdentification :=
        match config.getImeByInputType .securityInput with
        | .ok ime => ime
        | .error _ => {}
      getImeNativeCfg scene ime.bundleName ime.subName
    else none
  match inputTypeIme with
  | some ime => some ime
  | none =>
      if clientInfo.isPreconfiguredDefaultImeSpecified then
        match config.getDefaultImeCfg, s.currentImeCfg with
        | some preconfiguredIme, some defaultIme =>
            some (if defaultIme.imeId = preconfiguredIme.imeId then defaultIme else preconfiguredIme)
        | preconfiguredIme, _ => preconfiguredIme
      else none

/-- The input method of a locked screen becomes the temporary one. -/
def lockCurrentIme (s : State) : State :=
  if ¬ s.isDeviceLockAndScreenLocked then s
  else
    match config.getDefaultImeCfg with
    | none => s
    | some preconfiguredIme =>
        if s.currentImeCfg.any fun defaultIme => defaultIme.imeId = preconfiguredIme.imeId then s
        else s.setTmpIme scene preconfiguredIme.imeId

def getRealCurrentIme (bound : Option InputClientInfo) (needMinGuarantee : Bool) (s : State) :
    Option ImeNativeCfg × State :=
  if s.isStarted then (getInputTypeToStart config scene s, s)
  else
    match bound.bind fun clientInfo => imeOfBoundClient config scene clientInfo s with
    | some ime => (some ime, s)
    | none =>
        let s := lockCurrentIme config scene s
        if needMinGuarantee then
          let (ime, s) := getImeToStart config scene s
          (some ime, s)
        else (s.currentImeCfg, s)

def startCurrentIme (bound : Option InputClientInfo) (isStopCurrentIme : Bool) (s : State) :
    ErrorCode × State :=
  match getRealCurrentIme config scene bound true s with
  | (none, s) => (.errorImsaImeToStartNullptr, s)
  | (some imeToStart, s) =>
      andThen (startIme config scene (some imeToStart) isStopCurrentIme s) fun s =>
        match s.readyImeData with
        | none => (.errorImeNotStarted, s)
        | some readyIme =>
            let subName := if readyIme.ime.1 ≠ imeToStart.bundleName then "" else imeToStart.subName
            (.noError, (notifySubTypeChangedToIme config scene readyIme.ime.1 subName s).2)

def startImeIfInstalled (bound : Option InputClientInfo) (s : State) : State :=
  match getRealCurrentIme config scene bound false s with
  | (none, s) => s
  | (some imeToStart, s) =>
      if imeToStart.imeId = "" then s
      else if ¬ scene.isImeInstalled imeToStart then s
      else (startCurrentIme config scene bound false s).2

def startUserSpecifiedIme (s : State) : ErrorCode × State :=
  let s := s.set false {}
  let (cfgIme, s) := getImeToStart config scene s
  if s.readyImeData.any fun data => data.ime = cfgIme.ime then (.noError, s)
  else
    andThen (startIme config scene (some cfgIme) false s) fun s =>
      match s.currentImeCfg with
      | none => (.noError, s)
      | some cfgIme => (.noError,
          (notifySubTypeChangedToIme config scene cfgIme.bundleName cfgIme.subName s).2)

def startPreconfiguredDefaultIme (isStopCurrentIme : Bool) (s : State) : ErrorCode × State :=
  let s := s.set false {}
  let preDefaultIme := config.defaultIme
  if s.readyImeData.any fun data => data.ime = preDefaultIme.ime then (.noError, s)
  else
    andThen (startIme config scene (some preDefaultIme) isStopCurrentIme s) fun s =>
      let subName :=
        match s.currentImeCfg with
        | none => ""
        | some defaultIme => if defaultIme.imeId = preDefaultIme.imeId then defaultIme.subName else ""
      (.noError, (notifySubTypeChangedToIme config scene preDefaultIme.bundleName subName s).2)

def restoreCurrentImeSubType (s : State) : State :=
  if ¬ s.isStarted then s
  else
    let typeIme := s.currentTypeIme
    let s := s.set false {}
    match s.readyImeData with
    | none => s
    | some data =>
        if data.ime.1 ≠ typeIme.bundleName then s
        else
          let subName :=
            match s.currentImeCfg with
            | none => ""
            | some defaultIme => if data.ime.1 = defaultIme.bundleName then defaultIme.subName else ""
          (notifySubTypeChangedToIme config scene data.ime.1 subName s).2

def isNeedSwitch (bundleName subName : String) (s : State) : Bool :=
  if s.isStarted then ! (⟨bundleName, subName⟩ == s.currentTypeIme)
  else
    match s.currentImeCfg with
    | none => true
    | some cfg =>
        ! ((subName == "" && bundleName == cfg.bundleName) ||
          (subName != "" && subName == cfg.subName && cfg.bundleName == bundleName))

def switchInputType (bundleName subName : String) (isPersistence : Bool) (s : State) :
    ErrorCode × State :=
  match getImeNativeCfg scene bundleName subName with
  | none => (.errorImsaGetImeInfoFailed, s)
  | some targetIme =>
      andThen (startIme config scene (some targetIme) false s) fun s =>
        let ret :=
          if config.isVoiceKbIme ⟨bundleName, subName⟩ ∧ ¬ isPersistence then
            sendVoicePrivateCommand scene s
          else switchSubtype scene s
        if ret ≠ .noError then (ret, s) else (.noError, s.set true ⟨bundleName, subName⟩)

/-- `permitted`: `IsStartInputTypePermitted`. -/
def onStartInputType (permitted : Bool) (bundleName subName : String)
    (isCheckPermission isPersistence : Bool) (s : State) : ErrorCode × State :=
  if isCheckPermission ∧ ¬ permitted then (.errorStatusPermissionDenied, s)
  else if ¬ isNeedSwitch bundleName subName s then (.noError, s)
  else switchInputType config scene bundleName subName isPersistence s

def isSwitchingAllow (targetBundleName : String) (s : State) : Bool :=
  ! s.isExamMode || config.isSysIme targetBundleName

def startInputType (permitted : Bool) (type : InputType) (isPersistence : Bool) (s : State) :
    ErrorCode × State :=
  match config.getImeByInputType type with
  | .error code =>
      if type = .securityInput ∨ type = .stylusInput then
        startUserSpecifiedIme config scene s else (code, s)
  | .ok ime =>
      if type ≠ .securityInput ∧ ¬ isSwitchingAllow config ime.bundleName s then (.noError, s)
      else if type = .pushToTalkInput then
        onStartInputType config scene permitted ime.bundleName ime.subName false isPersistence s
      else if type = .securityInput ∨ type = .stylusInput then
        onStartInputType config scene permitted ime.bundleName ime.subName false true s
      else onStartInputType config scene permitted ime.bundleName ime.subName true isPersistence s

/-- `StartSecurityIme`: a field with the flag asks for the security type. -/
def startSecurityIme (client : InputClientInfo) (s : State) : ErrorCode × State :=
  let type := if client.getSecurityFlag then InputType.securityInput else .none
  if ¬ s.isStarted then startInputType config scene false type true s
  else if ¬ client.isNotifyInputStart then (.noError, s)
  else if ¬ isInputTypeImeStarted config type s then startInputType config scene false type true s
  else (.noError, s)

def startStylusIme (client : InputClientInfo) (s : State) : ErrorCode × State :=
  if ¬ s.isStarted then startInputType config scene false .stylusInput true s
  else if ¬ client.isNotifyInputStart ∧ getCurrentInputType config s = .stylusInput then (.noError, s)
  else if ¬ isInputTypeImeStarted config .stylusInput s then
    startInputType config scene false .stylusInput true s
  else (.noError, s)

/-- `GetScreenLockIme`; `alternativeIme` is what `GetAlternativeIme` finds among the installed ones. -/
def getScreenLockIme (alternativeIme : Option String) (s : State) : Option String :=
  match config.getDefaultImeCfg with
  | some defaultIme => some defaultIme.imeId
  | none =>
      match s.currentImeCfg with
      | some currentIme => some currentIme.imeId
      | none => alternativeIme

def ensureImeAvailable (alternativeIme : Option String) (client : InputClientInfo) (s : State) :
    ErrorCode × State :=
  if client.isSecurityImeFlag then startSecurityIme config scene client s
  else if ¬ client.isNotifyInputStart ∧ s.isStarted ∧
      getCurrentInputType config s ≠ .stylusInput then (.noError, s)
  else
    let s :=
      if client.isNotifyInputStart ∧ s.isStarted then restoreCurrentImeSubType config scene s else s
    if s.isDeviceLockAndScreenLocked then
      match getScreenLockIme config alternativeIme s with
      | none => (.errorImsaImeToStartNullptr, s)
      | some ime => startUserSpecifiedIme config scene (s.setTmpIme scene ime)
    else
      let s := s.setTmpIme scene ""
      if client.isPreconfiguredDefaultImeSpecified then
        startPreconfiguredDefaultIme config scene false s
      else if client.isStylusActivation then startStylusIme config scene client s
      else
        let s := if isInputTypeImeStarted config .stylusInput s then s.set false {} else s
        startUserSpecifiedIme config scene s

/-- `StartInputInner` where the field has passed its checks; `proxy`: an enabled proxy serves it. -/
def startInput (proxy : Bool) (alternativeIme : Option String) (client : InputClientInfo) (s : State) :
    ErrorCode × State :=
  if proxy then (.noError, s)
  else
    let s := if s.readyImeData = none then s.set false {} else s
    ensureImeAvailable config scene alternativeIme client s

/-- The start of `ShowInputInner`, `ShowCurrentInputInner` and `ShowCurrentInputDeprecated`. -/
def showInput (isStylusActivation : Bool) (clientInfo : Option InputClientInfo) (s : State) :
    ErrorCode × State :=
  if isStylusActivation then
    match clientInfo with
    | none => (.noError, s)
    | some clientInfo =>
        if clientInfo.isOneTimeCodeInput then (.noError, s)
        else startStylusIme config scene clientInfo s
  else if isInputTypeImeStarted config .stylusInput s then
    (.noError, (startUserSpecifiedIme config scene (s.set false {})).2)
  else (.noError, s)

def exitCurrentInputType (permitted : Bool) (bound : Option InputClientInfo) (s : State) :
    ErrorCode × State :=
  if ¬ permitted then (.errorNotDefaultIme, s) else startCurrentIme config scene bound false
    (s.set false {})

/-! ## Switches -/

/-- A switch request: what the enabled table, the identity checks and the bundle manager say of it. -/
structure Switch where
  bundleName : String
  subName : String
  isEnabled : Bool := true
  permitted : Bool := true
  startInputTypePermitted : Bool := true
  isTmpImeSwitchSubtype : Bool := false
  /-- `GetImeInfo`: the name and the extension, and whether the subtype is a specific one. -/
  imeInfo : Option (String × String × Bool)
  setCurrentIme : Bool := true
  /-- The client bound to the real input method. -/
  bound : Option InputClientInfo := none

def isImeSwitchForbidden (bound : Option InputClientInfo) (s : State) : Bool :=
  s.isDeviceLockAndScreenLocked ||
    match bound with
    | none => false
    | some clientInfo =>
        let isSimpleKeyboard :=
          if clientInfo.isSecurityImeFlag || clientInfo.isOneTimeCodeFlag then false
          else clientInfo.config.isSimpleKeyboardEnabled
        clientInfo.isRestrictedDefaultIme || clientInfo.isSecurityImeFlag || isSimpleKeyboard

def startSwitch (switchInfo : Switch) (s : State) : ErrorCode × State :=
  match switchInfo.imeInfo with
  | none => (.errorImsaGetImeInfoFailed, s)
  | some (name, id, isSpecificSubName) =>
      let s := s.set false {}
      let targetImeName := name ++ "/" ++ id
      let s := if switchInfo.isTmpImeSwitchSubtype then s
        else s.setCurrentIme scene targetImeName switchInfo.subName
      if ¬ switchInfo.isTmpImeSwitchSubtype ∧ ¬ switchInfo.setCurrentIme then (.errorRemote, s)
      else if isImeSwitchForbidden switchInfo.bound s then (.noError, s)
      else
        let targetIme : ImeNativeCfg :=
          { imeId := targetImeName, bundleName := name, subName := switchInfo.subName, extName := id }
        andThen (startIme config scene (some targetIme) false s) fun s =>
          (if isSpecificSubName then switchSubtype scene s else .noError, s)

def onSwitchInputMethod (switchInfo : Switch) (s : State) : ErrorCode × State :=
  if ¬ switchInfo.permitted then (.errorStatusPermissionDenied, s)
  else startSwitch config scene switchInfo s

def switchInputMethod (switchInfo : Switch) (s : State) : ErrorCode × State :=
  if ¬ switchInfo.isEnabled then (.errorEnableIme, s)
  else
    match s.currentImeCfg with
    | none => (.errorImsaGetImeInfoFailed, s)
    | some currentImeCfg =>
        if ¬ isSwitchingAllow config switchInfo.bundleName s then (.noError, s)
        else
          let subName :=
            if switchInfo.subName = "" ∧ switchInfo.bundleName = currentImeCfg.bundleName then
              currentImeCfg.subName
            else switchInfo.subName
          if config.isInputType ⟨switchInfo.bundleName, switchInfo.subName⟩ then
            onStartInputType config scene switchInfo.startInputTypePermitted switchInfo.bundleName
              subName true true s
          else onSwitchInputMethod config scene { switchInfo with subName } s

/-- `SwitchType`, with the input method that `GetSwitchInfoBySwitchCount` finds. -/
def switchType (switchInfo : Switch) (s : State) : ErrorCode × State :=
  if switchInfo.bundleName = "" then (.noError, s)
  else if ¬ isSwitchingAllow config switchInfo.bundleName s then (.noError, s)
  else onSwitchInputMethod config scene { switchInfo with permitted := true } s

end Session

/-! ## Runs -/

inductive Call where
  | startInput (proxy : Bool) (alternativeIme : Option String) (client : InputClientInfo)
  | showInput (isStylusActivation : Bool) (clientInfo : Option InputClientInfo)
  | startInputType (permitted : Bool) (type : InputType) (isPersistence : Bool)
  | exitCurrentInputType (permitted : Bool) (bound : Option InputClientInfo)
  | switchInputMethod (switchInfo : Switch)
  | switchType (switchInfo : Switch)
  /-- The keyboard is hidden, or the client of the real input method unbound. -/
  | restoreCurrentImeSubType
  /-- The window manager, the scene board, the memory manager or push to talk asks for it. -/
  | startCurrentIme (bound : Option InputClientInfo) (isStopCurrentIme : Bool)
  | startImeIfInstalled (bound : Option InputClientInfo)
  /-- The screen is unlocked, or a package updated. -/
  | startUserSpecifiedIme
  | startPreconfiguredDefaultIme (isStopCurrentIme : Bool)
  | stopCurrentIme
  | onSetCoreAndAgent
  | onImeDied
  | screenLocked (isDeviceLockAndScreenLocked : Bool)
  | currentImeChanged (currentImeCfg : Option ImeNativeCfg)
  | setExamMode (isExamMode : Bool)

/-- What `OnImeDied` does before it starts anything. -/
def onImeDied (s : State) : State :=
  match s.realImeData with
  | none => s
  | some data => if data.imeStatus = .exiting then s.exitingImeDied else s.removeRealImeData

def step (config : Config) (s : State) : Scene × Call → State
  | (scene, .startInput proxy alternativeIme client) =>
      (startInput config scene proxy alternativeIme client s).2
  | (scene, .showInput isStylusActivation clientInfo) =>
      (showInput config scene isStylusActivation clientInfo s).2
  | (scene, .startInputType permitted type isPersistence) =>
      (startInputType config scene permitted type isPersistence s).2
  | (scene, .exitCurrentInputType permitted bound) =>
      (exitCurrentInputType config scene permitted bound s).2
  | (scene, .switchInputMethod switchInfo) => (switchInputMethod config scene switchInfo s).2
  | (scene, .switchType switchInfo) => (switchType config scene switchInfo s).2
  | (scene, .restoreCurrentImeSubType) => restoreCurrentImeSubType config scene s
  | (scene, .startCurrentIme bound isStopCurrentIme) =>
      (startCurrentIme config scene bound isStopCurrentIme s).2
  | (scene, .startImeIfInstalled bound) => startImeIfInstalled config scene bound s
  | (scene, .startUserSpecifiedIme) => (startUserSpecifiedIme config scene s).2
  | (scene, .startPreconfiguredDefaultIme isStopCurrentIme) =>
      (startPreconfiguredDefaultIme config scene isStopCurrentIme s).2
  | (scene, .stopCurrentIme) => (stopCurrentIme scene s).2
  | (_, .onSetCoreAndAgent) => (onSetCoreAndAgent s).2
  | (_, .onImeDied) => onImeDied s
  | (_, .screenLocked isDeviceLockAndScreenLocked) => { s with isDeviceLockAndScreenLocked }
  | (_, .currentImeChanged currentImeCfg) => { s with currentImeCfg }
  | (_, .setExamMode isExamMode) => { s with isExamMode }

/-! ## Several users -/

/-- The sessions of all users, and the one `InputTypeManager` that they share: it is neither kept
for each user nor reset when the user is switched. -/
structure Service where
  isStarted : Bool := false
  currentTypeIme : ImeIdentification := {}
  sessions : Int → State
  /-- The user whose session last started anything. -/
  userId : Int := 0

/-- A user's session, with the input type of whichever session started it. -/
def Service.session (service : Service) (userId : Int) : State :=
  (service.sessions userId).set service.isStarted service.currentTypeIme

/-- The calls that may start an input method or an input type; the others only stop, register or
are told something. -/
def Call.starts : Call → Bool
  | .stopCurrentIme | .onSetCoreAndAgent | .onImeDied | .screenLocked _ | .currentImeChanged _
  | .setExamMode _ => false
  | _ => true

/-- A call for the session of a user. -/
def serve (config : Config) (service : Service) (e : Int × Scene × Call) : Service :=
  let s := step config (service.session e.1) e.2
  { isStarted := s.isStarted
    currentTypeIme := s.currentTypeIme
    sessions := Function.update service.sessions e.1 s
    userId := if e.2.2.starts then e.1 else service.userId }

/-- While an input type is started, only the user whose session last started anything starts
something. -/
def Turns (service : Service) (e : Int × Scene × Call) : Prop :=
  e.2.2.starts = true → service.isStarted = true → service.userId = e.1

instance (service : Service) (e : Int × Scene × Call) : Decidable (Turns service e) :=
  inferInstanceAs (Decidable (_ → _ → _))

end Imf.InputTypes
