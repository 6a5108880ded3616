/-
# Imf.Common.ErrorCode -- what a call returns

The codes that the modelled functions return or look at; `global.h` has more of them.
-/
import Mathlib.Init

namespace Imf

set_option autoImplicit false

/-- In the order of their values. -/
inductive ErrorCode where
  | errorExIllegalState
  | errorExParcelable
  | noError
  | errorNullPointer
  | errorBadParameters
  | errorPersistConfig
  | errorKbdHideFailed
  | errorPackageManager
  | errorNotIme
  | errorAddDeathRecipientFailed
  | errorStatusSystemPermission
  | errorParameterCheckFailed
  | errorKeywordNotFound
  | errorEnableIme
  | errorNotDefaultIme
  | errorWindowManager
  | errorOsAccount
  | errorTaskManagerPendFailed
  | errorServiceStartFailed
  | errorIme
  | errorOperatePanel
  | errorImaChannelNullptr
  | errorImaNullptr
  | errorInvalidRange
  | errorParseConfigFile
  | errorImeStartInputFailed
  | errorStatusPermissionDenied
  | errorClientNotFocused
  | errorClientNullPointer
  | errorClientAddFailed
  | errorClientNotFound
  | errorImeNotStarted
  | errorKbdShowFailed
  | errorImsaInputTypeNotFound
  | errorImsaDefaultImeNotFound
  | errorImsaClientInputReadyFailed
  | errorImsaMallocFailed
  | errorImsaNullptr
  | errorImsaGetImeInfoFailed
  | errorImsaImeToStartNullptr
  | errorImsaRebootOldImeNotStop
  | errorImsaImeEventConvertFailed
  | errorImsaImeConnectFailed
  | errorImsaImeDisconnectFailed
  | errorImsaImeStartTimeout
  | errorImsaImeStartMoreThanEightSecond
  | errorImsaForceStopImeTimeout
  | errorSceneUnsupported
  | errorImeNotFound
  | errorOperateSystemIme
  | errorImeHasStarted
  | errorOperationNotAllowed
  | errorInvalidDisplayid
  | errorTryImeStartFailed
  /-- What a call into another process returns that did not come back. -/
  | errorRemote
  /-- What the window manager or another service answers. -/
  | other (code : Int32)
  deriving DecidableEq, Repr

end Imf
