/-
# Imf.Ptt.Manager -- the actions of push-to-talk and their failures

The manager runs on the service handler.  It binds a gesture to the foreground user and to the
focused client, keeps one long press timer queued by name, and starts and stops the voice input.
Everything it asks of the rest of the service can fail; what it is told within one step is an
`Answers`, and what it does to the rest of the service, with the two notes that matter here, is
an `Effect`.

A timer carries the number of the gesture that posted it; the code never looks at that number.
-/
import Imf.Ptt.Controller

namespace Imf.Ptt

set_option autoImplicit false

def INVALID_USER_ID : Int := -1

/-- What is remembered of the focused client; the remote objects are numbers. -/
structure FocusedRealImeClientSnapshot where
  client : Option Nat := none
  channel : Option Nat := none
  clientGroupId : Nat := 0
  editorWindowId : Nat := 0
  editorDisplayId : Nat := 0
  isSecurityIme : Bool := false
  isOneTimeCode : Bool := false
  deriving DecidableEq, Repr

/-- The active client bound to the real input method: its objects are not null. -/
structure FocusedClient where
  client : Nat
  channel : Nat
  clientGroupId : Nat := 0
  editorWindowId : Nat := 0
  editorDisplayId : Nat := 0
  isSecurityIme : Bool := false
  isOneTimeCode : Bool := false
  deriving DecidableEq, Repr

/-- What the rest of the service answers in one step. -/
structure Answers where
  /-- `GetForegroundOsAccountLocalId`, when it returns `ERR_OK`. -/
  foregroundUser : Option Int := none
  /-- The session that `GetEligibleClient` looks up is there. -/
  eligibleSession : Bool := false
  focused : Option FocusedClient := none
  isEnabled : Bool := false
  /-- `GetServiceHandler` is not null. -/
  handler : Bool := false
  pushToTalkLongPressMs : Nat := 0
  /-- `PostTask` of the long press timer. -/
  posted : Bool := false
  isOsAccountForeground : Bool := false
  startPttSpaceKeyEventBlock : Bool := false
  notifyRollbackSpace : Bool := false
  /-- The handler that starts the voice input is there and returns `NO_ERROR`. -/
  startInputType : Bool := false
  /-- The session that the stop command goes to is there. -/
  stopSession : Bool := false
  sendPttStopPrivateCommand : Bool := false
  /-- The session whose input method is restored is there. -/
  restoreSession : Bool := false
  startCurrentIme : Bool := false
  /-- The session that hears of a cancelled gesture is there. -/
  cancelSession : Bool := false
  deriving DecidableEq, Repr

/-- What the manager does, with what comes back where it reads it. -/
inductive Effect where
  | suppressUntilSpaceUp
  | notifyPttGestureCancelled (userId : Int)
  | startPttSpaceKeyEventBlock (client : Nat) (ret : Bool)
  | notifyRollbackSpace (userId : Int) (ret : Bool)
  | startInputType (userId : Int) (ret : Bool)
  | sendPttStopPrivateCommand (userId : Int) (ret : Bool)
  | restoreCurrentIme (userId : Int) (ret : Bool)
  | reset (applied : Bool) (cleanupAction : PttAction)
  deriving DecidableEq, Repr

/-- A queued long press timer: the user it was posted for, and the gesture. -/
structure Timer where
  gestureUserId : Int
  gesture : Nat
  deriving DecidableEq, Repr

/-- The manager, its queued timers, how many gestures have begun, and what it has done. -/
structure State where
  controller : PttState := .idle
  gestureUserId : Int := INVALID_USER_ID
  gestureClientSnapshot : FocusedRealImeClientSnapshot := {}
  timers : List Timer := []
  gestures : Nat := 0
  log : List Effect := []
  deriving DecidableEq, Repr

/-- The steps.  No caller of `Reset` is in the service: whether one goes on to apply the action
that it is handed is left open. -/
inductive Event where
  | key (eventInfo : KeyboardEventInfo) (answers : Answers)
  | timeout (index : Nat) (answers : Answers)
  | reset (applied : Bool) (answers : Answers)
  deriving DecidableEq, Repr

namespace Answers

variable (answers : Answers)

def getFocusedRealImeClient : Option FocusedRealImeClientSnapshot :=
  answers.focused.map fun info =>
    { client := some info.client, channel := some info.channel, clientGroupId := info.clientGroupId,
      editorWindowId := info.editorWindowId, editorDisplayId := info.editorDisplayId,
      isSecurityIme := info.isSecurityIme, isOneTimeCode := info.isOneTimeCode }

def getEligibleClient : Option FocusedRealImeClientSnapshot :=
  if !answers.eligibleSession then none
  else
    match answers.getFocusedRealImeClient with
    | none => none
    | some snapshot =>
        if snapshot.isSecurityIme || snapshot.isOneTimeCode then none
        else if !answers.isEnabled then none
        else some snapshot

/-- The user that a gesture is bound to. -/
def resolveUser (eventUserId : Int) : Option Int :=
  if eventUserId = INVALID_USER_ID then answers.foregroundUser.filter (· != INVALID_USER_ID)
  else some eventUserId

end Answers

def isSameInputClient (left right : FocusedRealImeClientSnapshot) : Bool :=
  left.client.isSome && left.client == right.client && left.channel == right.channel &&
    left.clientGroupId == right.clientGroupId && left.editorWindowId == right.editorWindowId &&
    left.editorDisplayId == right.editorDisplayId

namespace State

variable (s : State) (answers : Answers)

def say (effect : Effect) : State := { s with log := s.log ++ [effect] }

def suppressUntilSpaceUp : State :=
  ({ s with controller := s.controller.suppressUntilSpaceUp } : State).say .suppressUntilSpaceUp

def clearGestureContext : State :=
  { s with gestureUserId := INVALID_USER_ID, gestureClientSnapshot := {} }

def notifyGestureCancelled (userId : Int) : State :=
  if userId = INVALID_USER_ID then s
  else if !answers.cancelSession then s
  else s.say (.notifyPttGestureCancelled userId)

/-- What the failure exits have in common. -/
def rejectGesture (userId : Int) : State :=
  (s.suppressUntilSpaceUp.notifyGestureCancelled answers userId).clearGestureContext

def handleTimerStartFailure : State := s.rejectGesture answers s.gestureUserId

def bindGestureContext : State × Bool :=
  match answers.getEligibleClient with
  | none => ({ s with gestureClientSnapshot := {} }, false)
  | some snapshot => ({ s with gestureClientSnapshot := snapshot }, true)

def isGestureContextValid (userId : Int) : Bool :=
  if userId ≠ s.gestureUserId ∨ s.gestureClientSnapshot.client = none then false
  else
    match answers.getEligibleClient with
    | none => false
    | some current => isSameInputClient s.gestureClientSnapshot current

/-- `RemoveTask` takes every timer of that name off the handler. -/
def removeTimers : State := { s with timers := [] }

def scheduleLongPressTimer : State :=
  if !answers.handler then s.handleTimerStartFailure answers
  else if answers.pushToTalkLongPressMs = 0 then s.handleTimerStartFailure answers
  else if answers.posted then { s.removeTimers with timers := [⟨s.gestureUserId, s.gestures⟩] }
  else s.removeTimers.rejectGesture answers s.gestureUserId

def handleStartTimer (eventUserId : Int) : State :=
  let s := { s with gestures := s.gestures + 1 }
  match answers.resolveUser eventUserId with
  | none => s.suppressUntilSpaceUp.clearGestureContext
  | some userId =>
      match s.bindGestureContext answers with
      | (s, false) => s.rejectGesture answers userId
      | (s, true) => ({ s with gestureUserId := userId } : State).scheduleLongPressTimer answers

def handleCancelTimer : State :=
  (if answers.handler then s.removeTimers else s).clearGestureContext

def enableSpaceKeyEventBlock (userId : Int) : State × Bool :=
  match s.gestureClientSnapshot.client with
  | none => (s.rejectGesture answers userId, false)
  | some client =>
      let s := s.say (.startPttSpaceKeyEventBlock client answers.startPttSpaceKeyEventBlock)
      if answers.startPttSpaceKeyEventBlock then (s, true) else (s.rejectGesture answers userId, false)

/-- `HandleStartVoice` from the rollback of the space on; a failed rollback is only noted. -/
def startInputType (userId : Int) : State :=
  let s := s.say (.notifyRollbackSpace userId answers.notifyRollbackSpace)
  let s := s.say (.startInputType userId answers.startInputType)
  if answers.startInputType then s else s.rejectGesture answers userId

def handleStartVoice : State :=
  let userId := s.gestureUserId
  if userId = INVALID_USER_ID then s.suppressUntilSpaceUp.clearGestureContext
  else if !answers.isOsAccountForeground then s.rejectGesture answers userId
  else if !s.isGestureContextValid answers userId then s.rejectGesture answers userId
  else
    match s.enableSpaceKeyEventBlock answers userId with
    | (s, false) => s
    | (s, true) => s.startInputType answers userId

def restoreCurrentIme (userId : Int) : State :=
  s.say (.restoreCurrentIme userId (answers.restoreSession && answers.startCurrentIme))

def handleStopVoice : State :=
  let userId := s.gestureUserId
  if userId = INVALID_USER_ID then s.clearGestureContext
  else
    let s := if !answers.stopSession then s
      else s.say (.sendPttStopPrivateCommand userId answers.sendPttStopPrivateCommand)
    (s.restoreCurrentIme answers userId).clearGestureContext

def handleNoAction : State := if s.controller = .idle then s.clearGestureContext else s

def applyAction (action : PttAction) (eventUserId : Int) : State :=
  match action with
  | .startTimer => s.handleStartTimer answers eventUserId
  | .cancelTimer => s.handleCancelTimer answers
  | .startVoice => s.handleStartVoice answers
  | .stopVoice => s.handleStopVoice answers
  | .none => s.handleNoAction

/-- The controller takes a turn and its action is applied. -/
def follow (turn : PttState × PttAction) (eventUserId : Int) : State :=
  ({ s with controller := turn.1 } : State).applyAction answers turn.2 eventUserId

/-- The task of a timer that has left the queue. -/
def timeoutTask (timer : Timer) : State :=
  if timer.gestureUserId ≠ s.gestureUserId then s
  else s.follow answers s.controller.handleTimeout timer.gestureUserId

def step (s : State) : Event → State
  | .key eventInfo answers => s.follow answers (s.controller.handleKeyEvent eventInfo) INVALID_USER_ID
  | .timeout index answers =>
      match s.timers[index]? with
      | none => s
      | some timer => ({ s with timers := s.timers.eraseIdx index } : State).timeoutTask answers timer
  | .reset applied answers =>
      let turn := s.controller.reset
      let s := s.say (.reset applied turn.2)
      if applied then s.follow answers turn INVALID_USER_ID else { s with controller := turn.1 }

/-- What a step does besides changing the state. -/
def effects (event : Event) : List Effect := (s.step event).log.drop s.log.length

end State

end Imf.Ptt
