/-
# Imf.Ptt.Controller -- the gesture of push-to-talk as a state machine

Holding the space key down by itself starts the voice input and releasing it stops it.  The
controller sees key events and the end of the long press, and answers each with the action that
the manager is to take.  `KeyTurn` lists what a key event can do.
-/
import Imf.Lib.Run

namespace Imf.Ptt

set_option autoImplicit false

/-! ## Key events -/

def KEYCODE_SPACE : Int := 2050

def KEY_ACTION_DOWN : Int := 2

def KEY_ACTION_UP : Int := 3

structure KeyboardEventInfo where
  keyCode : Int := 0
  keyAction : Int := 0
  pressedKeys : List Int := []
  deriving DecidableEq, Repr

namespace KeyboardEventInfo

variable (eventInfo : KeyboardEventInfo)

def isKeyAction : Bool :=
  eventInfo.keyAction == KEY_ACTION_DOWN || eventInfo.keyAction == KEY_ACTION_UP

def isSpace : Bool := eventInfo.keyCode == KEYCODE_SPACE

def hasOtherPressedKey : Bool := eventInfo.pressedKeys.any (· != KEYCODE_SPACE)

def SpaceDown : Prop := eventInfo.isSpace = true ∧ eventInfo.keyAction = KEY_ACTION_DOWN

def SpaceUp : Prop := eventInfo.isSpace = true ∧ eventInfo.keyAction = KEY_ACTION_UP

/-- Another key goes down or up. -/
def OtherKey : Prop := eventInfo.isSpace = false ∧ eventInfo.isKeyAction = true

end KeyboardEventInfo

/-! ## The controller -/

inductive PttState where
  | idle
  | pending
  | active
  | suppressed
  deriving DecidableEq, Repr

inductive PttAction where
  | none
  | startTimer
  | cancelTimer
  | startVoice
  | stopVoice
  deriving DecidableEq, Repr

namespace PttState

variable (state : PttState)

/-- A gesture is under way. -/
def Live : Prop := state = .pending ∨ state = .active

instance : Decidable state.Live := inferInstanceAs (Decidable (_ ∨ _))

/-- What is to be done about a gesture that ends. -/
def cleanupAction : PttAction :=
  if state = .pending then .cancelTimer else if state = .active then .stopVoice else .none

def handleSpaceDown (eventInfo : KeyboardEventInfo) : PttState × PttAction :=
  if state ≠ .idle then (state, .none)
  else if eventInfo.hasOtherPressedKey then (.suppressed, .none)
  else (.pending, .startTimer)

def handleSpaceUp : PttState × PttAction := (.idle, state.cleanupAction)

def handleOtherKey : PttState × PttAction :=
  if state = .pending then (.suppressed, .cancelTimer)
  else if state = .active then (.suppressed, .stopVoice)
  else (state, .none)

def handleKeyEvent (eventInfo : KeyboardEventInfo) : PttState × PttAction :=
  if !eventInfo.isSpace && (!eventInfo.isKeyAction || (state != .pending && state != .active)) then
    (state, .none)
  else if eventInfo.isSpace then
    if eventInfo.keyAction = KEY_ACTION_DOWN then state.handleSpaceDown eventInfo
    else if eventInfo.keyAction = KEY_ACTION_UP then state.handleSpaceUp
    else (state, .none)
  else state.handleOtherKey

def handleTimeout : PttState × PttAction :=
  if state ≠ .pending then (state, .none) else (.active, .startVoice)

/-- `Reset` hands the action that is left to its caller. -/
def reset : PttState × PttAction := (.idle, state.cleanupAction)

def suppressUntilSpaceUp : PttState := if state ≠ .idle then .suppressed else state

end PttState

/-! ## What a key event does -/

/-- The turns of the controller: the space key goes up, or down alone, or down with another key;
another key breaks a gesture; or the event changes nothing. -/
inductive KeyTurn (state : PttState) (eventInfo : KeyboardEventInfo) : PttState → PttAction → Prop
  | released {action : PttAction} (up : eventInfo.SpaceUp) (cleanup : action = state.cleanupAction) :
      KeyTurn state eventInfo .idle action
  | pressed (down : eventInfo.SpaceDown) (alone : eventInfo.hasOtherPressedKey = false)
      (idle : state = .idle) :
      KeyTurn state eventInfo .pending .startTimer
  | chord (down : eventInfo.SpaceDown) (idle : state = .idle) :
      KeyTurn state eventInfo .suppressed .none
  | broken {action : PttAction} (other : eventInfo.OtherKey) (live : state.Live)
      (cleanup : action = state.cleanupAction) : KeyTurn state eventInfo .suppressed action
  | ignored (notUp : ¬ eventInfo.SpaceUp) (unbroken : eventInfo.OtherKey → ¬ state.Live) :
      KeyTurn state eventInfo state .none

theorem down_not_up {eventInfo : KeyboardEventInfo} (down : eventInfo.keyAction = KEY_ACTION_DOWN) :
    ¬ eventInfo.SpaceUp := by
  rintro ⟨-, up⟩
  rw [down] at up
  exact absurd up (by decide)

theorem keyTurn_space (state : PttState) {eventInfo : KeyboardEventInfo}
    (space : eventInfo.isSpace = true) (down : eventInfo.keyAction = KEY_ACTION_DOWN) :
    KeyTurn state eventInfo (state.handleSpaceDown eventInfo).1
      (state.handleSpaceDown eventInfo).2 := by
  unfold PttState.handleSpaceDown
  split
  · refine .ignored (down_not_up down) fun other => ?_
    rw [other.1] at space
    exact absurd space (by decide)
  · rename_i stays
    have idle : state = .idle := Decidable.not_not.1 stays
    split
    · exact .chord ⟨space, down⟩ idle
    · rename_i alone
      exact .pressed ⟨space, down⟩ (by simpa using alone) idle

theorem keyTurn_other (state : PttState) {eventInfo : KeyboardEventInfo} (other : eventInfo.OtherKey)
    (live : state.Live) : KeyTurn state eventInfo state.handleOtherKey.1 state.handleOtherKey.2 := by
  have same : state.handleOtherKey = (.suppressed, state.cleanupAction) := by
    rcases live with rfl | rfl <;> rfl
  rw [same]
  exact .broken other live rfl

/-- Every key event is one of the turns. -/
theorem keyTurn (state : PttState) (eventInfo : KeyboardEventInfo) :
    KeyTurn state eventInfo (state.handleKeyEvent eventInfo).1 (state.handleKeyEvent eventInfo).2 := by
  unfold PttState.handleKeyEvent
  split
  · rename_i skipped
    simp only [Bool.and_eq_true, Bool.not_eq_true', Bool.or_eq_true, bne_iff_ne] at skipped
    obtain ⟨other, reason⟩ := skipped
    refine .ignored (fun up => ?_) fun key live => ?_
    · rw [up.1] at other
      exact absurd other (by decide)
    · rcases reason with noAction | ⟨notPending, notActive⟩
      · rw [key.2] at noAction
        exact absurd noAction (by decide)
      · exact live.elim notPending notActive
  · rename_i heeded
    split
    · rename_i space
      split
      · exact keyTurn_space state space ‹_›
      · split
        · exact .released ⟨space, ‹_›⟩ rfl
        · rename_i notDown notUp
          refine .ignored (fun up => notUp up.2) fun other => ?_
          rw [other.1] at space
          exact absurd space (by decide)
    · rename_i other
      have other : eventInfo.isSpace = false := by simpa using other
      have key : eventInfo.isKeyAction = true := by
        by_contra none
        simp [other, none] at heeded
      have live : state.Live := by
        by_contra dead
        obtain ⟨notPending, notActive⟩ := not_or.1 dead
        simp [other, notPending, notActive] at heeded
      exact keyTurn_other state ⟨other, key⟩ live

end Imf.Ptt
