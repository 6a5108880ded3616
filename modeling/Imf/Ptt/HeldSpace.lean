/-
# Imf.Ptt.HeldSpace -- what a held space key does to the text

While the space key is held its repeated presses go on to reach the editor.  Two machines keep
them from the input method: the input method ability consumes them while it tracks a gesture
(`HandlePttKeyEvent`), and the client does so before they leave it, once the service has told it
to (`HandlePttSpaceKeyEventBlock`).  When the voice input starts, the space that the first press
has typed is rolled back (`OnPttLongPress`).

* `only_repeats_swallowed`: what either machine keeps back is a repeated press of the space key, and the
  press that it repeats was let through, with no release, reset or cancellation since;
* `held_space_leaves_no_trace`: a tracked press and its repeats, however many, in any order with the
  block, type one space, and its roll back leaves the text as it was.

What the input method types for a key event that it is handed is part of the event.
-/
import Imf.Ptt.Routing
import Mathlib.Logic.Function.Iterate

namespace Imf.Ptt

set_option autoImplicit false

open Lib (run Meets Underway run_underway run_keeps)

/-! ## The two machines -/

inductive PttSpaceKeyEventState where
  | up
  | down
  | blocked
  deriving DecidableEq, Repr

inductive PttSpaceTrackingState where
  | idle
  | tracking
  | suppressed
  deriving DecidableEq, Repr

def PTT_SPACE_ROLLBACK_LENGTH : Nat := 1

def space : UInt16 := 32

/-- The client, the input method ability, and the text before the cursor. -/
structure Typing where
  pttSpaceKeyEventState : PttSpaceKeyEventState := .up
  isEditable : Bool := true
  isBound : Bool := true
  pttSpaceTrackingState : PttSpaceTrackingState := .idle
  text : List UInt16 := []
  deriving DecidableEq, Repr

/-- A key event of the window: whether it comes with a callback, whether there is an agent to take
it, what `IsPttGestureAvailable` answers, and what the input method types for it. -/
structure Dispatch where
  keyEvent : KeyboardEventInfo
  callback : Bool := true
  agent : Bool := true
  available : Bool := false
  typed : List UInt16 := []
  deriving DecidableEq, Repr

/-- What becomes of a key event. -/
inductive Outcome where
  | blocked
  | refused
  | consumed
  | reported
  deriving DecidableEq, Repr

namespace Typing

variable (s : Typing)

def resetPttSpaceKeyEventState : Typing := { s with pttSpaceKeyEventState := .up }

/-- `HandlePttSpaceKeyEventBlock` of the client. -/
def handlePttSpaceKeyEventBlock (keyEvent : KeyboardEventInfo) (callback : Bool) : Typing × Bool :=
  if keyEvent.keyCode ≠ KEYCODE_SPACE then (s, false)
  else if keyEvent.keyAction = KEY_ACTION_UP then (s.resetPttSpaceKeyEventState, false)
  else if keyEvent.keyAction ≠ KEY_ACTION_DOWN then (s, false)
  else if s.pttSpaceKeyEventState = .up then ({ s with pttSpaceKeyEventState := .down }, false)
  else if s.pttSpaceKeyEventState ≠ .blocked then (s, false)
  else if !callback then (s, false)
  else (s, true)

/-- `StartPttSpaceKeyEventBlock`. -/
def startPttSpaceKeyEventBlock : Typing × Bool :=
  if !s.isEditable || !s.isBound then (s, false)
  else if s.pttSpaceKeyEventState = .down then ({ s with pttSpaceKeyEventState := .blocked }, true)
  else (s, false)

def resetPttKeyEventTracking : Typing := { s with pttSpaceTrackingState := .idle }

def suppressPttKeyEventTracking : Typing :=
  if s.pttSpaceTrackingState = .tracking then { s with pttSpaceTrackingState := .suppressed } else s

def isOnlySpacePressed (keyEvent : KeyboardEventInfo) : Bool := keyEvent.pressedKeys = [KEYCODE_SPACE]

/-- `HandlePttKeyEvent` of the input method ability. -/
def handlePttKeyEvent (keyEvent : KeyboardEventInfo) (available : Bool) : Typing × Bool :=
  if keyEvent.keyCode ≠ KEYCODE_SPACE then
    if keyEvent.keyAction = KEY_ACTION_DOWN ∨ keyEvent.keyAction = KEY_ACTION_UP then
      (s.suppressPttKeyEventTracking, false)
    else (s, false)
  else if keyEvent.keyAction = KEY_ACTION_UP then (s.resetPttKeyEventTracking, false)
  else if keyEvent.keyAction ≠ KEY_ACTION_DOWN then (s, false)
  else if s.pttSpaceTrackingState = .tracking then (s, true)
  else if s.pttSpaceTrackingState = .idle ∧ isOnlySpacePressed keyEvent = true ∧ available = true then
    ({ s with pttSpaceTrackingState := .tracking }, false)
  else if s.pttSpaceTrackingState = .idle then ({ s with pttSpaceTrackingState := .suppressed }, false)
  else (s, false)

/-- `DispatchKeyEvent` of the client, and of the input method ability where it gets there. -/
def dispatchKeyEvent (dispatch : Dispatch) : Typing × Outcome :=
  match s.handlePttSpaceKeyEventBlock dispatch.keyEvent dispatch.callback with
  | (s, true) => (s, .blocked)
  | (s, false) =>
      if !s.isEditable || !dispatch.agent then (s, .refused)
      else
        match s.handlePttKeyEvent dispatch.keyEvent dispatch.available with
        | (s, true) => (s, .consumed)
        | (s, false) => ({ s with text := s.text ++ dispatch.typed }, .reported)

/-- `OnPttLongPress`, with what comes of `GetTextBeforeCursor` and of `DeleteForward`. -/
def onPttLongPress (got deleted : Bool) : Typing :=
  if !got then s
  else
    match s.text.getLast? with
    | none => s
    | some last =>
        if last ≠ space then s
        else if deleted then
          { s with text := s.text.take (s.text.length - PTT_SPACE_ROLLBACK_LENGTH) } else s

end Typing

inductive TypingEvent where
  | key (dispatch : Dispatch)
  | startPttSpaceKeyEventBlock
  /-- `StartInput`, `ReleaseInput`, `DeactivateClient` and the death of the service. -/
  | resetClient
  | ready (isEditable isBound : Bool)
  /-- The end of a binding, of the data channel or of the service. -/
  | resetAbility
  | onPttGestureCancelled
  | onPttLongPress (got deleted : Bool)
  deriving DecidableEq, Repr

def Typing.step (s : Typing) : TypingEvent → Typing
  | .key dispatch => (s.dispatchKeyEvent dispatch).1
  | .startPttSpaceKeyEventBlock => s.startPttSpaceKeyEventBlock.1
  | .resetClient => s.resetPttSpaceKeyEventState
  | .ready isEditable isBound => { s with isEditable, isBound }
  | .resetAbility => s.resetPttKeyEventTracking
  | .onPttGestureCancelled => s.suppressPttKeyEventTracking
  | .onPttLongPress got deleted => s.onPttLongPress got deleted

/-! ## What a key event can do -/

section Dispatch

variable {s : Typing} {dispatch : Dispatch}

theorem spaceDown_iff {keyEvent : KeyboardEventInfo} :
    keyEvent.SpaceDown ↔ keyEvent.keyCode = KEYCODE_SPACE ∧ keyEvent.keyAction = KEY_ACTION_DOWN := by
  unfold KeyboardEventInfo.SpaceDown KeyboardEventInfo.isSpace
  rw [beq_iff_eq]

theorem spaceUp_iff {keyEvent : KeyboardEventInfo} :
    keyEvent.SpaceUp ↔ keyEvent.keyCode = KEYCODE_SPACE ∧ keyEvent.keyAction = KEY_ACTION_UP := by
  unfold KeyboardEventInfo.SpaceUp KeyboardEventInfo.isSpace
  rw [beq_iff_eq]

theorem up_ne_down : KEY_ACTION_UP ≠ KEY_ACTION_DOWN := by decide

/-- The client keeps a press back while it blocks; a press makes the key held and a release lets it
go. -/
theorem handlePttSpaceKeyEventBlock_cases {s' : Typing} {keyEvent : KeyboardEventInfo}
    {callback kept : Bool}
    (handled : s.handlePttSpaceKeyEventBlock keyEvent callback = (s', kept)) :
    ∃ held, s' = { s with pttSpaceKeyEventState := held } ∧
      (held ≠ .up → (keyEvent.SpaceDown ∧ s.pttSpaceKeyEventState = .up) ∨
        (s.pttSpaceKeyEventState ≠ .up ∧ ¬ keyEvent.SpaceUp)) ∧
      (kept = true → keyEvent.SpaceDown ∧ s.pttSpaceKeyEventState = .blocked) := by
  unfold Typing.handlePttSpaceKeyEventBlock at handled
  split at handled
  · rename_i other
    cases handled
    exact ⟨_, rfl, fun busy => .inr ⟨busy, fun up => other (spaceUp_iff.1 up).1⟩, nofun⟩
  · rename_i isSpace
    rw [not_ne_iff] at isSpace
    split at handled
    · cases handled
      exact ⟨_, rfl, fun busy => absurd rfl busy, nofun⟩
    · rename_i notUp
      have held : ¬ keyEvent.SpaceUp := fun up => notUp (spaceUp_iff.1 up).2
      split at handled
      · cases handled
        exact ⟨_, rfl, fun busy => .inr ⟨busy, held⟩, nofun⟩
      · rename_i down
        have down : keyEvent.SpaceDown := spaceDown_iff.2 ⟨isSpace, not_ne_iff.1 down⟩
        split at handled
        · cases handled
          exact ⟨_, rfl, fun _ => .inl ⟨down, ‹_›⟩, nofun⟩
        · rename_i busy
          split at handled
          · cases handled
            exact ⟨_, rfl, fun _ => .inr ⟨busy, held⟩, nofun⟩
          · rename_i blocked
            split at handled
            · cases handled
              exact ⟨_, rfl, fun _ => .inr ⟨busy, held⟩, nofun⟩
            · cases handled
              exact ⟨_, rfl, fun _ => .inr ⟨busy, held⟩, fun _ => ⟨down, not_ne_iff.1 blocked⟩⟩

/-- The input method ability keeps a press back while it tracks; a press alone may begin that, and a
release or another key ends it. -/
theorem handlePttKeyEvent_cases {s' : Typing} {keyEvent : KeyboardEventInfo} {available kept : Bool}
    (handled : s.handlePttKeyEvent keyEvent available = (s', kept)) :
    ∃ tracked, s' = { s with pttSpaceTrackingState := tracked } ∧
      (tracked = .tracking →
        (keyEvent.SpaceDown ∧ Typing.isOnlySpacePressed keyEvent = true ∧ available = true ∧
          s.pttSpaceTrackingState = .idle ∧ kept = false) ∨
        (s.pttSpaceTrackingState = .tracking ∧ ¬ keyEvent.SpaceUp ∧ ¬ keyEvent.OtherKey)) ∧
      (kept = true ↔ keyEvent.SpaceDown ∧ s.pttSpaceTrackingState = .tracking) ∧
      (keyEvent.SpaceDown → s.pttSpaceTrackingState = .tracking → tracked = .tracking) := by
  have action : keyEvent.isKeyAction = true ↔
      keyEvent.keyAction = KEY_ACTION_DOWN ∨ keyEvent.keyAction = KEY_ACTION_UP := by
    unfold KeyboardEventInfo.isKeyAction
    rw [Bool.or_eq_true, beq_iff_eq, beq_iff_eq]
  unfold Typing.handlePttKeyEvent at handled
  split at handled
  · rename_i other
    have notDown : ¬ keyEvent.SpaceDown := fun down => other (spaceDown_iff.1 down).1
    split at handled
    · cases handled
      have suppressed : s.suppressPttKeyEventTracking =
          { s with pttSpaceTrackingState := if s.pttSpaceTrackingState = .tracking then .suppressed
            else s.pttSpaceTrackingState } := by
        unfold Typing.suppressPttKeyEventTracking
        split <;> rfl
      refine ⟨_, suppressed, fun tracking => ?_, ⟨by simp, fun down => absurd down.1 notDown⟩,
        fun down => absurd down notDown⟩
      split at tracking
      · cases tracking
      · exact absurd tracking ‹_›
    · rename_i notKey
      cases handled
      refine ⟨_, rfl, fun tracking =>
        .inr ⟨tracking, fun up => other (spaceUp_iff.1 up).1, fun key => ?_⟩,
        ⟨by simp, fun down => absurd down.1 notDown⟩, fun down => absurd down notDown⟩
      exact notKey (action.1 key.2)
  · rename_i isSpace
    rw [not_ne_iff] at isSpace
    have notOther : ¬ keyEvent.OtherKey := by
      rintro ⟨other, -⟩
      rw [KeyboardEventInfo.isSpace, isSpace] at other
      cases other
    split at handled
    · rename_i up
      cases handled
      refine ⟨_, rfl, by simp, ⟨by simp, fun down => ?_⟩, fun down => ?_⟩
      · exact absurd (up.symm.trans (spaceDown_iff.1 down.1).2) up_ne_down
      · exact absurd (up.symm.trans (spaceDown_iff.1 down).2) up_ne_down
    · rename_i notUp
      have held : ¬ keyEvent.SpaceUp := fun up => notUp (spaceUp_iff.1 up).2
      split at handled
      · rename_i notDown
        cases handled
        exact ⟨_, rfl, fun tracking => .inr ⟨tracking, held, notOther⟩,
          ⟨by simp, fun down => absurd (spaceDown_iff.1 down.1).2 notDown⟩,
          fun down => absurd (spaceDown_iff.1 down).2 notDown⟩
      · rename_i down
        have down : keyEvent.SpaceDown := spaceDown_iff.2 ⟨isSpace, not_ne_iff.1 down⟩
        split at handled
        · rename_i tracking
          cases handled
          exact ⟨_, rfl, fun _ => .inr ⟨tracking, held, notOther⟩,
            ⟨fun _ => ⟨down, tracking⟩, fun _ => rfl⟩,
            fun _ => id⟩
        · rename_i untracked
          have free : (false = true ↔ keyEvent.SpaceDown ∧ s.pttSpaceTrackingState = .tracking) :=
            ⟨by simp, fun both => absurd both.2 untracked⟩
          split at handled
          · rename_i begins
            cases handled
            exact ⟨_, rfl, fun _ => .inl ⟨down, begins.2.1, begins.2.2, begins.1, rfl⟩, free,
              fun _ both => absurd both untracked⟩
          · split at handled
            · cases handled
              exact ⟨_, rfl, by simp, free, fun _ both => absurd both untracked⟩
            · cases handled
              exact ⟨_, rfl, fun tracking => absurd tracking untracked, free, fun _ both =>
                absurd both untracked⟩

/-- Everything that becomes of a key event. -/
structure Dispatched (s : Typing) (dispatch : Dispatch) (s' : Typing) (outcome : Outcome) : Prop where
  text : s'.text = if outcome = .reported then s.text ++ dispatch.typed else s.text
  blocked : outcome = .blocked → dispatch.keyEvent.SpaceDown ∧ s.pttSpaceKeyEventState = .blocked
  held : s'.pttSpaceKeyEventState ≠ .up →
    (dispatch.keyEvent.SpaceDown ∧ s.pttSpaceKeyEventState = .up) ∨
    (s.pttSpaceKeyEventState ≠ .up ∧ ¬ dispatch.keyEvent.SpaceUp)
  consumed : outcome = .consumed → dispatch.keyEvent.SpaceDown ∧ s.pttSpaceTrackingState = .tracking
  tracked : s'.pttSpaceTrackingState = .tracking →
    (dispatch.keyEvent.SpaceDown ∧ Typing.isOnlySpacePressed dispatch.keyEvent = true ∧
      dispatch.available = true ∧
      s.pttSpaceTrackingState = .idle ∧ outcome = .reported) ∨
    (s.pttSpaceTrackingState = .tracking ∧
      (outcome = .reported → ¬ dispatch.keyEvent.SpaceUp ∧ ¬ dispatch.keyEvent.OtherKey))
  repeated : dispatch.keyEvent.SpaceDown → s.pttSpaceTrackingState = .tracking →
    s'.pttSpaceTrackingState = .tracking ∧ outcome ≠ .reported

theorem dispatched_of_eq {s' : Typing} {outcome : Outcome}
    (done : s.dispatchKeyEvent dispatch = (s', outcome)) :
    Dispatched s dispatch s' outcome := by
  unfold Typing.dispatchKeyEvent at done
  cases client : s.handlePttSpaceKeyEventBlock dispatch.keyEvent dispatch.callback with
  | mk s₁ kept =>
      rw [client] at done
      obtain ⟨held, rfl, holds, keeps⟩ := handlePttSpaceKeyEventBlock_cases client
      cases kept with
      | true =>
          cases done
          exact ⟨rfl, fun _ => keeps rfl, holds, nofun, fun tracking => .inr ⟨tracking, nofun⟩,
            fun _ tracking => ⟨tracking, nofun⟩⟩
      | false =>
          dsimp only at done
          split at done
          · cases done
            exact ⟨rfl, nofun, holds, nofun, fun tracking => .inr ⟨tracking, nofun⟩,
              fun _ tracking => ⟨tracking, nofun⟩⟩
          · cases ability : ({ s with pttSpaceKeyEventState := held } : Typing).handlePttKeyEvent
                dispatch.keyEvent dispatch.available with
            | mk s₂ kept =>
                rw [ability] at done
                obtain ⟨tracked, rfl, begins, keeps, stays⟩ := handlePttKeyEvent_cases ability
                cases kept with
                | true =>
                    cases done
                    exact ⟨rfl, nofun, holds, fun _ => keeps.1 rfl,
                      fun tracking => (begins tracking).imp (fun alone => nomatch alone.2.2.2.2)
                        fun still => ⟨still.1, nofun⟩,
                      fun down tracking => ⟨stays down tracking, nofun⟩⟩
                | false =>
                    cases done
                    refine ⟨rfl, nofun, holds, nofun, fun tracking => (begins tracking).imp
                      (fun alone => ⟨alone.1, alone.2.1, alone.2.2.1, alone.2.2.2.1, rfl⟩)
                      fun still => ⟨still.1, fun _ => still.2⟩, fun down tracking => ?_⟩
                    exact nomatch keeps.2 ⟨down, tracking⟩

/-- What begins to be tracked. -/
theorem dispatch_begins (down : dispatch.keyEvent.SpaceDown)
    (alone : dispatch.keyEvent.pressedKeys = [KEYCODE_SPACE])
    (available : dispatch.available = true) (idle : s.pttSpaceTrackingState = .idle)
    (handed : (s.dispatchKeyEvent dispatch).2 = .reported) :
    (s.dispatchKeyEvent dispatch).1.pttSpaceTrackingState = .tracking := by
  unfold Typing.dispatchKeyEvent at handed ⊢
  cases client : s.handlePttSpaceKeyEventBlock dispatch.keyEvent dispatch.callback with
  | mk s₁ kept =>
      rw [client] at handed
      obtain ⟨pressed, rfl, _⟩ := handlePttSpaceKeyEventBlock_cases client
      cases kept with
      | true => cases handed
      | false =>
          dsimp only at handed ⊢
          split at handed
          · cases handed
          · rename_i there
            obtain ⟨code, action⟩ := spaceDown_iff.1 down
            have begins : ({ s with pttSpaceKeyEventState := pressed } : Typing).handlePttKeyEvent
                dispatch.keyEvent dispatch.available =
                  ({ s with pttSpaceKeyEventState := pressed, pttSpaceTrackingState := .tracking },
                    false) := by
              unfold Typing.handlePttKeyEvent Typing.isOnlySpacePressed
              simp [code, action, idle, alone, available, up_ne_down.symm]
            rw [if_neg there, begins]

theorem dispatched (s : Typing) (dispatch : Dispatch) :
    Dispatched s dispatch (s.dispatchKeyEvent dispatch).1 (s.dispatchKeyEvent dispatch).2 :=
  dispatched_of_eq rfl

end Dispatch

/-! ## What is swallowed -/

/-- The client lets a press of the space key through, which was up. -/
def ClientPress (s : Typing) : TypingEvent → Prop
  | .key dispatch => dispatch.keyEvent.SpaceDown ∧ s.pttSpaceKeyEventState = .up
  | _ => False

/-- The space key is not released at the client, nor is the client reset. -/
def ClientHolds (_ : Typing) : TypingEvent → Prop
  | .key dispatch => ¬ dispatch.keyEvent.SpaceUp
  | .resetClient => False
  | _ => True

/-- The input method is handed a press of the space key alone, and a gesture is available. -/
def AbilityPress (s : Typing) : TypingEvent → Prop
  | .key dispatch =>
      dispatch.keyEvent.SpaceDown ∧ Typing.isOnlySpacePressed dispatch.keyEvent = true ∧
        dispatch.available = true ∧
        (s.dispatchKeyEvent dispatch).2 = .reported
  | _ => False

/-- No release and no other key reaches the input method, and the gesture is neither cancelled nor
cut off. -/
def AbilityHolds (s : Typing) : TypingEvent → Prop
  | .key dispatch =>
      (s.dispatchKeyEvent dispatch).2 = .reported → ¬ dispatch.keyEvent.SpaceUp ∧
        ¬ dispatch.keyEvent.OtherKey
  | .resetAbility => False
  | .onPttGestureCancelled => False
  | _ => True

theorem onPttLongPress_frame (s : Typing) (got deleted : Bool) :
    ∃ text, s.onPttLongPress got deleted = { s with text } := by
  unfold Typing.onPttLongPress
  split
  · exact ⟨_, rfl⟩
  · split
    · exact ⟨_, rfl⟩
    · split
      · exact ⟨_, rfl⟩
      · split <;> exact ⟨_, rfl⟩

theorem startPttSpaceKeyEventBlock_frame (s : Typing) :
    s.startPttSpaceKeyEventBlock.1 = s ∨
      (s.pttSpaceKeyEventState = .down ∧ s.startPttSpaceKeyEventBlock.1 =
        { s with pttSpaceKeyEventState := .blocked }) := by
  unfold Typing.startPttSpaceKeyEventBlock
  split
  · exact .inl rfl
  · split
    · exact .inr ⟨‹_›, rfl⟩
    · exact .inl rfl

theorem client_traced (s : Typing) (e : TypingEvent) (busy : (s.step e).pttSpaceKeyEventState ≠ .up) :
    ClientPress s e ∨ (s.pttSpaceKeyEventState ≠ .up ∧ ClientHolds s e) := by
  cases e with
  | key dispatch => exact (dispatched s dispatch).held busy
  | startPttSpaceKeyEventBlock =>
      refine .inr ⟨?_, trivial⟩
      rcases startPttSpaceKeyEventBlock_frame s with same | ⟨down, _⟩
      · rw [Typing.step, same] at busy
        exact busy
      · rw [down]
        nofun
  | resetClient => exact absurd rfl busy
  | ready isEditable isBound => exact .inr ⟨busy, trivial⟩
  | resetAbility => exact .inr ⟨busy, trivial⟩
  | onPttGestureCancelled =>
      refine .inr ⟨?_, trivial⟩
      unfold Typing.step Typing.suppressPttKeyEventTracking at busy
      dsimp only at busy
      split at busy <;> exact busy
  | onPttLongPress got deleted =>
      obtain ⟨text, frame⟩ := onPttLongPress_frame s got deleted
      rw [Typing.step, frame] at busy
      exact .inr ⟨busy, trivial⟩

theorem ability_traced (s : Typing) (e : TypingEvent)
    (tracking : (s.step e).pttSpaceTrackingState = .tracking) :
    AbilityPress s e ∨ (s.pttSpaceTrackingState = .tracking ∧ AbilityHolds s e) := by
  cases e with
  | key dispatch =>
      refine ((dispatched s dispatch).tracked tracking).imp ?_ id
      exact fun alone => ⟨alone.1, alone.2.1, alone.2.2.1, alone.2.2.2.2⟩
  | startPttSpaceKeyEventBlock =>
      refine .inr ⟨?_, trivial⟩
      rcases startPttSpaceKeyEventBlock_frame s with same | ⟨_, blocked⟩
      · rw [Typing.step, same] at tracking
        exact tracking
      · rw [Typing.step, blocked] at tracking
        exact tracking
  | resetClient => exact .inr ⟨tracking, trivial⟩
  | ready isEditable isBound => exact .inr ⟨tracking, trivial⟩
  | resetAbility => cases tracking
  | onPttGestureCancelled =>
      unfold Typing.step Typing.suppressPttKeyEventTracking at tracking
      dsimp only at tracking
      split at tracking
      · cases tracking
      · exact absurd tracking ‹_›
  | onPttLongPress got deleted =>
      obtain ⟨text, frame⟩ := onPttLongPress_frame s got deleted
      rw [Typing.step, frame] at tracking
      exact .inr ⟨tracking, trivial⟩

/-- **Nothing but repeats is swallowed.**  In every run, with the block set and the machines reset
whenever it may be, a key event that the client keeps back or that the input method ability consumes
is a press of the space key; the client let an earlier press through, and has seen neither a release
nor a reset since; and what is consumed repeats a press that the input method was handed, with no
release, other key, reset or cancellation since. -/
theorem only_repeats_swallowed (text : List UInt16) (es : List TypingEvent) (dispatch : Dispatch) :
    (((run Typing.step { text } es).dispatchKeyEvent dispatch).2 = .blocked →
        dispatch.keyEvent.SpaceDown ∧ Underway Typing.step ClientPress ClientHolds { text } es) ∧
      (((run Typing.step { text } es).dispatchKeyEvent dispatch).2 = .consumed →
        dispatch.keyEvent.SpaceDown ∧ Underway Typing.step AbilityPress AbilityHolds { text } es) := by
  have done := dispatched (run Typing.step { text } es) dispatch
  constructor
  · intro blocked
    obtain ⟨down, state⟩ := done.blocked blocked
    refine ⟨down, run_underway
      (P := fun s : Typing => s.pttSpaceKeyEventState ≠ .up) client_traced ?_ es ?_⟩
    · exact fun busy => busy rfl
    · rw [state]
      nofun
  · intro consumed
    obtain ⟨down, tracking⟩ := done.consumed consumed
    refine ⟨down, run_underway
      (P := fun s : Typing => s.pttSpaceTrackingState = .tracking) ability_traced ?_ es tracking⟩
    nofun

/-! ## What is typed -/

/-- The roll back of one space. -/
def rolledBack (text : List UInt16) : List UInt16 :=
  if text.getLast? = some space then text.dropLast else text

/-- The space is rolled back, and both calls to the editor succeed. -/
def isRollback : TypingEvent → Bool
  | .onPttLongPress got deleted => got && deleted
  | _ => false

/-- While the space key is held: its repeated presses, whatever the client does with them, and the
long press. -/
def Held : TypingEvent → Prop
  | .key dispatch => dispatch.keyEvent.SpaceDown
  | .resetAbility => False
  | .onPttGestureCancelled => False
  | _ => True

theorem onPttLongPress_text (s : Typing) (got deleted : Bool) :
    (s.onPttLongPress got deleted).text = if isRollback (.onPttLongPress got deleted) then
      rolledBack s.text else s.text := by
  unfold Typing.onPttLongPress isRollback rolledBack
  cases got with
  | false => rfl
  | true =>
      cases last : s.text.getLast? with
      | none => simp
      | some unit =>
          by_cases isSpace : unit = space
          · cases deleted with
            | true => simp [isSpace, PTT_SPACE_ROLLBACK_LENGTH, List.dropLast_eq_take]
            | false => simp [isSpace]
          · simp [isSpace]

/-- A tracked space key types nothing more. -/
theorem held_step {s : Typing} (tracking : s.pttSpaceTrackingState = .tracking) {e : TypingEvent}
    (held : Held e) :
    (s.step e).pttSpaceTrackingState = .tracking ∧
      (s.step e).text = if isRollback e then rolledBack s.text else s.text := by
  cases e with
  | key dispatch =>
      have done := dispatched s dispatch
      obtain ⟨still, kept⟩ := done.repeated held tracking
      exact ⟨still, by rw [Typing.step, done.text, if_neg kept]; rfl⟩
  | startPttSpaceKeyEventBlock =>
      rcases startPttSpaceKeyEventBlock_frame s with same | ⟨_, blocked⟩
      · rw [Typing.step, same]
        exact ⟨tracking, rfl⟩
      · rw [Typing.step, blocked]
        exact ⟨tracking, rfl⟩
  | resetClient => exact ⟨tracking, rfl⟩
  | ready isEditable isBound => exact ⟨tracking, rfl⟩
  | resetAbility => exact held.elim
  | onPttGestureCancelled => exact held.elim
  | onPttLongPress got deleted =>
      refine ⟨?_, onPttLongPress_text s got deleted⟩
      obtain ⟨text, frame⟩ := onPttLongPress_frame s got deleted
      rw [Typing.step, frame]
      exact tracking

theorem held_run {s : Typing} (tracking : s.pttSpaceTrackingState = .tracking) (es : List TypingEvent)
    (held : ∀ e ∈ es, Held e) :
    (run Typing.step s es).text = rolledBack^[es.countP isRollback] s.text := by
  induction es generalizing s with
  | nil => rfl
  | cons e es ih =>
      obtain ⟨still, text⟩ := held_step tracking (held e List.mem_cons_self)
      rw [Lib.run_cons, ih still fun later inside => held later (List.mem_cons_of_mem _ inside),
        text, List.countP_cons]
      cases isRollback e with
      | true => rfl
      | false => rfl

/-- **A held space leaves no trace.**  A press of the space key alone, for which a gesture is
available and which the input method is handed and types a space for, and then any number of
repeated presses, with the block of the client, its resets and its readiness changing at any time,
type that one space; and rolling it back once leaves the text as it was before the press. -/
theorem held_space_leaves_no_trace (s : Typing) (press : Dispatch) (es : List TypingEvent)
    (down : press.keyEvent.SpaceDown) (alone : press.keyEvent.pressedKeys = [KEYCODE_SPACE])
    (available : press.available = true) (typed : press.typed = [space])
    (idle : s.pttSpaceTrackingState = .idle) (handed : (s.dispatchKeyEvent press).2 = .reported)
    (held : ∀ e ∈ es, Held e) :
    (es.countP isRollback = 0 → (run Typing.step s (.key press :: es)).text = s.text ++ [space]) ∧
      (es.countP isRollback = 1 → (run Typing.step s (.key press :: es)).text = s.text) := by
  have done := dispatched s press
  have text : (s.step (.key press)).text = s.text ++ [space] := by
    rw [Typing.step, done.text, if_pos handed, typed]
  have tracking : (s.step (.key press)).pttSpaceTrackingState = .tracking := by
    exact dispatch_begins down alone available idle handed
  rw [Lib.run_cons, held_run tracking es held, text]
  constructor
  · intro none
    rw [none]
    rfl
  · intro once
    rw [once, Function.iterate_one, rolledBack]
    simp

/-! ## Poles

The space key is held in an editor that holds "hi": three presses, the block, the voice input, a
press more. -/

def heldPress : Dispatch := { keyEvent := spaceDown, available := true, typed := [space] }

def holding : List TypingEvent :=
  [.key heldPress, .startPttSpaceKeyEventBlock, .key heldPress,
    .onPttLongPress true true, .key heldPress]

theorem holding_leaves_no_trace :
    (run Typing.step { text := [104, 105] } (.key heldPress :: holding)).text = [104, 105] :=
  (held_space_leaves_no_trace { text := [104, 105] } heldPress holding
    ⟨rfl, rfl⟩ rfl rfl rfl rfl (by decide)
    (by simp [holding, Held, heldPress, KeyboardEventInfo.SpaceDown, spaceDown,
      KeyboardEventInfo.isSpace])).2 (by decide)

end Imf.Ptt
