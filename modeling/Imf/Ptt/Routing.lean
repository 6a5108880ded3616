/-
# Imf.Ptt.Routing -- which key events reach push-to-talk

The keyboard monitor sees every key event of the user.  `ShouldForwardPttKeyEvent` lets only a
few of them through to the push-to-talk manager: the press of the space key alone, the first
other key after it, and the release; and only the press keeps its pressed keys.

`routing_transparent`: the manager does behind this filter what it would do if it were handed
every event.  Its log, its timers and its context are the same; the one thing that may differ
is that a chord is not noted in the controller, which the filter suppresses itself until the
space key is up.

A press names the space key once among the pressed keys, as the monitor reports it; no caller
of `Reset` is in the service.
-/
import Imf.Ptt.Voice

namespace Imf.Ptt

set_option autoImplicit false

open Lib (run run_filtered filtered)

/-! ## The filter -/

inductive PttRoutingState where
  | idle
  | tracking
  | suppressed
  deriving DecidableEq, Repr

namespace PttRoutingState

/-- `ShouldForwardPttKeyEvent`. -/
def shouldForwardPttKeyEvent (state : PttRoutingState) (keyEvent : KeyboardEventInfo) :
    PttRoutingState × Bool :=
  if !keyEvent.isKeyAction then (state, false)
  else if keyEvent.keyCode = KEYCODE_SPACE then
    if keyEvent.keyAction = KEY_ACTION_UP then (.idle, state ≠ .idle)
    else if state ≠ .idle then (state, false)
    else if keyEvent.pressedKeys = [KEYCODE_SPACE] then (.tracking, true)
    else (.suppressed, false)
  else if state ≠ .tracking then (state, false)
  else (.suppressed, true)

/-- What `OnInputEvent` hands on of a key event. -/
def eventInfo (keyEvent : KeyboardEventInfo) : KeyboardEventInfo where
  keyCode := keyEvent.keyCode
  keyAction := keyEvent.keyAction
  pressedKeys :=
    if keyEvent.keyCode = KEYCODE_SPACE ∧ keyEvent.keyAction = KEY_ACTION_DOWN then
      keyEvent.pressedKeys else []

/-- The part of `OnInputEvent` for push-to-talk, in front of the manager; timers do not pass the
monitor. -/
def route (state : PttRoutingState) : Event → PttRoutingState × Option Event
  | .key keyEvent answers =>
      let (state, forward) := state.shouldForwardPttKeyEvent keyEvent
      (state, if forward then some (.key (eventInfo keyEvent) answers) else none)
  | event => (state, some event)

end PttRoutingState

open PttRoutingState

/-- A press of the space key names it once among the pressed keys. -/
def Reported : Event → Prop
  | .key keyEvent _ =>
      keyEvent.SpaceDown → KEYCODE_SPACE ∈ keyEvent.pressedKeys ∧ keyEvent.pressedKeys.Nodup
  | _ => True

instance : DecidablePred Reported
  | .key keyEvent _ =>
      inferInstanceAs (Decidable (keyEvent.isSpace = true ∧ keyEvent.keyAction = KEY_ACTION_DOWN →
        KEYCODE_SPACE ∈ keyEvent.pressedKeys ∧ keyEvent.pressedKeys.Nodup))
  | .timeout _ _ => .isTrue trivial
  | .reset _ _ => .isTrue trivial

/-! ## What the manager does with what is held back -/

section Held

variable {s : State} {keyEvent : KeyboardEventInfo} (answers : Answers)

/-- Without a gesture there is no context. -/
def State.Tidy (s : State) : Prop :=
  ¬ s.controller.Live → s.gestureUserId = INVALID_USER_ID ∧ s.gestureClientSnapshot = {}

theorem State.Tidy.clear (tidy : s.Tidy) (dead : ¬ s.controller.Live) : s.clearGestureContext = s := by
  obtain ⟨user, client⟩ := tidy dead
  unfold State.clearGestureContext
  rw [← user, ← client]

theorem State.Tidy.step (inv : s.Inv) (tidy : s.Tidy) (e : Event) (applied : ¬ e.Reset) :
    (s.step e).Tidy := by
  have turn := State.turn inv.bound e
  generalize s.step e = next at turn
  cases turn with
  | began => exact fun dead => absurd (.inl rfl) dead
  | refused => exact fun _ => ⟨rfl, rfl⟩
  | chord down idle => exact fun _ => tidy (by rw [idle]; decide)
  | ended => exact fun _ => ⟨rfl, rfl⟩
  | passed => exact tidy
  | tidied => exact fun _ => ⟨rfl, rfl⟩
  | started => exact fun dead => absurd (.inr rfl) dead
  | failed => exact fun _ => ⟨rfl, rfl⟩
  | dropped => exact absurd trivial applied

/-- Nothing to do is nothing done. -/
theorem State.Tidy.follow_none (tidy : s.Tidy) (eventUserId : Int) :
    s.follow answers (s.controller, .none) eventUserId = s := by
  rcases State.follow_none answers s eventUserId with same | ⟨idle, cleared⟩
  · exact same
  · rw [cleared]
    exact tidy.clear (by rw [idle]; decide)

theorem handleKeyEvent_noAction (state : PttState) (none : keyEvent.isKeyAction = false) :
    state.handleKeyEvent keyEvent = (state, .none) := by
  unfold KeyboardEventInfo.isKeyAction at none
  simp only [Bool.or_eq_false_iff, beq_eq_false_iff_ne] at none
  unfold PttState.handleKeyEvent
  by_cases space : keyEvent.isSpace = true
  · simp [space, none.1, none.2]
  · have keyAction : keyEvent.isKeyAction = false := by
      simp [KeyboardEventInfo.isKeyAction, none.1, none.2]
    simp [space, keyAction]

theorem handleKeyEvent_other (state : PttState) (other : keyEvent.isSpace = false)
    (dead : ¬ state.Live) :
    state.handleKeyEvent keyEvent = (state, .none) := by
  obtain ⟨notPending, notActive⟩ := not_or.1 dead
  unfold PttState.handleKeyEvent
  simp [other, notPending, notActive]

theorem handleKeyEvent_up (state : PttState) (up : keyEvent.SpaceUp) :
    state.handleKeyEvent keyEvent = (.idle, state.cleanupAction) := by
  unfold PttState.handleKeyEvent
  rw [up.1, up.2]
  rfl

theorem handleKeyEvent_down (state : PttState) (down : keyEvent.SpaceDown) :
    state.handleKeyEvent keyEvent = state.handleSpaceDown keyEvent := by
  unfold PttState.handleKeyEvent
  rw [down.1, down.2]
  rfl

/-- The pressed keys are looked at in a press of the space key, which keeps them. -/
theorem handleKeyEvent_eventInfo (state : PttState) :
    state.handleKeyEvent (eventInfo keyEvent) = state.handleKeyEvent keyEvent := by
  by_cases down : keyEvent.SpaceDown
  · have same : eventInfo keyEvent = keyEvent := by
      have space : keyEvent.keyCode = KEYCODE_SPACE := by simpa [KeyboardEventInfo.isSpace] using down.1
      unfold eventInfo
      rw [if_pos ⟨space, down.2⟩]
    rw [same]
  · unfold PttState.handleKeyEvent
    by_cases space : keyEvent.isSpace = true
    · have notDown : keyEvent.keyAction ≠ KEY_ACTION_DOWN := fun action => down ⟨space, action⟩
      have space' : (eventInfo keyEvent).isSpace = true := space
      have notDown' : (eventInfo keyEvent).keyAction ≠ KEY_ACTION_DOWN := notDown
      simp only [space, space', notDown, notDown', Bool.not_true, Bool.false_and, if_false, if_true]
      rfl
    · have other : keyEvent.isSpace = false := Bool.not_eq_true _ ▸ space
      have other' : (eventInfo keyEvent).isSpace = false := other
      simp only [other, other', Bool.not_false, Bool.true_and]
      rfl

end Held

/-! ## The manager behind the filter -/

/-- The manager that is handed everything and the one behind the filter: they are the same while the
filter is idle, with an idle controller, and while it tracks, with a busy one; a chord is noted by
the first alone. -/
def Behind (state : PttRoutingState) (s t : State) : Prop :=
  match state with
  | .idle => t = s ∧ s.controller = .idle
  | .tracking => t = s ∧ s.controller ≠ .idle
  | .suppressed => s.controller = .suppressed ∧ (t = s ∨ t = { s with controller := .idle })

/-- The relation that every event keeps, with what is known of the first manager. -/
structure Routed (state : PttRoutingState) (s t : State) : Prop where
  inv : s.Inv
  tidy : s.Tidy
  behind : Behind state s t

section Keeps

variable {state : PttRoutingState} {s t : State} {keyEvent : KeyboardEventInfo} (answers : Answers)

/-- A key event that changes neither manager nor filter. -/
theorem Routed.skip (routed : Routed state s t) (same : s.step (.key keyEvent answers) = s)
    (stays : state.shouldForwardPttKeyEvent keyEvent = (state, false)) :
    Routed (route state (.key keyEvent answers)).1 (s.step (.key keyEvent answers))
      (run State.step t (route state (.key keyEvent answers)).2.toList) := by
  rw [same, route, stays]
  exact routed

/-- What is handed on does what the event does. -/
theorem step_eventInfo (s : State) :
    s.step (.key (eventInfo keyEvent) answers) = s.step (.key keyEvent answers) := by
  show s.follow answers (s.controller.handleKeyEvent (eventInfo keyEvent)) _ =
    s.follow answers (s.controller.handleKeyEvent keyEvent) _
  rw [handleKeyEvent_eventInfo]

theorem Routed.noAction (routed : Routed state s t) (none : keyEvent.isKeyAction = false) :
    Routed (route state (.key keyEvent answers)).1 (s.step (.key keyEvent answers))
      (run State.step t (route state (.key keyEvent answers)).2.toList) := by
  refine routed.skip answers ?_ ?_
  · show s.follow answers (s.controller.handleKeyEvent keyEvent) INVALID_USER_ID = s
    rw [handleKeyEvent_noAction _ none]
    exact routed.tidy.follow_none answers _
  · simp [shouldForwardPttKeyEvent, none]

/-- The release ends what there is, and a chord as well. -/
theorem Routed.up (routed : Routed state s t) (up : keyEvent.SpaceUp) :
    Routed (route state (.key keyEvent answers)).1 (s.step (.key keyEvent answers))
      (run State.step t (route state (.key keyEvent answers)).2.toList) := by
  have space : keyEvent.keyCode = KEYCODE_SPACE := by simpa [KeyboardEventInfo.isSpace] using up.1
  have filter : state.shouldForwardPttKeyEvent keyEvent = (.idle, decide (state ≠ .idle)) := by
    unfold shouldForwardPttKeyEvent
    simp [KeyboardEventInfo.isKeyAction, space, up.2]
  have ends : (s.step (.key keyEvent answers)).controller = .idle := by
    obtain ⟨timers, _, eq⟩ := State.follow_cleanup answers routed.inv.bound .idle fun _ => rfl
    show (s.follow answers (s.controller.handleKeyEvent keyEvent) INVALID_USER_ID).controller = .idle
    rw [handleKeyEvent_up _ up, eq]
  refine ⟨routed.inv.step _, routed.tidy.step routed.inv _ id, ?_⟩
  have behind := routed.behind
  rw [route, filter]
  cases state with
  | idle =>
      obtain ⟨same, idle⟩ := behind
      refine ⟨?_, ends⟩
      show t = s.follow answers (s.controller.handleKeyEvent keyEvent) INVALID_USER_ID
      rw [handleKeyEvent_up _ up, same]
      have nothing : (PttState.idle, s.controller.cleanupAction) = (s.controller, PttAction.none) := by
        rw [idle]
        rfl
      rw [nothing]
      exact (routed.tidy.follow_none answers _).symm
  | tracking =>
      refine ⟨?_, ends⟩
      show t.step (.key (eventInfo keyEvent) answers) = _
      rw [step_eventInfo, behind.1]
  | suppressed =>
      refine ⟨?_, ends⟩
      show t.step (.key (eventInfo keyEvent) answers) = _
      rw [step_eventInfo]
      rcases behind.2 with same | chord
      · rw [same]
      · show t.follow answers (t.controller.handleKeyEvent keyEvent) INVALID_USER_ID =
          s.follow answers (s.controller.handleKeyEvent keyEvent) INVALID_USER_ID
        rw [handleKeyEvent_up _ up, handleKeyEvent_up _ up, chord, behind.1]
        rfl

/-- A binding leaves a gesture, or a failure that lasts until the release. -/
theorem handleStartTimer_busy (busy : s.controller ≠ .idle) (eventUserId : Int) :
    (s.handleStartTimer answers eventUserId).controller ≠ .idle := by
  have rejected : ∀ (s : State) effects,
    (s.rejected effects).controller ≠ .idle := fun _ _ => by simp [State.rejected]
  unfold State.handleStartTimer
  generalize counted : ({ s with gestures := s.gestures + 1 } : State) = s'
  have busy : s'.controller ≠ .idle := by
    rw [← counted]
    exact busy
  cases answers.resolveUser eventUserId with
  | none =>
      dsimp only
      rw [State.suppress_clear_eq answers busy]
      exact rejected _ _
  | some userId =>
      cases eligible : answers.getEligibleClient with
      | none =>
          simp only [State.bindGestureContext, eligible]
          generalize unbound : ({ s' with gestureClientSnapshot := {} } : State) = next
          have live : next.controller ≠ .idle := by
            rw [← unbound]
            exact busy
          rw [State.rejectGesture_eq answers live]
          exact rejected _ _
      | some snapshot =>
          simp only [State.bindGestureContext, eligible]
          generalize bound : ({ s' with
            gestureUserId := userId, gestureClientSnapshot := snapshot } : State) = next
          have live : next.controller ≠ .idle := by
            rw [← bound]
            exact busy
          rcases State.scheduleLongPressTimer_cases answers live with posted | ⟨timers, _, unposted⟩
          · rw [posted]
            exact live
          · rw [unposted]
            exact rejected _ _

/-- A press that names the space key once, and is not alone, names another key. -/
theorem hasOtherPressedKey_of_reported
    (reported : KEYCODE_SPACE ∈ keyEvent.pressedKeys ∧ keyEvent.pressedKeys.Nodup)
    (more : keyEvent.pressedKeys ≠ [KEYCODE_SPACE]) : keyEvent.hasOtherPressedKey = true := by
  by_contra alone
  refine more ?_
  have only : ∀ key ∈ keyEvent.pressedKeys, key = KEYCODE_SPACE := by
    simpa [KeyboardEventInfo.hasOtherPressedKey] using alone
  obtain ⟨inside, distinct⟩ := reported
  cases keys : keyEvent.pressedKeys with
  | nil => simp [keys] at inside
  | cons first rest =>
      rw [keys] at only distinct
      have head := only first List.mem_cons_self
      cases rest with
      | nil => rw [head]
      | cons second others =>
          have next := only second (by simp)
          simp [head, next] at distinct

theorem Routed.down (routed : Routed state s t) (down : keyEvent.SpaceDown)
    (reported : KEYCODE_SPACE ∈ keyEvent.pressedKeys ∧ keyEvent.pressedKeys.Nodup) :
    Routed (route state (.key keyEvent answers)).1 (s.step (.key keyEvent answers))
      (run State.step t (route state (.key keyEvent answers)).2.toList) := by
  have space : keyEvent.keyCode = KEYCODE_SPACE := by simpa [KeyboardEventInfo.isSpace] using down.1
  have notUp : keyEvent.keyAction ≠ KEY_ACTION_UP := by rw [down.2]; decide
  by_cases idle : state = .idle
  · subst idle
    obtain ⟨same, idle⟩ := routed.behind
    refine ⟨routed.inv.step _, routed.tidy.step routed.inv _ id, ?_⟩
    by_cases alone : keyEvent.pressedKeys = [KEYCODE_SPACE]
    · have filter : PttRoutingState.idle.shouldForwardPttKeyEvent keyEvent = (.tracking, true) := by
        unfold shouldForwardPttKeyEvent
        simp [KeyboardEventInfo.isKeyAction, space, down.2, alone]
        decide
      have noOther : keyEvent.hasOtherPressedKey = false := by
        simp [KeyboardEventInfo.hasOtherPressedKey, alone]
      rw [route, filter]
      refine ⟨?_, ?_⟩
      · show t.step (.key (eventInfo keyEvent) answers) = _
        rw [step_eventInfo, same]
      · show (s.follow answers (s.controller.handleKeyEvent keyEvent) INVALID_USER_ID).controller ≠
          .idle
        rw [handleKeyEvent_down _ down, PttState.handleSpaceDown, if_neg (not_not_intro idle), noOther]
        exact handleStartTimer_busy answers (by simp) _
    · have filter : PttRoutingState.idle.shouldForwardPttKeyEvent keyEvent = (.suppressed, false) := by
        unfold shouldForwardPttKeyEvent
        simp [KeyboardEventInfo.isKeyAction, space, down.2, alone]
        decide
      have chord : s.step (.key keyEvent answers) = { s with controller := .suppressed } := by
        show s.follow answers (s.controller.handleKeyEvent keyEvent) INVALID_USER_ID = _
        rw [handleKeyEvent_down _ down, PttState.handleSpaceDown, if_neg (not_not_intro idle),
          hasOtherPressedKey_of_reported reported alone]
        rfl
      rw [route, filter, chord]
      refine ⟨rfl, .inr ?_⟩
      show t = { s with controller := .idle }
      rw [same, ← idle]
  · have busy : s.controller ≠ .idle := by
      have behind := routed.behind
      cases state with
      | idle => exact absurd rfl idle
      | tracking => exact behind.2
      | suppressed =>
          rw [behind.1]
          nofun
    refine routed.skip answers ?_ ?_
    · show s.follow answers (s.controller.handleKeyEvent keyEvent) INVALID_USER_ID = s
      rw [handleKeyEvent_down _ down, PttState.handleSpaceDown, if_pos busy]
      exact routed.tidy.follow_none answers _
    · unfold shouldForwardPttKeyEvent
      simp [space, notUp, idle]

/-- Another key breaks what the filter tracks; otherwise there is nothing to break. -/
theorem Routed.other (routed : Routed state s t) (other : keyEvent.OtherKey) :
    Routed (route state (.key keyEvent answers)).1 (s.step (.key keyEvent answers))
      (run State.step t (route state (.key keyEvent answers)).2.toList) := by
  have notSpace : keyEvent.keyCode ≠ KEYCODE_SPACE := by simpa [KeyboardEventInfo.isSpace] using other.1
  by_cases tracking : state = .tracking
  · subst tracking
    obtain ⟨same, busy⟩ := routed.behind
    have filter : PttRoutingState.tracking.shouldForwardPttKeyEvent keyEvent = (.suppressed, true) := by
      unfold shouldForwardPttKeyEvent
      simp [other.2, notSpace]
    refine ⟨routed.inv.step _, routed.tidy.step routed.inv _ id, ?_⟩
    rw [route, filter]
    refine ⟨?_, .inl ?_⟩
    · show (s.follow answers (s.controller.handleKeyEvent keyEvent) INVALID_USER_ID).controller =
        .suppressed
      by_cases live : s.controller.Live
      · have broken : s.controller.handleKeyEvent keyEvent =
          (.suppressed, s.controller.cleanupAction) := by
          unfold PttState.handleKeyEvent
          rcases live with pending | active
          · simp [other.1, other.2, pending, PttState.handleOtherKey, PttState.cleanupAction]
          · simp [other.1, other.2, active, PttState.handleOtherKey, PttState.cleanupAction]
        obtain ⟨timers, _, eq⟩ :=
          State.follow_cleanup answers routed.inv.bound .suppressed fun dead => absurd live dead
        rw [broken, eq]
      · have suppressed : s.controller = .suppressed := by
          cases current : s.controller with
          | idle => exact absurd current busy
          | suppressed => rfl
          | pending => exact absurd (.inl current) live
          | active => exact absurd (.inr current) live
        rw [handleKeyEvent_other _ other.1 live, routed.tidy.follow_none]
        exact suppressed
    · show t.step (.key (eventInfo keyEvent) answers) = _
      rw [step_eventInfo, same]
  · have dead : ¬ s.controller.Live := by
      have behind := routed.behind
      cases state with
      | idle =>
          rw [behind.2]
          decide
      | tracking => exact absurd rfl tracking
      | suppressed =>
          rw [behind.1]
          decide
    refine routed.skip answers ?_ ?_
    · show s.follow answers (s.controller.handleKeyEvent keyEvent) INVALID_USER_ID = s
      rw [handleKeyEvent_other _ other.1 dead]
      exact routed.tidy.follow_none answers _
    · unfold shouldForwardPttKeyEvent
      simp [other.2, notSpace, tracking]

/-- A timer leaves a busy controller busy, an idle one idle and a suppressed one suppressed. -/
theorem timeout_controller (s : State) (index : Nat) :
    (s.step (.timeout index answers)).controller = s.controller ∨
      (s.controller = .pending ∧ (s.step (.timeout index answers)).controller ≠ .idle) := by
  have turn := State.turn_timeout (s := s) answers index
  generalize s.step (.timeout index answers) = next at turn
  cases turn with
  | ended _ _ ends =>
      rcases ends with ⟨ends, _⟩ | ⟨ends, _⟩
      · exact ends.elim False.elim False.elim
      · exact ends.elim
  | passed => exact .inl rfl
  | tidied => exact .inl rfl
  | started queued pending => exact .inr ⟨pending, nofun⟩
  | failed queued pending => exact .inr ⟨pending, by simp [State.rejected]⟩

/-- In a suppressed controller and in an idle one a timer is used up and nothing else. -/
theorem timeout_dead (tidy : s.Tidy) (notPending : s.controller ≠ .pending) (index : Nat) :
    s.step (.timeout index answers) = { s with timers := s.timers.eraseIdx index } := by
  cases queued : s.timers[index]? with
  | none =>
      simp only [State.step, queued]
      rw [List.eraseIdx_of_length_le (List.getElem?_eq_none_iff.1 queued)]
  | some timer =>
      simp only [State.step, queued]
      unfold State.timeoutTask
      split
      · rfl
      · have stays : s.controller.handleTimeout = (s.controller, .none) := if_pos notPending
        dsimp only
        rw [stays]
        have tidy : ({ s with timers := s.timers.eraseIdx index } : State).Tidy := tidy
        exact tidy.follow_none answers _

theorem Routed.timeout (routed : Routed state s t) (index : Nat) :
    Routed state (s.step (.timeout index answers)) (t.step (.timeout index answers)) := by
  refine ⟨routed.inv.step _, routed.tidy.step routed.inv _ id, ?_⟩
  have behind := routed.behind
  have moved := timeout_controller answers s index
  cases state with
  | idle =>
      refine ⟨by rw [behind.1], ?_⟩
      rcases moved with same | ⟨pending, _⟩
      · rw [same, behind.2]
      · rw [behind.2] at pending
        cases pending
  | tracking =>
      refine ⟨by rw [behind.1], ?_⟩
      rcases moved with same | ⟨_, busy⟩
      · rw [same]
        exact behind.2
      · exact busy
  | suppressed =>
      have dead : ¬ s.controller.Live := by rw [behind.1]; decide
      have gone := timeout_dead answers routed.tidy (by rw [behind.1]; nofun) index
      refine ⟨by rw [gone]; exact behind.1, ?_⟩
      rcases behind.2 with same | chord
      · rw [same]
        exact .inl rfl
      · have tidy : t.Tidy := fun _ => by
          rw [chord]
          exact routed.tidy dead
        have alike := timeout_dead answers tidy (by rw [chord]; nofun) index
        refine .inr ?_
        rw [alike, gone, chord]

end Keeps

/-- Every event keeps the two managers together. -/
theorem Routed.step {state : PttRoutingState} {s t : State} (routed : Routed state s t) {e : Event}
    (reported : Reported e) (reset : ¬ e.Reset) :
    Routed (route state e).1 (s.step e) (run State.step t (route state e).2.toList) := by
  cases e with
  | key keyEvent answers =>
      by_cases none : keyEvent.isKeyAction = false
      · exact routed.noAction answers none
      · have action : keyEvent.isKeyAction = true := by simpa using none
        by_cases space : keyEvent.isSpace = true
        · by_cases up : keyEvent.keyAction = KEY_ACTION_UP
          · exact routed.up answers ⟨space, up⟩
          · have down : keyEvent.SpaceDown := by
              refine ⟨space, ?_⟩
              simpa [KeyboardEventInfo.isKeyAction, up] using action
            exact routed.down answers down (reported down)
        · exact routed.other answers ⟨by simpa using space, action⟩
  | timeout index answers => exact routed.timeout answers index
  | reset applied answers => exact absurd trivial reset

/-- **The filter is transparent.**  Behind it the manager does in every run, whatever the rest of
the service answers and whenever its timers fire, what it does when it is handed every event: the
log, the timers and the context are the same, and so is the controller, unless a chord keeps the one
suppressed and the other idle. -/
theorem routing_transparent (es : List Event) (reported : ∀ e ∈ es, Reported e)
    (reset : ∀ e ∈ es, ¬ e.Reset) :
    let all := run State.step {} es
    let routed := run State.step {} (filtered route .idle es)
    routed.log = all.log ∧ routed = { all with controller := routed.controller } ∧
      (routed.controller = all.controller ∨
        (all.controller = .suppressed ∧ routed.controller = .idle)) := by
  have start : Routed .idle {} {} := ⟨.initial, fun _ => ⟨rfl, rfl⟩, rfl, rfl⟩
  obtain ⟨state, routed⟩ := run_filtered (R := Routed)
    (fun _ _ _ e (ok : Reported e ∧ ¬ e.Reset) routed => Routed.step (e := e) routed ok.1 ok.2) start es
    fun e inside => ⟨reported e inside, reset e inside⟩
  intro all behind
  have same : behind = all ∨
    (all.controller = .suppressed ∧ behind = { all with controller := .idle }) := by
    have related := routed.behind
    cases state with
    | idle => exact .inl related.1
    | tracking => exact .inl related.1
    | suppressed => exact related.2.imp id fun chord => ⟨related.1, chord⟩
  rcases same with equal | ⟨suppressed, chord⟩
  · rw [equal]
    exact ⟨rfl, rfl, .inl rfl⟩
  · rw [chord]
    exact ⟨rfl, rfl, .inr ⟨suppressed, rfl⟩⟩

/-! ## Poles

A chord, a held space key with its repeats, and a key that breaks it. -/

def typing : List Event :=
  [.key { spaceDown with pressedKeys := [2072, KEYCODE_SPACE] } willing, .key spaceUp willing,
    .key spaceDown willing,
    .key spaceDown willing, .timeout 0 willing, .key spaceDown willing,
    .key ⟨2017, KEY_ACTION_DOWN, [KEYCODE_SPACE, 2017]⟩ willing,
    .key ⟨2017, KEY_ACTION_UP, [KEYCODE_SPACE]⟩ willing, .key spaceUp willing]

theorem typing_routed :
    (run State.step {} (filtered route .idle typing)).log = (run State.step {} typing).log :=
  (routing_transparent typing (by decide) (by simp [typing, Event.Reset])).1

/-- Nine events of the keyboard and a timer; five of them reach the manager. -/
example : (filtered route .idle typing).length = 5 ∧ (run State.step {} typing).log.length = 5 := by
  decide

end Imf.Ptt
