/-
# Imf.Ptt.Gestures -- what a step of push-to-talk can do

Eight exits of the manager suppress the controller and clear the context, and they differ only
in what they say on the way.  `Turn` lists what is left when the handlers are put together: one
case per kind of step, with the state after it written out.  `State.turn` is the only place
where the handlers are looked into; it needs that a gesture under way has a user.
-/
import Imf.Ptt.Manager

namespace Imf.Ptt

set_option autoImplicit false

/-! ## Effects and events -/

namespace Effect

/-- A start of the voice input is tried. -/
def isStart : Effect → Bool
  | .startInputType _ _ => true
  | _ => false

/-- The voice input is started, stopped, or left running by a `Reset`. -/
def isVoice : Effect → Bool
  | .startInputType _ ret => ret
  | .sendPttStopPrivateCommand _ _ => true
  | .restoreCurrentIme _ _ => true
  | .reset applied cleanupAction => !applied && cleanupAction == .stopVoice
  | _ => false

def isFailure : Effect → Bool
  | .suppressUntilSpaceUp => true
  | .notifyRollbackSpace _ ret => !ret
  | _ => false

end Effect

namespace Event

def SpaceUp : Event → Prop
  | .key eventInfo _ => eventInfo.SpaceUp
  | _ => False

def OtherKey : Event → Prop
  | .key eventInfo _ => eventInfo.OtherKey
  | _ => False

def Reset : Event → Prop
  | .reset _ _ => True
  | _ => False

/-- The space key goes down with no other key pressed. -/
def PressAlone : Event → Prop
  | .key eventInfo _ => eventInfo.SpaceDown ∧ eventInfo.hasOtherPressedKey = false
  | _ => False

end Event

/-! ## What a step does -/

namespace State

variable (s : State) (answers : Answers)

/-- The gesture has failed. -/
def rejected (effects : List Effect) : State :=
  { s with
    controller := .suppressed, gestureUserId := INVALID_USER_ID, gestureClientSnapshot := {},
    log := s.log ++ effects }

/-- What `HandleStopVoice` does. -/
def stopping : List Effect :=
  (if answers.stopSession then
      [.sendPttStopPrivateCommand s.gestureUserId answers.sendPttStopPrivateCommand] else []) ++
    [.restoreCurrentIme s.gestureUserId (answers.restoreSession && answers.startCurrentIme)]

/-- What the end of a gesture does. -/
def ending : List Effect := if s.controller = .active then s.stopping answers else []

/-- What a failure does. -/
def rejection (userId : Int) : List Effect :=
  .suppressUntilSpaceUp ::
    (if userId = INVALID_USER_ID ∨ answers.cancelSession = false then []
      else [.notifyPttGestureCancelled userId])

variable {s}

theorem suppressUntilSpaceUp_eq (live : s.controller ≠ .idle) :
    s.suppressUntilSpaceUp =
      { s with controller := .suppressed, log := s.log ++ [.suppressUntilSpaceUp] } := by
  simp [suppressUntilSpaceUp, PttState.suppressUntilSpaceUp, live, say]

theorem suppress_clear_eq (live : s.controller ≠ .idle) :
    s.suppressUntilSpaceUp.clearGestureContext = s.rejected (rejection answers INVALID_USER_ID) := by
  rw [suppressUntilSpaceUp_eq live]
  rfl

theorem rejectGesture_eq (live : s.controller ≠ .idle) (userId : Int) :
    s.rejectGesture answers userId = s.rejected (rejection answers userId) := by
  unfold rejectGesture
  rw [suppressUntilSpaceUp_eq live]
  unfold notifyGestureCancelled rejection
  by_cases invalid : userId = INVALID_USER_ID
  · rw [if_pos invalid, if_pos (.inl invalid)]
    rfl
  · cases session : answers.cancelSession with
    | false => simp [invalid, rejected, clearGestureContext]
    | true => simp [invalid, rejected, clearGestureContext, say]

end State

/-- A failure and nothing else, as far as starts and stops go. -/
structure Fails (effects : List Effect) : Prop where
  silent : ∀ effect ∈ effects, effect.isVoice = false
  noted : .suppressUntilSpaceUp ∈ effects

theorem mem_rejection {answers : Answers} {userId : Int} {effect : Effect}
    (member : effect ∈ State.rejection answers userId) :
    effect = .suppressUntilSpaceUp ∨ effect = .notifyPttGestureCancelled userId := by
  rcases List.mem_cons.1 member with first | later
  · exact .inl first
  · split at later
    · cases later
    · exact .inr (List.mem_singleton.1 later)

theorem rejection_fails (answers : Answers) (userId : Int) :
    Fails (State.rejection answers userId) := by
  constructor
  · intro effect member
    rcases mem_rejection member with rfl | rfl <;> rfl
  · exact List.mem_cons_self

theorem rejection_no_start (answers : Answers) (userId : Int) :
    ∀ effect ∈ State.rejection answers userId, effect.isStart = false := by
  intro effect member
  rcases mem_rejection member with rfl | rfl <;> rfl

/-- The turns of the manager. -/
inductive Turn (s : State) : Event → State → Prop
  /-- The space key goes down alone: the gesture is bound and its timer is the only one. -/
  | began {eventInfo : KeyboardEventInfo} {answers : Answers} {userId : Int}
      {snapshot : FocusedRealImeClientSnapshot} (down : eventInfo.SpaceDown)
      (alone : eventInfo.hasOtherPressedKey = false) (idle : s.controller = .idle)
      (valid : userId ≠ INVALID_USER_ID) (client : snapshot.client.isSome = true) :
      Turn s (.key eventInfo answers)
        { s with
          controller := .pending, gestureUserId := userId, gestureClientSnapshot := snapshot,
          timers := [⟨userId, s.gestures + 1⟩], gestures := s.gestures + 1 }
  /-- The gesture cannot be bound or timed. -/
  | refused {eventInfo : KeyboardEventInfo} {answers : Answers} {timers : List Timer}
      {effects : List Effect}
      (idle : s.controller = .idle) (fewer : timers ⊆ s.timers) (fails : Fails effects)
      (quiet : ∀ effect ∈ effects, effect.isStart = false) :
      Turn s (.key eventInfo answers)
        (({ s with timers, gestures := s.gestures + 1 } : State).rejected effects)
  /-- The space key goes down with another key pressed. -/
  | chord {eventInfo : KeyboardEventInfo} {answers : Answers} (down : eventInfo.SpaceDown)
      (idle : s.controller = .idle) :
        Turn s (.key eventInfo answers) { s with controller := .suppressed }
  /-- A key event ends the gesture, or a `Reset` whose action is applied. -/
  | ended {event : Event} {next : PttState} {timers : List Timer} (answers : Answers)
      (note : List Effect)
      (ends : (event.SpaceUp ∨ event.Reset) ∧ next = .idle ∨
        event.OtherKey ∧ s.controller.Live ∧ next = .suppressed)
      (fewer : timers ⊆ s.timers) (silent : note = [] ∨ ∃ action, note = [.reset true action]) :
      Turn s event
        { s with
          controller := next, gestureUserId := INVALID_USER_ID, gestureClientSnapshot := {}, timers,
          log := s.log ++ (note ++ s.ending answers) }
  /-- The event is not for the gesture. -/
  | passed {event : Event} {timers : List Timer} (up : ¬ event.SpaceUp) (reset : ¬ event.Reset)
      (unbroken : event.OtherKey → ¬ s.controller.Live) (fewer : timers ⊆ s.timers) :
      Turn s event { s with timers }
  /-- Nor is there one, and what is left of its context is cleared. -/
  | tidied {event : Event} {timers : List Timer} (up : ¬ event.SpaceUp) (reset : ¬ event.Reset)
      (idle : s.controller = .idle) (fewer : timers ⊆ s.timers) :
      Turn s event { s.clearGestureContext with timers }
  /-- The timer starts the voice input. -/
  | started {index : Nat} {answers : Answers} {timer : Timer} {effects : List Effect}
      (queued : s.timers[index]? = some timer) (pending : s.controller = .pending)
      (silent : ∀ effect ∈ effects, effect.isVoice = false) :
      Turn s (.timeout index answers)
        { s with
          controller := .active, timers := s.timers.eraseIdx index,
          log := s.log ++ (effects ++ [.startInputType s.gestureUserId true]) }
  /-- The timer finds that the voice input cannot be started. -/
  | failed {index : Nat} {answers : Answers} {timer : Timer} {effects : List Effect}
      (queued : s.timers[index]? = some timer) (pending : s.controller = .pending)
        (fails : Fails effects) :
      Turn s (.timeout index answers)
        (({ s with timers := s.timers.eraseIdx index } : State).rejected effects)
  /-- A `Reset` whose action is dropped. -/
  | dropped {answers : Answers} :
      Turn s (.reset false answers)
        { s with controller := .idle, log := s.log ++ [.reset false s.controller.cleanupAction] }

namespace State

variable {s : State} (answers : Answers)

theorem getEligibleClient_client {snapshot : FocusedRealImeClientSnapshot}
    (eligible : answers.getEligibleClient = some snapshot) : snapshot.client.isSome = true := by
  unfold Answers.getEligibleClient Answers.getFocusedRealImeClient at eligible
  cases focused : answers.focused with
  | none => simp [focused] at eligible
  | some info =>
      simp only [focused, Option.map_some] at eligible
      split at eligible
      · cases eligible
      · split at eligible
        · cases eligible
        · split at eligible
          · cases eligible
          · rw [← Option.some.inj eligible]
            rfl

theorem resolveUser_valid {eventUserId userId : Int}
    (resolved : answers.resolveUser eventUserId = some userId) :
    userId ≠ INVALID_USER_ID := by
  unfold Answers.resolveUser at resolved
  split at resolved
  · have valid := (Option.filter_eq_some_iff.1 resolved).2
    simpa using valid
  · rename_i valid
    rw [← Option.some.inj resolved]
    exact valid

theorem scheduleLongPressTimer_cases (live : s.controller ≠ .idle) :
    s.scheduleLongPressTimer answers = { s with timers := [⟨s.gestureUserId, s.gestures⟩] } ∨
      ∃ timers, timers ⊆ s.timers ∧
        s.scheduleLongPressTimer answers = ({ s with timers } : State).rejected
          (rejection answers s.gestureUserId) := by
  have failure : s.handleTimerStartFailure answers = s.rejected (rejection answers s.gestureUserId) :=
    rejectGesture_eq answers live _
  unfold scheduleLongPressTimer
  split
  · exact .inr ⟨s.timers, List.Subset.refl _, failure⟩
  · split
    · exact .inr ⟨s.timers, List.Subset.refl _, failure⟩
    · split
      · exact .inl rfl
      · have live : s.removeTimers.controller ≠ .idle := live
        exact .inr ⟨[], List.nil_subset _, rejectGesture_eq answers live _⟩

/-- The space key goes down alone in an idle controller. -/
theorem turn_startTimer {eventInfo : KeyboardEventInfo} (down : eventInfo.SpaceDown)
    (alone : eventInfo.hasOtherPressedKey = false) (idle : s.controller = .idle) :
    Turn s (.key eventInfo answers)
      (({ s with controller := .pending } : State).handleStartTimer answers INVALID_USER_ID) := by
  have refuse (userId : Int) {timers : List Timer} (fewer : timers ⊆ s.timers) :
      Turn s (.key eventInfo answers) (({ s with timers, gestures := s.gestures + 1 } : State).rejected
        (rejection answers userId)) :=
    .refused idle fewer (rejection_fails answers userId) (rejection_no_start answers userId)
  unfold handleStartTimer
  cases resolved : answers.resolveUser INVALID_USER_ID with
  | none =>
      dsimp only
      rw [suppress_clear_eq answers (by simp)]
      exact refuse INVALID_USER_ID (List.Subset.refl _)
  | some userId =>
      have valid := resolveUser_valid answers resolved
      cases eligible : answers.getEligibleClient with
      | none =>
          simp only [bindGestureContext, eligible]
          rw [rejectGesture_eq answers (by simp)]
          exact refuse userId (List.Subset.refl _)
      | some snapshot =>
          simp only [bindGestureContext, eligible]
          -- The state the timer is scheduled in.
          generalize bound : ({ s with
            controller := .pending, gestureUserId := userId, gestureClientSnapshot := snapshot,
            gestures := s.gestures + 1 } : State) = next
          have live : next.controller ≠ .idle := by simp [← bound]
          rcases scheduleLongPressTimer_cases answers live with posted | ⟨timers, fewer, unposted⟩
          · rw [posted, ← bound]
            exact .began down alone idle valid (getEligibleClient_client answers eligible)
          · rw [unposted, ← bound]
            rw [← bound] at fewer
            exact refuse userId fewer

/-- The voice input is started, or the gesture fails. -/
def Voiced (s s' : State) : Prop :=
  (∃ effects, (∀ effect ∈ effects, effect.isVoice = false) ∧
      s' = { s with log := s.log ++ (effects ++ [.startInputType s.gestureUserId true]) }) ∨
    ∃ effects, Fails effects ∧ s' = s.rejected effects

theorem voiced_rejectGesture (s : State) (live : s.controller ≠ .idle) (userId : Int) :
    Voiced s (s.rejectGesture answers userId) :=
  .inr ⟨_, rejection_fails answers userId, rejectGesture_eq answers live userId⟩

theorem Voiced.of_say {s' : State} (effect : Effect) (silent : effect.isVoice = false)
    (voiced : Voiced (s.say effect) s') : Voiced s s' := by
  rcases voiced with ⟨effects, others, rfl⟩ | ⟨effects, fails, rfl⟩
  · refine .inl ⟨effect :: effects, List.forall_mem_cons.2 ⟨silent, others⟩, ?_⟩
    simp [say]
  · refine .inr ⟨effect :: effects, ⟨?_, List.mem_cons_of_mem _ fails.noted⟩, ?_⟩
    · exact List.forall_mem_cons.2 ⟨silent, fails.silent⟩
    · simp [say, rejected]

theorem voiced_startInputType (s : State) (live : s.controller ≠ .idle) :
    Voiced s (s.startInputType answers s.gestureUserId) := by
  unfold startInputType
  dsimp only
  apply Voiced.of_say (.notifyRollbackSpace s.gestureUserId answers.notifyRollbackSpace) rfl
  cases answers.startInputType with
  | true => exact .inl ⟨[], by simp, rfl⟩
  | false =>
      apply Voiced.of_say (.startInputType s.gestureUserId false) rfl
      refine voiced_rejectGesture answers _ ?_ s.gestureUserId
      exact live

theorem voiced_handleStartVoice (live : s.controller ≠ .idle) :
    Voiced s (s.handleStartVoice answers) := by
  have rejects : Voiced s (s.rejectGesture answers s.gestureUserId) :=
    voiced_rejectGesture answers s live _
  unfold handleStartVoice
  dsimp only
  split
  · exact .inr ⟨_, rejection_fails answers INVALID_USER_ID, suppress_clear_eq answers live⟩
  · split
    · exact rejects
    · split
      · exact rejects
      · unfold enableSpaceKeyEventBlock
        cases s.gestureClientSnapshot.client with
        | none => exact rejects
        | some client =>
            apply Voiced.of_say (.startPttSpaceKeyEventBlock client
              answers.startPttSpaceKeyEventBlock) rfl
            dsimp only
            cases answers.startPttSpaceKeyEventBlock with
            | false =>
                refine voiced_rejectGesture answers _ ?_ s.gestureUserId
                exact live
            | true =>
                refine voiced_startInputType answers _ ?_
                exact live

theorem handleStopVoice_eq (s : State) (valid : s.gestureUserId ≠ INVALID_USER_ID) :
    s.handleStopVoice answers = { s.clearGestureContext with log := s.log ++ s.stopping answers } := by
  unfold handleStopVoice
  simp only [valid, if_false]
  cases session : answers.stopSession with
  | false => simp [stopping, session, restoreCurrentIme, say, clearGestureContext]
  | true => simp [stopping, session, restoreCurrentIme, say, clearGestureContext]

/-- What is left of a gesture is done: the timer goes or the voice input is stopped. -/
theorem follow_cleanup (bound : s.controller.Live → s.gestureUserId ≠ INVALID_USER_ID) (next : PttState)
    (dead : ¬ s.controller.Live → next = .idle) :
    ∃ timers, timers ⊆ s.timers ∧ s.follow answers (next, s.controller.cleanupAction) INVALID_USER_ID =
      { s with
        controller := next, gestureUserId := INVALID_USER_ID, gestureClientSnapshot := {}, timers,
        log := s.log ++ s.ending answers } := by
  unfold follow ending
  dsimp only
  cases current : s.controller with
  | pending =>
      refine ⟨if answers.handler then [] else s.timers, ?_, ?_⟩
      · split
        · exact List.nil_subset _
        · exact List.Subset.refl _
      · show ({ s with controller := next } : State).handleCancelTimer answers = _
        unfold handleCancelTimer
        split <;> simp [clearGestureContext, removeTimers]
  | active =>
      refine ⟨s.timers, List.Subset.refl _, ?_⟩
      show ({ s with controller := next } : State).handleStopVoice answers = _
      exact handleStopVoice_eq answers { s with controller := next } (bound (.inr current))
  | idle =>
      have idle : next = .idle := dead (by simp [PttState.Live, current])
      refine ⟨s.timers, List.Subset.refl _, ?_⟩
      show ({ s with controller := next } : State).handleNoAction = _
      simp [handleNoAction, idle, clearGestureContext]
  | suppressed =>
      have idle : next = .idle := dead (by simp [PttState.Live, current])
      refine ⟨s.timers, List.Subset.refl _, ?_⟩
      show ({ s with controller := next } : State).handleNoAction = _
      simp [handleNoAction, idle, clearGestureContext]

theorem follow_none (s : State) (eventUserId : Int) :
    s.follow answers (s.controller, .none) eventUserId = s ∨
      s.controller = .idle ∧ s.follow answers (s.controller, .none) eventUserId =
        s.clearGestureContext := by
  by_cases idle : s.controller = .idle
  · refine .inr ⟨idle, ?_⟩
    show s.handleNoAction = _
    simp [handleNoAction, idle]
  · refine .inl ?_
    show s.handleNoAction = _
    simp [handleNoAction, idle]

theorem turn_key (bound : s.controller.Live → s.gestureUserId ≠ INVALID_USER_ID)
    (eventInfo : KeyboardEventInfo) :
    Turn s (.key eventInfo answers) (s.step (.key eventInfo answers)) := by
  show Turn s _ (s.follow answers (s.controller.handleKeyEvent eventInfo) INVALID_USER_ID)
  have turn := keyTurn s.controller eventInfo
  generalize s.controller.handleKeyEvent eventInfo = result at turn
  obtain ⟨next, action⟩ := result
  change KeyTurn s.controller eventInfo next action at turn
  cases turn with
  | released up cleanup =>
      rw [cleanup]
      obtain ⟨timers, fewer, eq⟩ := follow_cleanup answers bound .idle fun _ => rfl
      rw [eq]
      exact .ended answers [] (.inl ⟨.inl up, rfl⟩) fewer (.inl rfl)
  | pressed down alone idle => exact turn_startTimer answers down alone idle
  | chord down idle => exact .chord down idle
  | broken other live cleanup =>
      rw [cleanup]
      obtain ⟨timers, fewer, eq⟩ := follow_cleanup answers bound .suppressed fun dead =>
        absurd live dead
      rw [eq]
      exact .ended answers [] (.inr ⟨other, live, rfl⟩) fewer (.inl rfl)
  | ignored notUp unbroken =>
      rcases follow_none answers s INVALID_USER_ID with same | ⟨idle, cleared⟩
      · rw [same]
        exact .passed notUp id unbroken (List.Subset.refl _)
      · rw [cleared]
        exact .tidied notUp id idle (List.Subset.refl _)

theorem turn_timeout (index : Nat) :
    Turn s (.timeout index answers) (s.step (.timeout index answers)) := by
  have up : ¬ (Event.timeout index answers).SpaceUp := id
  have reset : ¬ (Event.timeout index answers).Reset := id
  have unbroken : (Event.timeout index answers).OtherKey → ¬ s.controller.Live := False.elim
  cases queued : s.timers[index]? with
  | none =>
      simp only [step, queued]
      exact .passed up reset unbroken (List.Subset.refl _)
  | some timer =>
      simp only [step, queued]
      have fewer : s.timers.eraseIdx index ⊆ s.timers := (List.eraseIdx_sublist _ _).subset
      unfold timeoutTask
      split
      · exact .passed up reset unbroken fewer
      · by_cases pending : s.controller = .pending
        · have voiced : Voiced { s with controller := .active, timers := s.timers.eraseIdx index } _ :=
            voiced_handleStartVoice answers PttState.noConfusion
          simp only [follow, PttState.handleTimeout, pending, ne_eq, not_true_eq_false,
            if_false, applyAction]
          rcases voiced with ⟨effects, silent, eq⟩ | ⟨effects, fails, eq⟩
          · rw [eq]
            exact .started queued pending silent
          · rw [eq]
            exact .failed queued pending fails
        · have stays : s.controller.handleTimeout = (s.controller, .none) := if_pos pending
          dsimp only
          rw [stays]
          rcases follow_none answers
            { s with timers := s.timers.eraseIdx index } timer.gestureUserId with
            same | ⟨idle, cleared⟩
          · rw [same]
            exact .passed up reset unbroken fewer
          · rw [cleared]
            exact .tidied up reset idle fewer

theorem turn_reset (bound : s.controller.Live → s.gestureUserId ≠ INVALID_USER_ID) (applied : Bool) :
    Turn s (.reset applied answers) (s.step (.reset applied answers)) := by
  cases applied with
  | false => exact .dropped
  | true =>
      -- The log is the only thing that the note of the `Reset` changes.
      let noted := s.say (.reset true s.controller.cleanupAction)
      have noted_bound : noted.controller.Live → noted.gestureUserId ≠ INVALID_USER_ID := bound
      obtain ⟨timers, fewer, eq⟩ := follow_cleanup answers noted_bound .idle fun _ => rfl
      show Turn s _ (noted.follow answers (.idle, noted.controller.cleanupAction) INVALID_USER_ID)
      rw [eq]
      have log : noted.log ++ noted.ending answers =
          s.log ++ ([.reset true s.controller.cleanupAction] ++ s.ending answers) := by
        rw [← List.append_assoc]
        rfl
      rw [log]
      exact .ended answers _ (.inl ⟨.inr trivial, rfl⟩) fewer (.inr ⟨_, rfl⟩)

/-- Every step is one of the turns. -/
theorem turn (bound : s.controller.Live → s.gestureUserId ≠ INVALID_USER_ID) (event : Event) :
    Turn s event (s.step event) := by
  cases event with
  | key eventInfo answers => exact turn_key answers bound eventInfo
  | timeout index answers => exact turn_timeout answers index
  | reset applied answers => exact turn_reset answers bound applied

end State

end Imf.Ptt
