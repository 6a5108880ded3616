/-
# Imf.Ptt.Voice -- a stop for every voice input and a timer for every start

The context is set exactly while a gesture is under way, the voice input is started by the timer
of the pending gesture only, two starts have one stop between them, and a failed gesture is not
followed by another one while the space key stays down.

`Reset` is the exception to three of the four.  It makes the controller idle at once and hands
the action that is left to its caller.  A caller that drops the action leaves the context set,
until the next space release at the latest, and leaves a voice input running; and a suppressed
controller is idle after it.  `gestures_kept` states the four with that exception, and the pole
`reset_not_kept` has a run against each of the three.
-/
import Imf.Ptt.Gestures

namespace Imf.Ptt

set_option autoImplicit false

open Lib (Since run run_always run_append run_members run_since)

/-! ## What is to hold -/

/-- The user and the client of the gesture are known exactly while there is one. -/
def State.Exact (s : State) : Prop :=
  (s.gestureUserId ≠ INVALID_USER_ID ↔ s.controller.Live) ∧
    (s.gestureClientSnapshot.client.isSome = true ↔ s.controller.Live)

/-- A gesture under way was cut off by a `Reset` whose action was dropped, and the space key has
not been released since. -/
def CutOff (es : List Event) : Prop :=
  Since State.step (fun s e => s.controller.Live ∧ ∃ answers, e = .reset false answers)
    (fun e => ¬ e.SpaceUp) {} es

/-- The press of the space key that posted the timer; no key has broken the gesture since. -/
def Pressed (timer : Timer) (es : List Event) : Prop :=
  Since State.step (fun s e =>
    e.PressAlone ∧ s.controller = .idle ∧ timer ∉ s.timers ∧ timer ∈ (s.step e).timers)
    (fun e => ¬ e.SpaceUp ∧ ¬ e.OtherKey ∧ ¬ e.Reset) {} es

/-- A step starts the voice input only if it is the timer of the pending gesture. -/
def OwnTimer (es : List Event) (e : Event) : Prop :=
  ∀ effect ∈ (run State.step {} es).effects e, effect.isStart = true →
    ∃ index answers timer,
      e = .timeout index answers ∧ (run State.step {} es).timers[index]? = some timer ∧
      (run State.step {} es).controller = .pending ∧ timer.gesture = (run State.step {} es).gestures ∧
      Pressed timer es

/-- One `HandleStopVoice` for the user, with a stop command if there is a session to take it. -/
def Stopped (userId : Int) (effects : List Effect) : Prop :=
  ∃ ret, effects.filter Effect.isVoice = [.restoreCurrentIme userId ret] ∨
    ∃ sent, effects.filter Effect.isVoice =
      [.sendPttStopPrivateCommand userId sent, .restoreCurrentIme userId ret]

/-- The voice input was left running by a `Reset`. -/
def LeftRunning (effects : List Effect) :
    Prop := effects.filter Effect.isVoice = [.reset false .stopVoice]

/-- What stands between a successful start and the next one. -/
def Between (allowed : Int → List Effect → Prop) (log : List Effect) : Prop :=
  ∀ before first between next after,
    log = before ++ .startInputType first true :: (between ++ .startInputType next true :: after) →
    (∀ userId, .startInputType userId true ∉ between) → allowed first between

/-- After a failure no gesture begins before an event that `frees` the controller. -/
def HeldBack (frees : Event → Prop) (es : List Event) : Prop :=
  ∀ before e after, es = before ++ e :: after →
    (∃ effect ∈ (run State.step {} before).effects e, effect.isFailure = true) →
      (∀ f ∈ after, ¬ frees f) →
    (run State.step {} es).gestures = (run State.step {} (before ++ [e])).gestures

/-! ## The context -/

/-- The context goes with the gesture, and a pending gesture has no timer but its own. -/
structure State.Inv (s : State) : Prop where
  bound : s.controller.Live → s.gestureUserId ≠ INVALID_USER_ID
  both : s.gestureUserId ≠ INVALID_USER_ID ↔ s.gestureClientSnapshot.client.isSome = true
  numbered : ∀ timer ∈ s.timers, timer.gesture ≤ s.gestures
  own : s.controller = .pending → ∀ timer ∈ s.timers, timer.gesture = s.gestures

variable {s : State} {e : Event}

theorem State.Inv.initial : ({} : State).Inv where
  bound live := by simp [PttState.Live] at live
  both := by simp
  numbered := by simp
  own := by simp

/-- A state without a gesture and without a context. -/
theorem State.Inv.cleared {next : PttState} (dead : ¬ next.Live) {timers : List Timer} {gestures : Nat}
    (numbered : ∀ timer ∈ timers, timer.gesture ≤ gestures) (log : List Effect) :
    ({ controller := next, timers, gestures, log } : State).Inv where
  bound live := absurd live dead
  both := by simp
  numbered := numbered
  own pending := absurd (.inl pending) dead

theorem State.Inv.step (inv : s.Inv) (e : Event) : (s.step e).Inv := by
  have numbered {timers : List Timer} (fewer : timers ⊆ s.timers) :
      ∀ timer ∈ timers, timer.gesture ≤ s.gestures := fun timer member =>
        inv.numbered timer (fewer member)
  have suppressed : ¬ PttState.suppressed.Live := by decide
  have turn := State.turn inv.bound e
  generalize s.step e = next at turn
  cases turn with
  | began down alone idle valid client =>
      exact ⟨fun _ => valid, iff_of_true valid client, by simp, by simp⟩
  | refused idle fewer fails quiet =>
      exact .cleared suppressed (fun timer member => Nat.le_succ_of_le (numbered fewer timer member)) _
  | chord down idle =>
      exact ⟨fun live => absurd live suppressed, inv.both, inv.numbered,
        fun pending => by cases pending⟩
  | ended answers note ends fewer silent =>
      refine .cleared ?_ (numbered fewer) _
      rcases ends with ⟨-, rfl⟩ | ⟨-, -, rfl⟩ <;> decide
  | passed up reset unbroken fewer =>
      exact ⟨inv.bound, inv.both, numbered fewer, fun pending timer member =>
        inv.own pending timer (fewer member)⟩
  | tidied up reset idle fewer =>
      refine .cleared ?_ (numbered fewer) _
      show ¬ s.controller.Live
      rw [idle]
      decide
  | started queued pending silent =>
      refine ⟨fun _ => inv.bound (.inl pending), inv.both, ?_, fun contrary => by cases contrary⟩
      exact numbered (List.eraseIdx_sublist s.timers _).subset
  | failed queued pending fails =>
      exact .cleared suppressed (numbered (List.eraseIdx_sublist s.timers _).subset) _
  | dropped =>
      refine ⟨fun live => ?_, inv.both, inv.numbered, fun contrary => by cases contrary⟩
      simp [PttState.Live] at live

theorem inv_run (es : List Event) : (run State.step {} es).Inv :=
  run_always (fun _ e inv => inv.step e) .initial es

/-- A context without a gesture is what a dropped `Reset` leaves behind. -/
theorem leftover_step (inv : s.Inv) (bound : (s.step e).gestureUserId ≠ INVALID_USER_ID)
    (dead : ¬ (s.step e).controller.Live) :
    (s.controller.Live ∧ ∃ answers, e = .reset false answers) ∨
      ((s.gestureUserId ≠ INVALID_USER_ID ∧ ¬ s.controller.Live) ∧ ¬ e.SpaceUp) := by
  have turn := State.turn inv.bound e
  generalize s.step e = next at turn bound dead
  cases turn with
  | began => exact absurd (.inl rfl) dead
  | refused => exact absurd rfl bound
  | chord down idle =>
      refine .inr ⟨⟨bound, by simp [idle, PttState.Live]⟩, down_not_up down.2⟩
  | ended => exact absurd rfl bound
  | passed up => exact .inr ⟨⟨bound, dead⟩, up⟩
  | tidied => exact absurd rfl bound
  | started => exact absurd (.inr rfl) dead
  | failed => exact absurd rfl bound
  | dropped =>
      by_cases live : s.controller.Live
      · exact .inl ⟨live, _, rfl⟩
      · exact .inr ⟨⟨bound, live⟩, id⟩

theorem context_kept (es : List Event) :
    (run State.step {} es).Exact ∨
      (¬ (run State.step {} es).controller.Live ∧
        (run State.step {} es).gestureUserId ≠ INVALID_USER_ID ∧ CutOff es) := by
  have inv := inv_run es
  by_cases live : (run State.step {} es).controller.Live
  · have bound := inv.bound live
    exact .inl ⟨iff_of_true bound live, iff_of_true (inv.both.1 bound) live⟩
  · by_cases bound : (run State.step {} es).gestureUserId ≠ INVALID_USER_ID
    · refine .inr ⟨live, bound, ?_⟩
      refine run_since (I := State.Inv)
        (P := fun s : State => s.gestureUserId ≠ INVALID_USER_ID ∧ ¬ s.controller.Live)
        (fun _ e inv => inv.step e) ?_ State.Inv.initial (by simp) es ⟨bound, live⟩
      exact fun _ _ inv holds => leftover_step inv holds.1 holds.2
    · exact .inl ⟨iff_of_false bound live, iff_of_false (fun client => bound (inv.both.2 client)) live⟩

/-! ## Starts -/

theorem effects_eq {effects : List Effect} (log : (s.step e).log = s.log ++ effects) :
    s.effects e = effects := by
  unfold State.effects
  rw [log, List.drop_left]

/-- What is absent from the new part of the log is no effect of the event. -/
theorem effects_quiet {p : Effect → Bool} {effects : List Effect}
    (log : (s.step e).log = s.log ++ effects)
    (quiet : ∀ effect ∈ effects, p effect = false) : ∀ effect ∈ s.effects e, p effect ≠ true := by
  intro effect member hit
  rw [effects_eq log] at member
  rw [quiet effect member] at hit
  cases hit

theorem mem_ending {answers : Answers} {effect : Effect} (member : effect ∈ s.ending answers) :
    effect = .sendPttStopPrivateCommand s.gestureUserId answers.sendPttStopPrivateCommand ∨
      effect = .restoreCurrentIme s.gestureUserId
        (answers.restoreSession && answers.startCurrentIme) := by
  unfold State.ending State.stopping at member
  split at member
  · rcases List.mem_append.1 member with sent | restored
    · split at sent
      · exact .inl (List.mem_singleton.1 sent)
      · cases sent
    · exact .inr (List.mem_singleton.1 restored)
  · cases member

theorem silent_note_no_start {note : List Effect}
    (silent : note = [] ∨ ∃ action, note = [.reset true action]) :
    ∀ effect ∈ note, effect.isStart = false := by
  rcases silent with rfl | ⟨action, rfl⟩
  · simp
  · simp [Effect.isStart]

/-- Only the timer of a pending gesture tries to start the voice input. -/
theorem start_step (inv : s.Inv) {effect : Effect} (member : effect ∈ s.effects e)
    (start : effect.isStart = true) :
    ∃ index answers timer,
      e = .timeout index answers ∧ s.timers[index]? = some timer ∧ s.controller = .pending := by
  have turn := State.turn inv.bound e
  have nothing {effects : List Effect} (log : (s.step e).log = s.log ++ effects)
      (quiet : ∀ effect ∈ effects, effect.isStart = false) : False :=
    effects_quiet log quiet effect member start
  generalize stepped : s.step e = next at turn
  rw [stepped] at nothing
  cases turn with
  | began => exact (nothing (List.append_nil _).symm (by simp)).elim
  | refused idle fewer fails quiet => exact (nothing rfl quiet).elim
  | chord => exact (nothing (List.append_nil _).symm (by simp)).elim
  | ended answers note ends fewer silent =>
      refine (nothing rfl fun effect member => ?_).elim
      rcases List.mem_append.1 member with noted | ended
      · exact silent_note_no_start silent effect noted
      · rcases mem_ending ended with rfl | rfl <;> rfl
  | passed => exact (nothing (List.append_nil _).symm (by simp)).elim
  | tidied => exact (nothing (List.append_nil _).symm (by simp)).elim
  | started queued pending silent => exact ⟨_, _, _, rfl, queued, pending⟩
  | failed queued pending fails => exact ⟨_, _, _, rfl, queued, pending⟩
  | dropped => exact (nothing rfl (by simp [Effect.isStart])).elim

/-- A pending gesture and its timer go back to a press. -/
theorem pending_step (inv : s.Inv) {timer : Timer} (pending : (s.step e).controller = .pending)
    (queued : timer ∈ (s.step e).timers) :
    (e.PressAlone ∧ s.controller = .idle ∧ timer ∉ s.timers ∧ timer ∈ (s.step e).timers) ∨
      ((s.controller = .pending ∧ timer ∈ s.timers) ∧ ¬ e.SpaceUp ∧ ¬ e.OtherKey ∧ ¬ e.Reset) := by
  have turn := State.turn inv.bound e
  generalize s.step e = next at turn pending queued
  cases turn with
  | began down alone idle valid client =>
      refine .inl ⟨⟨down, alone⟩, idle, fun older => ?_, queued⟩
      have number := inv.numbered timer older
      rw [List.mem_singleton.1 queued] at number
      exact Nat.not_succ_le_self _ number
  | refused => cases pending
  | chord => cases pending
  | ended answers note ends =>
      rcases ends with ⟨-, rfl⟩ | ⟨-, -, rfl⟩ <;> cases pending
  | passed up reset unbroken fewer =>
      exact .inr ⟨⟨pending, fewer queued⟩, up, fun other => unbroken other (.inl pending), reset⟩
  | tidied up reset idle =>
      have contrary : PttState.pending = .idle := pending.symm.trans idle
      cases contrary
  | started => cases pending
  | failed => cases pending
  | dropped => cases pending

theorem own_timer (es : List Event) (e : Event) : OwnTimer es e := by
  intro effect member start
  have inv := inv_run es
  obtain ⟨index, answers, timer, event, queued, pending⟩ := start_step inv member start
  have held : timer ∈ (run State.step {} es).timers := List.mem_of_getElem? queued
  refine ⟨index, answers, timer, event, queued, pending, inv.own pending timer held, ?_⟩
  refine run_since (I := State.Inv) (P := fun s : State => s.controller = .pending ∧ timer ∈ s.timers)
    (fun _ e inv => inv.step e) ?_ State.Inv.initial (by simp) es ⟨pending, held⟩
  exact fun _ _ inv holds => pending_step inv holds.1 holds.2

/-! ## Failures -/

/-- A failure does not leave the controller idle. -/
theorem failure_step (inv : s.Inv) {effect : Effect} (member : effect ∈ s.effects e)
    (failure : effect.isFailure = true) : (s.step e).controller ≠ .idle := by
  have turn := State.turn inv.bound e
  have nothing {effects : List Effect} (log : (s.step e).log = s.log ++ effects)
      (quiet : ∀ effect ∈ effects, effect.isFailure = false) : False :=
    effects_quiet log quiet effect member failure
  generalize s.step e = next at turn nothing
  cases turn with
  | began => simp
  | refused => simp [State.rejected]
  | chord => simp
  | ended answers note ends fewer silent =>
      refine (nothing rfl fun effect member => ?_).elim
      rcases List.mem_append.1 member with noted | ended
      · rcases silent with rfl | ⟨action, rfl⟩
        · cases noted
        · rw [List.mem_singleton.1 noted]
          rfl
      · rcases mem_ending ended with rfl | rfl <;> rfl
  | passed => exact (nothing (List.append_nil _).symm (by simp)).elim
  | tidied => exact (nothing (List.append_nil _).symm (by simp)).elim
  | started => simp
  | failed => simp [State.rejected]
  | dropped => exact (nothing rfl (by simp [Effect.isFailure])).elim

/-- Only a release and a `Reset` make the controller idle, and a gesture begins in an idle one. -/
theorem busy_step (inv : s.Inv) (busy : s.controller ≠ .idle) (held : ¬ (e.SpaceUp ∨ e.Reset)) :
    (s.step e).controller ≠ .idle ∧ (s.step e).gestures = s.gestures := by
  have turn := State.turn inv.bound e
  generalize s.step e = next at turn
  cases turn with
  | began _ _ idle => exact absurd idle busy
  | refused idle => exact absurd idle busy
  | chord _ idle => exact absurd idle busy
  | ended answers note ends =>
      rcases ends with ⟨frees, -⟩ | ⟨-, -, rfl⟩
      · exact absurd frees held
      · exact ⟨by simp, rfl⟩
  | passed => exact ⟨busy, rfl⟩
  | tidied _ _ idle => exact absurd idle busy
  | started => exact ⟨by simp, rfl⟩
  | failed => exact ⟨by simp [State.rejected], rfl⟩
  | dropped => exact absurd (.inr trivial) held

theorem held_back (es : List Event) : HeldBack (fun e => e.SpaceUp ∨ e.Reset) es := by
  rintro before e after rfl ⟨effect, member, failure⟩ held
  have busy := failure_step (inv_run before) member failure
  have inv := inv_run (before ++ [e])
  rw [List.append_cons, run_append]
  rw [run_append] at inv ⊢
  refine (run_members (P := fun s : State => s.Inv ∧ s.controller ≠ .idle ∧
    s.gestures = (run State.step (run State.step {} before) [e]).gestures) ?_ ⟨inv, busy, rfl⟩).2.2
  rintro s f later ⟨inv, busy, same⟩
  obtain ⟨stays, none⟩ := busy_step inv busy (held f later)
  exact ⟨inv.step f, stays, none.trans same⟩

/-! ## Stops -/

/-- The voice input as its starts and stops tell it. -/
inductive Voice where
  | free
  | running (userId : Int)
  /-- The stop command is sent and the restore is to follow. -/
  | stopping (userId : Int)
  /-- A start, a stop or a restore out of place. -/
  | wrong
  deriving DecidableEq, Repr

def Voice.hear : Voice → Effect → Voice
  | .free, .startInputType userId true => .running userId
  | .running userId, .sendPttStopPrivateCommand stopped _ =>
      if userId = stopped then .stopping userId else .wrong
  | .running userId, .restoreCurrentIme restored _ => if userId = restored then .free else .wrong
  | .stopping userId, .restoreCurrentIme restored _ => if userId = restored then .free else .wrong
  | .running _, .reset false .stopVoice => .free
  | voice, effect => if effect.isVoice then .wrong else voice

theorem hear_silent (voice : Voice) {effect : Effect} (silent : effect.isVoice = false) :
    voice.hear effect = voice := by
  unfold Voice.hear
  split <;> first | exact if_neg (by simp [silent]) | cases silent

theorem hear_all_silent (voice : Voice) {effects : List Effect}
    (silent : ∀ effect ∈ effects, effect.isVoice = false) : effects.foldl Voice.hear voice = voice := by
  induction effects with
  | nil => rfl
  | cons effect effects ih =>
      rw [List.forall_mem_cons] at silent
      rw [List.foldl_cons, hear_silent voice silent.1]
      exact ih silent.2

theorem wrong_hear (effects : List Effect) : effects.foldl Voice.hear .wrong = .wrong := by
  induction effects with
  | nil => rfl
  | cons effect effects ih =>
      have wrong : Voice.hear .wrong effect = .wrong := by
        unfold Voice.hear
        split <;> simp_all
      rw [List.foldl_cons, wrong, ih]

/-- What is heard of a list is what is heard of its starts and stops. -/
theorem hear_filter (voice : Voice) (effects : List Effect) :
    (effects.filter Effect.isVoice).foldl Voice.hear voice = effects.foldl Voice.hear voice := by
  induction effects generalizing voice with
  | nil => rfl
  | cons effect effects ih =>
      cases loud : effect.isVoice with
      | false => rw [List.filter_cons_of_neg (by simp [loud]), List.foldl_cons,
          hear_silent voice loud, ih]
      | true => rw [List.filter_cons_of_pos loud, List.foldl_cons, List.foldl_cons, ih]

/-- What goes right to the end goes right at first. -/
theorem hear_right {voice : Voice} {effect : Effect} {effects : List Effect}
    (free : (effect :: effects).foldl Voice.hear voice = .free) : voice.hear effect ≠ .wrong := by
  intro wrong
  rw [List.foldl_cons, wrong, wrong_hear] at free
  cases free

/-- What stops a voice input, or leaves it running. -/
def Stops (effect : Effect) : Prop := effect.isVoice = true ∧ effect.isStart = false

theorem free_wrong {effect : Effect} (stops : Stops effect) : Voice.free.hear effect = .wrong := by
  obtain ⟨voice, start⟩ := stops
  cases effect with
  | startInputType userId ret => cases start
  | sendPttStopPrivateCommand userId ret => rfl
  | restoreCurrentIme userId ret => rfl
  | reset applied action => exact if_pos voice
  | _ => cases voice

theorem stopping_right {userId : Int} {effect : Effect} (stops : Stops effect)
    (right : (Voice.stopping userId).hear effect ≠ .wrong) : ∃ ret,
      effect = .restoreCurrentIme userId ret := by
  obtain ⟨voice, start⟩ := stops
  cases effect with
  | startInputType other ret => cases start
  | sendPttStopPrivateCommand other ret => exact absurd rfl right
  | restoreCurrentIme other ret =>
      by_cases same : userId = other
      · rw [same]
        exact ⟨ret, rfl⟩
      · exact absurd (if_neg same) right
  | reset applied action => exact absurd (if_pos voice) right
  | _ => cases voice

theorem running_right {userId : Int} {effect : Effect} (stops : Stops effect)
    (right : (Voice.running userId).hear effect ≠ .wrong) :
    (∃ sent, effect = .sendPttStopPrivateCommand userId sent) ∨
      (∃ ret, effect = .restoreCurrentIme userId ret) ∨
      effect = .reset false .stopVoice := by
  obtain ⟨voice, start⟩ := stops
  cases effect with
  | startInputType other ret => cases start
  | sendPttStopPrivateCommand other sent =>
      by_cases same : userId = other
      · rw [same]
        exact .inl ⟨sent, rfl⟩
      · exact absurd (if_neg same) right
  | restoreCurrentIme other ret =>
      by_cases same : userId = other
      · rw [same]
        exact .inr (.inl ⟨ret, rfl⟩)
      · exact absurd (if_neg same) right
  | reset applied action =>
      simp only [Effect.isVoice, Bool.and_eq_true, Bool.not_eq_true', beq_iff_eq] at voice
      obtain ⟨rfl, rfl⟩ := voice
      exact .inr (.inr rfl)
  | _ => cases voice

/-- A stop comes when a voice input is running. -/
theorem free_hear {effects : List Effect} (stops : ∀ effect ∈ effects, Stops effect)
    (free : effects.foldl Voice.hear .free = .free) : effects = [] := by
  cases effects with
  | nil => rfl
  | cons effect effects => exact absurd (free_wrong (stops effect List.mem_cons_self)) (hear_right free)

theorem stopping_hear {userId : Int} {effects : List Effect} (stops : ∀ effect ∈ effects, Stops effect)
    (free : effects.foldl Voice.hear (.stopping userId) = .free) :
    ∃ ret, effects = [.restoreCurrentIme userId ret] := by
  cases effects with
  | nil => cases free
  | cons effect effects =>
      obtain ⟨first, later⟩ := List.forall_mem_cons.1 stops
      obtain ⟨ret, rfl⟩ := stopping_right first (hear_right free)
      simp only [List.foldl_cons, Voice.hear, if_true] at free
      exact ⟨ret, by rw [free_hear later free]⟩

theorem running_hear {userId : Int} {effects : List Effect} (stops : ∀ effect ∈ effects, Stops effect)
    (free : effects.foldl Voice.hear (.running userId) = .free) :
    (∃ ret, effects = [.restoreCurrentIme userId ret] ∨
      ∃ sent, effects = [.sendPttStopPrivateCommand userId sent, .restoreCurrentIme userId ret]) ∨
      effects = [.reset false .stopVoice] := by
  cases effects with
  | nil => cases free
  | cons effect effects =>
      obtain ⟨first, later⟩ := List.forall_mem_cons.1 stops
      rcases running_right first (hear_right free) with ⟨sent, rfl⟩ | ⟨ret, rfl⟩ | rfl
      · simp only [List.foldl_cons, Voice.hear, if_true] at free
        obtain ⟨ret, rfl⟩ := stopping_hear later free
        exact .inl ⟨ret, .inr ⟨sent, rfl⟩⟩
      · simp only [List.foldl_cons, Voice.hear, if_true] at free
        exact .inl ⟨ret, .inl (by rw [free_hear later free])⟩
      · simp only [List.foldl_cons, Voice.hear] at free
        exact .inr (by rw [free_hear later free])

/-- A start comes when nothing is running. -/
theorem start_right {voice : Voice} {userId : Int}
    (right : voice.hear (.startInputType userId true) ≠ .wrong) :
    voice = .free := by
  cases voice with
  | free => rfl
  | running other => exact absurd rfl right
  | stopping other => exact absurd rfl right
  | wrong => exact absurd rfl right

/-- What is heard without anything out of place has a stop between two starts. -/
theorem between_of_hear {log : List Effect} (right : log.foldl Voice.hear .free ≠ .wrong) :
    Between (fun userId effects => Stopped userId effects ∨ LeftRunning effects) log := by
  rintro before first between next after rfl none
  rw [List.foldl_append, List.foldl_cons, List.foldl_append, List.foldl_cons] at right
  have started : before.foldl Voice.hear .free = .free := by
    apply start_right
    intro wrong
    rw [wrong, wrong_hear] at right
    exact right (wrong_hear after)
  rw [started] at right
  have stopped : between.foldl Voice.hear (.running first) = .free := by
    apply start_right
    intro wrong
    exact right (by rw [← wrong_hear after, ← wrong]; rfl)
  rw [← hear_filter] at stopped
  refine running_hear (fun effect member => ?_) stopped
  obtain ⟨member, voice⟩ := List.mem_filter.1 member
  refine ⟨voice, ?_⟩
  cases effect with
  | startInputType userId ret =>
      have ret : ret = true := voice
      rw [ret] at member
      exact absurd member (none userId)
  | _ => rfl

/-- What the log tells of the voice input is what the controller holds. -/
def State.Heard (s : State) : Prop :=
  s.log.foldl Voice.hear .free = if s.controller = .active then .running s.gestureUserId else .free

theorem State.Heard.quiet (heard : s.Heard) (inactive : s.controller ≠ .active) :
    s.log.foldl Voice.hear .free = .free := by
  unfold State.Heard at heard
  rw [heard, if_neg inactive]

/-- What ends a gesture stops its voice input. -/
theorem hear_ending (heard : s.Heard) (answers : Answers) :
    (s.ending answers).foldl Voice.hear (s.log.foldl Voice.hear .free) = .free := by
  unfold State.Heard at heard
  unfold State.ending State.stopping
  rw [heard]
  split
  · split <;> simp [Voice.hear]
  · rfl

/-- A dropped `Reset` leaves the voice input running, and a new one can start. -/
theorem hear_dropped (heard : s.Heard) :
    Voice.hear (s.log.foldl Voice.hear .free) (.reset false s.controller.cleanupAction) = .free := by
  unfold State.Heard at heard
  rw [heard]
  cases s.controller <;> rfl

theorem heard_step (inv : s.Inv) (heard : s.Heard) (e : Event) : (s.step e).Heard := by
  have turn := State.turn inv.bound e
  generalize s.step e = next at turn
  unfold State.Heard
  cases turn with
  | began down alone idle => exact heard.quiet (by simp [idle])
  | refused idle fewer fails =>
      show (s.log ++ _).foldl _ _ = _
      rw [List.foldl_append, heard.quiet (by simp [idle])]
      exact hear_all_silent .free fails.silent
  | chord down idle => exact heard.quiet (by simp [idle])
  | ended answers note ends fewer silent =>
      rename_i next timers
      have inactive : next ≠ .active := by
        rcases ends with ⟨-, rfl⟩ | ⟨-, -, rfl⟩ <;> decide
      have quiet : ∀ effect ∈ note, effect.isVoice = false := by
        rcases silent with rfl | ⟨action, rfl⟩
        · simp
        · simp [Effect.isVoice]
      rw [if_neg inactive, List.foldl_append, List.foldl_append, hear_all_silent _ quiet]
      exact hear_ending heard answers
  | passed => exact heard
  | tidied up reset idle =>
      show s.log.foldl _ _ = if s.controller = .active then _ else _
      rw [if_neg (by simp [idle])]
      exact heard.quiet (by simp [idle])
  | started queued pending silent =>
      rw [List.foldl_append, heard.quiet (by simp [pending]), List.foldl_append,
        hear_all_silent _ silent]
      rfl
  | failed queued pending fails =>
      show (s.log ++ _).foldl _ _ = _
      rw [List.foldl_append, heard.quiet (by simp [pending])]
      exact hear_all_silent .free fails.silent
  | dropped =>
      rw [List.foldl_append]
      exact hear_dropped heard

theorem stops_between (es : List Event) :
    Between (fun userId effects => Stopped userId effects ∨ LeftRunning effects)
      (run State.step {} es).log := by
  have kept : (run State.step {} es).Inv ∧ (run State.step {} es).Heard := by
    apply run_always (P := fun s : State => s.Inv ∧ s.Heard)
    · rintro s e ⟨inv, heard⟩
      exact ⟨inv.step e, heard_step inv heard e⟩
    · exact ⟨State.Inv.initial, rfl⟩
  apply between_of_hear
  rw [kept.2]
  split <;> simp

/-! ## Gestures -/

/-- **Gestures.** In every run the context is set exactly while a gesture is under way, unless a
dropped `Reset` cut the gesture off and the space key has not been released since; the voice
input is started by the timer of the pending gesture only; between two starts there is one stop
for the user of the first, unless a dropped `Reset` left the voice input running; and after a
failure no gesture begins before the space key is released or the controller `Reset`. -/
theorem gestures_kept (es : List Event) :
    ((run State.step {} es).Exact ∨
      (¬ (run State.step {} es).controller.Live ∧
        (run State.step {} es).gestureUserId ≠ INVALID_USER_ID ∧ CutOff es)) ∧
      (∀ e, OwnTimer es e) ∧
      Between (fun userId effects => Stopped userId effects ∨ LeftRunning effects)
        (run State.step {} es).log ∧
      HeldBack (fun e => e.SpaceUp ∨ e.Reset) es :=
  ⟨context_kept es, own_timer es, stops_between es, held_back es⟩

/-! ## Poles -/

/-- A service in which nothing fails. -/
def willing : Answers :=
  { foregroundUser := some 100, eligibleSession := true, focused := some { client := 1, channel := 2 },
    isEnabled := true, handler := true, pushToTalkLongPressMs := 500, posted := true,
    isOsAccountForeground := true, startPttSpaceKeyEventBlock := true, notifyRollbackSpace := true,
    startInputType := true, stopSession := true, sendPttStopPrivateCommand := true,
    restoreSession := true,
    startCurrentIme := true, cancelSession := true }

def spaceDown : KeyboardEventInfo :=
  { keyCode := KEYCODE_SPACE, keyAction := KEY_ACTION_DOWN, pressedKeys := [KEYCODE_SPACE] }

def spaceUp : KeyboardEventInfo := { keyCode := KEYCODE_SPACE, keyAction := KEY_ACTION_UP }

/-- A long press and its release. -/
example : (run State.step {} [.key spaceDown willing, .timeout 0 willing, .key spaceUp willing]).log =
    [.startPttSpaceKeyEventBlock 1 true, .notifyRollbackSpace 100 true, .startInputType 100 true,
      .sendPttStopPrivateCommand 100 true, .restoreCurrentIme 100 true] := by
  decide

/-- A `Reset` of a pending gesture leaves its user set.  A `Reset` of a voice input leaves it
running, and the next long press starts another one.  And after a failed lookup of the user a
`Reset`, with its action applied or not, lets the repeated press of the held space key begin a
gesture. -/
theorem reset_not_kept :
    ¬ (run State.step {} [.key spaceDown willing, .reset false willing]).Exact ∧
      ¬ Between Stopped (run State.step {}
        [.key spaceDown willing, .timeout 0 willing, .reset false willing,
        .key spaceDown willing, .timeout 0 willing]).log ∧
      ∀ applied, ¬ HeldBack Event.SpaceUp
        [.key spaceDown { willing with foregroundUser := none }, .reset applied willing,
          .key spaceDown willing] := by
  refine ⟨?_, ?_, ?_⟩
  · rintro ⟨bound, -⟩
    exact absurd (bound.1 (by decide)) (by decide)
  · intro between
    obtain ⟨ret, restored | ⟨sent, stopped⟩⟩ := between
      [.startPttSpaceKeyEventBlock 1 true, .notifyRollbackSpace 100 true] 100
      [.reset false .stopVoice, .startPttSpaceKeyEventBlock 1 true,
        .notifyRollbackSpace 100 true] 100 []
      (by decide) (by simp)
    · simp [List.filter, Effect.isVoice] at restored
    · simp [List.filter, Effect.isVoice] at stopped
  · intro applied held
    have down : ∀ f ∈ [Event.reset applied willing, .key spaceDown willing], ¬ f.SpaceUp := by
      rw [List.forall_mem_cons, List.forall_mem_singleton]
      exact ⟨id, down_not_up rfl⟩
    have same := held [] _ _ rfl ⟨.suppressUntilSpaceUp, by decide, rfl⟩ down
    cases applied <;> exact absurd same (by decide)

end Imf.Ptt
