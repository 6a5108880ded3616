/-
# Imf.Keyboard.Deferred -- a show that waits for its panel

The keyboard may be asked for before the application has made its panel.  `isShowAfterCreate_`
remembers that, and `CreatePanel` then has the keyboard shown by a task of its own.

* `create_shows_iff`: it does so exactly when a show has found no panel and nothing has hidden the
  keyboard, or used the show up, since; a text field that is gone by then does not count.
-/
import Imf.Keyboard.InputMethodAbility

namespace Imf.Keyboard

set_option autoImplicit false

open Ipc (InputClientInfo)

open Lib (Underway run)
open Panel (PanelFlag)

/-! ## One step -/

/-- A show that finds no panel: asked for by the service, or by the start of a text field. -/
def Awaits (s : InputMethodAbility) (e : Event) : Prop :=
  s.panels .SOFT_KEYBOARD = none ∧ s.imeListener ∧
    match e with
    | .showKeyboard _ _ => True
    | .complete _ => s.pending.head? = some true
    | .startInput clientInfo _ scene =>
        clientInfo.channel.isSome ∧ clientInfo.isShowKeyboard ∧ ¬ scene.posted
    | _ => False

/-- The panel of the soft keyboard is made, and not as a candidate column. -/
def Makes (s : InputMethodAbility) (flag : PanelFlag) (scene : Scene) : Prop :=
  s.panels .SOFT_KEYBOARD = none ∧ scene.created ∧ flag ≠ .FLG_CANDIDATE_COLUMN

/-- The show is used up, or the keyboard is hidden. -/
def Drops (s : InputMethodAbility) : Event → Prop
  | .hideKeyboard _ => True
  | .hideKeyboardSelf _ => ¬ s.isImeTerminating
  | .stopInput _ _ _ _ => True
  | .onNotifyPreemption _ => True
  | .createPanel type flag scene => type = .SOFT_KEYBOARD ∧ Makes s flag scene
  | .hidePanel type _ =>
      type = .SOFT_KEYBOARD ∧ ¬ s.isImeTerminating ∧
        ∃ panel, s.panels .SOFT_KEYBOARD = some panel ∧ panel.panelFlag ≠ .FLG_CANDIDATE_COLUMN
  | _ => False

namespace InputMethodAbility

section Awaiting

variable (scene : Scene) {s s' : InputMethodAbility}

theorem await_of_still (same : s'.still = s.still) : s'.isShowAfterCreate = s.isShowAfterCreate := by
  show s'.still.isShowAfterCreate = s.still.isShowAfterCreate
  rw [same]

variable (s)

theorem await_showKeyboardImplWithoutLock :
    (s.showKeyboardImplWithoutLock scene s.cmdId).2.isShowAfterCreate =
      (s.isShowAfterCreate || (s.imeListener && (s.panels .SOFT_KEYBOARD).isNone)) := by
  unfold showKeyboardImplWithoutLock
  rw [if_neg (by simp)]
  cases listens : s.imeListener with
  | false => simp
  | true =>
      rw [if_neg (by simp)]
      cases there : s.panels .SOFT_KEYBOARD with
      | none =>
          have waits := await_of_still
            ((still_tellIme (s.awaitShow.sendKeyboardStatus true) (.onKeyboardStatus true)).trans
            (still_sendKeyboardStatus s.awaitShow true))
          rw [Option.isNone_none, Bool.and_true, Bool.or_true]
          exact waits
      | some panel =>
          simp only [Option.isNone_some, Bool.and_false, Bool.or_false]
          split
          · exact await_of_still (by simp)
          · exact await_of_still (by simp)

theorem await_hideKeyboardTrigger (trigger : Trigger) (sessionId : UInt32) (clientSessionId : Int32) :
    (s.hideKeyboardTrigger scene trigger sessionId clientSessionId).2.isShowAfterCreate = false := by
  unfold hideKeyboardTrigger
  dsimp only
  split
  · rfl
  · split
    · split
      · exact await_of_still (s := s.forgetShow) (by simp)
      · exact await_of_still (s := s.forgetShow) (by simp)
    · split
      · exact await_of_still (s := s.forgetShow) (by simp)
      · exact await_of_still (s := s.forgetShow) (by simp)

/-- What a waiting show depends on. -/
def waiting (s : InputMethodAbility) : Bool × Bool × Bool :=
  (s.isShowAfterCreate, s.imeListener, (s.panels .SOFT_KEYBOARD).isNone)

theorem waiting_of_still {s s' : InputMethodAbility} (same : s'.still = s.still)
    (panels : s'.panels = s.panels) :
    s'.waiting = s.waiting := by
  show (s'.still.isShowAfterCreate, s'.still.imeListener, (s'.panels .SOFT_KEYBOARD).isNone) = _
  rw [same, panels]
  rfl

theorem waiting_tellIme (told : Told) : (s.tellIme told).waiting = s.waiting := by
  refine waiting_of_still (still_tellIme s told) ?_
  unfold tellIme
  split <;> rfl

theorem waiting_invokeAttachOptionsCallback (options : AttachOptions) (isFirstNotify : Bool) :
    (s.invokeAttachOptionsCallback options isFirstNotify).waiting = s.waiting := by
  unfold invokeAttachOptionsCallback
  split
  · rfl
  · dsimp only
    split <;> rfl

theorem waiting_invokeStartInputCallback (options : AttachOptions) (callingDisplayId : UInt64)
    (isNotifyInputStart : Bool) :
    (s.invokeStartInputCallback options callingDisplayId isNotifyInputStart).2.waiting = s.waiting ∧
      ((s.invokeStartInputCallback options callingDisplayId isNotifyInputStart).1 = .noError ↔
        s.imeListener) := by
  unfold invokeStartInputCallback
  split
  case isTrue deaf => exact ⟨rfl, by simp [deaf]⟩
  case isFalse listens =>
    have invoked := waiting_invokeAttachOptionsCallback { s with callingDisplayId } options
      (isNotifyInputStart || ! s.isInputStartNotified)
    dsimp only
    split
    · exact ⟨(waiting_tellIme ..).trans invoked, by simpa using listens⟩
    · exact ⟨invoked, by simpa using listens⟩

theorem waiting_startInputCallback (clientInfo : InputClientInfo) (isBindFromClient : Bool) :
    (s.startInputCallback scene clientInfo isBindFromClient).2.waiting = s.waiting ∧
      ((s.startInputCallback scene clientInfo isBindFromClient).1 = .noError ↔ s.imeListener) := by
  unfold startInputCallback
  split
  · exact waiting_invokeStartInputCallback ..
  · unfold invokeStartInputCallbackWithInfoRestruct
    split
    · exact waiting_invokeStartInputCallback ..
    · split
      case isTrue deaf => exact ⟨rfl, by simp [deaf]⟩
      case isFalse listens =>
        refine ⟨?_, by simpa using listens⟩
        dsimp only
        split
        · exact waiting_tellIme ..
        · rfl

theorem waiting_setInputDataChannel (object : Remote) :
    (s.setInputDataChannel scene object).waiting = s.waiting := by
  unfold setInputDataChannel
  split <;> rfl

theorem waiting_startInputHidePanel (clientInfo : InputClientInfo) :
    (s.startInputHidePanel scene clientInfo).waiting = s.waiting := by
  unfold startInputHidePanel
  split
  · split
    case h_1 panel there =>
      unfold panelHide
      split
      · rfl
      · split
        · simp [waiting, setPanel, there]
        · rfl
    case h_2 => rfl
  · rfl

theorem await_startInputShowPanel (needShow : Bool) :
    (s.startInputShowPanel scene needShow).isShowAfterCreate =
      (s.isShowAfterCreate || (needShow && (s.imeListener && (s.panels .SOFT_KEYBOARD).isNone))) := by
  cases needShow with
  | false => simp [startInputShowPanel]
  | true =>
      rw [Bool.true_and]
      exact await_showKeyboardImplWithoutLock scene s

theorem await_startInputInner (clientInfo : InputClientInfo) (isBindFromClient : Bool) :
    (s.startInputInner scene clientInfo isBindFromClient).2.isShowAfterCreate =
      (s.isShowAfterCreate ||
        (clientInfo.channel.isSome && ! scene.posted && clientInfo.isShowKeyboard &&
        (s.imeListener && (s.panels .SOFT_KEYBOARD).isNone))) := by
  unfold startInputInner
  cases clientInfo.channel with
  | none => simp
  | some object =>
      have before : ((s.setInputDataChannel scene object).startInputHidePanel scene
        clientInfo).waiting = s.waiting :=
        (waiting_startInputHidePanel ..).trans (waiting_setInputDataChannel ..)
      obtain ⟨called, succeeds⟩ := waiting_startInputCallback scene
        ((s.setInputDataChannel scene object).startInputHidePanel scene clientInfo) clientInfo
          isBindFromClient
      have same := called.trans before
      have listener := congrArg (fun waits => waits.2.1) before
      simp only [waiting, Prod.mk.injEq] at same listener
      obtain ⟨await, listens, absent⟩ := same
      rw [listener] at succeeds
      dsimp only
      cases deaf : s.imeListener with
      | false =>
          rw [if_pos (by simp [succeeds, deaf]), await]
          simp
      | true =>
          rw [if_neg (by simp [succeeds, deaf])]
          cases posted : scene.posted with
          | true =>
              rw [if_neg (by simp [listens, deaf])]
              exact await.trans (by simp)
          | false =>
              rw [if_pos (by simp), await_startInputShowPanel, await, listens, absent, deaf]
              simp

theorem await_complete :
    (s.complete scene).isShowAfterCreate =
      (s.isShowAfterCreate ||
        (s.pending.head? == some true && (s.imeListener && (s.panels .SOFT_KEYBOARD).isNone))) := by
  unfold complete
  split
  case h_1 none => simp [none]
  case h_2 needShow pending waits =>
    rw [await_startInputShowPanel, waits]
    cases needShow <;> simp

theorem await_clearDataChannel (channel : Option Remote) :
    (s.clearDataChannel channel).isShowAfterCreate = s.isShowAfterCreate := by
  unfold clearDataChannel
  split
  · rfl
  · split <;> rfl

theorem await_clearInputType : s.clearInputType.isShowAfterCreate = s.isShowAfterCreate := by
  unfold clearInputType
  split <;> rfl

theorem await_stopInput (channelObject : Option Remote) (sessionId : UInt32) (clientSessionId : Int32) :
    (s.stopInput scene channelObject sessionId clientSessionId).isShowAfterCreate = false := by
  have hidden : (s.nextCmd.hideKeyboardImplWithoutLock scene s.nextCmd.cmdId sessionId
      clientSessionId).2.isShowAfterCreate = false := by
    unfold hideKeyboardImplWithoutLock
    rw [if_neg (by simp)]
    exact await_hideKeyboardTrigger ..
  unfold stopInput
  rw [await_of_still (still_tellIme ..), await_clearInputType]
  exact (await_clearDataChannel ..).trans hidden

end Awaiting

end InputMethodAbility

open InputMethodAbility

theorem await_showKeyboard (s : InputMethodAbility) (requestKeyboardReason : Int32) (scene : Scene) :
    (s.showKeyboard scene requestKeyboardReason).2.isShowAfterCreate =
      (s.isShowAfterCreate || (s.imeListener && (s.panels .SOFT_KEYBOARD).isNone)) := by
  have same := waiting_invokeAttachOptionsCallback s.nextCmd
    { isSimpleKeyboardEnabled := s.attachOptions.isSimpleKeyboardEnabled, requestKeyboardReason } false
  simp only [waiting, Prod.mk.injEq] at same
  obtain ⟨await, listens, absent⟩ := same
  have cmd : (s.nextCmd.handleRequestKeyboardReasonChanged requestKeyboardReason).cmdId =
    s.nextCmd.cmdId := by
    unfold handleRequestKeyboardReasonChanged invokeAttachOptionsCallback
    split
    · rfl
    · dsimp only
      split <;> rfl
  unfold showKeyboard
  dsimp only
  rw [← cmd, await_showKeyboardImplWithoutLock]
  unfold handleRequestKeyboardReasonChanged
  rw [show s.nextCmd.attachOptions = s.attachOptions from rfl, await, listens, absent]
  rfl

theorem await_createPanel (s : InputMethodAbility) (type : PanelType) (flag : PanelFlag)
    (scene : Scene) :
    (s.createPanel scene type flag).2.isShowAfterCreate = true ↔
      s.isShowAfterCreate = true ∧ ¬ (type = .SOFT_KEYBOARD ∧ Makes s flag scene) := by
  unfold createPanel Makes
  split
  case isTrue impossible =>
    have notMade : ¬ (type = .SOFT_KEYBOARD ∧ s.panels .SOFT_KEYBOARD = none ∧ scene.created ∧
        flag ≠ .FLG_CANDIDATE_COLUMN) := by
      rintro ⟨rfl, absent, created, -⟩
      simp [absent, created] at impossible
    simp [notMade]
  case isFalse possible =>
    rw [not_or, not_not] at possible
    dsimp only
    split
    case isTrue shows =>
      obtain ⟨waits, rfl, flag⟩ := shows
      have absent : s.panels .SOFT_KEYBOARD = none := by simpa using possible.1
      simp [InputMethodAbility.tell, forgetShow, absent, possible.2, flag]
    case isFalse keeps =>
      show s.isShowAfterCreate = true ↔ _
      constructor
      · intro waits
        refine ⟨waits, fun ⟨soft, _, _, flag⟩ => keeps ⟨waits, soft, flag⟩⟩
      · exact And.left

theorem await_hidePanel (s : InputMethodAbility) (type : PanelType) (scene : Scene) :
    (s.hidePanel scene type).2.isShowAfterCreate = true ↔
      s.isShowAfterCreate = true ∧ ¬ Drops s (.hidePanel type scene) := by
  unfold hidePanel Drops
  cases there : s.panels type with
  | none =>
      have nothing : ¬ (type = .SOFT_KEYBOARD ∧ ¬ s.isImeTerminating ∧
          ∃ panel, s.panels .SOFT_KEYBOARD = some panel ∧ panel.panelFlag ≠ .FLG_CANDIDATE_COLUMN) := by
        rintro ⟨rfl, -, panel, present, -⟩
        rw [there] at present
        cases present
      exact ⟨fun waits => ⟨waits, nothing⟩, And.left⟩
  | some panel =>
      dsimp only
      split
      case isTrue ending => simp [ending.1]
      case isFalse goesOn =>
        rw [await_of_still (still_hidePanelFlag ..)]
        split
        case isTrue forgets =>
          obtain ⟨-, rfl, flag⟩ := forgets
          simp [forgetShow] at goesOn ⊢
          grind
        case isFalse keeps =>
          constructor
          · rintro waits
            refine ⟨waits, ?_⟩
            rintro ⟨rfl, -, other, present, flag⟩
            rw [there] at present
            cases present
            exact keeps ⟨waits, rfl, flag⟩
          · exact And.left

/-- What a step leaves of a show that waits. -/
theorem step_await (s : InputMethodAbility) (e : Event) :
    (step s e).isShowAfterCreate = true ↔ Awaits s e ∨ (s.isShowAfterCreate = true ∧ ¬ Drops s e) := by
  have untouched : (step s e).isShowAfterCreate = s.isShowAfterCreate → ¬ Awaits s e → ¬ Drops s e →
      ((step s e).isShowAfterCreate = true ↔ Awaits s e ∨
        (s.isShowAfterCreate = true ∧ ¬ Drops s e)) := by
    intro same noShow noHide
    rw [same]
    simp [noShow, noHide]
  have dropped : (step s e).isShowAfterCreate = false → ¬ Awaits s e → Drops s e →
      ((step s e).isShowAfterCreate = true ↔ Awaits s e ∨
        (s.isShowAfterCreate = true ∧ ¬ Drops s e)) := by
    intro forgotten noShow hides
    rw [forgotten]
    simp [noShow, hides]
  cases e with
  | setImeListener => exact untouched rfl (by simp [Awaits]) (by simp [Drops])
  | setTextInputClientListener => exact untouched rfl (by simp [Awaits]) (by simp [Drops])
  | startInput clientInfo isBindFromClient scene =>
      show (s.startInputInner scene clientInfo isBindFromClient).2.isShowAfterCreate = true ↔ _
      rw [await_startInputInner]
      simp only [Awaits, Drops, Bool.or_eq_true, Bool.and_eq_true, Option.isNone_iff_eq_none]
      grind
  | complete scene =>
      show (s.complete scene).isShowAfterCreate = true ↔ _
      rw [await_complete]
      simp only [Awaits, Drops, Bool.or_eq_true, Bool.and_eq_true,
        Option.isNone_iff_eq_none, beq_iff_eq]
      grind
  | stopInput channelObject sessionId clientSessionId scene =>
      exact dropped (await_stopInput ..) (by simp [Awaits]) trivial
  | onClientInactive channel scene =>
      refine untouched ?_ (by simp [Awaits]) (by simp [Drops])
      refine (await_clearDataChannel _ (some channel)).trans (await_of_still ?_)
      simp
  | showKeyboard requestKeyboardReason scene =>
      show (s.showKeyboard scene requestKeyboardReason).2.isShowAfterCreate = true ↔ _
      rw [await_showKeyboard]
      simp only [Awaits, Drops, Bool.or_eq_true, Bool.and_eq_true, Option.isNone_iff_eq_none]
      grind
  | hideKeyboard scene =>
      refine dropped ?_ (by simp [Awaits]) trivial
      show (s.nextCmd.hideKeyboardImplWithoutLock scene s.nextCmd.cmdId 0
        (-1)).2.isShowAfterCreate = false
      unfold hideKeyboardImplWithoutLock
      rw [if_neg (by simp)]
      exact await_hideKeyboardTrigger ..
  | hideKeyboardSelf scene =>
      show (s.hideKeyboardSelf scene).2.isShowAfterCreate = true ↔ _
      unfold hideKeyboardSelf
      cases terminating : s.isImeTerminating with
      | true => simp [Awaits, Drops, terminating]
      | false =>
          have forgotten := await_hideKeyboardTrigger scene s .IME_APP 0 (-1)
          simp [Awaits, Drops, terminating, forgotten]
  | hideCandidatePanel scene =>
      exact untouched (await_of_still (still_hideCandidatePanel ..)) (by simp [Awaits])
        (by simp [Drops])
  | createPanel type flag scene =>
      rw [show step s (.createPanel type flag scene) = (s.createPanel scene type flag).2 from rfl,
        await_createPanel]
      simp [Awaits, Drops]
  | destroyPanel type scene =>
      exact untouched (await_of_still (still_destroyPanel ..)) (by simp [Awaits]) (by simp [Drops])
  | showPanel type scene =>
      exact untouched (await_of_still (still_showPanel ..)) (by simp [Awaits]) (by simp [Drops])
  | hidePanel type scene =>
      rw [show step s (.hidePanel type scene) = (s.hidePanel scene type).2 from rfl, await_hidePanel]
      simp [Awaits]
  | changePanelFlag flag scene =>
      exact untouched (await_of_still (still_changePanelFlag ..)) (by simp [Awaits]) (by simp [Drops])
  | onSetInputType inputType => exact untouched rfl (by simp [Awaits]) (by simp [Drops])
  | exitCurrentInputType =>
      refine untouched ?_ (by simp [Awaits]) (by simp [Drops])
      exact await_clearInputType s
  | onCallingDisplayIdChanged keyboardDisplayId scene =>
      refine untouched ?_ (by simp [Awaits]) (by simp [Drops])
      show (s.onCallingDisplayIdChanged scene keyboardDisplayId).isShowAfterCreate = _
      unfold onCallingDisplayIdChanged
      split
      · rfl
      · dsimp only
        split
        · split
          · exact (await_of_still (still_hidePanelFlag ..)).trans rfl
          · rfl
        · rfl
  | onInitInputControlChannel => exact untouched rfl (by simp [Awaits]) (by simp [Drops])
  | onInputDataChannelDied channel =>
      exact untouched (await_clearDataChannel s _) (by simp [Awaits]) (by simp [Drops])
  | onRemoteSaDied =>
      refine untouched ?_ (by simp [Awaits]) (by simp [Drops])
      exact (await_of_still (still_tellIme ..)).trans (await_clearDataChannel s _)
  | onStopInputService isTerminateIme =>
      refine untouched ?_ (by simp [Awaits]) (by simp [Drops])
      show (s.onStopInputService isTerminateIme).2.isShowAfterCreate = _
      unfold onStopInputService
      split
      · rfl
      · split
        · exact (await_of_still (still_tellIme ..)).trans rfl
        · rfl
  | onNotifyPreemption scene => exact dropped (await_stopInput ..) (by simp [Awaits]) trivial
  | setProxyIme isProxyIme => exact untouched rfl (by simp [Awaits]) (by simp [Drops])
  | setImeMirrorEnable isImeMirrorEnable => exact untouched rfl (by simp [Awaits]) (by simp [Drops])
  | windowChanged type windowState =>
      refine untouched ?_ (by simp [Awaits]) (by simp [Drops])
      simp only [step]
      split <;> rfl

/-! ## Runs -/

/-- In every run, a show waits from the call that found no panel to the one that uses it up or hides. -/
theorem await_iff (es : List Event) :
    (run step {} es).isShowAfterCreate = true ↔ Underway step Awaits (fun s e => ¬ Drops s e) {} es :=
  Lib.run_iff_underway (P := fun s : InputMethodAbility => s.isShowAfterCreate = true) step_await
    (by simp) es

/-- What `CreatePanel` posts. -/
theorem posts_iff (s : InputMethodAbility) (flag : PanelFlag) (scene : Scene) :
    .taskImsaShowKeyboard ∈ (step s (.createPanel .SOFT_KEYBOARD flag scene)).told.drop s.told.length ↔
      Makes s flag scene ∧ s.isShowAfterCreate = true := by
  show _ ∈ (s.createPanel scene .SOFT_KEYBOARD flag).2.told.drop s.told.length ↔ _
  unfold createPanel Makes
  split
  case isTrue impossible =>
    rw [List.drop_length]
    constructor
    · intro member
      cases member
    · rintro ⟨⟨absent, created, -⟩, -⟩
      simp [absent, created] at impossible
  case isFalse possible =>
    rw [not_or, not_not] at possible
    have absent : s.panels .SOFT_KEYBOARD = none := by simpa using possible.1
    dsimp only
    split
    case isTrue shows =>
      obtain ⟨waits, -, flag⟩ := shows
      have waits : s.isShowAfterCreate = true := waits
      simp [InputMethodAbility.tell, forgetShow, setPanel, absent, possible.2, flag, waits]
    case isFalse keeps =>
      show _ ∈ s.told.drop s.told.length ↔ _
      rw [List.drop_length]
      constructor
      · intro member
        cases member
      · rintro ⟨⟨-, -, flag⟩, waits⟩
        exact absurd ⟨waits, rfl, flag⟩ keeps

/-- **The panel is shown as it is made, when it was asked for before.**  In every run, making the
panel of the soft keyboard posts a show exactly when it is made, not as a candidate column, after a
show that found no panel, and neither a hide nor another panel has come in between.  That the text
field stopped being bound, or the service died, does not count. -/
theorem create_shows_iff (es : List Event) (flag : PanelFlag) (scene : Scene) :
    .taskImsaShowKeyboard ∈ (run step {} (es ++ [.createPanel .SOFT_KEYBOARD flag scene])).told.drop
        (run step {} es).told.length ↔
      Makes (run step {} es) flag scene ∧ Underway step Awaits (fun s e => ¬ Drops s e) {} es := by
  rw [Lib.run_append, Lib.run_cons, Lib.run_nil, posts_iff, await_iff]

/-! ## Poles -/

/-- The text field goes inactive before the panel is made, and the keyboard comes up all the same. -/
example : (run step {} [.setImeListener, .showKeyboard 0 {}, .onClientInactive 1 {},
    .createPanel .SOFT_KEYBOARD .FLG_FIXED {}]).told =
      [.onKeyboardStatus true, .onInputFinish, .taskImsaShowKeyboard] := by
  decide

end Imf.Keyboard
