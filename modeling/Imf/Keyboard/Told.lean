/-
# Imf.Keyboard.Told -- what a text field is told about the keyboard

A text field is told when the keyboard is shown and hidden, and lays itself out by it: the input
method sends the status of a panel, or, while there is no panel, the status of the keyboard alone.
What it is told is so at the end of the call that tells it (`step_tells`), unless a show found no
panel: then the text field is promised a keyboard that the input method has yet to create
(`Promises`).  And as long as it stays bound, the calls that could change that without telling it
are few, and `Hears` lists them: the panel is destroyed, or hidden for a password field or another
display before anything is said, the window manager acts of its own accord, another text field goes
inactive, a candidate column is not announced, or the keyboard is mirrored.

* `informed_run`: a text field that was told, and was not only promised a keyboard, is right, and
  stays right while it hears everything.
-/
import Imf.Keyboard.InputMethodAbility
import Imf.Lib.Last

namespace Imf.Keyboard

set_option autoImplicit false

open Lib (Meets findLast? findLast?_append_of_match findLast?_append_of_miss run)
open Panel (PanelFlag)
open InputTypes (InputType)
open Ipc (InputClientInfo)

/-! ## What was heard -/

/-- What is told to a text field about the soft keyboard.  Its listener hears both. -/
def Told.visible? (channel : Remote) : Told → Option Bool
  | .panelStatusInfo receiver info =>
      if receiver = channel ∧ info.panelType = .SOFT_KEYBOARD then some info.visible else none
  | .keyboardStatus receiver isShow => if receiver = channel then some isShow else none
  | _ => none

/-- The last thing a text field was told about it. -/
def heard (channel : Remote) (told : List Told) : Option Bool :=
  (findLast? (fun said => (said.visible? channel).isSome) told).bind (Told.visible? channel)

section Heard

variable {channel : Remote} {told : List Told}

theorem heard_about {said : Told} {visible : Bool} (about : said.visible? channel = some visible) :
    heard channel (told ++ [said]) = some visible := by
  unfold heard
  rw [findLast?_append_of_match told (by simp [about]), Option.bind_some, about]

theorem heard_other {news : List Told} (other : ∀ said ∈ news, said.visible? channel = none) :
    heard channel (told ++ news) = heard channel told := by
  induction news using List.reverseRecOn with
  | nil => rw [List.append_nil]
  | append_singleton news said ih =>
      have last : said.visible? channel = none := other said (by simp)
      rw [← List.append_assoc, ← ih fun said member => other said (List.mem_append_left _ member)]
      unfold heard
      rw [findLast?_append_of_miss _ (by simp [last])]

/-- Where no news is that it is hidden, the news is that it is shown. -/
theorem heard_promise {news : List Told} (promising : ∀ said ∈ news, said.visible? channel ≠ some false)
    (about : ∃ said ∈ news, (said.visible? channel).isSome) :
    heard channel (told ++ news) = some true := by
  induction news using List.reverseRecOn with
  | nil => simp at about
  | append_singleton news said ih =>
      rw [← List.append_assoc]
      cases last : said.visible? channel with
      | some visible =>
          have shown : visible ≠ false := by simpa [last] using promising said (by simp)
          rw [heard_about last, eq_true_of_ne_false shown]
      | none =>
          rw [heard_other (by simp [last])]
          refine ih (fun said member => promising said (List.mem_append_left _ member)) ?_
          obtain ⟨early, member, some⟩ := about
          rcases List.mem_append.1 member with before | final
          · exact ⟨early, before, some⟩
          · rw [List.mem_singleton.1 final, last] at some
            cases some

end Heard

namespace InputMethodAbility

/-- The soft keyboard is on the screen. -/
def showing (s : InputMethodAbility) : Bool :=
  (s.panels .SOFT_KEYBOARD).any fun panel => panel.windowState = .shown

end InputMethodAbility

/-- What the text field was told last is so. -/
def Informed (channel : Remote) (s : InputMethodAbility) : Prop := heard channel s.told = some s.showing

/-- Nothing is said about the keyboard; where the text field `hears`, nothing happens to it either. -/
def Quiet (channel : Remote) (hears : Prop) (s s' : InputMethodAbility) : Prop :=
  ∃ news, s'.told = s.told ++ news ∧ (∀ said ∈ news, said.visible? channel = none) ∧
    (hears → s'.showing = s.showing)

/-- Either the text field is told what is so, or it is `Quiet`. -/
def Tells (channel : Remote) (hears : Prop) (s s' : InputMethodAbility) : Prop :=
  (∃ news, s'.told = s.told ++ news ∧ Informed channel s') ∨ Quiet channel hears s s'

section Relations

variable {channel : Remote} {hears : Prop} {s s' s'' : InputMethodAbility}

theorem Quiet.trans (first : Quiet channel hears s s') (second : Quiet channel hears s' s'') :
    Quiet channel hears s s'' := by
  obtain ⟨news, told, other, same⟩ := first
  obtain ⟨news', told', other', same'⟩ := second
  refine ⟨news ++ news', by rw [told', told, List.append_assoc], fun said member => ?_, fun hears => ?_⟩
  · rcases List.mem_append.1 member with before | after
    · exact other said before
    · exact other' said after
  · rw [same' hears, same hears]

theorem Quiet.mono {less : Prop} (weaker : less → hears) (quiet : Quiet channel hears s s') :
    Quiet channel less s s' := by
  obtain ⟨news, told, other, same⟩ := quiet
  exact ⟨news, told, other, fun given => same (weaker given)⟩

theorem quiet_of_eq (told : s'.told = s.told) (panels : s'.panels = s.panels) :
    Quiet channel hears s s' :=
  ⟨[], by rw [told, List.append_nil], by simp, fun _ => by
    unfold InputMethodAbility.showing
    rw [panels]⟩

theorem Quiet.tells (quiet : Quiet channel hears s s') : Tells channel hears s s' := .inr quiet

/-- What comes before may be quiet. -/
theorem Quiet.then (first : Quiet channel hears s s') (second : Tells channel hears s' s'') :
    Tells channel hears s s'' := by
  rcases second with ⟨news', told', informed⟩ | quiet
  · obtain ⟨news, told, -⟩ := first
    exact .inl ⟨news ++ news', by rw [told', told, List.append_assoc], informed⟩
  · exact .inr (first.trans quiet)

/-- What comes afterwards may be quiet, if nothing happens to the keyboard any more. -/
theorem Tells.then (first : Tells channel hears s s') (second : Quiet channel True s' s'') :
    Tells channel hears s s'' := by
  rcases first with ⟨news, told, informed⟩ | quiet
  · obtain ⟨news', told', other, same⟩ := second
    refine .inl ⟨news ++ news', by rw [told', told, List.append_assoc], ?_⟩
    unfold Informed
    rw [told', heard_other other, same trivial]
    exact informed
  · exact .inr (quiet.trans (second.mono fun _ => trivial))

end Relations

/-! ## One call -/

namespace InputMethodAbility

section Said

variable (s : InputMethodAbility)

@[simp] theorem panels_tell (told : Told) : (s.tell told).panels = s.panels := rfl

@[simp] theorem panels_forgetShow : s.forgetShow.panels = s.panels := rfl

@[simp] theorem panels_tellIme (told : Told) : (s.tellIme told).panels = s.panels := by
  unfold tellIme
  split <;> rfl

@[simp] theorem panels_tellClient (channel : Option Remote) (told : Remote → Told) :
    (s.tellClient channel told).panels = s.panels := by
  cases channel <;> rfl

end Said

end InputMethodAbility

section Calls

variable {channel : Remote} {hears : Prop} (scene : Scene) (s : InputMethodAbility)

open InputMethodAbility

theorem quiet_tell {said : Told} (other : said.visible? channel = none) :
    Quiet channel True s (s.tell said) :=
  ⟨[said], rfl, by simpa using other, fun _ => rfl⟩

theorem quiet_refl : Quiet channel hears s s := quiet_of_eq rfl rfl

theorem quiet_tellIme {said : Told} (other : said.visible? channel = none) :
    Quiet channel True s (s.tellIme said) := by
  unfold tellIme
  split
  · exact quiet_tell s other
  · exact quiet_refl s

theorem quiet_tellClient (receiver : Option Remote) {said : Remote → Told}
    (other : ∀ receiver, (said receiver).visible? channel = none) :
    Quiet channel True s (s.tellClient receiver said) := by
  cases receiver with
  | none => exact quiet_refl s
  | some receiver => exact quiet_tell s (other receiver)

theorem quiet_finishTextPreview : Quiet channel True s s.finishTextPreview :=
  quiet_tellClient s _ fun _ => rfl

theorem quiet_notifyKeyboardHeight (panelHeight : UInt32) (panelFlag : PanelFlag) :
    Quiet channel True s (s.notifyKeyboardHeight panelHeight panelFlag) :=
  quiet_tellClient s _ fun _ => rfl

/-- The status of the keyboard alone is told as it is. -/
theorem tells_sendKeyboardStatus {isShow : Bool} (so : s.showing = isShow) :
    Tells channel hears s (s.sendKeyboardStatus isShow) := by
  unfold sendKeyboardStatus
  cases s.getInputDataChannelProxy with
  | none => exact (quiet_refl s).tells
  | some receiver =>
      by_cases mine : receiver = channel
      · subst mine
        refine .inl ⟨[_], rfl, ?_⟩
        show heard receiver (s.told ++ [_]) = some s.showing
        rw [so]
        exact heard_about (by simp [Told.visible?])
      · exact ((quiet_tell s (by simp [Told.visible?, mine])).mono fun _ => trivial).tells

/-- A notice about another panel, or to another text field, is none about this keyboard. -/
theorem quiet_notifyPanelStatusInfo (info : PanelStatusInfo) (receiver : Option Remote)
    (other : info.panelType ≠ .SOFT_KEYBOARD ∨ receiver ≠ some channel) :
    Quiet channel True s (s.notifyPanelStatusInfo info receiver) := by
  have notice : Quiet channel True s
      (s.tellClient receiver fun receiver =>
        .panelStatusInfo receiver { info with inputType := s.inputType }) := by
    cases receiver with
    | none => exact quiet_refl s
    | some receiver =>
        refine quiet_tell s ?_
        rw [Told.visible?, if_neg]
        rintro ⟨rfl, soft⟩
        exact other.elim (absurd soft) (absurd rfl)
  unfold notifyPanelStatusInfo
  dsimp only
  split
  · exact quiet_refl s
  · split
    · exact notice.trans (quiet_tell _ rfl)
    · exact notice

/-- A notice about this keyboard to this text field is heard, unless it is one about a candidate
column. -/
theorem told_notifyPanelStatusInfo (channel : Remote) (s : InputMethodAbility) {info : PanelStatusInfo}
    (soft : info.panelType = .SOFT_KEYBOARD)
    (announced : info.panelFlag = .FLG_CANDIDATE_COLUMN → s.inputType = .voicekbInput)
    (so : s.showing = info.visible) :
    ∃ news, (s.notifyPanelStatusInfo info (some channel)).told = s.told ++ news ∧
      Informed channel (s.notifyPanelStatusInfo info (some channel)) := by
  have notice : ∃ news,
    (s.tell (.panelStatusInfo channel { info with inputType := s.inputType })).told =
      s.told ++ news ∧ Informed channel
        (s.tell (.panelStatusInfo channel { info with inputType := s.inputType })) := by
    refine ⟨[_], rfl, ?_⟩
    show heard channel (s.told ++ [_]) = some s.showing
    rw [so]
    exact heard_about (by simp [Told.visible?, soft])
  have said : ¬ (info.panelFlag = .FLG_CANDIDATE_COLUMN ∧ s.inputType ≠ .voicekbInput) := by
    rintro ⟨candidate, other⟩
    exact other (announced candidate)
  unfold notifyPanelStatusInfo
  dsimp only
  rw [if_neg said]
  split
  · obtain ⟨news, told, informed⟩ := notice
    refine ⟨news ++ [.hideKeyboardSelf], by rw [← List.append_assoc, ← told]; rfl, ?_⟩
    exact (heard_other (by simp [Told.visible?])).trans informed
  · exact notice

theorem notify_unannounced {info : PanelStatusInfo} (receiver : Option Remote)
    (candidate : info.panelFlag = .FLG_CANDIDATE_COLUMN) (other : s.inputType ≠ .voicekbInput) :
    s.notifyPanelStatusInfo info receiver = s := if_pos ⟨candidate, other⟩

section Panels

variable {s} {type : PanelType} {panel : InputMethodPanel}

theorem showing_setPanel_other (other : type ≠ .SOFT_KEYBOARD) (next : Option InputMethodPanel) :
    (s.setPanel type next).showing = s.showing := by
  unfold showing setPanel
  dsimp only
  rw [if_neg (Ne.symm other)]

theorem showing_setPanel (next : Option InputMethodPanel) :
    (s.setPanel .SOFT_KEYBOARD next).showing = next.any fun panel => panel.windowState = .shown := by
  unfold showing setPanel
  dsimp only
  rw [if_pos rfl]

/-- What a panel of the window manager does: fail and change nothing, or end as it was asked to. -/
theorem panelHide_cases (s : InputMethodAbility) (type : PanelType) (panel : InputMethodPanel) :
    s.panelHide scene type panel = (.errorOperatePanel, s) ∨
      ∃ s', s.panelHide scene type panel = (.noError, s') ∧ s'.told = s.told ∧
        s'.inputType = s.inputType ∧ s'.getInputDataChannelProxy = s.getInputDataChannelProxy ∧
        (type = .SOFT_KEYBOARD → s.panels type = some panel → s'.showing = false) ∧
        (type ≠ .SOFT_KEYBOARD → s'.showing = s.showing) := by
  unfold panelHide
  split
  case isTrue hidden =>
    refine .inr ⟨s, rfl, rfl, rfl, rfl, fun soft there => ?_, fun _ => rfl⟩
    subst soft
    unfold showing
    rw [there]
    simp [hidden]
  case isFalse =>
    split
    · refine .inr ⟨_, rfl, rfl, rfl, rfl, fun soft _ => ?_, fun other => showing_setPanel_other other _⟩
      subst soft
      rw [showing_setPanel]
      rfl
    · exact .inl rfl

theorem panelShow_cases (s : InputMethodAbility) (type : PanelType) (panel : InputMethodPanel) :
    s.panelShow scene type panel = (.errorOperatePanel, s) ∨
      ∃ s', s.panelShow scene type panel = (.noError, s') ∧ s'.told = s.told ∧
        s'.inputType = s.inputType ∧ s'.getInputDataChannelProxy = s.getInputDataChannelProxy ∧
        (type = .SOFT_KEYBOARD → s.panels type = some panel → s'.showing = true) ∧
        (type ≠ .SOFT_KEYBOARD → s'.showing = s.showing) := by
  unfold panelShow
  split
  case isTrue shown =>
    refine .inr ⟨s, rfl, rfl, rfl, rfl, fun soft there => ?_, fun _ => rfl⟩
    subst soft
    unfold showing
    rw [there]
    simp [shown]
  case isFalse =>
    split
    · refine .inr ⟨_, rfl, rfl, rfl, rfl, fun soft _ => ?_, fun other => showing_setPanel_other other _⟩
      subst soft
      rw [showing_setPanel]
      rfl
    · exact .inl rfl

/-- A panel that has just been shown or hidden is announced. -/
theorem tells_notify {s' : InputMethodAbility} {info : PanelStatusInfo} (told : s'.told = s.told)
    (so : info.panelType = .SOFT_KEYBOARD → s'.showing = info.visible)
    (other : info.panelType ≠ .SOFT_KEYBOARD → s'.showing = s.showing) (receiver : Option Remote)
    (hearing : hears → info.panelType = .SOFT_KEYBOARD → receiver = some channel ∧
      (info.panelFlag = .FLG_CANDIDATE_COLUMN → s'.inputType = .voicekbInput)) :
    Tells channel hears s (s'.notifyPanelStatusInfo info receiver) := by
  by_cases here : info.panelType = .SOFT_KEYBOARD ∧ receiver = some channel ∧
      (info.panelFlag = .FLG_CANDIDATE_COLUMN → s'.inputType = .voicekbInput)
  · obtain ⟨soft, rfl, announced⟩ := here
    have notice := told_notifyPanelStatusInfo channel s' soft announced (so soft)
    rw [told] at notice
    exact .inl notice
  · -- a text field that hears is told of its keyboard, so this is about another panel
    have notSoft : hears → info.panelType ≠ .SOFT_KEYBOARD := fun given soft =>
      here ⟨soft, hearing given soft⟩
    have before : Quiet channel hears s s' :=
      ⟨[], by rw [told, List.append_nil], by simp, fun given => other (notSoft given)⟩
    refine (before.trans (Quiet.mono (fun _ => trivial) ?_)).tells
    by_cases elsewhere : info.panelType ≠ .SOFT_KEYBOARD ∨ receiver ≠ some channel
    · exact quiet_notifyPanelStatusInfo s' info receiver elsewhere
    · obtain ⟨soft, same⟩ : info.panelType = .SOFT_KEYBOARD ∧ receiver = some channel := by
        simpa [not_or] using elsewhere
      have unannounced : ¬ (info.panelFlag = .FLG_CANDIDATE_COLUMN → s'.inputType = .voicekbInput) :=
        fun announced => here ⟨soft, same, announced⟩
      rw [Classical.not_imp] at unannounced
      rw [notify_unannounced s' receiver unannounced.1 unannounced.2]
      exact quiet_refl s'

/-- What a text field that hears knows of a panel. -/
def Follows (channel : Remote) (s : InputMethodAbility) (type : PanelType)
    (panel : InputMethodPanel) : Prop :=
  type = .SOFT_KEYBOARD → s.getInputDataChannelProxy = some channel ∧
    (panel.panelFlag = .FLG_CANDIDATE_COLUMN → s.inputType = .voicekbInput)

theorem tells_hidePanelFlag (there : s.panels type = some panel) (trigger : Trigger)
    (sessionId : UInt32) (clientSessionId : Int32)
    (follows : hears → Follows channel s type panel) :
    Tells channel hears s (s.hidePanelFlag scene type panel trigger sessionId clientSessionId).2 := by
  unfold hidePanelFlag
  obtain failed | ⟨s', hidden, told, inputType, proxy, soft, other⟩ :=
    panelHide_cases scene s type panel
  · rw [failed]
    exact (quiet_refl s).tells
  · rw [hidden]
    have notice : Tells channel hears s (s'.notifyPanelStatusInfo
        { panelType := type, panelFlag := panel.panelFlag, visible := false, trigger, sessionId,
          clientSessionId }
        s'.getInputDataChannelProxy) := by
      refine tells_notify told (fun same => soft same there) other _ fun given same => ?_
      rw [proxy, inputType]
      exact follows given same
    dsimp only
    rw [if_neg (by simp)]
    split
    · exact notice.then (quiet_finishTextPreview _)
    · exact notice

theorem tells_showPanelFlag (there : s.panels type = some panel) (trigger : Trigger)
    (follows : hears → Follows channel s type panel) :
    Tells channel hears s (s.showPanelFlag scene type panel trigger).2 := by
  unfold showPanelFlag
  split
  · exact (quiet_refl s).tells
  · obtain failed | ⟨s', shown, told, inputType, proxy, soft, other⟩ :=
      panelShow_cases scene s type panel
    · rw [failed]
      exact (quiet_refl s).tells
    · rw [shown]
      refine tells_notify told (fun same => soft same there) other _ fun given same => ?_
      rw [proxy, inputType]
      exact follows given same

end Panels

/-- The text field is bound, the keyboard is not mirrored, and its panel is announced. -/
structure Attends (channel : Remote) (s : InputMethodAbility) : Prop where
  bound : s.dataChannelObject = some channel
  unmirrored : s.isImeMirrorEnable = false
  announced : ∀ panel, s.panels .SOFT_KEYBOARD = some panel → panel.panelFlag = .FLG_CANDIDATE_COLUMN →
    s.inputType = .voicekbInput

variable {s}

theorem Attends.follows (attends : Attends channel s) {type : PanelType} {panel : InputMethodPanel}
    (there : s.panels type = some panel) : Follows channel s type panel := by
  rintro rfl
  refine ⟨?_, attends.announced panel there⟩
  unfold getInputDataChannelProxy
  rw [attends.unmirrored]
  exact attends.bound

/-- What attention depends on. -/
def InputMethodAbility.audience (s : InputMethodAbility) :
    Option Remote × Bool × InputType × (PanelType → Option InputMethodPanel) :=
  (s.dataChannelObject, s.isImeMirrorEnable, s.inputType, s.panels)

theorem Attends.congr {s' : InputMethodAbility} (attends : Attends channel s)
    (same : s'.audience = s.audience) :
    Attends channel s' := by
  simp only [InputMethodAbility.audience, Prod.mk.injEq] at same
  obtain ⟨bound, mirror, inputType, panels⟩ := same
  constructor
  · rw [bound]
    exact attends.bound
  · rw [mirror]
    exact attends.unmirrored
  · rw [inputType, panels]
    exact attends.announced

theorem panels_of_audience {s' : InputMethodAbility} (same : s'.audience = s.audience) :
    s'.panels = s.panels :=
  congrArg (fun audience => audience.2.2.2) same

theorem audience_of_rest {s' : InputMethodAbility} (same : s'.rest = s.rest)
    (panels : s'.panels = s.panels) :
    s'.audience = s.audience := by
  show (s'.rest.dataChannelObject, s'.rest.isImeMirrorEnable, s'.rest.inputType, s'.panels) = _
  rw [same, panels]
  rfl

variable (s)

theorem tells_showKeyboardImplWithoutLock (cmdId : Nat) (made : s.panels .SOFT_KEYBOARD ≠ none)
    (attends : hears → Attends channel s) :
    Tells channel hears s (s.showKeyboardImplWithoutLock scene cmdId).2 := by
  unfold showKeyboardImplWithoutLock
  split
  · exact (quiet_refl s).tells
  · split
    · exact (quiet_refl s).tells
    · have status : Quiet channel hears s (s.tellIme (.onKeyboardStatus true)) :=
        (quiet_tellIme s rfl).mono fun _ => trivial
      split
      case h_1 panel there =>
        dsimp only
        split
        · exact (status.trans ((quiet_notifyKeyboardHeight ..).mono fun _ => trivial)).tells
        · refine status.then (tells_showPanelFlag scene (by simpa using there) .IMF fun given => ?_)
          have attends := (attends given).congr
            (audience_of_rest (s.rest_tellIme (.onKeyboardStatus true)) (by simp))
          exact attends.follows (by simpa using there)
      case h_2 absent => exact absurd absent made

theorem tells_hideKeyboardTrigger (trigger : Trigger) (sessionId : UInt32) (clientSessionId : Int32)
    (attends : hears → Attends channel s) :
    Tells channel hears s (s.hideKeyboardTrigger scene trigger sessionId clientSessionId).2 := by
  have flagged : Quiet channel hears s s.forgetShow := quiet_of_eq rfl rfl
  have status : Quiet channel hears s (s.forgetShow.tellIme (.onKeyboardStatus false)) :=
    flagged.trans ((quiet_tellIme _ rfl).mono fun _ => trivial)
  unfold hideKeyboardTrigger
  dsimp only
  split
  · exact flagged.tells
  · split
    case h_1 panel there =>
      split
      · exact status.tells
      · refine status.then
          (tells_hidePanelFlag scene (by simpa using there) trigger sessionId clientSessionId
          fun given => ?_)
        have same : (s.forgetShow.tellIme (.onKeyboardStatus false)).audience = s.audience :=
          audience_of_rest (by simp) (by simp)
        exact ((attends given).congr same).follows (by simpa using there)
    case h_2 absent =>
      -- without a panel nothing is on the screen, so this is so
      have gone : (s.forgetShow.tellIme (.onKeyboardStatus false)).showing = false := by
        unfold showing
        rw [panels_tellIme, absent]
        rfl
      have sent := status.then (tells_sendKeyboardStatus _ gone)
      split
      · exact sent.then (quiet_tell _ rfl)
      · exact sent

theorem tells_inactivePanel (inactive : Remote) (type : PanelType) (same : hears → inactive = channel)
    (announced : hears → Attends channel s) :
    Tells channel hears s (s.inactivePanel scene inactive type) := by
  unfold inactivePanel
  split
  · exact (quiet_refl s).tells
  case h_2 panel there =>
    split
    · exact (quiet_refl s).tells
    · obtain failed | ⟨s', hidden, told, inputType, proxy, soft, other⟩ :=
        panelHide_cases scene s type panel
      · rw [failed]
        exact (quiet_refl s).tells
      · rw [hidden]
        have notice : Tells channel hears s (s'.notifyPanelStatusInfo
            { panelType := type, panelFlag := panel.panelFlag, visible := false, trigger := .IME_APP }
            (some inactive)) := by
          refine tells_notify told (fun same => soft same there) other _ fun given soft => ?_
          rw [same given, inputType]
          exact ⟨rfl, ((announced given).follows there soft).2⟩
        dsimp only
        rw [if_neg (by simp)]
        split
        · exact notice.then (quiet_finishTextPreview _)
        · exact notice

theorem quiet_inactivePanel (inactive : Remote) {type : PanelType} (other : type ≠ .SOFT_KEYBOARD) :
    Quiet channel True s (s.inactivePanel scene inactive type) := by
  unfold inactivePanel
  split
  · exact quiet_refl s
  case h_2 panel there =>
    split
    · exact quiet_refl s
    · obtain failed | ⟨s', hidden, told, -, -, -, same⟩ :=
        panelHide_cases scene s type panel
      · rw [failed]
        exact quiet_refl s
      · rw [hidden]
        have before : Quiet channel True s s' :=
          ⟨[], by rw [told, List.append_nil], by simp, fun _ => same other⟩
        dsimp only
        rw [if_neg (by simp)]
        exact before.trans (quiet_notifyPanelStatusInfo _ _ _ (.inl other))

theorem quiet_invokeAttachOptionsCallback (options : AttachOptions) (isFirstNotify : Bool) :
    Quiet channel True s (s.invokeAttachOptionsCallback options isFirstNotify) := by
  unfold invokeAttachOptionsCallback
  split
  · exact quiet_refl s
  · have stored : Quiet channel True s { s with attachOptions := options } := quiet_of_eq rfl rfl
    dsimp only
    split
    · exact stored.trans (quiet_tell _ rfl)
    · exact stored

theorem audience_invokeAttachOptionsCallback (options : AttachOptions) (isFirstNotify : Bool) :
    (s.invokeAttachOptionsCallback options isFirstNotify).audience = s.audience := by
  unfold invokeAttachOptionsCallback
  split
  · rfl
  · dsimp only
    split <;> rfl

theorem audience_tellIme (told : Told) : (s.tellIme told).audience = s.audience :=
  audience_of_rest (s.rest_tellIme told) (s.panels_tellIme told)

theorem quiet_invokeStartInputCallback (options : AttachOptions) (callingDisplayId : UInt64)
    (isNotifyInputStart : Bool) :
    Quiet channel True s (s.invokeStartInputCallback options callingDisplayId isNotifyInputStart).2 ∧
      (s.invokeStartInputCallback options callingDisplayId isNotifyInputStart).2.audience =
        s.audience := by
  unfold invokeStartInputCallback
  split
  · exact ⟨quiet_refl s, rfl⟩
  · have stored : Quiet channel True s { s with callingDisplayId } := quiet_of_eq rfl rfl
    have invoked := stored.trans (quiet_invokeAttachOptionsCallback { s with callingDisplayId } options
      (isNotifyInputStart || ! s.isInputStartNotified))
    have audience := (audience_invokeAttachOptionsCallback { s with callingDisplayId } options
      (isNotifyInputStart || ! s.isInputStartNotified))
    dsimp only
    split
    · refine ⟨invoked.trans (Quiet.trans (quiet_of_eq rfl rfl) (quiet_tellIme _ rfl)), ?_⟩
      exact (audience_tellIme ..).trans audience
    · exact ⟨invoked, audience⟩

theorem quiet_startInputCallback (clientInfo : InputClientInfo) (isBindFromClient : Bool) :
    Quiet channel True s (s.startInputCallback scene clientInfo isBindFromClient).2 ∧
      (s.startInputCallback scene clientInfo isBindFromClient).2.audience = s.audience := by
  unfold startInputCallback
  split
  · exact quiet_invokeStartInputCallback ..
  · unfold invokeStartInputCallbackWithInfoRestruct
    split
    · exact quiet_invokeStartInputCallback ..
    · split
      · exact ⟨quiet_refl s, rfl⟩
      · dsimp only
        split
        · exact ⟨quiet_tellIme s rfl, audience_tellIme ..⟩
        · exact ⟨quiet_refl s, rfl⟩

end Calls

/-! ## Runs -/

/-- The call shows the keyboard before there is a panel for it. -/
def Promises (s : InputMethodAbility) (e : Event) : Prop :=
  s.panels .SOFT_KEYBOARD = none ∧
    match e with
    | .showKeyboard _ _ => True
    | .startInput clientInfo _ _ => clientInfo.isShowKeyboard = true
    | .complete _ => s.pending.head? = some true
    | _ => False

/-- The calls that a text field hears of: all of them while it `Attends`, but for these. -/
def Hears (channel : Remote) (s : InputMethodAbility) (e : Event) : Prop :=
  Attends channel s ∧ ¬ Promises s e ∧
    match e with
    | .startInput clientInfo _ _ =>
        (clientInfo.channel = none ∨ clientInfo.channel = some channel) ∧
          ¬ ((clientInfo.needHide ∧ ¬ s.isProxyIme) ∨
            s.callingDisplayId ≠ clientInfo.config.inputAttribute.callingDisplayId)
    | .onClientInactive inactive _ => inactive = channel
    | .destroyPanel type _ => type ≠ .SOFT_KEYBOARD
    | .windowChanged type _ => type ≠ .SOFT_KEYBOARD
    | _ => True

section Runs

variable {channel : Remote} (s : InputMethodAbility)

open InputMethodAbility

theorem tells_startInputShowPanel {hears : Prop} (scene : Scene) (needShow : Bool)
    (made : needShow = true → s.panels .SOFT_KEYBOARD ≠ none) (attends : hears → Attends channel s) :
    Tells channel hears s (s.startInputShowPanel scene needShow) := by
  unfold startInputShowPanel
  dsimp only
  split
  case isTrue shows =>
    exact (tells_showKeyboardImplWithoutLock scene s s.cmdId (made shows) attends).then
      (quiet_of_eq rfl rfl)
  case isFalse => exact (quiet_of_eq rfl rfl).tells

theorem setInputDataChannel_told (scene : Scene) (object : Remote) :
    (s.setInputDataChannel scene object).told = s.told ∧
      (s.setInputDataChannel scene object).panels = s.panels := by
  unfold setInputDataChannel
  split <;> exact ⟨rfl, rfl⟩

theorem startInputHidePanel_told (scene : Scene) (clientInfo : InputClientInfo) :
    (s.startInputHidePanel scene clientInfo).told = s.told := by
  unfold startInputHidePanel
  split
  · split
    case h_1 panel there =>
      obtain failed | ⟨s', hidden, told, -⟩ :=
        panelHide_cases scene s .SOFT_KEYBOARD panel
      · rw [failed]
      · rw [hidden]
        exact told
    case h_2 => rfl
  · rfl

/-- A panel is hidden where it is, not destroyed. -/
theorem startInputHidePanel_panels (scene : Scene) (clientInfo : InputClientInfo) :
    (s.startInputHidePanel scene clientInfo).panels .SOFT_KEYBOARD = none ↔
      s.panels .SOFT_KEYBOARD = none := by
  unfold startInputHidePanel
  split
  · split
    case h_1 panel there =>
      unfold panelHide setPanel
      split
      · rfl
      · split <;> simp [there]
    case h_2 => rfl
  · rfl

theorem tells_startInputInner (scene : Scene) (clientInfo : InputClientInfo) (isBindFromClient : Bool)
    (made : ¬ Promises s (.startInput clientInfo isBindFromClient scene)) :
    Tells channel (Hears channel s (.startInput clientInfo isBindFromClient scene)) s
      (s.startInputInner scene clientInfo isBindFromClient).2 := by
  unfold startInputInner
  cases started : clientInfo.channel with
  | none => exact (quiet_refl s).tells
  | some object =>
      have bound : Quiet channel (Hears channel s (.startInput clientInfo isBindFromClient scene)) s
          (s.setInputDataChannel scene object) :=
        quiet_of_eq (setInputDataChannel_told s scene object).1
          (setInputDataChannel_told s scene object).2
      -- a text field that hears is the one that is bound, and sees its keyboard left where it is
      have kept : Hears channel s (.startInput clientInfo isBindFromClient scene) →
          (s.setInputDataChannel scene object).startInputHidePanel scene clientInfo = s := by
        rintro ⟨attends, -, mine, stays⟩
        have mine : object = channel := by
          rw [started] at mine
          simpa using mine
        subst mine
        have same : s.setInputDataChannel scene object = s := if_pos attends.bound
        rw [same]
        exact if_neg stays
      have hidden : Quiet channel (Hears channel s (.startInput clientInfo isBindFromClient scene)) s
          ((s.setInputDataChannel scene object).startInputHidePanel scene clientInfo) := by
        have told := (startInputHidePanel_told
          (s.setInputDataChannel scene object) scene clientInfo).trans
          (setInputDataChannel_told s scene object).1
        exact ⟨[], by rw [told, List.append_nil], by simp, fun given => by rw [kept given]⟩
      obtain ⟨quiet, audience⟩ := @quiet_startInputCallback channel scene
        ((s.setInputDataChannel scene object).startInputHidePanel scene clientInfo) clientInfo
          isBindFromClient
      have called := hidden.trans (quiet.mono fun _ => trivial)
      dsimp only
      split
      · exact called.tells
      · split
        · refine called.then
            (tells_startInputShowPanel _ scene clientInfo.isShowKeyboard (fun shows => ?_)
            fun given => ?_)
          · intro absent
            rw [panels_of_audience audience, startInputHidePanel_panels,
              (setInputDataChannel_told s scene object).2] at absent
            exact made ⟨absent, shows⟩
          · rw [kept given] at audience
            exact given.1.congr (by rw [kept given]; exact audience)
        · exact (called.trans (quiet_of_eq rfl rfl)).tells

theorem quiet_clearDataChannel (object : Option Remote) :
    Quiet channel True s (s.clearDataChannel object) := by
  unfold clearDataChannel
  split
  · exact quiet_refl s
  · split
    · exact quiet_of_eq rfl rfl
    · exact quiet_refl s

theorem quiet_clearAttachOptions : Quiet channel True s s.clearAttachOptions := quiet_of_eq rfl rfl

theorem quiet_clearInputType : Quiet channel True s s.clearInputType := by
  unfold clearInputType
  split
  · exact quiet_of_eq rfl rfl
  · exact quiet_refl s

theorem tells_stopInput {hears : Prop} (scene : Scene) (channelObject : Option Remote)
    (sessionId : UInt32) (clientSessionId : Int32) (attends : hears → Attends channel s) :
    Tells channel hears s (s.stopInput scene channelObject sessionId clientSessionId) := by
  have counted : Quiet channel hears s s.nextCmd := quiet_of_eq rfl rfl
  have hidden : Tells channel hears s.nextCmd
      (s.nextCmd.hideKeyboardImplWithoutLock scene s.nextCmd.cmdId sessionId clientSessionId).2 := by
    unfold hideKeyboardImplWithoutLock
    rw [if_neg (by simp)]
    exact tells_hideKeyboardTrigger scene _ .IMF sessionId clientSessionId fun given =>
      (attends given).congr rfl
  refine (counted.then hidden).then ?_
  refine (quiet_clearDataChannel _ channelObject).trans ((quiet_clearAttachOptions _).trans ?_)
  exact (quiet_clearInputType _).trans (quiet_tellIme _ rfl)

theorem quiet_inactiveStatus : Quiet channel True s s.inactiveStatus := by
  unfold inactiveStatus
  split
  · split
    · exact quiet_tellIme s rfl
    · exact quiet_refl s
  · exact quiet_refl s

theorem panels_inactiveStatus : s.inactiveStatus.panels = s.panels := by
  unfold inactiveStatus
  split
  · split <;> simp
  · rfl

theorem tells_onClientInactive (scene : Scene) (inactive : Remote) :
    Tells channel (Hears channel s (.onClientInactive inactive scene)) s
      (s.onClientInactive scene inactive) := by
  have before : Quiet channel True s (s.tellIme .onInputFinish).inactiveStatus :=
    (quiet_tellIme s rfl).trans (quiet_inactiveStatus _)
  have audience : (s.tellIme .onInputFinish).inactiveStatus.audience = s.audience :=
    audience_of_rest (rest_of_still (by simp)) ((panels_inactiveStatus _).trans (by simp))
  refine ((before.mono fun _ => trivial).then ?_).then
    ((quiet_inactivePanel scene _ inactive (by decide)).trans
    ((quiet_clearDataChannel _ (some inactive)).trans (quiet_clearAttachOptions _)))
  exact tells_inactivePanel scene _ inactive .SOFT_KEYBOARD (fun given => given.2.2) fun given =>
    given.1.congr audience

/-- A new panel is not shown yet. -/
theorem quiet_createPanel (type : PanelType) (flag : PanelFlag) (scene : Scene) :
    Quiet channel True s (s.createPanel scene type flag).2 := by
  unfold createPanel
  split
  · exact quiet_refl s
  case isFalse possible =>
    have created : Quiet channel True s (s.setPanel type (some { panelFlag := flag })) := by
      refine ⟨[], (List.append_nil _).symm, by simp, fun _ => ?_⟩
      cases type with
      | STATUS_BAR => exact showing_setPanel_other (by decide) _
      | SOFT_KEYBOARD =>
          have absent : s.panels .SOFT_KEYBOARD = none := by
            simpa using fun present => possible (.inl present)
          rw [showing_setPanel]
          unfold showing
          rw [absent]
          rfl
    dsimp only
    split
    · exact created.trans (Quiet.trans (quiet_of_eq rfl rfl) (quiet_tell (forgetShow _) rfl))
    · exact created

theorem quiet_destroyPanel (type : PanelType) (scene : Scene) :
    Quiet channel (Hears channel s (.destroyPanel type scene)) s (s.destroyPanel scene type).2 := by
  unfold destroyPanel
  split
  · exact quiet_refl s
  case h_2 panel there =>
    obtain failed | ⟨s', hidden, told, -, -, -, same⟩ := panelHide_cases scene s type panel
    · rw [failed]
      exact ⟨[], (List.append_nil _).symm, by simp, fun given => showing_setPanel_other given.2.2 _⟩
    · rw [hidden]
      refine ⟨[], ?_, by simp, fun given => ?_⟩
      · exact told.trans (List.append_nil _).symm
      · exact (showing_setPanel_other given.2.2 _).trans (same given.2.2)

theorem quiet_changePanelFlag (flag : PanelFlag) (scene : Scene) :
    Quiet channel True s (s.changePanelFlag scene flag) := by
  unfold changePanelFlag
  split
  · exact quiet_refl s
  case h_2 panel there =>
    split
    · refine ⟨[], (List.append_nil _).symm, by simp, fun _ => ?_⟩
      rw [showing_setPanel]
      unfold showing
      rw [there]
      rfl
    · exact quiet_refl s

/-- **What a text field is told is so**, unless it is promised a keyboard; and what it hears leaves its
keyboard alone unless it is told. -/
theorem step_tells (e : Event) (made : ¬ Promises s e) :
    Tells channel (Hears channel s e) s (step s e) := by
  cases e with
  | setImeListener => exact (quiet_of_eq rfl rfl).tells
  | setTextInputClientListener => exact (quiet_of_eq rfl rfl).tells
  | startInput clientInfo isBindFromClient scene => exact tells_startInputInner _ _ _ _ made
  | complete scene =>
      show Tells channel _ s (s.complete scene)
      unfold complete
      split
      · exact (quiet_refl s).tells
      case h_2 needShow pending waits =>
        have resumed : Quiet channel (Hears channel s (.complete scene)) s { s with pending } :=
          quiet_of_eq rfl rfl
        refine resumed.then (tells_startInputShowPanel _ scene needShow (fun shows => ?_) fun given =>
          given.1.congr rfl)
        intro absent
        exact made ⟨absent, by rw [waits, shows]; rfl⟩
  | stopInput channelObject sessionId clientSessionId scene =>
      exact tells_stopInput _ _ _ _ _ fun given => given.1
  | onClientInactive inactive scene => exact tells_onClientInactive ..
  | showKeyboard requestKeyboardReason scene =>
      have counted : Quiet channel
        (Hears channel s (.showKeyboard requestKeyboardReason scene)) s s.nextCmd :=
        quiet_of_eq rfl rfl
      have invoked := counted.trans ((quiet_invokeAttachOptionsCallback s.nextCmd
        { isSimpleKeyboardEnabled := s.attachOptions.isSimpleKeyboardEnabled,
          requestKeyboardReason } false).mono
          fun _ => trivial)
      have audience := audience_invokeAttachOptionsCallback s.nextCmd
        { isSimpleKeyboardEnabled := s.attachOptions.isSimpleKeyboardEnabled,
          requestKeyboardReason } false
      refine invoked.then (tells_showKeyboardImplWithoutLock scene _ _ (fun absent => ?_) fun given =>
        given.1.congr audience)
      rw [panels_of_audience audience] at absent
      exact made ⟨absent, trivial⟩
  | hideKeyboard scene =>
      have counted : Quiet channel (Hears channel s (.hideKeyboard scene)) s s.nextCmd :=
        quiet_of_eq rfl rfl
      refine counted.then ?_
      show Tells channel _ s.nextCmd
        (s.nextCmd.hideKeyboardImplWithoutLock scene s.nextCmd.cmdId 0 (-1)).2
      unfold hideKeyboardImplWithoutLock
      rw [if_neg (by simp)]
      exact tells_hideKeyboardTrigger scene _ _ _ _ fun given => given.1.congr rfl
  | hideKeyboardSelf scene =>
      show Tells channel _ s (s.hideKeyboardSelf scene).2
      unfold hideKeyboardSelf
      split
      · exact (quiet_refl s).tells
      · exact tells_hideKeyboardTrigger scene _ _ _ _ fun given => given.1
  | hideCandidatePanel scene =>
      show Tells channel _ s (s.hideCandidatePanel scene).2
      unfold hideCandidatePanel
      split
      · exact (quiet_refl s).tells
      case h_2 panel there =>
        split
        · exact (quiet_refl s).tells
        · exact tells_hidePanelFlag scene there _ _ _ fun given => given.1.follows there
  | createPanel type flag scene =>
      exact (quiet_createPanel s type flag scene).mono (fun _ => trivial) |>.tells
  | destroyPanel type scene => exact (quiet_destroyPanel s type scene).tells
  | showPanel type scene =>
      show Tells channel _ s (s.showPanel scene type).2
      unfold showPanel
      split
      · exact (quiet_refl s).tells
      case h_2 panel there => exact tells_showPanelFlag scene there _ fun given => given.1.follows there
  | hidePanel type scene =>
      show Tells channel _ s (s.hidePanel scene type).2
      unfold hidePanel
      split
      · exact (quiet_refl s).tells
      case h_2 panel there =>
        split
        · exact (quiet_refl s).tells
        · dsimp only
          split
          · have forgotten : Quiet channel (Hears channel s (.hidePanel type scene)) s s.forgetShow :=
              quiet_of_eq rfl rfl
            exact forgotten.then (tells_hidePanelFlag (s := s.forgetShow) scene there _ _ _ fun given =>
              (given.1.congr rfl).follows there)
          · exact tells_hidePanelFlag scene there _ _ _ fun given => given.1.follows there
  | changePanelFlag flag scene =>
      exact ((quiet_changePanelFlag s flag scene).mono fun _ => trivial).tells
  | onSetInputType inputType => exact (quiet_of_eq rfl rfl).tells
  | exitCurrentInputType => exact ((quiet_clearInputType s).mono fun _ => trivial).tells
  | onCallingDisplayIdChanged keyboardDisplayId scene =>
      show Tells channel _ s (s.onCallingDisplayIdChanged scene keyboardDisplayId)
      unfold onCallingDisplayIdChanged
      split
      · exact (quiet_refl s).tells
      · have moved : Quiet channel
          (Hears channel s (.onCallingDisplayIdChanged keyboardDisplayId scene)) s
            { s with callingDisplayId := keyboardDisplayId } := quiet_of_eq rfl rfl
        dsimp only
        split
        case h_1 panel there =>
          split
          · exact moved.then (tells_hidePanelFlag
              (s := { s with callingDisplayId := keyboardDisplayId }) scene there
              _ _ _ fun given => (given.1.congr rfl).follows there)
          · exact moved.tells
        case h_2 => exact moved.tells
  | onInitInputControlChannel => exact (quiet_of_eq rfl rfl).tells
  | onInputDataChannelDied died => exact ((quiet_clearDataChannel s _).mono fun _ => trivial).tells
  | onRemoteSaDied =>
      have cleared : Quiet channel (Hears channel s .onRemoteSaDied) s
        (s.clearDataChannel s.dataChannelObject) :=
        (quiet_clearDataChannel s _).mono fun _ => trivial
      have uncontrolled : Quiet channel True (s.clearDataChannel s.dataChannelObject)
          { s.clearDataChannel s.dataChannelObject with controlChannel := false } := quiet_of_eq rfl rfl
      have alone := cleared.trans (uncontrolled.mono fun _ => trivial)
      exact (alone.trans ((quiet_tellIme _ rfl).mono fun _ => trivial)).tells
  | onStopInputService isTerminateIme =>
      show Tells channel _ s (s.onStopInputService isTerminateIme).2
      unfold onStopInputService
      split
      · exact (quiet_refl s).tells
      · split
        · have marked : Quiet channel (Hears channel s (.onStopInputService isTerminateIme)) s
              { s with isImeTerminating := true } := quiet_of_eq rfl rfl
          exact (marked.trans ((quiet_tellIme _ rfl).mono fun _ => trivial)).tells
        · exact (quiet_refl s).tells
  | onNotifyPreemption scene => exact tells_stopInput _ _ _ _ _ fun given => given.1
  | setProxyIme isProxyIme => exact (quiet_of_eq rfl rfl).tells
  | setImeMirrorEnable isImeMirrorEnable => exact (quiet_of_eq rfl rfl).tells
  | windowChanged type windowState =>
      simp only [step]
      split
      · exact (quiet_refl s).tells
      case h_2 panel there =>
        have moved : Quiet channel (Hears channel s (.windowChanged type windowState)) s
            (s.setPanel type (some { panel with windowState })) :=
          ⟨[], (List.append_nil _).symm, by simp, fun given => showing_setPanel_other given.2.2 _⟩
        exact moved.tells

/-- What it was told stays so while it hears. -/
theorem Informed.step (informed : Informed channel s) {e : Event} (hears : Hears channel s e) :
    Informed channel (step s e) := by
  rcases step_tells s e hears.2.1 with ⟨-, -, now⟩ | ⟨news, told, other, same⟩
  · exact now
  · unfold Informed
    rw [told, heard_other other, same hears]
    exact informed

/-- The call tells the text field something about the keyboard. -/
def TellsOf (channel : Remote) (s : InputMethodAbility) (e : Event) : Prop :=
  ∃ said ∈ (step s e).told.drop s.told.length, (said.visible? channel).isSome

theorem informed_of_tellsOf {e : Event} (tells : TellsOf channel s e) (made : ¬ Promises s e) :
    Informed channel (step s e) := by
  have step : Tells channel (Hears channel s e) s (step s e) := step_tells s e made
  rcases step with ⟨-, -, now⟩ | ⟨news, told, other, -⟩
  · exact now
  · obtain ⟨said, member, about⟩ := tells
    rw [told, List.drop_left] at member
    rw [other said member] at about
    cases about

/-- There is no panel, and nothing is said but that the keyboard is shown. -/
def Promised (channel : Remote) (s s' : InputMethodAbility) : Prop :=
  s'.panels .SOFT_KEYBOARD = none ∧
    ∃ news, s'.told = s.told ++ news ∧ ∀ said ∈ news, said.visible? channel ≠ some false

theorem Quiet.promised {s s' : InputMethodAbility} (quiet : Quiet channel True s s')
    (absent : s'.panels .SOFT_KEYBOARD = none) : Promised channel s s' := by
  obtain ⟨news, told, other, -⟩ := quiet
  exact ⟨absent, news, told, fun said member => by simp [other said member]⟩

theorem Promised.trans {s s' s'' : InputMethodAbility} (first : Promised channel s s')
    (second : Promised channel s' s'') : Promised channel s s'' := by
  obtain ⟨-, news, told, promising⟩ := first
  obtain ⟨absent, news', told', promising'⟩ := second
  refine ⟨absent, news ++ news', by rw [told', told, List.append_assoc], fun said member => ?_⟩
  exact (List.mem_append.1 member).elim (promising said) (promising' said)

theorem promised_showKeyboardImplWithoutLock (scene : Scene) (cmdId : Nat)
    (absent : s.panels .SOFT_KEYBOARD = none) :
    Promised channel s (s.showKeyboardImplWithoutLock scene cmdId).2 := by
  unfold showKeyboardImplWithoutLock
  split
  · exact (quiet_refl s).promised absent
  · split
    · exact (quiet_refl s).promised absent
    · rw [absent]
      have sent : Promised channel s (s.awaitShow.sendKeyboardStatus true) := by
        unfold sendKeyboardStatus tellClient
        split
        · refine ⟨absent, [_], rfl, fun said member => ?_⟩
          rw [List.mem_singleton.1 member, Told.visible?]
          split <;> simp
        · exact ⟨absent, [], (List.append_nil _).symm, by simp⟩
      exact sent.trans ((quiet_tellIme _ rfl).promised ((congrFun (panels_tellIme ..) _).trans sent.1))

theorem promised_startInputShowPanel (scene : Scene) (needShow : Bool)
    (absent : s.panels .SOFT_KEYBOARD = none) :
    Promised channel s (s.startInputShowPanel scene needShow) := by
  unfold startInputShowPanel
  dsimp only
  split
  · have shown : Promised channel s _ := promised_showKeyboardImplWithoutLock s scene s.cmdId absent
    exact shown.trans ((quiet_of_eq rfl rfl).promised shown.1)
  · exact (quiet_of_eq rfl rfl).promised absent

theorem step_promised {e : Event} (promises : Promises s e) : Promised channel s (step s e) := by
  obtain ⟨absent, shows⟩ := promises
  cases e <;> try exact shows.elim
  case startInput clientInfo isBindFromClient scene =>
    show Promised channel s (s.startInputInner scene clientInfo isBindFromClient).2
    unfold startInputInner
    split
    · exact (quiet_refl s).promised absent
    case h_2 object _ =>
      have bound := setInputDataChannel_told s scene object
      have before : Promised channel s
        ((s.setInputDataChannel scene object).startInputHidePanel scene clientInfo) := by
        refine ⟨(startInputHidePanel_panels _ scene clientInfo).2 (by rw [bound.2, absent]),
          [], ?_, by simp⟩
        rw [startInputHidePanel_told, bound.1, List.append_nil]
      obtain ⟨quiet, audience⟩ := @quiet_startInputCallback channel scene
        ((s.setInputDataChannel scene object).startInputHidePanel scene clientInfo) clientInfo
          isBindFromClient
      have called := before.trans (quiet.promised (by rw [panels_of_audience audience, before.1]))
      dsimp only
      split
      · exact called
      · split
        · exact called.trans (promised_startInputShowPanel _ scene _ called.1)
        · exact called.trans ((quiet_of_eq rfl rfl).promised called.1)
  case complete scene =>
    show Promised channel s (s.complete scene)
    unfold complete
    split
    · exact (quiet_refl s).promised absent
    case h_2 needShow pending _ =>
      have resumed : Promised channel s { s with pending } := (quiet_of_eq rfl rfl).promised absent
      exact resumed.trans (promised_startInputShowPanel _ scene needShow absent)
  case showKeyboard requestKeyboardReason scene =>
    have counted : Promised channel s s.nextCmd := (quiet_of_eq rfl rfl).promised absent
    have audience := audience_invokeAttachOptionsCallback s.nextCmd
      { isSimpleKeyboardEnabled := s.attachOptions.isSimpleKeyboardEnabled,
        requestKeyboardReason } false
    have still := (congrFun (panels_of_audience audience) .SOFT_KEYBOARD).trans absent
    have invoked := counted.trans ((quiet_invokeAttachOptionsCallback s.nextCmd _ false).promised still)
    exact invoked.trans (promised_showKeyboardImplWithoutLock _ scene _ still)

/-- **A keyboard that is only promised is not there**: where a call tells a text field of it, that is
not so at its end. -/
theorem promised_untrue {e : Event} (promises : Promises s e) (tells : TellsOf channel s e) :
    ¬ Informed channel (step s e) := by
  obtain ⟨absent, news, told, promising⟩ : Promised channel s (step s e) := step_promised s promises
  unfold TellsOf at tells
  rw [told, List.drop_left] at tells
  unfold Informed showing
  rw [told, heard_promise promising tells, absent]
  simp

/-- **A text field is right about the keyboard.**  In every run: after a call that tells it that the
keyboard is shown or hidden it is right, unless a show found no panel and only promises a keyboard; and
as long as it hears of the calls that follow, what it was told last is what is on the screen. -/
theorem informed_run (before after : List Event) (e : Event)
    (tells : TellsOf channel (run Keyboard.step {} before) e) :
    (Informed channel (Keyboard.step (run Keyboard.step {} before) e) ↔
        ¬ Promises (run Keyboard.step {} before) e) ∧
      (¬ Promises (run Keyboard.step {} before) e →
        Meets Keyboard.step (Hears channel) (Keyboard.step (run Keyboard.step {} before) e) after →
        Informed channel (run Keyboard.step {} (before ++ e :: after))) := by
  have right := informed_of_tellsOf (run Keyboard.step {} before) tells
  refine ⟨⟨fun informed promises => promised_untrue _ promises tells informed, right⟩,
    fun made hears => ?_⟩
  rw [Lib.run_append, Lib.run_cons]
  exact Lib.run_keeps (fun s e informed hears => informed.step s hears) (right made) hears

end Runs

/-! ## Poles -/

section Poles

/-- A text field is bound to an input method that has a fixed keyboard. -/
def boundField : List Event :=
  [.setImeListener, .createPanel .SOFT_KEYBOARD .FLG_FIXED {},
    .startInput { channel := some 1 } true {}, .complete {}]

/-- It is shown by a call, hidden by the user and shown again. -/
theorem boundField_informed :
    Informed 1 (run step {} (boundField ++
      .showKeyboard 0 {} :: [.hideKeyboardSelf {}, .showPanel .SOFT_KEYBOARD {}])) := by
  refine (informed_run boundField _ (.showKeyboard 0 {}) ?_).2 ?_ ?_
  · unfold TellsOf
    decide
  · rintro ⟨absent, -⟩
    cases absent
  · refine ⟨⟨⟨rfl, rfl, ?_⟩, fun promises => promises.2, trivial⟩,
      ⟨⟨rfl, rfl, ?_⟩, fun promises => promises.2, trivial⟩, trivial⟩
    · intro panel there
      cases there
      intro candidate
      cases candidate
    · intro panel there
      cases there
      intro candidate
      cases candidate

/-- Destroying the panel is not told: the text field goes on making room for it. -/
example : heard 1 (run step {}
    (boundField ++ [.showKeyboard 0 {}, .destroyPanel .SOFT_KEYBOARD {}])).told = some true ∧
    (run step {} (boundField ++ [.showKeyboard 0 {}, .destroyPanel .SOFT_KEYBOARD {}])).showing =
      false := by
  decide

/-- A text field that asks for a keyboard is told that it is shown before the input method has made
one. -/
example : heard 1 (run step {}
    [.setImeListener, .startInput { channel := some 1 } true {}, .complete {},
      .showKeyboard 0 {}]).told = some true ∧
    (run step {} [.setImeListener, .startInput { channel := some 1 } true {}, .complete {},
      .showKeyboard 0 {}]).showing = false := by
  decide

end Poles

end Imf.Keyboard
