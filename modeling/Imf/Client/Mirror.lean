/-
# Imf.Client.Mirror -- what a mirror of the input method is sent

`OnSelectionChange` sends the text of the editor to every agent, but not to the mirror when the
editor takes a password.  The text config that says so is shared: `Attach` clears it and stores the
next one in two sections, `OnConfigurationChange` rewrites it, and the filter reads it when the text
is sent, not when the call began.  Each section is a step here, and so is an answer of the service.

`password_filtered` says exactly when no text of a password editor reaches a mirror.
-/
import Imf.Client.Controller
import Imf.Lib.Run
import Imf.Lib.Threads

namespace Imf.Client.Mirror

set_option autoImplicit false

open Ipc (ImeType InputAttribute)

open Lib (Meets goOn invariant_prefixes_iff_meets run)

/-! ## Calls and threads -/

/-- What `OnConfigurationChange` is given. -/
structure Configuration where
  enterKeyType : Int32
  textInputType : Int32
  consumeKeyEvents : Option Bool
  deriving DecidableEq

/-- A call of `OnSelectionChange`.  `guarded`: the editor had a security pattern when it began. -/
structure Call where
  text : List UInt16
  start : Int
  stop : Int
  guarded : Bool
  deriving DecidableEq

/-- What a thread does next. -/
inductive Thread where
  | clearEditorContent (request : Request) (isNewEditor : Bool)
  | clearTextConfig (request : Request)
  | clearCursorInfo (request : Request)
  | setTextListener (request : Request)
  | storeTextConfig (request : Request)
  | storeRange (request : Request)
  | startInput (request : Request)
  | attachFailed
  | setInputReady (agents : List (Option Nat)) (imeInfos : List String)
  | storeAttribute (info : Configuration) (oldSecurityFlag : Bool)
  | checkEditable (inputAttribute : InputAttribute) (oldSecurityFlag : Bool)
  | startInputAgain
  | updateConfig (call : Call)
  | updateContent (call : Call)
  | sendToAllAgents (call : Call)
  | sendToImeMirrorAgent (functionKey : Int)
  deriving DecidableEq

/-- What an agent was sent. -/
inductive Sent where
  | selection (imeType : ImeType) (call : Call)
      (selectOldBegin selectOldEnd selectNewBegin selectNewEnd : Int)
  | functionKey (key : Int)
  deriving DecidableEq

/-- `editor` is the pattern of the editor, as the last config or configuration that was stored says;
`cleared`: an attach has cleared the config since. -/
structure State where
  controller : Controller
  threads : List Thread := []
  sent : List Sent := []
  editor : Int32
  cleared : Bool := false
  deriving DecidableEq

def isSecurityPattern (inputPattern : Int32) :
    Bool := ({ inputPattern } : InputAttribute).isSecurityImeFlag

/-! ## Steps -/

section Steps

variable (scale : Nat → CursorInfo → CursorInfo)

/-- `SendRequestToAllAgents`, of `OnSelectionChange`. -/
def selectionSent (s : Controller) (call : Call) : List Sent :=
  (s.agentInfoList.filter fun agentInfo =>
    !(agentInfo.imeType = .imeMirror && s.textConfig.inputAttribute.isSecurityImeFlag)).map
      fun agentInfo =>
      .selection agentInfo.imeType call s.selectOldBegin s.selectOldEnd s.selectNewBegin s.selectNewEnd

/-- `SendRequestToImeMirrorAgent`, of `SendFunctionKey`. -/
def functionKeySent (s : Controller) (functionKey : Int) : List Sent :=
  if s.agentInfoList.any (fun agentInfo => agentInfo.imeType = .imeMirror) &&
      !s.textConfig.inputAttribute.isSecurityImeFlag then [.functionKey functionKey]
  else []

/-- `OnConfigurationChange`, under `textConfigLock_`. -/
def storedAttribute (inputAttribute : InputAttribute) (info : Configuration) : InputAttribute :=
  { inputAttribute with
    enterKeyType := info.enterKeyType
    inputPattern := info.textInputType
    consumeKeyEvents := info.consumeKeyEvents.getD inputAttribute.consumeKeyEvents }

namespace State

variable (s : State)

/-- One step of a thread, and what it does then. -/
def advance (answer : Answer) : Thread → State × Option Thread
  | .clearEditorContent request isNewEditor =>
      ({ s with controller := s.controller.clearEditorContent isNewEditor },
        some (.clearTextConfig request))
  | .clearTextConfig request =>
      ({ s with controller := s.controller.clearTextConfig, cleared := true },
        some (.clearCursorInfo request))
  | .clearCursorInfo request =>
      ({ s with controller := s.controller.clearCursorInfo }, some (.setTextListener request))
  | .setTextListener request =>
      ({ s with controller := s.controller.setTextListener request.listener },
        some (.storeTextConfig request))
  | .storeTextConfig request =>
      ({ s with
          controller := s.controller.storeTextConfig scale answer.capacities request.textConfig
          editor := request.textConfig.inputAttribute.inputPattern
          cleared := false }, some (.storeRange request))
  | .storeRange request =>
      ({ s with controller := s.controller.storeRange request.textConfig.range },
        some (.startInput request))
  | .startInput request =>
      let controller := { s.controller with
        isShowKeyboard := request.isShowKeyboard, type := request.type }
      if answer.ret ≠ NO_ERROR then ({ s with controller }, some .attachFailed)
      else
        ({ s with controller := { controller with state := .active } },
          some (.setInputReady answer.agents answer.imeInfos))
  | .attachFailed => ({ s with controller := s.controller.setTextListener none }, none)
  | .setInputReady agents imeInfos =>
      ({ s with controller := s.controller.setInputReady agents imeInfos }, none)
  | .storeAttribute info oldSecurityFlag =>
      let inputAttribute := storedAttribute s.controller.textConfig.inputAttribute info
      ({ s with
          controller := { s.controller with
            textConfig := { s.controller.textConfig with inputAttribute } }
          editor := info.textInputType
          cleared := false }, some (.checkEditable inputAttribute oldSecurityFlag))
  | .checkEditable inputAttribute oldSecurityFlag =>
      (s, if s.controller.checkEditable ∧ oldSecurityFlag ≠ inputAttribute.getSecurityFlag then
        some .startInputAgain
        else none)
  | .startInputAgain =>
      (s, if answer.ret ≠ NO_ERROR then none else some (.setInputReady answer.agents answer.imeInfos))
  | .updateConfig call =>
      ({ s with
          controller :=
            { s.controller with textConfig := { s.controller.textConfig with
              range := ⟨call.start, call.stop⟩ } } },
        some (.updateContent call))
  | .updateContent call =>
      let (controller, changed) := s.controller.updateContent call.text call.start call.stop
      ({ s with controller }, if changed then some (.sendToAllAgents call) else none)
  | .sendToAllAgents call => ({ s with sent := s.sent ++ selectionSent s.controller call }, none)
  | .sendToImeMirrorAgent functionKey =>
      ({ s with sent := s.sent ++ functionKeySent s.controller functionKey }, none)

def begin (thread : Thread) : State := { s with threads := s.threads ++ [thread] }

end State

/-- The calls of the client's threads, a step of one of them, and what the service does to the
agents and the flags. -/
inductive Turn where
  | attach (request : Request)
  | onConfigurationChange (info : Configuration)
  | onSelectionChange (text : List UInt16) (start stop : Int)
  | sendFunctionKey (functionKey : Int)
  | advance (k : Nat) (answer : Answer)
  | serve (agentInfoList : List AgentInfo) (isBound isEditable : Bool)
  deriving DecidableEq

def step (s : State) : Turn → State
  | .attach request =>
      if isValidTextConfig request.textConfig ≠ NO_ERROR then s
      else
        let isNotifyInputStart : Bool := s.controller.textListener ≠ request.listener
        State.begin { s with controller := { s.controller with isNotifyInputStart } }
          (.clearEditorContent request isNotifyInputStart)
  | .onConfigurationChange info =>
      if s.controller.checkBound then
        s.begin (.storeAttribute info s.controller.textConfig.inputAttribute.getSecurityFlag)
      else s
  | .onSelectionChange text start stop =>
      if s.controller.checkBound && s.controller.checkEditable then
        s.begin (.updateConfig { text, start, stop, guarded := isSecurityPattern s.editor })
      else s
  | .sendFunctionKey functionKey =>
      if s.controller.checkEditable && s.controller.textListener.isSome then
        s.begin (.sendToImeMirrorAgent functionKey)
      else s
  | .advance k answer =>
      match s.threads[k]? with
      | none => s
      | some thread =>
          let (s', next) := s.advance scale answer thread
          { s' with threads := goOn s.threads k next }
  | .serve agentInfoList isBound isEditable =>
      { s with controller := { s.controller with agentInfoList, isBound, isEditable } }

end Steps

/-- A controller without calls. -/
def start (controller : Controller) : State :=
  { controller, editor := controller.textConfig.inputAttribute.inputPattern }

/-- The text of a password editor went to a mirror. -/
def Sent.Leaks : Sent → Prop
  | .selection imeType call _ _ _ _ => imeType = .imeMirror ∧ call.guarded = true
  | .functionKey _ => False

def NoLeak (s : State) : Prop := ∀ item ∈ s.sent, ¬ item.Leaks

/-- When the text of a password editor is sent with a mirror among the agents, the editor still has a
security pattern, or has one again, and no attach has cleared the config. -/
def Heeds (s : State) : Turn → Prop
  | .advance k _ => ∀ call, s.threads[k]? = some (.sendToAllAgents call) → call.guarded = true →
      (∃ agentInfo ∈ s.controller.agentInfoList, agentInfo.imeType = .imeMirror) →
        s.cleared = false ∧ isSecurityPattern s.editor = true
  | _ => True

/-! ## The pattern that the filter reads -/

/-- The pattern of the config is that of the editor, but for an attach that has cleared it. -/
def Tracks (s : State) : Prop :=
  s.controller.textConfig.inputAttribute.inputPattern = if s.cleared then 0 else s.editor

theorem isSecurityImeFlag_eq (inputAttribute : InputAttribute) :
    inputAttribute.isSecurityImeFlag = isSecurityPattern inputAttribute.inputPattern := rfl

/-- The filter lets text pass to a mirror exactly when the config is cleared or the pattern is
another. -/
theorem Tracks.filter {s : State} (tracks : Tracks s) :
    s.controller.textConfig.inputAttribute.isSecurityImeFlag = true ↔
      s.cleared = false ∧ isSecurityPattern s.editor = true := by
  rw [isSecurityImeFlag_eq, tracks]
  have plain : ¬ isSecurityPattern 0 = true := by decide
  cases s.cleared with
  | true => exact iff_of_false plain fun both => nomatch both.1
  | false => exact (and_iff_right rfl).symm

section Steps

variable (scale : Nat → CursorInfo → CursorInfo) {s : State}

theorem clearEditorContent_config (controller : Controller) (isNewEditor : Bool) :
    (controller.clearEditorContent isNewEditor).textConfig = controller.textConfig := by
  unfold Controller.clearEditorContent
  split <;> rfl

theorem storeRange_config (controller : Controller) (range : Range) :
    (controller.storeRange range).textConfig = controller.textConfig := by
  unfold Controller.storeRange
  split <;> rfl

theorem setInputReady_config (controller : Controller) (agents : List (Option Nat))
    (imeInfos : List String) :
    (controller.setInputReady agents imeInfos).textConfig = controller.textConfig := by
  obtain ⟨isBound, isEditable, agentInfoList, changed⟩ := setInputReady_frame controller agents imeInfos
  rw [changed]

theorem updateContent_config (controller : Controller) (text : List UInt16) (start stop : Int) :
    (controller.updateContent text start stop).1.textConfig = controller.textConfig := by
  unfold Controller.updateContent
  dsimp only
  split <;> rfl

theorem savedAttribute_inputPattern (capacities : Capacities) (textConfig : TextConfig) :
    (savedAttribute capacities textConfig).inputPattern = textConfig.inputAttribute.inputPattern := by
  simp only [savedAttribute, calibrate_eq]

theorem advance_tracks (tracks : Tracks s) (answer : Answer) (thread : Thread) :
    Tracks (s.advance scale answer thread).1 := by
  unfold Tracks at tracks ⊢
  cases thread with
  | clearEditorContent request isNewEditor =>
      show (s.controller.clearEditorContent isNewEditor).textConfig.inputAttribute.inputPattern = _
      rw [clearEditorContent_config]
      exact tracks
  | clearTextConfig request => rfl
  | clearCursorInfo request => exact tracks
  | setTextListener request => exact tracks
  | storeTextConfig request => exact savedAttribute_inputPattern answer.capacities request.textConfig
  | storeRange request =>
      show (s.controller.storeRange request.textConfig.range).textConfig.inputAttribute.inputPattern = _
      rw [storeRange_config]
      exact tracks
  | startInput request =>
      simp only [State.advance]
      split <;> exact tracks
  | attachFailed => exact tracks
  | setInputReady agents imeInfos =>
      show (s.controller.setInputReady agents imeInfos).textConfig.inputAttribute.inputPattern = _
      rw [setInputReady_config]
      exact tracks
  | storeAttribute info oldSecurityFlag => rfl
  | checkEditable inputAttribute oldSecurityFlag => exact tracks
  | startInputAgain => exact tracks
  | updateConfig call => exact tracks
  | updateContent call =>
      show (s.controller.updateContent call.text call.start
        call.stop).1.textConfig.inputAttribute.inputPattern = _
      rw [updateContent_config]
      exact tracks
  | sendToAllAgents call => exact tracks
  | sendToImeMirrorAgent functionKey => exact tracks

theorem step_tracks (tracks : Tracks s) (e : Turn) : Tracks (step scale s e) := by
  cases e with
  | attach request =>
      simp only [step]
      split <;> exact tracks
  | onConfigurationChange info =>
      simp only [step]
      split <;> exact tracks
  | onSelectionChange text start stop =>
      simp only [step]
      split <;> exact tracks
  | sendFunctionKey functionKey =>
      simp only [step]
      split <;> exact tracks
  | advance k answer =>
      simp only [step]
      split
      · exact tracks
      · exact advance_tracks scale tracks answer _
  | serve agentInfoList isBound isEditable => exact tracks

end Steps

/-! ## What is sent -/

section Sent

variable (scale : Nat → CursorInfo → CursorInfo) {s : State}

/-- The agents are sent the text of a password editor that the filter does not hold back. -/
theorem selectionSent_leaks {controller : Controller} {call : Call} :
    (∀ item ∈ selectionSent controller call, ¬ item.Leaks) ↔
      (call.guarded = true → (∃ agentInfo ∈ controller.agentInfoList, agentInfo.imeType = .imeMirror) →
        controller.textConfig.inputAttribute.isSecurityImeFlag = true) := by
  unfold selectionSent
  rw [List.forall_mem_map]
  constructor
  · rintro clean guarded ⟨agentInfo, member, mirror⟩
    by_contra plain
    refine clean agentInfo (List.mem_filter.2 ⟨member, ?_⟩) ⟨mirror, guarded⟩
    rw [eq_false_of_ne_true plain, Bool.and_false]
    rfl
  · rintro held agentInfo member ⟨mirror, guarded⟩
    obtain ⟨member, passed⟩ := List.mem_filter.1 member
    have secure := held guarded ⟨agentInfo, member, mirror⟩
    simp [mirror, secure] at passed

/-- Other threads send no text. -/
theorem advance_sent (answer : Answer) {thread : Thread}
    (other : ∀ call, thread ≠ .sendToAllAgents call)
    (clean : NoLeak s) : NoLeak (s.advance scale answer thread).1 := by
  cases thread with
  | sendToAllAgents call => exact absurd rfl (other call)
  | sendToImeMirrorAgent functionKey =>
      intro item member
      rcases List.mem_append.1 member with before | key
      · exact clean item before
      · unfold functionKeySent at key
        split at key
        · rw [List.mem_singleton.1 key]
          exact not_false
        · cases key
  | startInput request =>
      simp only [State.advance]
      split <;> exact clean
  | _ => exact clean

theorem step_noLeak_iff (tracks : Tracks s) (clean : NoLeak s) (e : Turn) :
    NoLeak (step scale s e) ↔ Heeds s e := by
  cases e with
  | advance k answer =>
      simp only [step, Heeds]
      split
      · rename_i ended
        rw [ended]
        exact iff_of_true clean nofun
      · rename_i thread running
        rw [running]
        by_cases sends : ∃ call, thread = .sendToAllAgents call
        · obtain ⟨call, rfl⟩ := sends
          have sent : NoLeak { (s.advance scale answer (.sendToAllAgents call)).1 with
              threads := goOn s.threads k (s.advance scale answer (.sendToAllAgents call)).2 } ↔
                ∀ item ∈ s.sent ++ selectionSent s.controller call, ¬ item.Leaks := Iff.rfl
          have before : ∀ item ∈ s.sent, ¬ item.Leaks := clean
          rw [sent, List.forall_mem_append, and_iff_right before, selectionSent_leaks, tracks.filter]
          constructor
          · rintro held _ ⟨⟩
            exact held
          · intro held
            exact held call rfl
        · refine iff_of_true (advance_sent scale answer (fun call same => sends ⟨call, same⟩) clean) ?_
          intro call same
          exact absurd ⟨call, Option.some.inj same⟩ sends
  | attach request =>
      refine iff_of_true ?_ trivial
      simp only [step]
      split <;> exact clean
  | onConfigurationChange info =>
      refine iff_of_true ?_ trivial
      simp only [step]
      split <;> exact clean
  | onSelectionChange text start stop =>
      refine iff_of_true ?_ trivial
      simp only [step]
      split <;> exact clean
  | sendFunctionKey functionKey =>
      refine iff_of_true ?_ trivial
      simp only [step]
      split <;> exact clean
  | serve agentInfoList isBound isEditable => exact iff_of_true clean trivial

end Sent

/-- **No text of a call that began in a password editor reaches a mirror in any state of a run exactly
when, whenever such a text is sent with a mirror among the agents, the editor has a security pattern
and no attach has cleared the config since it was stored.** -/
theorem password_filtered (scale : Nat → CursorInfo → CursorInfo) (controller : Controller)
    (es : List Turn) :
    (∀ fs, fs <+: es → NoLeak (run (step scale) (start controller) fs)) ↔
      Meets (step scale) Heeds (start controller) es :=
  invariant_prefixes_iff_meets (I := fun s _ => Tracks s)
    (fun _ e _ tracks => step_tracks scale tracks e)
    (fun _ e _ tracks clean => step_noLeak_iff scale tracks clean e) rfl
    fun _ member => absurd member List.not_mem_nil

/-! ## Poles -/

/-- A bound password editor, an input method and its mirror. -/
def password : Controller :=
  { textListener := some 1
    textConfig := { inputAttribute := { inputPattern := InputAttribute.PATTERN_PASSWORD } }
    isBound := true
    isEditable := true
    agentInfoList := [⟨4, .none, none, none⟩, ⟨5, .imeMirror, none, none⟩]
    state := .active }

def answered : Answer := ⟨⟨false, false, false, false⟩, NO_ERROR, [], []⟩

def keepScale (_ : Nat) (cursorInfo : CursorInfo) : CursorInfo := cursorInfo

/-- The editor is attached again, as a password editor, while its text is being sent: between the two
sections of the attach the filter finds no pattern. -/
def attachedMeanwhile : List Turn :=
  [.onSelectionChange [49] 1 1, .attach ⟨some 1, true, password.textConfig, .innerKit⟩,
    .advance 0 answered,
    .advance 0 answered, .advance 1 answered, .advance 1 answered, .advance 0 answered]

theorem password_leaks : ¬ NoLeak (run (step keepScale) (start password) attachedMeanwhile) := by
  intro clean
  exact clean (.selection .imeMirror ⟨[49], 1, 1, true⟩ 0 0 1 1) (by decide) ⟨rfl, rfl⟩

end Imf.Client.Mirror
