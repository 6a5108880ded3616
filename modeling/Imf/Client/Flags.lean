/-
# Imf.Client.Flags -- the flags of the session, from every thread

`isBound_`, `isEditable_`, the text listener and the agents are written one by one, without a common
lock, by calls of the editor that span an answer of the service and by calls of the service that come
in between.  Each access is a step here, and so is each answer.

`session_coherent` says that the fields agree whenever no operation is in progress, as long as five
writes find the field that they rely on as they need it (`Heeds`).
-/
import Imf.Client.Controller
import Imf.Lib.Run
import Imf.Lib.Threads

namespace Imf.Client.Flags

set_option autoImplicit false

open Lib (Meets exists_mem_goOn goOn mem_goOn_iff run run_keeps)

/-- The session before an attach. -/
structure Previous where
  textListener : Option Nat
  textConfig : TextConfig
  isBound : Bool
  isEditable : Bool
  deriving DecidableEq

/-- What an operation does next.  `ready` is the rest of `SetInputReady`; `closing` are the steps of
`OnInputStop` when `Close` calls it. -/
inductive Thread where
  | getTextListener (request : Request) (previous : Previous)
  | clearEditorCache (request : Request) (isNewEditor : Bool) (previous : Previous)
  | setTextListener (request : Request) (previous : Previous)
  | saveTextConfig (request : Request) (previous : Previous)
  | startInput (request : Request) (previous : Previous)
  | attachFailed (previous : Previous)
  | ready (rest : List (Option Nat × String))
  | readyEditable (agentObject : Option Nat) (bundleName : String) (rest : List (Option Nat × String))
  | readyAgent (agentObject : Option Nat) (bundleName : String) (rest : List (Option Nat × String))
  | showInput
  | storeEditable
  | storeUneditable
  | hideInput
  | releaseInput
  | clearAgentInfo (closing : Bool)
  | storeUnbound (closing : Bool)
  | storeStopped (closing : Bool)
  | dropListener
  deriving DecidableEq

/-- `failed` is what was before the last attach that has failed, until the session is bound again. -/
structure State where
  controller : Controller := {}
  threads : List Thread := []
  failed : Option Previous := none
  deriving DecidableEq

def previousOf (s : Controller) : Previous where
  textListener := s.textListener
  textConfig := s.textConfig
  isBound := s.isBound
  isEditable := s.isEditable

section Steps

variable (scale : Nat → CursorInfo → CursorInfo)

namespace State

variable (s : State)

/-- One step of an operation, and what it does then.  `reachable`: `ReleaseInput` finds the service. -/
def advance (answer : Answer) (reachable : Bool) : Thread → State × Option Thread
  | .getTextListener request previous =>
      let isNotifyInputStart : Bool := s.controller.textListener ≠ request.listener
      ({ s with controller := { s.controller with isNotifyInputStart } },
        some (.clearEditorCache request isNotifyInputStart previous))
  | .clearEditorCache request isNewEditor previous =>
      ({ s with controller := s.controller.clearEditorCache isNewEditor },
        some (.setTextListener request previous))
  | .setTextListener request previous =>
      ({ s with controller := s.controller.setTextListener request.listener },
        some (.saveTextConfig request previous))
  | .saveTextConfig request previous =>
      ({ s with controller := s.controller.saveTextConfig scale answer.capacities request.textConfig },
        some (.startInput request previous))
  | .startInput request previous =>
      let controller := { s.controller with
        isShowKeyboard := request.isShowKeyboard, type := request.type }
      if answer.ret ≠ NO_ERROR then ({ s with controller }, some (.attachFailed previous))
      else
        ({ s with controller := { controller with state := .active } },
          some (.ready (if answer.agents.length ≠ answer.imeInfos.length then []
            else answer.agents.zip answer.imeInfos)))
  | .attachFailed previous =>
      ({ s with controller := s.controller.setTextListener none, failed := some previous }, none)
  | .ready [] => (s, none)
  | .ready ((agentObject, bundleName) :: rest) =>
      if bundleName ≠ IME_MIRROR_NAME then
        ({ s with controller := { s.controller with isBound := true }, failed := none },
          some (.readyEditable agentObject bundleName rest))
      else (s, some (.readyAgent agentObject bundleName rest))
  | .readyEditable agentObject bundleName rest =>
      ({ s with controller := { s.controller with isEditable := true } },
        some (.readyAgent agentObject bundleName rest))
  | .readyAgent agentObject bundleName rest =>
      ({ s with
          controller := match agentObject with
            | none => s.controller
            | some agentObject => s.controller.setAgent agentObject bundleName }, some (.ready rest))
  | .showInput => (s, if answer.ret ≠ NO_ERROR then none else some .storeEditable)
  | .storeEditable => ({ s with controller := { s.controller with isEditable := true } }, none)
  | .storeUneditable =>
      ({ s with controller := { s.controller with isEditable := false } }, some .hideInput)
  | .hideInput => (s, none)
  | .releaseInput =>
      (s, if reachable = false then none else if answer.ret = NO_ERROR then some (.clearAgentInfo true)
        else some .dropListener)
  | .clearAgentInfo closing =>
      ({ s with controller := s.controller.clearAgentInfo }, some (.storeUnbound closing))
  | .storeUnbound closing =>
      ({ s with controller := { s.controller with isBound := false } }, some (.storeStopped closing))
  | .storeStopped closing =>
      ({ s with
          controller :=
            { s.controller with
              isEditable := false
              isTextNotified := false
              textString := []
              selectOldBegin := INVALID_VALUE
              selectOldEnd := INVALID_VALUE
              selectNewBegin := INVALID_VALUE
              selectNewEnd := INVALID_VALUE } }, if closing then some .dropListener else none)
  | .dropListener => ({ s with controller := s.controller.setTextListener none }, none)

def begin (thread : Thread) : State := { s with threads := s.threads ++ [thread] }

end State

/-- The calls of the editor and of the service, and a step of an operation in progress. -/
inductive Turn where
  | attach (request : Request)
  | showTextInput
  | hideTextInput
  | close
  | stopInputSession
  | onInputReady (agentObject : Nat) (bundleName : String)
  | onInputStop
  | advance (k : Nat) (answer : Answer) (reachable : Bool)
  deriving DecidableEq

def step (s : State) : Turn → State
  | .attach request =>
      if isValidTextConfig request.textConfig ≠ NO_ERROR then s
      else s.begin (.getTextListener request (previousOf s.controller))
  | .showTextInput =>
      if s.controller.checkBound then
        State.begin { s with controller := { s.controller with isShowKeyboard := true } } .showInput
      else s
  | .hideTextInput => if s.controller.checkBound then s.begin .storeUneditable else s
  | .close => s.begin .releaseInput
  | .stopInputSession => s.begin .storeUneditable
  | .onInputReady agentObject bundleName => s.begin (.ready [(some agentObject, bundleName)])
  | .onInputStop => s.begin (.clearAgentInfo false)
  | .advance k answer reachable =>
      match s.threads[k]? with
      | none => s
      | some thread =>
          let (s', next) := s.advance scale answer reachable thread
          { s' with threads := goOn s.threads k next }

end Steps

/-- An editable session is bound, a bound one has a listener and an agent; after an attach that has
failed the session is what it was, or there is none. -/
structure Coherent (s : State) : Prop where
  editable : s.controller.isEditable = true → s.controller.isBound = true
  bound : s.controller.isBound = true → s.controller.textListener ≠ none ∧ s.controller.getAgent ≠ none
  failed : ∀ previous ∈ s.failed, previousOf s.controller = previous ∨
    s.controller.isBound = false ∧ s.controller.isEditable = false

/-- The listener is set to null while nothing is bound; the session is bound while there is a listener,
and to an agent that is not null nor known as a mirror; it becomes editable while it is bound. -/
def Thread.Heeds (s : Controller) : Thread → Prop
  | .setTextListener request _ => request.listener = none → s.isBound = false
  | .attachFailed _ => s.isBound = false
  | .dropListener => s.isBound = false
  | .ready ((agentObject, bundleName) :: _) =>
      bundleName ≠ IME_MIRROR_NAME → s.textListener ≠ none ∧ agentObject ≠ none
  | .readyEditable _ _ _ => s.isBound = true
  | .readyAgent agentObject bundleName _ => bundleName ≠ IME_MIRROR_NAME →
      ∀ object ∈ agentObject, ∀ agentInfo ∈ s.agentInfoList, agentInfo.agentObject = object →
        agentInfo.imeType ≠ .imeMirror
  | .storeEditable => s.isBound = true
  | _ => True

instance Thread.decidableHeeds (s : Controller) : (thread : Thread) → Decidable (thread.Heeds s)
  | .setTextListener _ _ => inferInstanceAs (Decidable (_ = none → _ = false))
  | .attachFailed _ | .dropListener => inferInstanceAs (Decidable (_ = false))
  | .ready ((_, _) :: _) => inferInstanceAs (Decidable (_ ≠ _ → _ ≠ none ∧ _ ≠ none))
  | .readyEditable _ _ _ | .storeEditable => inferInstanceAs (Decidable (_ = true))
  | .readyAgent agentObject _ _ =>
      inferInstanceAs (Decidable
        (_ ≠ _ → ∀ object ∈ agentObject, ∀ agentInfo ∈ s.agentInfoList, _ = _ → _ ≠ _))
  | .getTextListener .. | .clearEditorCache .. | .saveTextConfig .. | .startInput .. | .ready
      [] | .showInput
  | .storeUneditable | .hideInput | .releaseInput | .clearAgentInfo _ | .storeUnbound
      _ | .storeStopped _ =>
      .isTrue trivial

def Heeds (s : State) : Turn → Prop
  | .advance k _ _ => ∀ thread ∈ s.threads[k]?, thread.Heeds s.controller
  | _ => True

instance decidableHeeds (s : State) : (e : Turn) → Decidable (Heeds s e)
  | .advance k _ _ => inferInstanceAs (Decidable (∀ thread ∈ s.threads[k]?, thread.Heeds s.controller))
  | .attach _ | .showTextInput | .hideTextInput | .close | .stopInputSession | .onInputReady .. | .onInputStop =>
      .isTrue trivial

/-! ## What is in progress -/

/-- The operation will store that the session is not editable. -/
def Thread.Stops : Thread → Prop
  | .storeStopped _ => True
  | _ => False

/-- The operation will unbind the session, or give it an agent. -/
def Thread.Serves : Thread → Prop
  | .storeUnbound _ => True
  | .readyEditable agentObject bundleName _ | .readyAgent agentObject bundleName _ =>
      bundleName ≠ IME_MIRROR_NAME ∧ agentObject ≠ none
  | _ => False

/-- What holds at every step: what does not agree is being put right. -/
structure Underway (s : State) : Prop where
  editable : s.controller.isEditable = true → s.controller.isBound = true ∨
    ∃ thread ∈ s.threads, thread.Stops
  listener : s.controller.isBound = true → s.controller.textListener ≠ none
  agent : s.controller.isBound = true → s.controller.getAgent ≠ none ∨
    ∃ thread ∈ s.threads, thread.Serves
  failed : s.failed ≠ none → s.controller.isBound = false

theorem Underway.coherent {s : State} (underway : Underway s) (idle : s.threads = []) : Coherent s := by
  have editable : s.controller.isEditable = true → s.controller.isBound = true := by
    intro editable
    rcases underway.editable editable with bound | ⟨thread, member, -⟩
    · exact bound
    · rw [idle] at member
      cases member
  refine ⟨editable, fun bound => ⟨underway.listener bound, ?_⟩, fun previous failed => .inr ?_⟩
  · rcases underway.agent bound with agent | ⟨thread, member, -⟩
    · exact agent
    · rw [idle] at member
      cases member
  · have unbound := underway.failed (by rw [failed]; exact nofun)
    refine ⟨unbound, ?_⟩
    by_contra set
    rw [editable (eq_true_of_ne_false set)] at unbound
    cases unbound

/-! ## The steps -/

section Steps

variable {s : State} {k : Nat} {thread : Thread} {controller : Controller} {failed : Option Previous}
  {next : Option Thread}

/-- An operation goes on: what does not agree then is put right by what it does next, or by another
one. -/
theorem underway_goOn (picked : s.threads[k]? = some thread)
    (editable : controller.isEditable = true →
      controller.isBound = true ∨ (∃ thread, next = some thread ∧ thread.Stops) ∨
        ((∃ thread ∈ s.threads, thread.Stops) ∧ ¬ thread.Stops))
    (listener : controller.isBound = true → controller.textListener ≠ none)
    (agent : controller.isBound = true →
      controller.getAgent ≠ none ∨ (∃ thread, next = some thread ∧ thread.Serves) ∨
        ((∃ thread ∈ s.threads, thread.Serves) ∧ ¬ thread.Serves))
    (unbound : failed ≠ none → controller.isBound = false) :
    Underway { controller, threads := goOn s.threads k next, failed } := by
  refine ⟨fun set => ?_, listener, fun set => ?_, unbound⟩
  · rcases editable set with bound | ⟨thread, on, stops⟩ | ⟨others, idle⟩
    · exact .inl bound
    · exact .inr ⟨thread, (mem_goOn_iff picked).2 (.inl on), stops⟩
    · exact .inr (exists_mem_goOn picked others fun stops => absurd stops idle)
  · rcases agent set with agent | ⟨thread, on, serves⟩ | ⟨others, idle⟩
    · exact .inl agent
    · exact .inr ⟨thread, (mem_goOn_iff picked).2 (.inl on), serves⟩
    · exact .inr (exists_mem_goOn picked others fun serves => absurd serves idle)

/-- The agents stay, and where the operation was to change them it is still to do so. -/
theorem Underway.keepsAgent (underway : Underway s) {later : Prop} (bound : s.controller.isBound = true)
    (passes : thread.Serves → later) :
    s.controller.getAgent ≠ none ∨ later ∨
      ((∃ thread ∈ s.threads, thread.Serves) ∧ ¬ thread.Serves) := by
  rcases underway.agent bound with agent | others
  · exact .inl agent
  · by_cases serves : thread.Serves
    · exact .inr (.inl (passes serves))
    · exact .inr (.inr ⟨others, serves⟩)

/-- The flags stay, and the operation was not to change them. -/
theorem Underway.keepsEditable (underway : Underway s) {later : Prop}
    (editable : s.controller.isEditable = true) (stops : ¬ thread.Stops) :
    s.controller.isBound = true ∨ later ∨ ((∃ thread ∈ s.threads, thread.Stops) ∧ ¬ thread.Stops) := by
  rcases underway.editable editable with bound | others
  · exact .inl bound
  · exact .inr (.inr ⟨others, stops⟩)

/-- The step leaves the flags and the agents. -/
theorem Underway.quiet (underway : Underway s) (picked : s.threads[k]? = some thread)
    (editable : controller.isEditable = s.controller.isEditable)
    (bound : controller.isBound = s.controller.isBound)
    (agents : controller.agentInfoList = s.controller.agentInfoList)
    (listener : controller.isBound = true → controller.textListener ≠ none)
    (unbound : failed ≠ none → controller.isBound = false) (stops : ¬ thread.Stops)
    (serves : ¬ thread.Serves) :
    Underway { controller, threads := goOn s.threads k next, failed } := by
  refine underway_goOn picked (fun set => ?_) listener (fun set => ?_) unbound
  · rw [editable] at set
    rw [bound]
    exact underway.keepsEditable set stops
  · rw [bound] at set
    have same : controller.getAgent = s.controller.getAgent := by
      unfold Controller.getAgent
      rw [agents]
    rw [same]
    exact underway.keepsAgent set fun serving => absurd serving serves

/-- The step leaves the listener as well. -/
theorem Underway.framed (underway : Underway s) (picked : s.threads[k]? = some thread)
    (frame : controller.isEditable = s.controller.isEditable ∧
      controller.isBound = s.controller.isBound ∧
      controller.agentInfoList = s.controller.agentInfoList ∧ controller.textListener =
        s.controller.textListener)
    (stops : ¬ thread.Stops) (serves : ¬ thread.Serves) :
    Underway { controller, threads := goOn s.threads k next, failed := s.failed } := by
  obtain ⟨editable, bound, agents, same⟩ := frame
  refine underway.quiet picked editable bound agents (fun set => ?_) (fun failed => ?_) stops serves
  · rw [same]
    exact underway.listener (bound.symm.trans set)
  · rw [bound]
    exact underway.failed failed

end Steps

section Agents

variable {s : Controller} {agentObject : Nat} {bundleName : String}

theorem getAgent_ne_none : s.getAgent ≠ none ↔ ∃ agentInfo ∈ s.agentInfoList,
    agentInfo.imeType ≠ .imeMirror := by
  unfold Controller.getAgent
  rw [← Option.isSome_iff_ne_none, List.find?_isSome]
  simp only [decide_eq_true_eq]

theorem getAgent_setAgent (agent : s.getAgent ≠ none) :
    (s.setAgent agentObject bundleName).getAgent ≠ none := by
  rw [getAgent_ne_none] at agent ⊢
  obtain ⟨agentInfo, member, real⟩ := agent
  unfold Controller.setAgent
  split
  · exact ⟨agentInfo, member, real⟩
  · exact ⟨agentInfo, List.mem_append_left _ member, real⟩

/-- An agent that is no mirror, nor known as one, is there once it is set. -/
theorem getAgent_set (real : bundleName ≠ IME_MIRROR_NAME)
    (known : ∀ agentInfo ∈ s.agentInfoList,
      agentInfo.agentObject = agentObject → agentInfo.imeType ≠ .imeMirror) :
    (s.setAgent agentObject bundleName).getAgent ≠ none := by
  rw [getAgent_ne_none]
  unfold Controller.setAgent
  split
  · rename_i there
    obtain ⟨agentInfo, member, same⟩ := List.any_eq_true.1 there
    exact ⟨agentInfo, member, known agentInfo member (of_decide_eq_true same)⟩
  · exact ⟨_, List.mem_append_right _ (List.mem_singleton.2 rfl), nofun⟩

theorem setAgent_frame (s : Controller) (agentObject : Nat) (bundleName : String) :
    (s.setAgent agentObject bundleName).isEditable = s.isEditable ∧
      (s.setAgent agentObject bundleName).isBound = s.isBound ∧
      (s.setAgent agentObject bundleName).textListener = s.textListener := by
  unfold Controller.setAgent
  split <;> exact ⟨rfl, rfl, rfl⟩

end Agents

section Advance

variable (scale : Nat → CursorInfo → CursorInfo) {s : State} {k : Nat} {thread : Thread}

theorem clearEditorCache_frame (controller : Controller) (isNewEditor : Bool) :
    (controller.clearEditorCache isNewEditor).isEditable = controller.isEditable ∧
      (controller.clearEditorCache isNewEditor).isBound = controller.isBound ∧
      (controller.clearEditorCache isNewEditor).agentInfoList = controller.agentInfoList ∧
      (controller.clearEditorCache isNewEditor).textListener = controller.textListener := by
  unfold Controller.clearEditorCache Controller.clearEditorContent
  split <;> exact ⟨rfl, rfl, rfl, rfl⟩

theorem saveTextConfig_frame (controller : Controller) (capacities : Capacities)
    (textConfig : TextConfig) :
    (controller.saveTextConfig scale capacities textConfig).isEditable = controller.isEditable ∧
      (controller.saveTextConfig scale capacities textConfig).isBound = controller.isBound ∧
      (controller.saveTextConfig scale capacities textConfig).agentInfoList = controller.agentInfoList ∧
      (controller.saveTextConfig scale capacities textConfig).textListener =
        controller.textListener := by
  unfold Controller.saveTextConfig Controller.storeRange
  split <;> exact ⟨rfl, rfl, rfl, rfl⟩

/-- The agent of a service answer is set. -/
theorem Underway.readyAgent (underway : Underway s) {agentObject : Option Nat} {bundleName : String}
    {rest : List (Option Nat × String)}
    (picked : s.threads[k]? = some (.readyAgent agentObject bundleName rest))
    (heeds : (Thread.readyAgent agentObject bundleName rest).Heeds s.controller) (answer : Answer)
    (reachable : Bool) :
    Underway { (s.advance scale answer reachable (.readyAgent agentObject bundleName rest)).1 with
      threads := goOn s.threads k
        (s.advance scale answer reachable (.readyAgent agentObject bundleName rest)).2 } := by
  cases agentObject with
  | none => exact underway.framed picked ⟨rfl, rfl, rfl, rfl⟩ not_false fun serves => serves.2 rfl
  | some object =>
      obtain ⟨editable, bound, same⟩ := setAgent_frame s.controller object bundleName
      have listener := underway.listener
      have unbound := underway.failed
      rw [← bound, ← same] at listener
      rw [← bound] at unbound
      refine underway_goOn picked (fun set => ?_) listener (fun set => ?_) unbound
      · show (s.controller.setAgent object bundleName).isBound = true ∨ _
        rw [bound]
        exact underway.keepsEditable (editable.symm.trans set) not_false
      · rcases underway.agent (bound.symm.trans set) with agent | others
        · exact .inl (getAgent_setAgent agent)
        · by_cases serves : (Thread.readyAgent (some object) bundleName rest).Serves
          · exact .inl (getAgent_set serves.1 (heeds serves.1 object rfl))
          · exact .inr (.inr ⟨others, serves⟩)

theorem advance_underway (underway : Underway s) (picked : s.threads[k]? = some thread)
    (heeds : thread.Heeds s.controller) (answer : Answer) (reachable : Bool) :
    Underway { (s.advance scale answer reachable thread).1 with
      threads := goOn s.threads k (s.advance scale answer reachable thread).2 } := by
  have listener := underway.listener
  have unbound := underway.failed
  cases thread with
  | getTextListener request previous =>
      exact underway.framed picked ⟨rfl, rfl, rfl, rfl⟩ not_false not_false
  | clearEditorCache request isNewEditor previous =>
      exact underway.framed picked (clearEditorCache_frame s.controller isNewEditor) not_false not_false
  | setTextListener request previous =>
      refine underway.quiet picked rfl rfl rfl (fun bound none => ?_) unbound not_false not_false
      exact absurd (bound.symm.trans (heeds none)) nofun
  | saveTextConfig request previous =>
      exact underway.framed picked
        (saveTextConfig_frame scale s.controller answer.capacities request.textConfig)
        not_false not_false
  | startInput request previous =>
      simp only [State.advance]
      split
      · exact underway.framed picked ⟨rfl, rfl, rfl, rfl⟩ not_false not_false
      · exact underway.framed picked ⟨rfl, rfl, rfl, rfl⟩ not_false not_false
  | attachFailed previous =>
      refine underway.quiet picked rfl rfl rfl (fun bound => ?_) (fun _ => heeds) not_false not_false
      exact absurd (bound.symm.trans heeds) nofun
  | ready rest =>
      cases rest with
      | nil => exact underway.framed picked ⟨rfl, rfl, rfl, rfl⟩ not_false not_false
      | cons first rest =>
          simp only [State.advance]
          split
          · rename_i real
            obtain ⟨there, object⟩ := heeds real
            exact underway_goOn picked (fun _ => .inl rfl) (fun _ => there)
              (fun _ => .inr (.inl ⟨_, rfl, real, object⟩)) (fun failed => absurd rfl failed)
          · exact underway.framed picked ⟨rfl, rfl, rfl, rfl⟩ not_false not_false
  | readyEditable agentObject bundleName rest =>
      exact underway_goOn picked (fun _ => .inl heeds) listener
        (fun bound => underway.keepsAgent bound fun serves => ⟨_, rfl, serves⟩) unbound
  | readyAgent agentObject bundleName rest =>
      exact underway.readyAgent scale picked heeds answer reachable
  | showInput => exact underway.framed picked ⟨rfl, rfl, rfl, rfl⟩ not_false not_false
  | storeEditable =>
      exact underway_goOn picked (fun _ => .inl heeds) listener
        (fun bound => underway.keepsAgent bound False.elim) unbound
  | storeUneditable =>
      exact underway_goOn picked nofun listener
        (fun bound => underway.keepsAgent bound False.elim) unbound
  | hideInput => exact underway.framed picked ⟨rfl, rfl, rfl, rfl⟩ not_false not_false
  | releaseInput => exact underway.framed picked ⟨rfl, rfl, rfl, rfl⟩ not_false not_false
  | clearAgentInfo closing =>
      exact underway_goOn picked (fun editable => underway.keepsEditable editable not_false) listener
        (fun _ => .inr (.inl ⟨_, rfl, trivial⟩)) unbound
  | storeUnbound closing =>
      exact underway_goOn picked (fun _ => .inr (.inl ⟨_, rfl, trivial⟩)) nofun nofun fun _ => rfl
  | storeStopped closing =>
      exact underway_goOn picked nofun listener
        (fun bound => underway.keepsAgent bound False.elim) unbound
  | dropListener =>
      refine underway.quiet picked rfl rfl rfl (fun bound => ?_) (fun _ => heeds) not_false not_false
      exact absurd (bound.symm.trans heeds) nofun

end Advance

section Run

variable (scale : Nat → CursorInfo → CursorInfo) {s : State}

/-- An operation begins. -/
theorem Underway.begin (underway : Underway s) (thread : Thread) : Underway (s.begin thread) := by
  refine ⟨fun editable => ?_, underway.listener, fun bound => ?_, underway.failed⟩
  · rcases underway.editable editable with bound | ⟨other, member, stops⟩
    · exact .inl bound
    · exact .inr ⟨other, List.mem_append_left _ member, stops⟩
  · rcases underway.agent bound with agent | ⟨other, member, serves⟩
    · exact .inl agent
    · exact .inr ⟨other, List.mem_append_left _ member, serves⟩

theorem step_underway (underway : Underway s) {e : Turn} (heeds : Heeds s e) :
    Underway (step scale s e) := by
  cases e with
  | attach request =>
      simp only [step]
      split
      · exact underway
      · exact underway.begin _
  | showTextInput =>
      simp only [step]
      split
      · have shown : Underway { s with controller := { s.controller with isShowKeyboard := true } } :=
          ⟨underway.editable, underway.listener, underway.agent, underway.failed⟩
        exact shown.begin _
      · exact underway
  | hideTextInput =>
      simp only [step]
      split
      · exact underway.begin _
      · exact underway
  | close => exact underway.begin _
  | stopInputSession => exact underway.begin _
  | onInputReady agentObject bundleName => exact underway.begin _
  | onInputStop => exact underway.begin _
  | advance k answer reachable =>
      simp only [step]
      split
      · exact underway
      · rename_i thread picked
        exact advance_underway scale underway picked (heeds thread picked) answer reachable

end Run

/-- **In every run whose writes find what they rely on, the fields agree in every state in which no
operation is in progress.** -/
theorem session_coherent (scale : Nat → CursorInfo → CursorInfo) (es : List Turn)
    (heeds : Meets (step scale) Heeds {} es) (idle : (run (step scale) {} es).threads = []) :
    Coherent (run (step scale) {} es) := by
  have keeps : ∀ s e, Underway s → Heeds s e → Underway (step scale s e) :=
    fun s e underway heeds => step_underway scale underway heeds
  have start : Underway {} := ⟨nofun, nofun, nofun, fun failed => absurd rfl failed⟩
  exact (run_keeps keeps start heeds).coherent idle

/-! ## Poles -/

def editor : Request := ⟨some 1, true, {}, .innerKit⟩

def answered (ret : Int32) : Answer := ⟨⟨false, false, false, false⟩, ret, [some 4], ["ime"]⟩

/-- The operation that began first goes on for so many steps. -/
def steps (n : Nat) (ret : Int32) : List Turn := List.replicate n (.advance 0 (answered ret) true)

def attached : List Turn := .attach editor :: steps 9 NO_ERROR

/-- The editor is attached, shown, hidden and closed. -/
theorem closed_coherent :
    let es := attached ++ [.showTextInput] ++ steps 2 NO_ERROR ++ [.hideTextInput] ++
      steps 2 NO_ERROR ++ [.close] ++
      steps 5 NO_ERROR
    (run (step fun _ cursorInfo => cursorInfo) {} es).threads = [] ∧
      Coherent (run (step fun _ cursorInfo => cursorInfo) {} es) :=
  ⟨by decide, session_coherent (fun _ cursorInfo => cursorInfo) _ (by decide) (by decide)⟩

/-- An attach of the bound editor fails: the session stays bound, without a listener. -/
theorem failed_stays_bound :
    let s := run (step fun _ cursorInfo => cursorInfo) {} (attached ++ .attach editor :: steps 6 34)
    s.threads = [] ∧ ¬ Coherent s := by
  refine ⟨by decide, fun coherent => ?_⟩
  have there := (coherent.bound (by decide)).1
  exact there (by decide)

/-- `OnInputStop` runs between the two flags that `OnInputReady` stores. -/
example :
    let s := run (step fun _ cursorInfo => cursorInfo) {}
      (attached ++ [.onInputStop, .onInputReady 5 "ime"] ++
      [.advance 1 (answered NO_ERROR) true] ++ steps 6 NO_ERROR)
    s.threads = [] ∧ ¬ Coherent s := by
  refine ⟨by decide, fun coherent => ?_⟩
  have bound := coherent.editable (by decide)
  exact absurd bound (by decide)

end Imf.Client.Flags
