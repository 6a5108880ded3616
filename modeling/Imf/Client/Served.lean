/-
# Imf.Client.Served -- what the bound input method was told

`OnSelectionChange` and `OnCursorUpdate` do not send what is the same as the last update.  What the
last update was stands in two caches, `isTextNotified_` with the text and its selection, and
`cursorInfo_`; who it was sent to does not.  Agents come by `Attach` and `OnInputReady` and go by
`OnInputStop`, `OnTmpInputStop` and the death of the service, and not all of these reset both caches.

`told_last` says that a run serves every agent as long as no agent is added, and no selection is
replaced, behind the back of a cache that is in use.
-/
import Imf.Client.Restore
import Imf.Lib.Run

namespace Imf.Client.Served

set_option autoImplicit false

open Lib (Meets meets_append run run_append run_keeps)

/-- An attach is one try of it.  The death of the service takes the agents; what follows it are
attaches. -/
inductive Event where
  | attachExec (request : Request) (answer : Answer)
  | onInputReady (agentObject : Option Nat) (bundleName : String)
  | onInputStop
  | onTmpInputStop
  | remoteSaDied
  | onCursorUpdate (cursorInfo : CursorInfo)
  | onSelectionChange (text : List UInt16) (start stop : Int)
  deriving DecidableEq

section Steps

variable (scale : Nat → CursorInfo → CursorInfo)

def step (s : Controller) : Event → Controller
  | .attachExec request answer => (s.attachExec scale request answer).1
  | .onInputReady agentObject bundleName => s.onInputReady agentObject bundleName
  | .onInputStop => s.onInputStop
  | .onTmpInputStop => s.onTmpInputStop
  | .remoteSaDied => s.clearAgentInfo
  | .onCursorUpdate cursorInfo => (s.onCursorUpdate scale cursorInfo).1
  | .onSelectionChange text start stop => (s.onSelectionChange text start stop).1

/-- The input method was told: after a call that returns without an error every agent that is not a
mirror was sent what the call was given, and nothing else after it. -/
def Told (s : Controller) : Event → Prop
  | .onSelectionChange text start stop =>
      (s.onSelectionChange text start stop).2 = NO_ERROR →
        ∀ agentInfo ∈ (s.onSelectionChange text start stop).1.agentInfoList,
          agentInfo.imeType ≠ .imeMirror →
          agentInfo.selection = some (text, start, stop)
  | .onCursorUpdate cursorInfo =>
      (s.onCursorUpdate scale cursorInfo).2 = NO_ERROR →
        ∀ agentInfo ∈ (s.onCursorUpdate scale cursorInfo).1.agentInfoList,
          agentInfo.imeType ≠ .imeMirror →
          let scaled := scale s.textConfig.windowId cursorInfo
          agentInfo.cursor = some (scaled.left, scaled.top, scaled.height)
  | _ => True

/-- `OnInputReady` adds an agent that is not a mirror. -/
def AddsAgent (s : Controller) (agentObject : Option Nat) (bundleName : String) : Prop :=
  bundleName ≠ IME_MIRROR_NAME ∧
    ∃ object ∈ agentObject, ∀ agentInfo ∈ s.agentInfoList, agentInfo.agentObject ≠ object

instance (s : Controller) (agentObject : Option Nat) (bundleName : String) :
    Decidable (AddsAgent s agentObject bundleName) :=
  inferInstanceAs (Decidable (_ ∧ ∃ object ∈ agentObject, _))

/-- The attach is of the editor that is bound, and its text counts as sent. -/
def KeepsText (s : Controller) (request : Request) : Prop :=
  s.textListener = request.listener ∧ s.isBound = true ∧ s.isTextNotified = true

instance (s : Controller) (request : Request) : Decidable (KeepsText s request) :=
  inferInstanceAs (Decidable (_ = _ ∧ _ = _ ∧ _ = _))

/-- An agent is added while no text counts as sent and no cursor is cached; an attach that keeps the
text keeps the selection too; and a cursor that is not set is not reported as the first one. -/
def Heeds (s : Controller) : Event → Prop
  | .attachExec request answer =>
      isValidTextConfig request.textConfig = NO_ERROR → KeepsText s request →
        (request.textConfig.range.start = INVALID_VALUE ∨
          request.textConfig.range = ⟨s.selectNewBegin, s.selectNewEnd⟩) ∧
        (answer.ret = NO_ERROR → ∀ ready ∈ answer.agents.zip answer.imeInfos,
          ¬ AddsAgent s ready.1 ready.2)
  | .onInputReady agentObject bundleName =>
      AddsAgent s agentObject bundleName → s.isTextNotified = false ∧ s.cursorInfo = {}
  | .onCursorUpdate cursorInfo => s.cursorInfo = {} → scale s.textConfig.windowId cursorInfo ≠ {}
  | _ => True

instance decidableHeeds (s : Controller) : (e : Event) → Decidable (Heeds scale s e)
  | .attachExec _ answer =>
      inferInstanceAs (Decidable
        (_ = _ → _ → (_ ∨ _) ∧ (_ → ∀ ready ∈ answer.agents.zip answer.imeInfos, ¬ _)))
  | .onInputReady _ _ => inferInstanceAs (Decidable (_ → _ ∧ _))
  | .onCursorUpdate _ => inferInstanceAs (Decidable (_ → _ ≠ _))
  | .onInputStop | .onTmpInputStop | .remoteSaDied | .onSelectionChange .. => .isTrue trivial

end Steps

/-! ## The caches -/

/-- What the caches say was sent, every agent that is not a mirror was sent last. -/
structure Fresh (s : Controller) : Prop where
  selection : s.isTextNotified = true → ∀ agentInfo ∈ s.agentInfoList, agentInfo.imeType ≠ .imeMirror →
    agentInfo.selection = some (s.textString, s.selectNewBegin, s.selectNewEnd)
  cursor : s.cursorInfo ≠ {} → ∀ agentInfo ∈ s.agentInfoList, agentInfo.imeType ≠ .imeMirror →
    agentInfo.cursor = some (s.cursorInfo.left, s.cursorInfo.top, s.cursorInfo.height)

theorem fresh_no_agents {s : Controller} (none : s.agentInfoList = []) : Fresh s where
  selection _ agentInfo member := by
    rw [none] at member
    cases member
  cursor _ agentInfo member := by
    rw [none] at member
    cases member

section Ready

variable {s : Controller}

/-- The agents after `OnInputReady`. -/
theorem onInputReady_agents (agentObject : Option Nat) (bundleName : String) :
    s.agentInfoList ⊆ (s.onInputReady agentObject bundleName).agentInfoList ∧
      ∀ agentInfo ∈ (s.onInputReady agentObject bundleName).agentInfoList,
        agentInfo ∈ s.agentInfoList ∨ agentInfo.imeType = .imeMirror ∨
          AddsAgent s agentObject bundleName := by
  unfold Controller.onInputReady
  have agents : (if bundleName ≠ IME_MIRROR_NAME then { s with isBound := true, isEditable := true }
      else s).agentInfoList = s.agentInfoList := by
    split <;> rfl
  generalize (if bundleName ≠ IME_MIRROR_NAME then { s with isBound := true, isEditable := true }
    else s) = t at agents
  cases agentObject with
  | none =>
      dsimp only
      rw [agents]
      exact ⟨List.Subset.refl _, fun agentInfo member => .inl member⟩
  | some object =>
      dsimp only
      unfold Controller.setAgent
      rw [agents]
      split
      · rw [agents]
        exact ⟨List.Subset.refl _, fun agentInfo member => .inl member⟩
      · rename_i new
        refine ⟨List.subset_append_left _ _, fun agentInfo member => ?_⟩
        rcases List.mem_append.1 member with before | added
        · exact .inl before
        · rw [List.mem_singleton.1 added]
          by_cases mirror : bundleName = IME_MIRROR_NAME
          · exact .inr (.inl (if_pos mirror))
          · refine .inr (.inr ⟨mirror, object, rfl, fun other member same => new ?_⟩)
            exact List.any_eq_true.2 ⟨other, member, decide_eq_true same⟩

theorem Fresh.onInputReady (fresh : Fresh s) {agentObject : Option Nat} {bundleName : String}
    (heeds : AddsAgent s agentObject bundleName → s.isTextNotified = false ∧ s.cursorInfo = {}) :
    Fresh (s.onInputReady agentObject bundleName) := by
  obtain ⟨-, agents⟩ := onInputReady_agents (s := s) agentObject bundleName
  obtain ⟨isBound, isEditable, agentInfoList, changed⟩ := onInputReady_frame s agentObject bundleName
  rw [changed] at agents ⊢
  constructor
  · intro notified agentInfo member real
    rcases agents agentInfo member with before | mirror | adds
    · exact fresh.selection notified agentInfo before real
    · exact absurd mirror real
    · exact absurd (notified.symm.trans (heeds adds).1) nofun
  · intro set agentInfo member real
    rcases agents agentInfo member with before | mirror | adds
    · exact fresh.cursor set agentInfo before real
    · exact absurd mirror real
    · exact absurd (heeds adds).2 set

theorem Fresh.setInputReady (fresh : Fresh s) {agents : List (Option Nat)} {imeInfos : List String}
    (unset : s.cursorInfo = {})
    (heeds : s.isTextNotified = true → ∀ ready ∈ agents.zip imeInfos, ¬ AddsAgent s ready.1 ready.2) :
    Fresh (s.setInputReady agents imeInfos) := by
  unfold Controller.setInputReady
  split
  · exact fresh
  · generalize agents.zip imeInfos = ready at heeds
    induction ready generalizing s with
    | nil => exact fresh
    | cons first rest ih =>
        obtain ⟨more, -⟩ := onInputReady_agents (s := s) first.1 first.2
        obtain ⟨isBound, isEditable, agentInfoList, changed⟩ := onInputReady_frame s first.1 first.2
        have next : Fresh (s.onInputReady first.1 first.2) := by
          refine fresh.onInputReady fun adds => ⟨?_, unset⟩
          by_contra notified
          exact heeds (eq_true_of_ne_false notified) first List.mem_cons_self adds
        rw [List.foldl_cons]
        rw [changed] at more next ⊢
        refine ih next unset fun notified ready member adds => ?_
        refine heeds notified ready (List.mem_cons_of_mem _ member) ⟨adds.1, ?_⟩
        obtain ⟨object, same, new⟩ := adds.2
        exact ⟨object, same, fun agentInfo before => new agentInfo (more before)⟩

end Ready

/-! ## Attaching -/

section Attach

variable (scale : Nat → CursorInfo → CursorInfo) (s : Controller) (request : Request)

/-- The caches after `PrepareAttach`: the cursor is unset, and the text is kept for the editor that is
bound, with the selection of the config. -/
theorem prepareAttach_caches (capacities : Capacities) :
    (s.prepareAttach scale request capacities).agentInfoList = s.agentInfoList ∧
      (s.prepareAttach scale request capacities).cursorInfo = {} ∧
      ((s.prepareAttach scale request capacities).isTextNotified = true →
        KeepsText s request ∧ (s.prepareAttach scale request capacities).textString = s.textString ∧
          (request.textConfig.range.start = INVALID_VALUE ∨
              request.textConfig.range = ⟨s.selectNewBegin, s.selectNewEnd⟩ →
            (s.prepareAttach scale request capacities).selectNewBegin = s.selectNewBegin ∧
              (s.prepareAttach scale request capacities).selectNewEnd = s.selectNewEnd)) := by
  have clears := clears_iff s request
  unfold Controller.prepareAttach Controller.saveTextConfig Controller.storeRange
    Controller.clearEditorCache
    Controller.clearEditorContent
  by_cases cleared : s.textListener ≠ request.listener ∨ s.isBound = false
  · simp only [clears.2 cleared, if_true]
    split <;> exact ⟨rfl, rfl, nofun⟩
  · obtain ⟨same, bound⟩ := not_or.1 cleared
    have bound : s.isBound = true := eq_true_of_ne_false bound
    simp only [clears, if_neg cleared]
    split
    · rename_i set
      refine ⟨rfl, rfl, fun notified => ⟨⟨not_not.1 same, bound, notified⟩, rfl, ?_⟩⟩
      rintro (skipped | kept)
      · exact absurd skipped set
      · exact ⟨congrArg Range.start kept, congrArg Range.stop kept⟩
    · exact ⟨rfl, rfl, fun notified => ⟨⟨not_not.1 same, bound, notified⟩, rfl, fun _ => ⟨rfl, rfl⟩⟩⟩

variable {scale s request}

theorem Fresh.attachExec (fresh : Fresh s) {answer : Answer}
    (heeds : Heeds scale s (.attachExec request answer)) :
    Fresh (s.attachExec scale request answer).1 := by
  by_cases valid : isValidTextConfig request.textConfig = NO_ERROR
  · have heeds := heeds valid
    obtain ⟨agents, unset, kept⟩ := prepareAttach_caches scale s request answer.capacities
    have prepared : Fresh (s.prepareAttach scale request answer.capacities) := by
      constructor
      · intro notified agentInfo member real
        obtain ⟨keeps, text, selection⟩ := kept notified
        obtain ⟨begins, ends⟩ := selection (heeds keeps).1
        rw [agents] at member
        rw [text, begins, ends]
        exact fresh.selection keeps.2.2 agentInfo member real
      · intro set
        exact absurd unset set
    by_cases ok : answer.ret = NO_ERROR
    · rw [attachExec_succeeded valid ok]
      have active : Fresh { s.prepareAttach scale request answer.capacities with state := .active } :=
        ⟨prepared.selection, prepared.cursor⟩
      refine active.setInputReady unset fun notified ready member adds => ?_
      refine (heeds (kept notified).1).2 ok ready member ⟨adds.1, ?_⟩
      have new := adds.2
      dsimp only at new
      rw [agents] at new
      exact new
    · rw [attachExec_failed valid ok]
      exact ⟨prepared.selection, prepared.cursor⟩
  · rw [attachExec_invalid valid]
    exact fresh

end Attach

/-! ## Telling -/

section Tell

variable {scale : Nat → CursorInfo → CursorInfo} {s : Controller}

/-- What is sent to all agents reaches every one that is not a mirror. -/
theorem sendRequestToAllAgents_told (s : Controller) (task : AgentInfo → AgentInfo)
    (same : ∀ agentInfo, (task agentInfo).imeType = agentInfo.imeType) :
    ∀ agentInfo ∈ (s.sendRequestToAllAgents task).agentInfoList, agentInfo.imeType ≠ .imeMirror →
      ∃ old ∈ s.agentInfoList, old.imeType ≠ .imeMirror ∧ agentInfo = task old := by
  intro agentInfo member real
  obtain ⟨old, before, rfl⟩ := List.mem_map.1 member
  by_cases held : (decide (old.imeType = .imeMirror) &&
    s.textConfig.inputAttribute.isSecurityImeFlag) = true
  · rw [if_pos held] at real
    exact absurd (of_decide_eq_true (Bool.and_eq_true_iff.1 held).1) real
  · rw [if_neg held] at real ⊢
    exact ⟨old, before, fun mirror => real ((same old).trans mirror), rfl⟩

/-- An update is the same as the last one, or replaces it. -/
theorem updateContent_cases (s : Controller) (text : List UInt16) (start stop : Int) :
    (s.isTextNotified = true ∧ s.textString = text ∧ s.selectNewBegin = start ∧ s.selectNewEnd = stop ∧
        s.updateContent text start stop = (s, false)) ∨
      s.updateContent text start stop =
        ({ s with
            isTextNotified := true
            textString := text
            selectOldBegin := s.selectNewBegin
            selectOldEnd := s.selectNewEnd
            selectNewBegin := start
            selectNewEnd := stop }, true) := by
  unfold Controller.updateContent
  dsimp only
  split
  · rename_i repeated
    simp only [Bool.and_eq_true, decide_eq_true_eq] at repeated
    obtain ⟨⟨⟨notified, text⟩, begins⟩, ends⟩ := repeated
    refine .inl ⟨notified, text, begins, ends, ?_⟩
    rw [← notified]
  · exact .inr rfl

theorem Fresh.onSelectionChange (fresh : Fresh s) (text : List UInt16) (start stop : Int) :
    Fresh (s.onSelectionChange text start stop).1 ∧
      Told scale s (.onSelectionChange text start stop) := by
  unfold Told
  unfold Controller.onSelectionChange
  split
  · exact ⟨fresh, nofun⟩
  · split
    · exact ⟨fresh, nofun⟩
    · have ranged : Fresh { s with textConfig := { s.textConfig with range := ⟨start, stop⟩ } } :=
        ⟨fresh.selection, fresh.cursor⟩
      dsimp only
      generalize { s with textConfig := { s.textConfig with range := ⟨start, stop⟩ } } = t at ranged
      rcases updateContent_cases t text start stop with ⟨notified, rfl, rfl, rfl, same⟩ | replaced
      · rw [same]
        exact ⟨ranged, fun _ => ranged.selection notified⟩
      · rw [replaced]
        have told := sendRequestToAllAgents_told
          { t with
            isTextNotified := true, textString := text, selectOldBegin := t.selectNewBegin,
            selectOldEnd := t.selectNewEnd, selectNewBegin := start, selectNewEnd := stop }
          (fun agentInfo => { agentInfo with selection := some (text, start, stop) }) (fun _ => rfl)
        refine ⟨⟨fun _ agentInfo member real => ?_, fun set agentInfo member real => ?_⟩,
          fun _ agentInfo member real => ?_⟩
        · obtain ⟨old, -, -, rfl⟩ := told agentInfo member real
          rfl
        · obtain ⟨old, before, real, rfl⟩ := told agentInfo member real
          exact ranged.cursor set old before real
        · obtain ⟨old, -, -, rfl⟩ := told agentInfo member real
          rfl

theorem Fresh.onCursorUpdate (fresh : Fresh s) {cursorInfo : CursorInfo}
    (heeds : Heeds scale s (.onCursorUpdate cursorInfo)) :
    Fresh (s.onCursorUpdate scale cursorInfo).1 ∧ Told scale s (.onCursorUpdate cursorInfo) := by
  unfold Told
  unfold Controller.onCursorUpdate
  split
  · exact ⟨fresh, nofun⟩
  · split
    · exact ⟨fresh, nofun⟩
    · dsimp only
      generalize named : scale s.textConfig.windowId cursorInfo = scaled at heeds ⊢
      split
      · rename_i repeated
        have repeated : s.cursorInfo = scaled := repeated
        have set : s.cursorInfo ≠ {} := fun unset =>
          heeds unset (named.trans (repeated.symm.trans unset))
        refine ⟨⟨fresh.selection, fresh.cursor⟩, fun _ agentInfo member real => ?_⟩
        rw [← repeated]
        exact fresh.cursor set agentInfo member real
      · have told := sendRequestToAllAgents_told
          { s with textConfig := { s.textConfig with cursorInfo := scaled }, cursorInfo := scaled }
          (fun agentInfo => { agentInfo with
            cursor := some (scaled.left, scaled.top, scaled.height) }) (fun _ => rfl)
        refine ⟨⟨fun notified agentInfo member real => ?_, fun _ agentInfo member real => ?_⟩,
          fun _ agentInfo member real => ?_⟩
        · obtain ⟨old, before, real, rfl⟩ := told agentInfo member real
          exact fresh.selection notified old before real
        · obtain ⟨old, -, -, rfl⟩ := told agentInfo member real
          rfl
        · obtain ⟨old, -, -, rfl⟩ := told agentInfo member real
          rfl

theorem step_fresh (fresh : Fresh s) {e : Event} (heeds : Heeds scale s e) :
    Fresh (step scale s e) ∧ Told scale s e := by
  cases e with
  | attachExec request answer => exact ⟨fresh.attachExec heeds, trivial⟩
  | onInputReady agentObject bundleName => exact ⟨fresh.onInputReady heeds, trivial⟩
  | onInputStop => exact ⟨fresh_no_agents rfl, trivial⟩
  | onTmpInputStop => exact ⟨fresh_no_agents rfl, trivial⟩
  | remoteSaDied => exact ⟨fresh_no_agents rfl, trivial⟩
  | onCursorUpdate cursorInfo => exact fresh.onCursorUpdate heeds
  | onSelectionChange text start stop => exact fresh.onSelectionChange text start stop

end Tell

/-- **In every run in which agents are added only while no text counts as sent and no cursor is
cached, an attach that keeps the text keeps its selection, and no unset cursor is reported as the
first one, every call that returns without an error has told every agent that is not a mirror.** -/
theorem told_last (scale : Nat → CursorInfo → CursorInfo) (before : List Event) (e : Event)
    (after : List Event) (heeds : Meets (step scale) (Heeds scale) {} (before ++ e :: after)) :
    Told scale (run (step scale) {} before) e := by
  obtain ⟨earlier, now⟩ := meets_append.1 heeds
  have keeps : ∀ s e, Fresh s → Heeds scale s e → Fresh (step scale s e) :=
    fun s e fresh heeds => (step_fresh fresh heeds).1
  have fresh : Fresh (run (step scale) {} before) := run_keeps keeps (fresh_no_agents rfl) earlier
  exact (step_fresh fresh now.1).2

/-! ## Poles -/

def editor : Request := ⟨some 1, true, {}, .js⟩

def attached (agentObject : Nat) : Event :=
  .attachExec editor ⟨⟨false, false, false, false⟩, NO_ERROR, [some agentObject], ["ime"]⟩

/-- The input stops, and the editor is attached again to another input method. -/
def stopped : List Event :=
  [attached 4, .onCursorUpdate { left := 3 }, .onSelectionChange [97] 1 1, .onInputStop, attached 5]

theorem stopped_told :
    (run (step unscaled) {} (stopped ++ [.onSelectionChange [97] 1 1])).agentInfoList.map
      AgentInfo.selection =
        [some ([97], 1, 1)] ∧
      Told unscaled (run (step unscaled) {} stopped) (.onSelectionChange [97] 1 1) :=
  ⟨by decide, told_last unscaled stopped (.onSelectionChange [97] 1 1) [] (by decide)⟩

/-- The service dies and comes back with another agent, which is not told the text that the first
one was told. -/
theorem restarted_untold :
    ¬ Told unscaled (run (step unscaled) {}
      [attached 4, .onSelectionChange [97] 1 1, .remoteSaDied, attached 5])
      (.onSelectionChange [97] 1 1) := by
  intro told
  have last := told (by decide) ⟨5, .none, none, none⟩ (by decide) (by decide)
  cases last

end Imf.Client.Served
