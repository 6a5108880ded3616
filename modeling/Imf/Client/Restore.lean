/-
# Imf.Client.Restore -- the session after the death of the service

When the service dies the controller forgets its agents and attaches again with what it holds:
`RestoreClientInfoInSaDied` asks at once, and posts five delayed tasks when that has failed.  Every
try of an attach clears and rewrites the fields that the next one reads, and sets the listener to
null when it fails.

`session_restored` says which patterns of answers bring the session back, and from which states.
-/
import Imf.Client.Controller

namespace Imf.Client

set_option autoImplicit false

open Ipc (ClientType InputAttribute)

def ATTACH_MAX_RETRY_TIMES : Nat := 30
def LOOP_COUNT : Nat := 5

/-! ## Attaching with retries -/

section Attach

variable (scale : Nat → CursorInfo → CursorInfo)

/-- `BlockRetry`: try `i`, with so many tries left after it. -/
def attachTries (request : Request) (answers : Nat → Answer) : (left i : Nat) → Controller →
    Controller × Int32
  | 0, i, s => s.attachExec scale request (answers i)
  | left + 1, i, s =>
      let result := s.attachExec scale request (answers i)
      if result.2 ≠ ERROR_TRY_IME_START_FAILED then result else attachTries request answers left
        (i + 1) result.1

namespace Controller

variable (s : Controller)

/-- `Attach`.  The tries get the answers in turn. -/
def attach (request : Request) (answers : Nat → Answer) : Controller × Int32 :=
  attachTries scale request answers (ATTACH_MAX_RETRY_TIMES - 1) 0 s

/-- What `RestoreClientInfoInSaDied` attaches with. -/
def restoreRequest : Request where
  listener := s.textListener
  isShowKeyboard := s.isShowKeyboard
  textConfig := { s.textConfig with
    range := ⟨s.selectNewBegin, s.selectNewEnd⟩, cursorInfo := s.cursorInfo }

/-- The lambda `attach` of `RestoreClientInfoInSaDied`. -/
def restoreAttach (answers : Nat → Answer) : Controller × Int32 :=
  s.attach scale s.restoreRequest answers

end Controller

/-- The posted tasks, one after the other: the attaches they make, each with the state it leaves and
what it returns. -/
def attachTasks : (n : Nat) → (patterns : Nat → Nat → Answer) → Controller → List (Controller × Int32)
  | 0, _, _ => []
  | n + 1, patterns, s =>
      if s.isDiedAttached then attachTasks n (fun i => patterns (i + 1)) s
      else
        let result := s.restoreAttach scale (patterns 0)
        result :: attachTasks n (fun i => patterns (i + 1)) result.1

/-- `OnRemoteSaDied` with `RestoreClientInfoInSaDied` and its tasks: the attaches they make. -/
def Controller.onRemoteSaDied (s : Controller) (patterns : Nat → Nat → Answer) :
    List (Controller × Int32) :=
  let s := s.clearAgentInfo
  if s.checkEditable = false then []
  else
    let result := s.restoreAttach scale (patterns 0)
    if result.2 = NO_ERROR then [result]
    else
      result :: attachTasks scale LOOP_COUNT (fun i => patterns (i + 1))
        { result.1 with isDiedAttached := false }

end Attach

/-! ## What is to be restored -/

/-- What an attach is asked to bring back. -/
structure Session where
  textListener : Option Nat
  inputAttribute : InputAttribute
  windowId : Nat
  cursorInfo : CursorInfo
  selectNewBegin : Int
  selectNewEnd : Int
  isShowKeyboard : Bool
  type : ClientType
  deriving DecidableEq

def Controller.session (s : Controller) : Session where
  textListener := s.textListener
  inputAttribute := s.textConfig.inputAttribute
  windowId := s.textConfig.windowId
  cursorInfo := s.textConfig.cursorInfo
  selectNewBegin := s.selectNewBegin
  selectNewEnd := s.selectNewEnd
  isShowKeyboard := s.isShowKeyboard
  type := s.type

/-- An attach that succeeds brings the session back and is the last one. -/
def SessionRestored (s : Controller) (attaches : List (Controller × Int32)) : Prop :=
  ∀ before result after, attaches = before ++ result :: after → result.2 = NO_ERROR →
    result.1.session = s.session ∧ after = []

/-- The try that succeeds, when every one before it was told to try again. -/
def successTry (answers : Nat → Answer) : (left i : Nat) → Option Nat
  | 0, i => if (answers i).ret = NO_ERROR then some i else none
  | left + 1, i =>
      if (answers i).ret = NO_ERROR then some i
      else if (answers i).ret = ERROR_TRY_IME_START_FAILED then successTry answers left (i + 1)
      else none

/-- The answers to an attach let it succeed. -/
def attachTry (answers : Nat → Answer) : Option Nat := successTry answers (ATTACH_MAX_RETRY_TIMES - 1) 0

/-- The state is one that try `k` of an attach brings back under its answer: the cursor of the config is
the one that `OnCursorUpdate` left, the client is of the default type, the attribute is stored as it
is, and a selection that `SaveTextConfig` skips has not been cleared by an earlier try. -/
structure Restorable (s : Controller) (k : Nat) (answer : Answer) : Prop where
  cursor : s.textConfig.cursorInfo = s.cursorInfo
  type : s.type = .innerKit
  stored : savedAttribute answer.capacities s.textConfig = s.textConfig.inputAttribute
  selection : k = 0 ∨ s.selectNewBegin ≠ INVALID_VALUE ∨ s.selectNewEnd = INVALID_VALUE

/-! ## One try -/

section Try

variable (scale : Nat → CursorInfo → CursorInfo) (s : Controller) {request : Request}

/-- The session that an attach asks for: only a selection that it skips depends on the state before. -/
theorem session_prepareAttach (request : Request) (capacities : Capacities) :
    (s.prepareAttach scale request capacities).session =
      { textListener := request.listener
        inputAttribute := savedAttribute capacities request.textConfig
        windowId := request.textConfig.windowId
        cursorInfo := scale request.textConfig.windowId request.textConfig.cursorInfo
        selectNewBegin :=
          if request.textConfig.range.start ≠ INVALID_VALUE then request.textConfig.range.start
          else if s.textListener ≠ request.listener ∨ s.isBound = false then INVALID_VALUE
          else s.selectNewBegin
        selectNewEnd :=
          if request.textConfig.range.start ≠ INVALID_VALUE then request.textConfig.range.stop
          else if s.textListener ≠ request.listener ∨ s.isBound = false then INVALID_VALUE
          else s.selectNewEnd
        isShowKeyboard := request.isShowKeyboard
        type := request.type } := by
  have clears := clears_iff s request
  unfold Controller.prepareAttach Controller.saveTextConfig Controller.storeRange
    Controller.clearEditorCache
    Controller.clearEditorContent
  by_cases fresh : s.textListener ≠ request.listener ∨ s.isBound = false
  · simp only [clears.2 fresh, if_pos fresh, if_true]
    split <;> rfl
  · simp only [clears, if_neg fresh]
    split <;> rfl

/-- What a try leaves, when the config is valid: a failed one leaves no listener. -/
theorem attachExec_session (valid : isValidTextConfig request.textConfig = NO_ERROR) (answer : Answer) :
    (s.attachExec scale request answer).2 = answer.ret ∧
      (s.attachExec scale request answer).1.isDiedAttached = s.isDiedAttached ∧
      (s.attachExec scale request answer).1.session =
        { (s.prepareAttach scale request answer.capacities).session with
          textListener := if answer.ret = NO_ERROR then request.listener else none } := by
  have died : (s.prepareAttach scale request answer.capacities).isDiedAttached = s.isDiedAttached := by
    unfold Controller.prepareAttach Controller.saveTextConfig Controller.storeRange
      Controller.clearEditorCache
      Controller.clearEditorContent
    dsimp only
    split <;> split <;> rfl
  have listener : (s.prepareAttach scale request answer.capacities).textListener = request.listener :=
    congrArg Session.textListener (session_prepareAttach scale s request answer.capacities)
  by_cases ok : answer.ret = NO_ERROR
  · rw [attachExec_succeeded valid ok, if_pos ok]
    obtain ⟨isBound, isEditable, agentInfoList, changed⟩ := setInputReady_frame
      { s.prepareAttach scale request answer.capacities with state := .active }
        answer.agents answer.imeInfos
    rw [changed]
    refine ⟨ok.symm, died, ?_⟩
    rw [← listener]
    rfl
  · rw [attachExec_failed valid ok, if_neg ok]
    exact ⟨rfl, died, rfl⟩

theorem attachExec_prepared (valid : isValidTextConfig request.textConfig = NO_ERROR) {answer : Answer}
    (ok : answer.ret = NO_ERROR) :
    (s.attachExec scale request answer).1.session =
      (s.prepareAttach scale request answer.capacities).session := by
  have listener := congrArg Session.textListener
    (session_prepareAttach scale s request answer.capacities)
  rw [(attachExec_session scale s valid answer).2.2, if_pos ok]
  dsimp only at listener ⊢
  rw [← listener]

/-- What is stored of a valid config is valid. -/
theorem valid_saved {textConfig stored : TextConfig} (valid : isValidTextConfig textConfig = NO_ERROR)
    {capacities : Capacities} (saved : stored.inputAttribute = savedAttribute capacities textConfig) :
    isValidTextConfig stored = NO_ERROR := by
  have mode : stored.inputAttribute.immersiveMode =
      if shouldOverrideImmersiveMode capacities textConfig then 0
      else textConfig.inputAttribute.immersiveMode := by
    rw [saved]
    simp only [savedAttribute, calibrate_eq]
  unfold isValidTextConfig at valid ⊢
  rw [mode]
  split
  · rfl
  · exact valid

/-- The listener and the validity of the config after a try. -/
theorem attachExec_listener (valid : isValidTextConfig request.textConfig = NO_ERROR)
    (answer : Answer) :
    (s.attachExec scale request answer).1.textListener =
      (if answer.ret = NO_ERROR then request.listener else none) ∧
      isValidTextConfig (s.attachExec scale request answer).1.textConfig = NO_ERROR := by
  obtain ⟨-, -, session⟩ := attachExec_session scale s valid answer
  have asked := congrArg Session.inputAttribute
    (session_prepareAttach scale s request answer.capacities)
  have stored := (congrArg Session.inputAttribute session).trans asked
  exact ⟨congrArg Session.textListener session, valid_saved valid stored⟩

end Try

/-! ## The tries of an attach -/

section Tries

variable (scale : Nat → CursorInfo → CursorInfo) {request : Request} {answers : Nat → Answer}

theorem successTry_le {left i k : Nat} (found : successTry answers left i = some k) : i ≤ k := by
  fun_induction successTry answers left i with
  | case1 i ok => exact Nat.le_of_eq (Option.some.inj found)
  | case2 => cases found
  | case3 left i ok => exact Nat.le_of_eq (Option.some.inj found)
  | case4 left i failed again ih => exact Nat.le_of_succ_le (ih found)
  | case5 => cases found

variable (valid : isValidTextConfig request.textConfig = NO_ERROR)

include valid

/-- The tries of an attach that succeeds: the last one starts from the state before the attach, or from
one without a listener. -/
theorem attachTries_succeed {left i k : Nat} (s : Controller)
    (found : successTry answers left i = some k) :
    ∃ t, (k = i ∧ t = s ∨ k ≠ i ∧ t.textListener = none) ∧ (answers k).ret = NO_ERROR ∧
      attachTries scale request answers left i s = t.attachExec scale request (answers k) := by
  fun_induction successTry answers left i generalizing s with
  | case1 i ok =>
      cases found
      exact ⟨s, .inl ⟨rfl, rfl⟩, ok, rfl⟩
  | case2 => cases found
  | case3 left i ok =>
      obtain rfl : i = k := Option.some.inj found
      refine ⟨s, .inl ⟨rfl, rfl⟩, ok, ?_⟩
      have ret := (attachExec_session scale s valid (answers i)).1
      have final : (s.attachExec scale request (answers i)).2 ≠ ERROR_TRY_IME_START_FAILED := by
        rw [ret, ok]
        decide
      rw [attachTries]
      exact if_pos final
  | case4 left i failed again ih =>
      have ret := (attachExec_session scale s valid (answers i)).1
      obtain ⟨t, place, ok, same⟩ := ih (s.attachExec scale request (answers i)).1 found
      refine ⟨t, .inr ⟨?_, ?_⟩, ok, ?_⟩
      · have later := successTry_le found
        omega
      · rcases place with ⟨-, rfl⟩ | ⟨-, listener⟩
        · rw [(attachExec_listener scale s valid (answers i)).1, if_neg failed]
        · exact listener
      · rw [attachTries, if_neg (not_not.2 (ret.trans again))]
        exact same
  | case5 => cases found

/-- The tries of an attach that fails. -/
theorem attachTries_fail {left i : Nat} (s : Controller) (missed : successTry answers left i = none) :
    (attachTries scale request answers left i s).2 ≠ NO_ERROR ∧
      (attachTries scale request answers left i s).1.textListener = none ∧
      isValidTextConfig (attachTries scale request answers left i s).1.textConfig = NO_ERROR := by
  have last (i : Nat) (s : Controller) (failed : (answers i).ret ≠ NO_ERROR) :
      (s.attachExec scale request (answers i)).2 ≠ NO_ERROR ∧
        (s.attachExec scale request (answers i)).1.textListener = none ∧
        isValidTextConfig (s.attachExec scale request (answers i)).1.textConfig = NO_ERROR := by
    obtain ⟨listener, config⟩ := attachExec_listener scale s valid (answers i)
    rw [if_neg failed] at listener
    refine ⟨?_, listener, config⟩
    rw [(attachExec_session scale s valid (answers i)).1]
    exact failed
  fun_induction successTry answers left i generalizing s with
  | case1 => cases missed
  | case2 i failed => exact last i s failed
  | case3 => cases missed
  | case4 left i failed again ih =>
      have ret := (attachExec_session scale s valid (answers i)).1
      rw [attachTries, if_neg (not_not.2 (ret.trans again))]
      exact ih _ missed
  | case5 left i failed final =>
      have ret := (attachExec_session scale s valid (answers i)).1
      rw [attachTries, if_pos (fun again => final (ret.symm.trans again))]
      exact last i s failed

end Tries

/-! ## The tasks -/

section Tasks

variable (scale : Nat → CursorInfo → CursorInfo)

/-- A failed attach has left no listener, and the tasks are still to attach. -/
structure Lost (s : Controller) : Prop where
  listener : s.textListener = none
  valid : isValidTextConfig s.textConfig = NO_ERROR
  undone : s.isDiedAttached = false

theorem attachTries_died {request : Request} (valid : isValidTextConfig request.textConfig = NO_ERROR)
    (answers : Nat → Answer) (left i : Nat) (s : Controller) :
    (attachTries scale request answers left i s).1.isDiedAttached = s.isDiedAttached := by
  induction left generalizing i s with
  | zero => exact (attachExec_session scale s valid (answers i)).2.1
  | succ left ih =>
      have died := (attachExec_session scale s valid (answers i)).2.1
      rw [attachTries]
      split
      · exact died
      · rw [ih, died]

/-- A task without a listener attaches without one. -/
theorem Lost.restoreAttach {s : Controller} (lost : Lost s) (answers : Nat → Answer) :
    Lost (s.restoreAttach scale answers).1 ∧
      ((s.restoreAttach scale answers).2 = NO_ERROR ↔ attachTry answers ≠ none) := by
  have valid : isValidTextConfig s.restoreRequest.textConfig = NO_ERROR := lost.valid
  have undone := (attachTries_died scale valid answers (ATTACH_MAX_RETRY_TIMES - 1) 0 s).trans
    lost.undone
  cases found : attachTry answers with
  | none =>
      obtain ⟨failed, listener, config⟩ := attachTries_fail scale valid s found
      exact ⟨⟨listener, config, undone⟩, iff_of_false failed (not_not.2 rfl)⟩
  | some k =>
      obtain ⟨t, -, ok, same⟩ := attachTries_succeed scale valid s found
      have ret : (s.restoreAttach scale answers).2 = NO_ERROR := by
        rw [Controller.restoreAttach, Controller.attach, same,
          (attachExec_session scale t valid (answers k)).1, ok]
      refine ⟨⟨?_, ?_, undone⟩, iff_of_true ret nofun⟩
      · rw [Controller.restoreAttach, Controller.attach, same,
          (attachExec_listener scale t valid (answers k)).1, if_pos ok]
        exact lost.listener
      · rw [Controller.restoreAttach, Controller.attach, same]
        exact (attachExec_listener scale t valid (answers k)).2

/-- The tasks never bring a listener back, and one of them succeeds when the answers to it do. -/
theorem attachTasks_lost (n : Nat) (patterns : Nat → Nat → Answer) {s : Controller} (lost : Lost s) :
    (∀ result ∈ attachTasks scale n patterns s, result.1.textListener = none) ∧
      ((∀ result ∈ attachTasks scale n patterns s, result.2 ≠ NO_ERROR) ↔
        ∀ i, i < n → attachTry (patterns i) = none) := by
  induction n generalizing patterns s with
  | zero =>
      rw [attachTasks]
      exact ⟨List.forall_mem_nil _, iff_of_true (List.forall_mem_nil _) fun i low =>
        absurd low (Nat.not_lt_zero i)⟩
  | succ n ih =>
      obtain ⟨later, succeeds⟩ := lost.restoreAttach scale (patterns 0)
      obtain ⟨listeners, results⟩ := ih (fun i => patterns (i + 1)) later
      rw [attachTasks, if_neg (by rw [lost.undone]; exact Bool.false_ne_true)]
      dsimp only
      rw [List.forall_mem_cons, List.forall_mem_cons, results, Ne, succeeds, not_not]
      refine ⟨⟨later.listener, listeners⟩, ?_⟩
      rw [Nat.forall_lt_succ_left]

theorem restoreAttach_invalid {s : Controller} (invalid : isValidTextConfig s.textConfig ≠ NO_ERROR)
    (answers : Nat → Answer) : s.restoreAttach scale answers = (s, ERROR_PARAMETER_CHECK_FAILED) := by
  have invalid : isValidTextConfig s.restoreRequest.textConfig ≠ NO_ERROR := invalid
  have final : ERROR_PARAMETER_CHECK_FAILED ≠ ERROR_TRY_IME_START_FAILED := by decide
  unfold Controller.restoreAttach Controller.attach ATTACH_MAX_RETRY_TIMES
  rw [attachTries, attachExec_invalid invalid, if_pos final]

theorem attachTasks_invalid (n : Nat) (patterns : Nat → Nat → Answer) {s : Controller}
    (invalid : isValidTextConfig s.textConfig ≠ NO_ERROR) :
    ∀ result ∈ attachTasks scale n patterns s, result.2 ≠ NO_ERROR := by
  have failed : ERROR_PARAMETER_CHECK_FAILED ≠ NO_ERROR := by decide
  induction n generalizing patterns with
  | zero => exact List.forall_mem_nil _
  | succ n ih =>
      rw [attachTasks]
      split
      · exact ih _
      · rw [restoreAttach_invalid scale invalid]
        exact List.forall_mem_cons.2 ⟨failed, ih _⟩

end Tasks

/-! ## The session -/

section Restored

variable {s : Controller}

/-- No window-scale callback, or one that changes nothing. -/
def unscaled (_ : Nat) (cursorInfo : CursorInfo) : CursorInfo := cursorInfo

/-- What the try that succeeds asks for is the session of the state. -/
theorem restored_iff {t : Controller} {k : Nat} {answer : Answer} (bound : s.isBound = true)
    (listener : s.textListener ≠ none)
    (place : k = 0 ∧ t = s.clearAgentInfo ∨ k ≠ 0 ∧ t.textListener = none) :
    (t.prepareAttach unscaled s.restoreRequest answer.capacities).session = s.session ↔
      Restorable s k answer := by
  rw [session_prepareAttach]
  have fresh : (t.textListener ≠ s.restoreRequest.listener ∨ t.isBound = false) ↔ k ≠ 0 := by
    rcases place with ⟨rfl, rfl⟩ | ⟨later, none⟩
    · refine iff_of_false ?_ (not_not.2 rfl)
      rintro (other | unbound)
      · exact other rfl
      · exact absurd (bound.symm.trans unbound) nofun
    · refine iff_of_true (.inl ?_) later
      rw [none]
      exact listener.symm
  have selection : k = 0 → t.selectNewBegin = s.selectNewBegin ∧ t.selectNewEnd = s.selectNewEnd := by
    rintro rfl
    rcases place with ⟨-, rfl⟩ | ⟨later, -⟩
    · exact ⟨rfl, rfl⟩
    · exact absurd rfl later
  have begins : (if s.selectNewBegin ≠ INVALID_VALUE then s.selectNewBegin
      else if k ≠ 0 then INVALID_VALUE else t.selectNewBegin) = s.selectNewBegin := by
    split
    · rfl
    · rename_i unset
      split
      · exact (not_not.1 unset).symm
      · rename_i first
        exact (selection (not_not.1 first)).1
  have ends : (if s.selectNewBegin ≠ INVALID_VALUE then s.selectNewEnd
      else if k ≠ 0 then INVALID_VALUE else t.selectNewEnd) = s.selectNewEnd ↔
        k = 0 ∨ s.selectNewBegin ≠ INVALID_VALUE ∨ s.selectNewEnd = INVALID_VALUE := by
    split
    · rename_i set
      exact iff_of_true rfl (.inr (.inl set))
    · rename_i unset
      split
      · rename_i later
        rw [or_iff_right later, or_iff_right unset, eq_comm]
      · rename_i first
        exact iff_of_true (selection (not_not.1 first)).2 (.inl (not_not.1 first))
  simp only [fresh]
  constructor
  · intro same
    exact ⟨(congrArg Session.cursorInfo same).symm, (congrArg Session.type same).symm,
      congrArg Session.inputAttribute same, ends.1 (congrArg Session.selectNewEnd same)⟩
  · rintro ⟨cursor, type, stored, selected⟩
    refine Session.mk.injEq .. ▸
      ⟨rfl, stored, rfl, cursor.symm, begins, ends.2 selected, rfl, type.symm⟩

theorem sessionRestored_of_failures {attaches : List (Controller × Int32)}
    (failures : ∀ result ∈ attaches, result.2 ≠ NO_ERROR) : SessionRestored s attaches := by
  rintro before result after rfl ok
  exact absurd ok (failures result (by simp))

/-- The attach at once is the only one. -/
theorem sessionRestored_singleton {result : Controller × Int32} (ok : result.2 = NO_ERROR) :
    SessionRestored s [result] ↔ result.1.session = s.session := by
  constructor
  · intro restored
    exact (restored [] result [] rfl ok).1
  · intro same before other after split _
    have place : before = [] ∧ result = other ∧ after = [] := by
      cases before with
      | nil => simpa using split
      | cons _ _ => simp at split
    obtain ⟨-, rfl, rfl⟩ := place
    exact ⟨same, rfl⟩

/-- An attach that finds no listener does not bring the session back. -/
theorem sessionRestored_lost {attaches : List (Controller × Int32)} (listener : s.textListener ≠ none)
    (lost : ∀ result ∈ attaches, result.2 = NO_ERROR → result.1.textListener = none) :
    SessionRestored s attaches ↔ ∀ result ∈ attaches, result.2 ≠ NO_ERROR := by
  refine ⟨fun restored result member ok => ?_, sessionRestored_of_failures⟩
  obtain ⟨before, after, split⟩ := List.append_of_mem member
  have same := (restored before result after split ok).1
  exact listener ((congrArg Session.textListener same).symm.trans (lost result member ok))

end Restored

/-- **After the death of the service the session of a bound editor comes back exactly when the
attach that is made at once succeeds from a state that an attach brings back, or no attach of all
succeeds.** -/
theorem session_restored (s : Controller) (bound : s.checkBound = true)
    (editable : s.checkEditable = true)
    (listener : s.textListener ≠ none) (patterns : Nat → Nat → Answer) :
    SessionRestored s (s.onRemoteSaDied unscaled patterns) ↔
      isValidTextConfig s.textConfig ≠ NO_ERROR ∨
        match attachTry (patterns 0) with
        | some k => Restorable s k (patterns 0 k)
        | none => ∀ i, i < LOOP_COUNT → attachTry (patterns (i + 1)) = none := by
  have bound : s.isBound = true := by
    unfold Controller.checkBound at bound
    rw [Bool.and_eq_true] at bound
    exact bound.2
  have alive : ¬ s.clearAgentInfo.checkEditable = false := by
    rw [show s.clearAgentInfo.checkEditable = true from editable]
    exact nofun
  unfold Controller.onRemoteSaDied
  rw [if_neg alive]
  by_cases valid : isValidTextConfig s.textConfig = NO_ERROR
  · rw [or_iff_right (not_not.2 valid)]
    have valid : isValidTextConfig s.restoreRequest.textConfig = NO_ERROR := valid
    generalize made : s.clearAgentInfo.restoreAttach unscaled (patterns 0) = result
    cases found : attachTry (patterns 0) with
    | some k =>
        obtain ⟨t, place, ok, same⟩ := attachTries_succeed unscaled valid s.clearAgentInfo found
        have made : result = t.attachExec unscaled s.restoreRequest (patterns 0 k) :=
          made.symm.trans same
        have ret : result.2 = NO_ERROR := by
          rw [made, (attachExec_session unscaled t valid (patterns 0 k)).1, ok]
        dsimp only
        rw [if_pos ret, sessionRestored_singleton ret, made, attachExec_prepared unscaled t valid ok]
        exact restored_iff bound listener place
    | none =>
        have failure := attachTries_fail unscaled valid s.clearAgentInfo found
        have made : attachTries unscaled s.restoreRequest (patterns 0)
          (ATTACH_MAX_RETRY_TIMES - 1) 0 s.clearAgentInfo =
            result := made
        rw [made] at failure
        obtain ⟨failed, gone, config⟩ := failure
        have lost : Lost { result.1 with isDiedAttached := false } := ⟨gone, config, rfl⟩
        obtain ⟨listeners, results⟩ :=
          attachTasks_lost unscaled LOOP_COUNT (fun i => patterns (i + 1)) lost
        dsimp only
        rw [if_neg failed, sessionRestored_lost listener, List.forall_mem_cons,
          and_iff_right failed, results]
        rw [List.forall_mem_cons]
        exact ⟨fun ok => absurd ok failed, fun other member _ => listeners other member⟩
  · have failed : ERROR_PARAMETER_CHECK_FAILED ≠ NO_ERROR := by decide
    have invalid : isValidTextConfig s.clearAgentInfo.textConfig ≠ NO_ERROR := valid
    refine iff_of_true (sessionRestored_of_failures ?_) (.inl valid)
    rw [restoreAttach_invalid unscaled invalid, if_neg failed]
    exact List.forall_mem_cons.2 ⟨failed, attachTasks_invalid unscaled _ _ valid⟩

/-! ## Poles -/

/-- A bound editor that has reported its cursor. -/
def reported : Controller :=
  { textListener := some 1
    textConfig := { inputAttribute := { inputPattern := 1 },
                    cursorInfo := { left := 3 }, windowId := 9 }
    cursorInfo := { left := 3 }
    isBound := true
    isEditable := true
    agentInfoList := [⟨4, .none, none, none⟩]
    state := .active
    isShowKeyboard := true }

def answered (ret : Int32) : Answer := ⟨⟨false, false, false, false⟩, ret, [some 5], ["ime"]⟩

/-- The service asks the attach to try again, and the second try succeeds. -/
def secondTry (_ i : Nat) : Answer := answered (if i = 0 then ERROR_TRY_IME_START_FAILED else NO_ERROR)

theorem reported_restored :
    reported.checkBound = true ∧
      SessionRestored reported (reported.onRemoteSaDied unscaled secondTry) := by
  refine ⟨by decide, (session_restored reported (by decide) (by decide) (by decide) secondTry).2
    (.inr ?_)⟩
  exact ⟨rfl, rfl, by decide, .inr (.inl (by decide))⟩

/-- The service is back a little later: the attach at once fails, the tasks succeed. -/
def secondTask (task _ : Nat) : Answer := answered (if task = 0 then 34 else NO_ERROR)

/-- The tasks attach without a listener, and go on after the one that succeeds. -/
theorem tasks_lose_listener :
    ¬ SessionRestored reported (reported.onRemoteSaDied unscaled secondTask) := by
  intro restored
  have same := (restored [_] _ _ rfl (by decide)).1
  exact absurd (congrArg Session.textListener same) (by decide)

end Imf.Client
