/-
# Imf.Client.KeyEventResult -- a key event and the result that comes back for it

A key event is dispatched to the input method with an id, and its callback is kept under the id until
the result comes.  `HandleKeyEventResult` copies what is kept under the lock, calls the callback
without it, and takes the lock once more to remove what was kept.  Between these steps another result
for the same id finds the entry again, and `ClearKeyEventCbInfo` clears an entry that somebody has
copied.

`delivered_once_iff` says when neither happens: nobody looks up an entry whose callback has been
called, or calls one that somebody else has in hand, and nothing is cleared while a copy is in hand
(`Undisturbed`).  That a callback is only called for a result with its own id holds in every run.
The poles are a result that comes twice and one that is overtaken by a clear.
-/
import Imf.Lib.Run
import Imf.Lib.Threads
import Mathlib.Data.List.Nodup
import Mathlib.Logic.Function.Basic

namespace Imf.KeyEvents

set_option autoImplicit false

open Lib (Meets forall_mem_goOn goOn invariant_prefixes_iff_meets mem_goOn_iff
  mem_threads_iff next_or_mem run
  run_always)

/-! ## The handler -/

structure KeyEventCbInfo where
  keyEvent : Option Nat := none
  callback : Option Nat := none
  deriving DecidableEq, Repr

/-- An entry of `keyEventCbHandlers_`, with the place of its registration among all. -/
structure Kept where
  place : Nat
  info : KeyEventCbInfo
  deriving DecidableEq, Repr

/-- A callback was called: with the entry, for a result with this id, and whether a clear had completed
since the entry was registered. -/
structure Invocation where
  kept : Kept
  cbId : UInt64
  consumeResult : Bool
  cleared : Bool
  deriving DecidableEq, Repr

/-- What a call of `HandleKeyEventResult` does next. -/
inductive Stage where
  | getKeyEventCbInfo (cbId : UInt64) (consumeResult : Bool)
  | callback (cbId : UInt64) (consumeResult : Bool) (kept : Kept)
  | removeKeyEventCbInfo (cbId : UInt64)
  deriving DecidableEq, Repr

/-- The handler and its calls, with all registrations in their order, how many of them there were at the
last clear, and the callbacks that were called. -/
structure State where
  keyEventCbHandlers : UInt64 → Option Kept := fun _ => none
  maxCbId : UInt64 := 1
  registered : List (UInt64 × KeyEventCbInfo) := []
  clearedTo : Nat := 0
  invocations : List Invocation := []
  calls : List Stage := []

inductive Event where
  | addKeyEventCbInfo (cbInfo : KeyEventCbInfo)
  | handleKeyEventResult (cbId : UInt64) (consumeResult : Bool)
  | clearKeyEventCbInfo
  /-- `DispatchKeyEvent` takes its entry back. -/
  | removeKeyEventCbInfo (cbId : UInt64)
  | advance (index : Nat)
  deriving DecidableEq, Repr

namespace State

variable (s : State)

/-- `GenerateKeyEventCbId` goes on at 0 behind the last id. -/
def addKeyEventCbInfo (cbInfo : KeyEventCbInfo) : State :=
  { s with
    keyEventCbHandlers :=
      Function.update s.keyEventCbHandlers s.maxCbId
        (some { place := s.registered.length, info := cbInfo })
    maxCbId := s.maxCbId + 1
    registered := s.registered ++ [(s.maxCbId, cbInfo)] }

def clearKeyEventCbInfo : State :=
  { s with keyEventCbHandlers := fun _ => none, clearedTo := s.registered.length }

def removeKeyEventCbInfo (cbId : UInt64) : State :=
  { s with keyEventCbHandlers := Function.update s.keyEventCbHandlers cbId none }

/-- The callback is called, unless it is null. -/
def invoke (cbId : UInt64) (consumeResult : Bool) (kept : Kept) : State :=
  if kept.info.callback = none then s
  else
    { s with
      invocations :=
        s.invocations ++ [{ kept, cbId, consumeResult, cleared := decide (kept.place < s.clearedTo) }] }

/-- One step of a call: the state after it and what the call does next. -/
def exec : Stage → State × Option Stage
  | .getKeyEventCbInfo cbId consumeResult =>
      match s.keyEventCbHandlers cbId with
      | none => (s, none)
      | some kept => (s, some (.callback cbId consumeResult kept))
  | .callback cbId consumeResult kept =>
      (s.invoke cbId consumeResult kept, some (.removeKeyEventCbInfo cbId))
  | .removeKeyEventCbInfo cbId => (s.removeKeyEventCbInfo cbId, none)

def step (s : State) : Event → State
  | .addKeyEventCbInfo cbInfo => s.addKeyEventCbInfo cbInfo
  | .handleKeyEventResult cbId consumeResult =>
      { s with calls := s.calls ++ [.getKeyEventCbInfo cbId consumeResult] }
  | .clearKeyEventCbInfo => s.clearKeyEventCbInfo
  | .removeKeyEventCbInfo cbId => s.removeKeyEventCbInfo cbId
  | .advance index =>
      match s.calls[index]? with
      | none => s
      | some stage =>
          let (s', next) := s.exec stage
          { s' with calls := goOn s.calls index next }

variable {s}

theorem add_found (cbInfo : KeyEventCbInfo) :
    (s.addKeyEventCbInfo cbInfo).keyEventCbHandlers s.maxCbId =
      some { place := s.registered.length, info := cbInfo } :=
  Function.update_self ..

theorem add_other (cbInfo : KeyEventCbInfo) {cbId : UInt64} (other : cbId ≠ s.maxCbId) :
    (s.addKeyEventCbInfo cbInfo).keyEventCbHandlers cbId = s.keyEventCbHandlers cbId :=
  Function.update_of_ne other ..

theorem remove_found (cbId : UInt64) : (s.removeKeyEventCbInfo cbId).keyEventCbHandlers cbId = none :=
  Function.update_self ..

theorem remove_other {cbId other : UInt64} (differ : other ≠ cbId) :
    (s.removeKeyEventCbInfo cbId).keyEventCbHandlers other = s.keyEventCbHandlers other :=
  Function.update_of_ne differ ..

end State

/-! ## Delivered once -/

/-- The registration whose callback the call is about to call. -/
def Stage.inHand : Stage → Option Nat
  | .callback _ _ kept => if kept.info.callback = none then none else some kept.place
  | _ => none

namespace State

/-- The registrations whose callback was called. -/
def invoked (s : State) : List Nat := s.invocations.map fun invocation => invocation.kept.place

/-- No callback was called twice or after a clear. -/
structure Good (s : State) : Prop where
  once : s.invoked.Nodup
  inTime : ∀ invocation ∈ s.invocations, invocation.cleared = false

/-- So it is, and so it stays with the next step, whichever it is. -/
def Delivered (s : State) : Prop := s.Good ∧ ∀ event, (s.step event).Good

/-- A step of a call does not overlap with another one: an entry is not looked up whose callback has
been called, and no callback is called that another call has in hand. -/
def StageUndisturbed (s : State) (index : Nat) : Stage → Prop
  | .getKeyEventCbInfo cbId _ =>
      ∀ kept ∈ s.keyEventCbHandlers cbId, kept.info.callback ≠ none → kept.place ∉ s.invoked
  | .callback _ _ kept =>
      kept.info.callback ≠ none → ∀ other ∈ s.calls.eraseIdx index, other.inHand ≠ some kept.place
  | .removeKeyEventCbInfo _ => True

/-- The condition on a step: calls for one registration do not overlap, and nothing is cleared while a
call is between its lookup and the callback. -/
def Undisturbed (s : State) : Event → Prop
  | .clearKeyEventCbInfo => ∀ stage ∈ s.calls, stage.inHand = none
  | .advance index => ∀ stage ∈ s.calls[index]?, s.StageUndisturbed index stage
  | _ => True

/-- All is well so far, and whoever has a callback in hand can call it. -/
structure Settled (s : State) : Prop where
  good : s.Good
  inHand : ∀ stage ∈ s.calls, ∀ place ∈ stage.inHand, place ∉ s.invoked ∧ s.clearedTo ≤ place

variable {s s' : State}

theorem good_congr (same : s'.invocations = s.invocations) : s'.Good ↔ s.Good := by
  constructor
  · rintro ⟨once, inTime⟩
    rw [invoked, same] at once
    rw [same] at inTime
    exact ⟨once, inTime⟩
  · rintro ⟨once, inTime⟩
    refine ⟨?_, ?_⟩
    · rw [invoked, same]
      exact once
    · rw [same]
      exact inTime

/-- One more callback is called. -/
theorem good_append_iff {invocation : Invocation}
    (more : s'.invocations = s.invocations ++ [invocation]) :
    s'.Good ↔ s.Good ∧ invocation.kept.place ∉ s.invoked ∧ invocation.cleared = false := by
  have invoked : s'.invoked = s.invoked ++ [invocation.kept.place] := by
    simp [State.invoked, more]
  constructor
  · rintro ⟨once, inTime⟩
    rw [invoked, List.nodup_append] at once
    rw [more] at inTime
    refine ⟨⟨once.1, fun other member => inTime other (List.mem_append_left _ member)⟩, ?_, ?_⟩
    · intro before
      exact once.2.2 _ before _ List.mem_cons_self rfl
    · exact inTime invocation (List.mem_append_right _ List.mem_cons_self)
  · rintro ⟨⟨once, inTime⟩, first, early⟩
    refine ⟨?_, ?_⟩
    · rw [invoked, List.nodup_append]
      refine ⟨once, List.nodup_singleton _, ?_⟩
      intro place before other now same
      rw [same, List.mem_singleton.1 now] at before
      exact first before
    · rw [more]
      intro other member
      rcases List.mem_append.1 member with before | now
      · exact inTime other before
      · rw [List.mem_singleton.1 now]
        exact early

/-! ## One step -/

theorem mem_inHand {stage : Stage} {place : Nat} (inHand : place ∈ stage.inHand) :
    ∃ cbId consumeResult kept, stage = .callback cbId consumeResult kept ∧ kept.info.callback ≠ none ∧
      kept.place = place := by
  cases stage with
  | callback cbId consumeResult kept =>
      simp only [Stage.inHand] at inHand
      split at inHand
      · cases inHand
      · rename_i called
        exact ⟨cbId, consumeResult, kept, rfl, called, Option.some.inj inHand⟩
  | getKeyEventCbInfo cbId consumeResult => cases inHand
  | removeKeyEventCbInfo cbId => cases inHand

/-- The callback at `index` is called. -/
theorem step_callback {index : Nat} {cbId : UInt64} {consumeResult : Bool} {kept : Kept}
    (picked : s.calls[index]? = some (.callback cbId consumeResult kept))
    (called : kept.info.callback ≠ none) :
    (s.step (.advance index)).invocations =
      s.invocations ++ [{ kept, cbId, consumeResult, cleared := decide (kept.place < s.clearedTo) }] := by
  simp only [step, picked, exec, invoke, if_neg called]

/-- A step calls a callback that a call has in hand, or none. -/
theorem step_invocations (s : State) (event : Event) :
    (s.step event).invocations = s.invocations ∨
      ∃ index cbId consumeResult kept, event = .advance index ∧
        s.calls[index]? = some (.callback cbId consumeResult kept) ∧ kept.info.callback ≠ none := by
  cases event with
  | advance index =>
      cases picked : s.calls[index]? with
      | none => exact .inl (by simp only [step, picked])
      | some stage =>
          cases stage with
          | getKeyEventCbInfo cbId consumeResult =>
              left
              simp only [step, picked, exec]
              cases s.keyEventCbHandlers cbId <;> rfl
          | callback cbId consumeResult kept =>
              by_cases null : kept.info.callback = none
              · left
                simp only [step, picked, exec, invoke, if_pos null]
              · exact .inr ⟨index, cbId, consumeResult, kept, rfl, picked, null⟩
          | removeKeyEventCbInfo cbId =>
              left
              simp only [step, picked, exec]
              rfl
  | addKeyEventCbInfo cbInfo => exact .inl rfl
  | handleKeyEventResult cbId consumeResult => exact .inl rfl
  | clearKeyEventCbInfo => exact .inl rfl
  | removeKeyEventCbInfo cbId => exact .inl rfl

/-- A call that there is not does nothing. -/
theorem step_nobody {index : Nat} (nobody : s.calls[index]? = none) : s.step (.advance index) = s := by
  simp only [step, nobody]

/-- To look one step ahead is to look at what the calls have in hand. -/
theorem delivered_iff (s : State) : s.Delivered ↔ s.Settled := by
  constructor
  · rintro ⟨good, next⟩
    refine ⟨good, ?_⟩
    intro stage member place inHand
    obtain ⟨index, picked⟩ := List.mem_iff_getElem?.1 member
    obtain ⟨cbId, consumeResult, kept, rfl, called, rfl⟩ := mem_inHand inHand
    obtain ⟨-, first, early⟩ :=
      (good_append_iff (step_callback picked called)).1 (next (.advance index))
    exact ⟨first, Nat.not_lt.1 (of_decide_eq_false early)⟩
  · intro settled
    refine ⟨settled.good, ?_⟩
    intro event
    rcases step_invocations s event with same | ⟨index, cbId, consumeResult, kept, rfl, picked, called⟩
    · exact (good_congr same).2 settled.good
    · have ready := settled.inHand _ (List.mem_of_getElem? picked) kept.place (if_neg called)
      exact (good_append_iff (step_callback picked called)).2
        ⟨settled.good, ready.1, decide_eq_false (Nat.not_lt.2 ready.2)⟩

/-! ## Everything is kept under its own id -/

/-- What is kept is what was registered, under this id. -/
def Registered (s : State) (cbId : UInt64) (kept : Kept) : Prop :=
  s.registered[kept.place]? = some (cbId, kept.info)

/-- What a call has copied is of the id that it was called with. -/
def StageOwn (s : State) : Stage → Prop
  | .callback cbId _ kept => s.Registered cbId kept
  | _ => True

/-- What is kept, copied or was called is of its own id, and what is kept has not been cleared. -/
structure Own (s : State) : Prop where
  kept : ∀ cbId kept, s.keyEventCbHandlers cbId = some kept → s.Registered cbId kept ∧
    s.clearedTo ≤ kept.place
  calls : ∀ stage ∈ s.calls, s.StageOwn stage
  invocations : ∀ invocation ∈ s.invocations, s.Registered invocation.cbId invocation.kept
  cleared : s.clearedTo ≤ s.registered.length

theorem Registered.inside {cbId : UInt64} {kept : Kept} (registered : s.Registered cbId kept) :
    kept.place < s.registered.length :=
  (List.getElem?_eq_some_iff.1 registered).1

theorem Registered.add {cbId : UInt64} {kept : Kept} (registered : s.Registered cbId kept)
    (cbInfo : KeyEventCbInfo) :
    (s.addKeyEventCbInfo cbInfo).Registered cbId kept := by
  show (s.registered ++ [(s.maxCbId, cbInfo)])[kept.place]? = _
  rw [List.getElem?_append_left registered.inside]
  exact registered

theorem StageOwn.add {stage : Stage} (own : s.StageOwn stage) (cbInfo : KeyEventCbInfo) :
    (s.addKeyEventCbInfo cbInfo).StageOwn stage := by
  cases stage with
  | callback cbId consumeResult kept => exact Registered.add own cbInfo
  | getKeyEventCbInfo cbId consumeResult => trivial
  | removeKeyEventCbInfo cbId => trivial

theorem add_own (own : s.Own) (cbInfo : KeyEventCbInfo) : (s.addKeyEventCbInfo cbInfo).Own := by
  refine ⟨?_, fun stage member => (own.calls stage member).add cbInfo,
    fun invocation member => (own.invocations invocation member).add cbInfo, ?_⟩
  · intro cbId kept found
    by_cases new : cbId = s.maxCbId
    · subst new
      rw [add_found] at found
      cases found
      exact ⟨List.getElem?_concat_length, own.cleared⟩
    · rw [add_other cbInfo new] at found
      obtain ⟨registered, uncleared⟩ := own.kept cbId kept found
      exact ⟨registered.add cbInfo, uncleared⟩
  · show s.clearedTo ≤ (s.registered ++ [(s.maxCbId, cbInfo)]).length
    rw [List.length_append]
    exact Nat.le_add_right_of_le own.cleared

theorem remove_own (own : s.Own) (cbId : UInt64) : (s.removeKeyEventCbInfo cbId).Own := by
  refine ⟨?_, own.calls, own.invocations, own.cleared⟩
  intro other kept found
  by_cases same : other = cbId
  · subst same
    rw [remove_found] at found
    cases found
  · rw [remove_other same] at found
    exact own.kept other kept found

section Calls

variable {stage : Stage} {next : Option Stage} {index : Nat}

/-- The calls after a step of one of them. -/
theorem own_goOn (picked : s.calls[index]? = some stage) (own : s'.Own) (same : s'.calls = s.calls)
    (on : ∀ later ∈ next, s'.StageOwn later) :
    ({ s' with calls := goOn s.calls index next } : State).Own := by
  have calls : ∀ other ∈ goOn s.calls index next, s'.StageOwn other := by
    refine forall_mem_goOn picked on ?_
    rw [← same]
    exact own.calls
  exact ⟨own.kept, calls, own.invocations, own.cleared⟩

theorem exec_own (picked : s.calls[index]? = some stage) (own : s.Own) :
    ({ (s.exec stage).1 with calls := goOn s.calls index (s.exec stage).2 } : State).Own := by
  have mine := own.calls stage (List.mem_of_getElem? picked)
  cases stage with
  | getKeyEventCbInfo cbId consumeResult =>
      simp only [exec]
      cases found : s.keyEventCbHandlers cbId with
      | none =>
          refine own_goOn picked own rfl ?_
          rintro later ⟨⟩
      | some kept =>
          refine own_goOn picked own rfl ?_
          rintro later ⟨⟩
          exact (own.kept cbId kept found).1
  | callback cbId consumeResult kept =>
      have invoked : (s.invoke cbId consumeResult kept).Own := by
        unfold invoke
        split
        · exact own
        · refine ⟨own.kept, own.calls, ?_, own.cleared⟩
          intro invocation member
          rcases List.mem_append.1 member with before | now
          · exact own.invocations invocation before
          · rw [List.mem_singleton.1 now]
            exact mine
      have calls : (s.invoke cbId consumeResult kept).calls = s.calls := by
        unfold invoke
        split <;> rfl
      refine own_goOn picked invoked calls ?_
      rintro later ⟨⟩
      trivial
  | removeKeyEventCbInfo cbId =>
      refine own_goOn picked (remove_own own cbId) rfl ?_
      rintro later ⟨⟩

end Calls

theorem step_own (s : State) (event : Event) (own : s.Own) : (s.step event).Own := by
  cases event with
  | addKeyEventCbInfo cbInfo => exact add_own own cbInfo
  | handleKeyEventResult cbId consumeResult =>
      refine ⟨own.kept, ?_, own.invocations, own.cleared⟩
      intro stage member
      rcases List.mem_append.1 member with there | new
      · exact own.calls stage there
      · rw [List.mem_singleton.1 new]
        trivial
  | clearKeyEventCbInfo =>
      refine ⟨?_, own.calls, own.invocations, Nat.le_refl _⟩
      intro cbId kept found
      cases found
  | removeKeyEventCbInfo cbId => exact remove_own own cbId
  | advance index =>
      cases picked : s.calls[index]? with
      | none =>
          rw [step_nobody picked]
          exact own
      | some stage =>
          simp only [step, picked]
          exact exec_own picked own

/-! ## What a step disturbs -/

/-- Steps that bring nothing into hand keep what was settled. -/
theorem Settled.mono (before : s.Settled) (invocations : s'.invocations = s.invocations)
    (cleared : s'.clearedTo = s.clearedTo)
    (calls : ∀ stage ∈ s'.calls, ∀ place ∈ stage.inHand, stage ∈ s.calls) : s'.Settled := by
  refine ⟨(good_congr invocations).2 before.good, ?_⟩
  intro stage member place inHand
  rw [invoked, invocations, cleared]
  exact before.inHand stage (calls stage member place inHand) place inHand

section Calls

variable {index : Nat} {cbId : UInt64} {consumeResult : Bool} {stage : Stage} {next : Option Stage}

/-- A call goes on with nothing in hand. -/
theorem Settled.goOn (before : s.Settled) (picked : s.calls[index]? = some stage)
    (empty : ∀ later ∈ next, later.inHand = none) (invocations : s'.invocations = s.invocations)
    (cleared : s'.clearedTo = s.clearedTo) (calls : s'.calls = Lib.goOn s.calls index next) :
    s'.Settled := by
  refine before.mono invocations cleared ?_
  intro other member place inHand
  rw [calls] at member
  rcases next_or_mem picked member with later | there
  · rw [empty other later] at inHand
    cases inHand
  · exact there

/-- An entry is looked up. -/
theorem lookup_settled_iff (picked : s.calls[index]? = some (.getKeyEventCbInfo cbId consumeResult))
    (own : s.Own) (before : s.Settled) {kept : Kept} (found : s.keyEventCbHandlers cbId = some kept)
    (invocations : s'.invocations = s.invocations) (cleared : s'.clearedTo = s.clearedTo)
    (calls : s'.calls = Lib.goOn s.calls index (some (.callback cbId consumeResult kept))) :
    s'.Settled ↔ (kept.info.callback ≠ none → kept.place ∉ s.invoked) := by
  have same : s'.invoked = s.invoked := by rw [invoked, invoked, invocations]
  constructor
  · intro after called
    have mine : .callback cbId consumeResult kept ∈ s'.calls := by
      rw [calls]
      exact (mem_goOn_iff picked).2 (.inl rfl)
    rw [← same]
    exact (after.inHand _ mine kept.place (if_neg called)).1
  · intro first
    refine ⟨(good_congr invocations).2 before.good, ?_⟩
    intro stage member place inHand
    rw [calls] at member
    rw [same, cleared]
    rcases next_or_mem picked member with copied | there
    · cases copied
      obtain ⟨_, _, _, copied, called, rfl⟩ := mem_inHand inHand
      cases copied
      exact ⟨first called, (own.kept cbId kept found).2⟩
    · exact before.inHand stage there place inHand

/-- A callback is called that is not null. -/
theorem callback_settled_iff {kept : Kept}
    (picked : s.calls[index]? = some (.callback cbId consumeResult kept))
    (before : s.Settled) (called : kept.info.callback ≠ none)
    (more : s'.invocations =
      s.invocations ++ [{ kept, cbId, consumeResult, cleared := decide (kept.place < s.clearedTo) }])
    (cleared : s'.clearedTo = s.clearedTo)
    (calls : s'.calls = Lib.goOn s.calls index (some (.removeKeyEventCbInfo cbId))) :
    s'.Settled ↔ ∀ other ∈ s.calls.eraseIdx index, other.inHand ≠ some kept.place := by
  have invoked : s'.invoked = s.invoked ++ [kept.place] := by
    simp [State.invoked, more]
  have mine := before.inHand _ (List.mem_of_getElem? picked) kept.place (if_neg called)
  constructor
  · intro after other rest inHand
    have member : other ∈ s'.calls := by
      rw [calls]
      exact (mem_goOn_iff picked).2 (.inr rest)
    refine (after.inHand other member kept.place inHand).1 ?_
    rw [invoked]
    exact List.mem_append_right _ List.mem_cons_self
  · intro alone
    refine ⟨(good_append_iff more).2 ⟨before.good, mine.1, decide_eq_false (Nat.not_lt.2 mine.2)⟩, ?_⟩
    intro stage member place inHand
    rw [calls] at member
    rw [invoked, cleared]
    rcases (mem_goOn_iff picked).1 member with removes | rest
    · cases removes
      cases inHand
    · obtain ⟨fresh, uncleared⟩ :=
        before.inHand stage ((mem_threads_iff picked).2 (.inr rest)) place inHand
      refine ⟨?_, uncleared⟩
      intro again
      rcases List.mem_append.1 again with earlier | now
      · exact fresh earlier
      · rw [List.mem_singleton.1 now] at inHand
        exact alone stage rest inHand

/-- A call goes on. -/
theorem exec_settled_iff (picked : s.calls[index]? = some stage) (own : s.Own) (before : s.Settled) :
    ({ (s.exec stage).1 with calls := Lib.goOn s.calls index (s.exec stage).2 } : State).Settled ↔
      s.StageUndisturbed index stage := by
  have empty : ∀ later ∈ (none : Option Stage), later.inHand = none := nofun
  cases stage with
  | getKeyEventCbInfo cbId consumeResult =>
      cases found : s.keyEventCbHandlers cbId with
      | none =>
          simp only [exec, StageUndisturbed, found]
          refine iff_of_true (before.goOn picked empty rfl rfl rfl) ?_
          rintro kept ⟨⟩
      | some kept =>
          simp only [exec, StageUndisturbed, found]
          refine Iff.trans (lookup_settled_iff picked own before found rfl rfl rfl) ?_
          simp
  | callback cbId consumeResult kept =>
      have removes : ∀ later ∈ some (Stage.removeKeyEventCbInfo cbId), later.inHand = none := by
        rintro later ⟨⟩
        rfl
      simp only [exec, StageUndisturbed, invoke]
      by_cases null : kept.info.callback = none
      · rw [if_pos null]
        exact iff_of_true (before.goOn picked removes rfl rfl rfl) fun called => absurd null called
      · rw [if_neg null]
        refine Iff.trans (callback_settled_iff picked before null rfl rfl rfl) ?_
        exact ⟨fun alone _ => alone, fun alone => alone null⟩
  | removeKeyEventCbInfo cbId =>
      exact iff_of_true (before.goOn picked empty rfl rfl rfl) trivial

end Calls

/-- What is in hand when all is cleared would be called too late. -/
theorem clear_settled_iff (own : s.Own) (before : s.Settled) :
    s.clearKeyEventCbInfo.Settled ↔ ∀ stage ∈ s.calls, stage.inHand = none := by
  constructor
  · intro after stage member
    rw [Option.eq_none_iff_forall_ne_some]
    intro place inHand
    have late : s.registered.length ≤ place := (after.inHand stage member place inHand).2
    obtain ⟨cbId, consumeResult, kept, rfl, -, rfl⟩ := mem_inHand inHand
    have inside : kept.place < s.registered.length := Registered.inside (own.calls _ member)
    omega
  · intro empty
    have same : s.clearKeyEventCbInfo.invocations = s.invocations := rfl
    refine ⟨(good_congr same).2 before.good, ?_⟩
    intro stage member place inHand
    rw [empty stage member] at inHand
    cases inHand

theorem step_settled_iff (s : State) (event : Event) (own : s.Own) (before : s.Settled) :
    (s.step event).Settled ↔ s.Undisturbed event := by
  cases event with
  | addKeyEventCbInfo cbInfo =>
      exact iff_of_true (before.mono rfl rfl fun _ member _ _ => member) trivial
  | handleKeyEventResult cbId consumeResult =>
      refine iff_of_true (before.mono rfl rfl ?_) trivial
      intro stage member place inHand
      rcases List.mem_append.1 member with there | new
      · exact there
      · rw [List.mem_singleton.1 new] at inHand
        cases inHand
  | clearKeyEventCbInfo => exact clear_settled_iff own before
  | removeKeyEventCbInfo cbId =>
      exact iff_of_true (before.mono rfl rfl fun _ member _ _ => member) trivial
  | advance index =>
      cases picked : s.calls[index]? with
      | none =>
          rw [step_nobody picked]
          exact iff_of_true before (by simp [Undisturbed, picked])
      | some stage =>
          simp only [step, picked]
          rw [exec_settled_iff picked own before]
          simp [Undisturbed, picked]

theorem start_own : Own {} := ⟨by simp, by simp, by simp, Nat.le_refl _⟩

theorem start_settled : Settled {} := ⟨⟨List.nodup_nil, by simp⟩, by simp⟩

/-- **When results are delivered once.**  In a run no callback is called twice or after a clear, and
none can be with the next step, exactly when its steps are undisturbed.  And in every run a callback
is called only for a result with the id that it was registered under. -/
theorem delivered_once_iff (events : List Event) :
    ((∀ earlier, earlier <+: events → (run step {} earlier).Delivered) ↔
      Meets step Undisturbed {} events) ∧
      ∀ invocation ∈ (run step {} events).invocations,
        (run step {} events).registered[invocation.kept.place]? =
          some (invocation.cbId, invocation.kept.info) := by
  refine ⟨?_, (run_always step_own start_own events).invocations⟩
  simp only [delivered_iff]
  exact invariant_prefixes_iff_meets (I := fun s _ => s.Own) (fun s event _ own => step_own s event own)
    (fun s event _ own => step_settled_iff s event own) start_own start_settled

end State

/-! ## Poles -/

/-- A key event is dispatched, and two results come for it. -/
def repeatedResult : List Event :=
  [.addKeyEventCbInfo { keyEvent := some 7, callback := some 1 }, .handleKeyEventResult 1 true,
    .handleKeyEventResult 1 true, .advance 0, .advance 1, .advance 0, .advance 1]

/-- The client is unbound while a result is handled. -/
def overtakenResult : List Event :=
  [.addKeyEventCbInfo { keyEvent := some 7, callback := some 1 },
    .handleKeyEventResult 1 true, .advance 0,
    .clearKeyEventCbInfo, .advance 0]

/-- **A callback is called twice, and one after a clear.** -/
theorem result_delivered_twice :
    (run State.step {} repeatedResult).invoked = [0, 0] ∧
      ¬ (run State.step {} repeatedResult).Delivered ∧
      (run State.step {} overtakenResult).invocations.map Invocation.cleared = [true] ∧
      ¬ (run State.step {} overtakenResult).Delivered := by
  have twice : (run State.step {} repeatedResult).invoked = [0, 0] := by decide
  have late : (run State.step {} overtakenResult).invocations =
      [{ kept := { place := 0, info := { keyEvent := some 7, callback := some 1 } }, cbId := 1,
         consumeResult := true,
         cleared := true }] := by decide
  refine ⟨twice, ?_, by rw [late]; rfl, ?_⟩
  · rintro ⟨good, -⟩
    have once := good.once
    rw [twice] at once
    exact absurd once (by decide)
  · rintro ⟨good, -⟩
    have early := good.inTime
    rw [late] at early
    exact Bool.noConfusion (early _ List.mem_cons_self)

end Imf.KeyEvents
