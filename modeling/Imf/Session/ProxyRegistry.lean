/-
# Imf.Session.ProxyRegistry -- the proxy input methods of each display

A session keeps, for each display, the proxy input methods that have registered for it; the last
one is the one to bind.  Registering creates the list of the display, then looks for the process in
it, then fills in new data, which can fail; a process that is in the list already keeps its data and
moves to the end.  Unregistering and the death of an input method take processes out of the lists,
and lists out of the map when nothing is left in them.

No function here depends on the order of the displays, so the map is in the order of insertion.

`registry_kept` says which runs keep the registry as it should be (`Keeps`): those in which a
process registers again only with the core and agent it has, and data cannot be filled in only where
the display has a list (`Heeds`).
-/
import Imf.Lib.EntryMap
import Imf.Lib.Run
import Imf.Session.ImeData

namespace Imf.ProxyRegistry

set_option autoImplicit false

open Lib (EntryMap Meets eraseP_key lookup lookup_mem lookup_none lookup_of_mem meets_iff_meets)
open Ipc (ImeType)

/-! ## Data -/

/-- What a registration is told. -/
structure Answers extends FillAnswers where
  /-- What the last input method of the display and the new one say to `IsEnable`. -/
  lastEnable : Bool := false
  newEnable : Bool := false
  deriving DecidableEq, Repr

inductive UnRegisteredType where
  | removeProxyIme
  | switchProxyImeToIme
  | unknown
  deriving DecidableEq, Repr

structure Registry where
  proxyImeData : EntryMap UInt64 (List ImeData) := .empty
  isFirstPreemption : Bool := false
  deriving DecidableEq, Repr

/-! ## Operations -/

/-- `answer` is what the core says. -/
def isEnable (data : ImeData) (answer : Bool) : Bool := data.core.isSome && answer

/-- What a removal leaves of a list, if anything. -/
def removeFrom (pid : Int32) (imeDataList : List ImeData) : Option (List ImeData) :=
  let imeDataList := imeDataList.eraseP fun data => decide (data.pid = pid)
  if imeDataList.isEmpty then none else some imeDataList

namespace Registry

variable (s : Registry)

def getProxyImeData (displayId : UInt64) : Option ImeData :=
  (s.proxyImeData.find displayId).bind List.getLast?

/-- The second `AddProxyImeData`: the list with the new data, and `isFirstPreemption_`. -/
def addToList (imeDataList : List ImeData) (imeData : ImeData) (answers : Answers) :
    List ImeData × Bool :=
  match imeDataList.getLast? with
  | none => ([imeData], s.isFirstPreemption)
  | some lastImeData =>
      if !s.isFirstPreemption then
        if isEnable lastImeData answers.lastEnable && !isEnable imeData answers.newEnable then
          (imeData :: imeDataList, true)
        else (imeDataList ++ [imeData], true)
      else (imeDataList ++ [imeData], s.isFirstPreemption)

def addProxyImeData (displayId : UInt64) (core agent : Option Nat) (pid uid : Int32)
    (answers : Answers) :
    Option ImeData × Registry :=
  if core = none ∨ agent = none then (none, s)
  else
    -- `proxyImeData_[displayId]` creates an empty list.
    let created := s.proxyImeData.insert displayId []
    let imeDataList := (created.find displayId).getD []
    match lookup ImeData.pid pid imeDataList with
    | some imeData =>
        let moved := (imeDataList.eraseP fun data => decide (data.pid = pid)) ++ [imeData]
        (some imeData, { s with proxyImeData := created.alter displayId fun _ => some moved })
    | none =>
        let (ret, imeData) := fillImeData core agent pid .proxyIme {} uid answers.toFillAnswers
        if ret ≠ .noError then (none, { s with proxyImeData := created })
        else
          let (added, isFirstPreemption) := s.addToList imeDataList imeData answers
          (some imeData, { proxyImeData := created.alter displayId fun _ => some added,
                           isFirstPreemption })

/-- Whose core is told that it is preempted.  Cores are told apart by their remote objects. -/
def preempted (displayId : UInt64) (core : Option Nat) : Option Nat :=
  ((s.getProxyImeData displayId).bind ImeData.core).filter fun lastCore =>
    core.any fun core => lastCore ≠ core

/-- With the core that is notified first.  What comes of the current client of the display does not
touch the registry. -/
def onRegisterProxyIme (displayId : UInt64) (core agent : Option Nat) (pid uid : Int32)
    (answers : Answers) :
    ErrorCode × Option Nat × Registry :=
  let (newImeData, after) := s.addProxyImeData displayId core agent pid uid answers
  (if newImeData.isNone then .errorBadParameters else .noError, s.preempted displayId core, after)

def removeProxyImeData (displayId : UInt64) (pid : Int32) : Registry :=
  { s with proxyImeData := s.proxyImeData.alter displayId (removeFrom pid) }

/-- `RemoveProxyImeData` of all displays, which is what `RemoveImeData` does here. -/
def removeProxyImeDataOf (pid : Int32) : Registry :=
  { s with proxyImeData := s.proxyImeData.update fun _ => removeFrom pid }

def onUnregisterProxyIme (displayId : UInt64) (pid : Int32) : UnRegisteredType → Registry
  | .removeProxyIme => s.removeProxyImeData displayId pid
  | .switchProxyImeToIme => s.removeProxyImeData displayId pid
  | .unknown => s

end Registry

inductive Call where
  | onRegisterProxyIme (displayId : UInt64) (core agent : Option Nat) (pid uid : Int32)
      (answers : Answers)
  | onUnregisterProxyIme (displayId : UInt64) (pid : Int32) (type : UnRegisteredType)
  | removeImeData (pid : Int32)
  deriving DecidableEq, Repr

def step (s : Registry) : Call → Registry
  | .onRegisterProxyIme displayId core agent pid uid answers =>
      (s.onRegisterProxyIme displayId core agent pid uid answers).2.2
  | .onUnregisterProxyIme displayId pid type => s.onUnregisterProxyIme displayId pid type
  | .removeImeData pid => s.removeProxyImeDataOf pid

/-! ## What the registry should be -/

/-- No list is empty, and none has a process twice. -/
def Sound (proxyImeData : EntryMap UInt64 (List ImeData)) : Prop :=
  ∀ displayId imeDataList, proxyImeData.find displayId = some imeDataList →
    imeDataList ≠ [] ∧ (imeDataList.map ImeData.pid).Nodup

/-- `imeData` is placed first, because the last one before it is enabled and it is not, and nothing
has been preempted before. -/
structure PlacedFirst (s after : Registry) (displayId : UInt64) (imeData : ImeData)
    (imeDataList : List ImeData) (answers : Answers) : Prop where
  first : imeDataList.head? = some imeData
  once : s.isFirstPreemption = false ∧ after.isFirstPreemption = true
  last_enabled : ∃ lastImeData, s.getProxyImeData displayId = some lastImeData ∧
    isEnable lastImeData answers.lastEnable = true
  not_enabled : isEnable imeData answers.newEnable = false

/-- The display has the process with this core and agent, at the end of its list or placed first. -/
def Registered (s after : Registry) (displayId : UInt64) (core agent : Option Nat) (pid : Int32)
    (answers : Answers) : Prop :=
  ∃ imeData imeDataList, after.proxyImeData.find displayId = some imeDataList ∧ imeData ∈ imeDataList ∧
    imeData.pid = pid ∧ imeData.core = core ∧ imeData.agent = agent ∧
    (imeDataList.getLast? = some imeData ∨ PlacedFirst s after displayId imeData imeDataList answers)

/-- A registration does what it says or nothing, and a removal leaves nothing of the process. -/
def Done (s : Registry) : Call → Prop
  | .onRegisterProxyIme displayId core agent pid uid answers =>
      if (s.onRegisterProxyIme displayId core agent pid uid answers).1 = .noError then
        Registered s (s.onRegisterProxyIme displayId core agent pid uid answers).2.2 displayId core
          agent pid answers
      else (s.onRegisterProxyIme displayId core agent pid uid answers).2.2 = s
  | .onUnregisterProxyIme _ _ _ => True
  | .removeImeData pid =>
      ∀ displayId imeDataList,
        (s.removeProxyImeDataOf pid).proxyImeData.find displayId = some imeDataList →
        pid ∉ imeDataList.map ImeData.pid

structure Keeps (s : Registry) (call : Call) : Prop where
  sound : Sound (step s call).proxyImeData
  done : Done s call
  /-- There is only one first preemption. -/
  once : s.isFirstPreemption = true → (step s call).isFirstPreemption = true

/-- `FillImeData` succeeds for a core and an agent. -/
def Answers.fill (answers : Answers) : Bool :=
  answers.newRecipient && answers.coreObject.any fun isProxyObject =>
    !isProxyObject || answers.addDeathRecipient

/-- A display without a list has data filled in; a process that is in the list of the display has the
core and the agent that it comes with. -/
def Heeds (s : Registry) : Call → Prop
  | .onRegisterProxyIme displayId core agent pid _ answers =>
      core ≠ none → agent ≠ none →
        (s.proxyImeData.find displayId = none → answers.fill = true) ∧
          ∀ imeData ∈ (s.proxyImeData.find displayId).getD [], imeData.pid = pid →
            imeData.core = core ∧ imeData.agent = agent
  | .onUnregisterProxyIme _ _ _ => True
  | .removeImeData _ => True

instance (s : Registry) : ∀ call, Decidable (Heeds s call)
  | .onRegisterProxyIme displayId core agent pid _ answers =>
      inferInstanceAs (Decidable (core ≠ none → agent ≠ none →
        (s.proxyImeData.find displayId = none → answers.fill = true) ∧
          ∀ imeData ∈ (s.proxyImeData.find displayId).getD [], imeData.pid = pid →
            imeData.core = core ∧ imeData.agent = agent))
  | .onUnregisterProxyIme _ _ _ => .isTrue trivial
  | .removeImeData _ => .isTrue trivial

/-! ## Lists -/

section Lists

variable {pid : Int32} {imeData : ImeData} {imeDataList : List ImeData}

/-- A process that is new to the list can stand at its end, or at its beginning. -/
theorem nodup_concat (distinct : (imeDataList.map ImeData.pid).Nodup)
    (absent : imeData.pid ∉ imeDataList.map ImeData.pid) :
    ((imeDataList ++ [imeData]).map ImeData.pid).Nodup := by
  rw [List.map_append, List.map_singleton, ← List.concat_eq_append]
  exact distinct.concat absent

theorem nodup_cons (distinct : (imeDataList.map ImeData.pid).Nodup)
    (absent : imeData.pid ∉ imeDataList.map ImeData.pid) :
    ((imeData :: imeDataList).map ImeData.pid).Nodup :=
  List.nodup_cons.2 ⟨absent, distinct⟩

/-- Erasing what a search for the process found erases all of it. -/
theorem not_mem_erased (distinct : (imeDataList.map ImeData.pid).Nodup) (pid : Int32) :
    pid ∉ (imeDataList.eraseP fun data => decide (data.pid = pid)).map ImeData.pid := by
  rw [eraseP_key distinct]
  intro member
  obtain ⟨data, inside, same⟩ := List.mem_map.1 member
  exact of_decide_eq_true (List.mem_filter.1 inside).2 same

theorem nodup_erased (distinct : (imeDataList.map ImeData.pid).Nodup) (pid : Int32) :
    ((imeDataList.eraseP fun data => decide (data.pid = pid)).map ImeData.pid).Nodup :=
  distinct.sublist (List.eraseP_sublist.map _)

theorem removeFrom_eq_some {left : List ImeData} (removed : removeFrom pid imeDataList = some left) :
    left = (imeDataList.eraseP fun data => decide (data.pid = pid)) ∧ left ≠ [] := by
  unfold removeFrom at removed
  dsimp only at removed
  split at removed
  · cases removed
  · rename_i inhabited
    cases removed
    exact ⟨rfl, fun empty => inhabited (List.isEmpty_iff.2 empty)⟩

end Lists

/-! ## Maps -/

section Maps

variable {proxyImeData : EntryMap UInt64 (List ImeData)} (sound : Sound proxyImeData)

include sound

theorem Sound.update {change : UInt64 → List ImeData → Option (List ImeData)}
    (keeps : ∀ displayId before after,
      (before.map ImeData.pid).Nodup → change displayId before = some after →
      before ≠ [] → after ≠ [] ∧ (after.map ImeData.pid).Nodup) :
        Sound (proxyImeData.update change) := by
  intro displayId after found
  rw [EntryMap.find_update] at found
  obtain ⟨before, there, changed⟩ := Option.bind_eq_some_iff.1 found
  obtain ⟨inhabited, distinct⟩ := sound displayId before there
  exact keeps displayId before after distinct changed inhabited

theorem Sound.replace {imeData : ImeData} {imeDataList : List ImeData} (inside : imeData ∈ imeDataList)
    (distinct : (imeDataList.map ImeData.pid).Nodup) (displayId : UInt64) :
    Sound ((proxyImeData.insert displayId []).alter displayId fun _ => some imeDataList) := by
  intro other found there
  rw [EntryMap.find_replace] at there
  split at there
  · cases there
    exact ⟨List.ne_nil_of_mem inside, distinct⟩
  · exact sound other found there

/-- Also the list that a display without one is said to have. -/
theorem Sound.nodup_getD (displayId : UInt64) :
    (((proxyImeData.find displayId).getD []).map ImeData.pid).Nodup := by
  cases found : proxyImeData.find displayId with
  | none => exact List.nodup_nil
  | some imeDataList => exact (sound displayId imeDataList found).2

theorem Sound.remove (pid : Int32) : Sound (proxyImeData.update fun _ => removeFrom pid) := by
  refine sound.update fun _ before after distinct removed _ => ?_
  obtain ⟨rfl, inhabited⟩ := removeFrom_eq_some removed
  exact ⟨inhabited, nodup_erased distinct pid⟩

theorem Sound.removeAt (displayId : UInt64) (pid : Int32) :
    Sound (proxyImeData.alter displayId (removeFrom pid)) := by
  refine sound.update fun other before after distinct removed inhabited => ?_
  split at removed
  · obtain ⟨rfl, inhabited⟩ := removeFrom_eq_some removed
    exact ⟨inhabited, nodup_erased distinct pid⟩
  · cases removed
    exact ⟨inhabited, distinct⟩

theorem Sound.not_mem_remove (pid : Int32) (displayId : UInt64) (after : List ImeData)
    (found : (proxyImeData.update fun _ => removeFrom pid).find displayId = some after) :
    pid ∉ after.map ImeData.pid := by
  rw [EntryMap.find_update] at found
  obtain ⟨before, there, removed⟩ := Option.bind_eq_some_iff.1 found
  obtain ⟨rfl, -⟩ := removeFrom_eq_some removed
  exact not_mem_erased (sound displayId before there).2 pid

end Maps

/-! ## Registrations -/

/-- The data that a registration fills in. -/
def filled (core agent : Option Nat) (pid uid : Int32) : ImeData :=
  { core, agent, deathRecipient := true, pid, uid, type := .proxyIme, imeStatus := .ready,
    ime := (PROXY_IME_NAME, "") }

section Registrations

variable {s : Registry} {displayId : UInt64} {core agent : Option Nat} {pid uid : Int32}
  {answers : Answers}

theorem not_fill (fails : answers.fill = false) :
    answers.newRecipient = false ∨
      (answers.coreObject.all fun isProxyObject => isProxyObject && !answers.addDeathRecipient) =
        true := by
  unfold Answers.fill at fails
  cases newRecipient : answers.newRecipient with
  | false => exact .inl rfl
  | true =>
      refine .inr ?_
      cases object : answers.coreObject with
      | none => rfl
      | some isProxyObject =>
          rw [newRecipient, object] at fails
          simpa using fails

theorem fillImeData_refused (fails : answers.fill = false) (imeData : ImeData) (type : ImeType) :
    (fillImeData core agent pid type imeData uid answers.toFillAnswers).1 ≠ .noError := by
  unfold fillImeData
  dsimp only
  split
  · exact nofun
  · split
    · exact nofun
    · rename_i recipient
      rcases not_fill fails with none | refused
      · rw [none] at recipient
        exact absurd rfl recipient
      · rw [if_pos refused]
        exact nofun

theorem fillImeData_filled (hasCore : core ≠ none) (hasAgent : agent ≠ none)
    (fills : answers.fill = true) :
    fillImeData core agent pid .proxyIme {} uid answers.toFillAnswers =
      (.noError, filled core agent pid uid) := by
  unfold Answers.fill at fills
  obtain ⟨recipient, object⟩ := Bool.and_eq_true_iff.1 fills
  have added : ¬ (answers.coreObject.all fun isProxyObject =>
    isProxyObject && !answers.addDeathRecipient) = true := by
    cases found : answers.coreObject with
    | none =>
        rw [found] at object
        cases object
    | some isProxyObject =>
        rw [found] at object
        intro refused
        simp_all
  unfold fillImeData
  rw [if_neg (not_or.2 ⟨hasCore, hasAgent⟩)]
  dsimp only
  rw [recipient, if_neg added]
  rfl

/-- `proxyImeData_[displayId]` is the list of the display, or an empty one. -/
theorem find_created (s : Registry) (displayId : UInt64) :
    ((s.proxyImeData.insert displayId []).find displayId).getD [] =
      (s.proxyImeData.find displayId).getD [] := by
  rw [EntryMap.find_insert, if_pos rfl, Option.getD_some]

theorem add_null (missing : core = none ∨ agent = none) :
    s.addProxyImeData displayId core agent pid uid answers = (none, s) :=
  if_pos missing

/-- The process is in the list: its data moves to the end. -/
theorem add_again (hasCore : core ≠ none) (hasAgent : agent ≠ none) {imeData : ImeData}
    (found : lookup ImeData.pid pid ((s.proxyImeData.find displayId).getD []) = some imeData) :
    s.addProxyImeData displayId core agent pid uid answers =
      (some imeData,
        { s with
          proxyImeData := (s.proxyImeData.insert displayId []).alter displayId fun _ =>
            some ((((s.proxyImeData.find displayId).getD []).eraseP fun data =>
              decide (data.pid = pid)) ++ [imeData]) }) := by
  unfold Registry.addProxyImeData
  rw [if_neg (not_or.2 ⟨hasCore, hasAgent⟩)]
  dsimp only
  rw [find_created, found]

/-- The data cannot be filled in: what is left is the list that was created. -/
theorem add_refused (hasCore : core ≠ none) (hasAgent : agent ≠ none) (fails : answers.fill = false)
    (absent : lookup ImeData.pid pid ((s.proxyImeData.find displayId).getD []) = none) :
    s.addProxyImeData displayId core agent pid uid answers =
      (none, { s with proxyImeData := s.proxyImeData.insert displayId [] }) := by
  unfold Registry.addProxyImeData
  rw [if_neg (not_or.2 ⟨hasCore, hasAgent⟩)]
  dsimp only
  rw [find_created, absent]
  exact if_pos (fillImeData_refused fails _ _)

theorem add_new (hasCore : core ≠ none) (hasAgent : agent ≠ none) (fills : answers.fill = true)
    (absent : lookup ImeData.pid pid ((s.proxyImeData.find displayId).getD []) = none) :
    s.addProxyImeData displayId core agent pid uid answers =
      (some (filled core agent pid uid),
        { proxyImeData := (s.proxyImeData.insert displayId []).alter displayId fun _ =>
            some (s.addToList ((s.proxyImeData.find displayId).getD [])
              (filled core agent pid uid) answers).1
          isFirstPreemption :=
            (s.addToList ((s.proxyImeData.find displayId).getD [])
              (filled core agent pid uid) answers).2 }) := by
  unfold Registry.addProxyImeData
  rw [if_neg (not_or.2 ⟨hasCore, hasAgent⟩)]
  dsimp only
  rw [find_created, absent, fillImeData_filled hasCore hasAgent fills]
  rfl

/-- New data comes to the end of the list, or to its beginning by the rule for the first preemption. -/
theorem addToList_cases (s : Registry) (imeDataList : List ImeData) (imeData : ImeData)
    (answers : Answers) :
    (∃ isFirstPreemption,
      s.addToList imeDataList imeData answers = (imeDataList ++ [imeData], isFirstPreemption) ∧
      (s.isFirstPreemption = true → isFirstPreemption = true)) ∨
    (s.addToList imeDataList imeData answers = (imeData :: imeDataList, true) ∧
      s.isFirstPreemption = false ∧
      (∃ lastImeData, imeDataList.getLast? = some lastImeData ∧
        isEnable lastImeData answers.lastEnable = true) ∧
      isEnable imeData answers.newEnable = false) := by
  unfold Registry.addToList
  cases last : imeDataList.getLast? with
  | none =>
      rw [List.getLast?_eq_none_iff.1 last]
      exact .inl ⟨s.isFirstPreemption, rfl, id⟩
  | some lastImeData =>
      cases preempted : s.isFirstPreemption with
      | true => exact .inl ⟨true, rfl, id⟩
      | false =>
          cases rule : isEnable lastImeData answers.lastEnable &&
            !isEnable imeData answers.newEnable with
          | false =>
              refine .inl ⟨true, ?_, nofun⟩
              dsimp only
              rw [rule]
              rfl
          | true =>
              obtain ⟨enabled, disabled⟩ := Bool.and_eq_true_iff.1 rule
              refine .inr ⟨?_, rfl, ⟨lastImeData, rfl, enabled⟩, by simpa using disabled⟩
              dsimp only
              rw [rule]
              rfl

end Registrations

/-! ## Steps and runs -/

section Steps

variable {s : Registry} {displayId : UInt64} {core agent : Option Nat} {pid uid : Int32}
  {answers : Answers}

/-- What a registration has to meet, by what `AddProxyImeData` returns. -/
theorem keeps_added_iff {newImeData : Option ImeData} {after : Registry}
    (added : s.addProxyImeData displayId core agent pid uid answers = (newImeData, after)) :
    Keeps s (.onRegisterProxyIme displayId core agent pid uid answers) ↔
      Sound after.proxyImeData ∧
        (if newImeData.isSome then Registered s after displayId core agent pid answers else after = s) ∧
          (s.isFirstPreemption = true → after.isFirstPreemption = true) := by
  have stepped : step s (.onRegisterProxyIme displayId core agent pid uid answers) = after :=
    congrArg Prod.snd added
  have done : Done s (.onRegisterProxyIme displayId core agent pid uid answers) ↔
      if newImeData.isSome then Registered s after displayId core agent pid answers else after = s := by
    unfold Done Registry.onRegisterProxyIme
    dsimp only
    rw [added]
    cases newImeData with
    | none => exact Iff.rfl
    | some imeData => exact Iff.rfl
  rw [← done]
  constructor
  · rintro ⟨sound, kept, once⟩
    rw [stepped] at sound once
    exact ⟨sound, kept, once⟩
  · rintro ⟨sound, kept, once⟩
    rw [← stepped] at sound once
    exact ⟨sound, kept, once⟩

/-- A process that registers again is registered with what it had. -/
theorem keeps_again_iff (sound : Sound s.proxyImeData) (hasCore : core ≠ none) (hasAgent : agent ≠ none)
    {imeData : ImeData} (found : lookup ImeData.pid pid ((s.proxyImeData.find displayId).getD []) =
      some imeData) :
    Keeps s (.onRegisterProxyIme displayId core agent pid uid answers) ↔
      imeData.core = core ∧ imeData.agent = agent := by
  have distinct := sound.nodup_getD displayId
  obtain ⟨-, own⟩ := lookup_mem found
  rw [keeps_added_iff (add_again hasCore hasAgent found), if_pos Option.isSome_some]
  have absent := not_mem_erased distinct pid
  rw [← own] at absent
  have moved := nodup_concat (nodup_erased distinct imeData.pid) absent
  rw [own] at moved
  constructor
  · rintro ⟨-, ⟨data, imeDataList, there, inside, same, hasCore, hasAgent, -⟩, -⟩
    rw [EntryMap.find_replace, if_pos rfl] at there
    cases there
    have only : data = imeData :=
      List.inj_on_of_nodup_map moved inside (List.mem_append_right _ (List.mem_singleton.2 rfl))
        (same.trans own.symm)
    subst only
    exact ⟨hasCore, hasAgent⟩
  · rintro ⟨sameCore, sameAgent⟩
    have inside := List.mem_append_right (((s.proxyImeData.find displayId).getD []).eraseP fun data =>
      decide (data.pid = pid)) (List.mem_singleton.2 (rfl : imeData = imeData))
    refine ⟨sound.replace inside moved displayId, ?_, id⟩
    refine ⟨imeData, _, ?_, inside, own, sameCore, sameAgent, .inl ?_⟩
    · rw [EntryMap.find_replace, if_pos rfl]
    · exact List.getLast?_concat

theorem keeps_refused_iff (sound : Sound s.proxyImeData) (hasCore : core ≠ none)
    (hasAgent : agent ≠ none) (fails : answers.fill = false)
    (absent : lookup ImeData.pid pid ((s.proxyImeData.find displayId).getD []) = none) :
    Keeps s (.onRegisterProxyIme displayId core agent pid uid answers) ↔
      s.proxyImeData.find displayId ≠ none := by
  rw [keeps_added_iff (add_refused hasCore hasAgent fails absent), if_neg nofun]
  constructor
  · rintro ⟨left, -, -⟩ without
    refine (left displayId [] ?_).1 rfl
    rw [EntryMap.find_insert, if_pos rfl, without]
    rfl
  · intro there
    obtain ⟨imeDataList, found⟩ := Option.ne_none_iff_exists'.1 there
    have same : ({ s with proxyImeData := s.proxyImeData.insert displayId [] } : Registry) = s := by
      rw [EntryMap.insert_there found]
    rw [same]
    exact ⟨sound, rfl, id⟩

theorem keeps_new (sound : Sound s.proxyImeData) (hasCore : core ≠ none) (hasAgent : agent ≠ none)
    (fills : answers.fill = true)
    (absent : lookup ImeData.pid pid ((s.proxyImeData.find displayId).getD []) = none) :
    Keeps s (.onRegisterProxyIme displayId core agent pid uid answers) := by
  have distinct := sound.nodup_getD displayId
  have new : (filled core agent pid uid).pid ∉ ((s.proxyImeData.find displayId).getD []).map
    ImeData.pid :=
    lookup_none.1 absent
  rw [keeps_added_iff (add_new hasCore hasAgent fills absent), if_pos Option.isSome_some]
  rcases addToList_cases s ((s.proxyImeData.find displayId).getD [])
    (filled core agent pid uid) answers with
    ⟨isFirstPreemption, added, once⟩ | ⟨added, never, ⟨lastImeData, last, enabled⟩, disabled⟩
  · rw [added]
    have inside := List.mem_append_right ((s.proxyImeData.find displayId).getD [])
      (List.mem_singleton.2 (rfl : filled core agent pid uid = _))
    refine ⟨sound.replace inside (nodup_concat distinct new) displayId, ?_, once⟩
    refine ⟨filled core agent pid uid, _, ?_, inside, rfl, rfl, rfl, .inl ?_⟩
    · rw [EntryMap.find_replace, if_pos rfl]
    · exact List.getLast?_concat
  · rw [added]
    refine ⟨sound.replace List.mem_cons_self (nodup_cons distinct new) displayId, ?_, fun _ => rfl⟩
    refine ⟨filled core agent pid uid,
      filled core agent pid uid :: (s.proxyImeData.find displayId).getD [], ?_,
      List.mem_cons_self, rfl, rfl, rfl, .inr ⟨rfl, ⟨never, rfl⟩, ?_, disabled⟩⟩
    · rw [EntryMap.find_replace, if_pos rfl]
    · refine ⟨lastImeData, ?_, enabled⟩
      unfold Registry.getProxyImeData
      cases found : s.proxyImeData.find displayId with
      | none =>
          rw [found] at last
          cases last
      | some imeDataList =>
          rw [found] at last
          exact last

theorem keeps_register_iff (sound : Sound s.proxyImeData) :
    Keeps s (.onRegisterProxyIme displayId core agent pid uid answers) ↔
      Heeds s (.onRegisterProxyIme displayId core agent pid uid answers) := by
  unfold Heeds
  dsimp only
  by_cases missing : core = none ∨ agent = none
  · rw [keeps_added_iff (add_null missing), if_neg nofun]
    refine iff_of_true ⟨sound, rfl, id⟩ fun hasCore hasAgent => ?_
    exact absurd missing (not_or.2 ⟨hasCore, hasAgent⟩)
  obtain ⟨hasCore, hasAgent⟩ := not_or.1 missing
  rw [imp_iff_right hasCore, imp_iff_right hasAgent]
  cases searched : lookup ImeData.pid pid ((s.proxyImeData.find displayId).getD []) with
  | some imeData =>
      rw [keeps_again_iff sound hasCore hasAgent searched]
      obtain ⟨inside, own⟩ := lookup_mem searched
      constructor
      · intro same
        refine ⟨fun without => ?_, fun data member isPid => ?_⟩
        · rw [without] at inside
          cases inside
        · have only : data = imeData :=
            List.inj_on_of_nodup_map (sound.nodup_getD displayId) member inside (isPid.trans own.symm)
          rw [only]
          exact same
      · rintro ⟨-, all⟩
        exact all imeData inside own
  | none =>
      have others : ∀ data ∈ (s.proxyImeData.find displayId).getD [], data.pid = pid →
          data.core = core ∧ data.agent = agent := by
        intro data member isPid
        exact absurd (List.mem_map.2 ⟨data, member, isPid⟩) (lookup_none.1 searched)
      cases fills : answers.fill with
      | true => exact iff_of_true (keeps_new sound hasCore hasAgent fills searched) ⟨fun
          _ => rfl, others⟩
      | false =>
          rw [keeps_refused_iff sound hasCore hasAgent fills searched]
          constructor
          · intro there
            exact ⟨fun without => absurd without there, others⟩
          · rintro ⟨needs, -⟩ without
            cases needs without

/-- A call keeps a sound registry as it should be exactly when it heeds the condition. -/
theorem keeps_iff_heeds (sound : Sound s.proxyImeData) (call : Call) : Keeps s call ↔ Heeds s call := by
  cases call with
  | onRegisterProxyIme displayId core agent pid uid answers => exact keeps_register_iff sound
  | onUnregisterProxyIme displayId pid type =>
      refine iff_of_true ?_ trivial
      cases type with
      | removeProxyIme => exact ⟨sound.removeAt displayId pid, trivial, id⟩
      | switchProxyImeToIme => exact ⟨sound.removeAt displayId pid, trivial, id⟩
      | unknown => exact ⟨sound, trivial, id⟩
  | removeImeData pid => exact iff_of_true ⟨sound.remove pid, sound.not_mem_remove pid, id⟩ trivial

end Steps

theorem sound_empty : Sound EntryMap.empty := by
  intro displayId imeDataList found
  cases found

/-- **Every call of a run keeps the lists nonempty and their processes distinct, registers what it is
given or changes nothing, and removes a process from all lists, exactly when in that run a process
registers again only with its own core and agent, and data that cannot be filled in is only for
displays that have a list.** -/
theorem registry_kept (calls : List Call) : Meets step Keeps {} calls ↔ Meets step Heeds {} calls := by
  refine meets_iff_meets (P := fun s => Sound s.proxyImeData)
    (fun s call _ kept => kept.sound) ?_ sound_empty
  intro s call sound
  exact keeps_iff_heeds sound call

/-! ## Poles -/

/-- Two processes of one display; the first one comes to the end again, and goes. -/
theorem in_turn_kept :
    Meets step Keeps {}
      [.onRegisterProxyIme 0 (some 1) (some 2) 7 100 {},
        .onRegisterProxyIme 0 (some 3) (some 4) 8 100 {},
        .onRegisterProxyIme 0 (some 1) (some 2) 7 100 {}, .removeImeData 7] :=
  (registry_kept _).2 (by decide)

/-- Process 7 registers, and again with another core and agent. -/
def renewed : List Call :=
  [.onRegisterProxyIme 0 (some 1) (some 2) 7 100 {}, .onRegisterProxyIme 0 (some 3) (some 4) 7 100 {}]

/-- The core that is told it is preempted is the one that stays. -/
theorem renewed_stale :
    ¬ Meets step Keeps {} renewed ∧
      ((Lib.run step {} (renewed.take 1)).onRegisterProxyIme 0 (some 3) (some 4) 7 100 {}) =
        (.noError, some 1, Lib.run step {} (renewed.take 1)) := by
  refine ⟨?_, by decide⟩
  rintro ⟨-, kept, -⟩
  have done : Registered _ _ 0 (some 3) (some 4) 7 {} := kept.done
  obtain ⟨data, imeDataList, there, inside, -, hasCore, -⟩ := done
  have only : imeDataList = [filled (some 1) (some 2) 7 100] :=
    Option.some.inj (there.symm.trans (by decide))
  rw [only, List.mem_singleton] at inside
  rw [inside] at hasCore
  cases hasCore

/-- A registration that cannot add its death recipient leaves an empty list. -/
example :
    ¬ Meets step Keeps {}
      [.onRegisterProxyIme 0 (some 1) (some 2) 7 100 { addDeathRecipient := false }] := by
  rintro ⟨kept, -⟩
  exact (kept.sound 0 [] (by decide)).1 rfl

end Imf.ProxyRegistry
