/-
# Imf.Session.SwitchKey -- presses of the switch key, coalesced

`DealSwitchRequest` counts a press and posts a task unless one is at work.  The task takes the
count, goes on by that many input methods, and ends under the lock only when no press has come
since.  Calls and tasks run on different threads and meet in the counter and the flag, so each
section under the lock is a step here, and so is everything that a task asks.

`presses_coalesced` says that no press is lost and none starts a second task, and that a list of
input methods is gone through as if the presses had been handled one at a time.
-/
import Imf.Common.ErrorCode
import Imf.Lib.Run
import Mathlib.Algebra.Group.Nat.Defs
import Mathlib.Data.List.Nodup

namespace Imf.SwitchKey

set_option autoImplicit false

open Lib (run run_always run_append)

/-! ## The list -/

/-- What a task is told: the names of `ListEnabledInputMethod`, the default input method, whether
`IsSwitchingAllow` and a session is there, and what `OnSwitchInputMethod` does.  When it fails, it
leaves some input method configured. -/
structure Answer where
  props : Except ErrorCode (List String)
  defaultIme : Option String := none
  allowed : Bool := true
  session : Bool := true
  left : Option String := none

/-- `GetSwitchInfoBySwitchCount`: the bundle name of `switchInfo`, which is empty to begin with. -/
def getSwitchInfoBySwitchCount (answer : Answer) (currentImeBundle : String) (cacheCount : UInt32) :
    Except ErrorCode String :=
  match answer.props with
  | .error code => .error code
  | .ok props =>
      match props.findIdx? fun name => decide (name = currentImeBundle) with
      | none =>
          match answer.defaultIme with
          | some name => .ok name
          | none => .error .errorPackageManager
      | some distance =>
          let currentIndex := UInt32.ofNat distance
          let nextIndex := UInt32.ofNat ((cacheCount + currentIndex).toNat % props.length)
          if nextIndex = currentIndex then .ok "" else .ok (props[nextIndex.toNat]?.getD "")

/-! ## The system -/

/-- What a running task does next. -/
inductive Stage where
  /-- `SwitchType` takes the count. -/
  | taking
  /-- It asks for the input method to switch to. -/
  | asking (cacheCount : UInt32)
  /-- It switches, if there is one. -/
  | switching (bundleName : Except ErrorCode String)
  /-- `checkSwitchCount`. -/
  | checking

/-- The counter and the flag, the calls that are about to post, the tasks that wait and run, the
configured input method, and what has happened: the presses, and the counts taken. -/
structure State where
  targetSwitchCount : UInt32 := 0
  switchTaskExecuting : Bool := false
  posting : Nat := 0
  pending : Nat := 0
  running : List Stage := []
  current : String
  presses : Nat := 0
  taken : Nat := 0

inductive Turn where
  /-- The section of `DealSwitchRequest` under the lock. -/
  | press
  /-- `PostTask`, with a handler or without. -/
  | post (handler : Bool)
  | begin
  /-- One of the running tasks goes on. -/
  | task (k : Nat) (answer : Answer)

def press (s : State) : State :=
  let s := { s with presses := s.presses + 1 }
  if s.switchTaskExecuting then { s with targetSwitchCount := s.targetSwitchCount + 1 }
  else
    { s with
      switchTaskExecuting := true
      targetSwitchCount := s.targetSwitchCount + 1
      posting := s.posting + 1 }

/-- The switch at the end of `SwitchType`. -/
def switch (answer : Answer) (bundleName : String) (s : State) : State :=
  if bundleName = "" then s
  else if !answer.allowed then s
  else if !answer.session then s
  else { s with current := answer.left.getD bundleName }

/-- One step of a task, and what it does then. -/
def Stage.next (answer : Answer) (s : State) : Stage → State × Option Stage
  | .taking =>
      ({ s with targetSwitchCount := 0, taken := s.taken + s.targetSwitchCount.toNat },
        some (.asking s.targetSwitchCount))
  | .asking cacheCount =>
      (s, some (.switching (getSwitchInfoBySwitchCount answer s.current cacheCount)))
  | .switching (.error _) => (s, some .checking)
  | .switching (.ok bundleName) => (switch answer bundleName s, some .checking)
  | .checking =>
      if 0 < s.targetSwitchCount then (s, some .taking)
      else ({ s with switchTaskExecuting := false }, none)

def step (s : State) : Turn → State
  | .press => press s
  | .post handler =>
      if s.posting = 0 then s
      else { s with posting := s.posting - 1, pending := if handler then s.pending + 1 else s.pending }
  | .begin =>
      if s.pending = 0 then s
      else { s with pending := s.pending - 1, running := s.running ++ [.taking] }
  | .task k answer =>
      match s.running[k]? with
      | none => s
      | some stage =>
          match stage.next answer s with
          | (s', some stage') => { s' with running := s.running.set k stage' }
          | (s', none) => { s' with running := s.running.eraseIdx k }

/-- No call and no task is in progress. -/
def Idle (s : State) : Prop := s.posting = 0 ∧ s.pending = 0 ∧ s.running = []

def isPress : Turn → Bool
  | .press => true
  | _ => false

/-- The number of presses in a run. -/
def presses (es : List Turn) : Nat := es.countP isPress

/-- Input methods under distinct names, as many as there is room for. -/
structure EnabledList where
  props : List String
  distinct : props.Nodup
  named : "" ∉ props
  room : props.length ≤ 2 ^ 31

/-- Every switch succeeds on the list. -/
def Turn.Succeeds (enabled : EnabledList) : Turn → Prop
  | .post handler => handler = true
  | .task _ answer =>
      answer.props = .ok enabled.props ∧ answer.allowed = true ∧ answer.session = true ∧
        answer.left = none
  | _ => True

/-! ## Counting -/

/-- The flag stands for the one task there is, and no press is missing. -/
structure Counted (s : State) : Prop where
  tasks : s.posting + s.pending + s.running.length = if s.switchTaskExecuting then 1 else 0
  counted : s.taken + s.targetSwitchCount.toNat = s.presses
  quiet : s.switchTaskExecuting = false → s.targetSwitchCount = 0

section Counting

variable {s : State}

theorem Counted.tasks_le (counted : Counted s) : s.posting + s.pending + s.running.length ≤ 1 := by
  rw [counted.tasks]
  split <;> decide

/-- A task that runs is alone. -/
theorem Counted.alone (counted : Counted s) {k : Nat} {stage : Stage}
    (runs : s.running[k]? = some stage) :
    k = 0 ∧ s.running = [stage] ∧ s.posting = 0 ∧ s.pending = 0 ∧ s.switchTaskExecuting = true := by
  have most := counted.tasks_le
  have inside : k < s.running.length := (List.getElem?_eq_some_iff.1 runs).1
  have first : k = 0 := by omega
  subst first
  refine ⟨rfl, ?_, by omega, by omega, ?_⟩
  · obtain ⟨only, same⟩ := List.length_eq_one_iff.1 (show s.running.length = 1 by omega)
    rw [same] at runs
    cases runs
    exact same
  · by_contra off
    have none := counted.tasks
    rw [if_neg off] at none
    omega

theorem Counted.idle (counted : Counted s) (idle : Idle s) :
    s.targetSwitchCount = 0 ∧ s.switchTaskExecuting = false := by
  have off : s.switchTaskExecuting = false := by
    cases on : s.switchTaskExecuting with
    | false => rfl
    | true =>
        have one := counted.tasks
        rw [idle.1, idle.2.1, idle.2.2, on] at one
        cases one
  exact ⟨counted.quiet off, off⟩

theorem toNat_succ {count : UInt32} (small : count.toNat + 1 < 2 ^ 32) :
    (count + 1).toNat = count.toNat + 1 := by
  rw [UInt32.toNat_add]
  exact Nat.mod_eq_of_lt small

theorem press_counted (counted : Counted s) (few : s.presses + 1 < 2 ^ 32) : Counted (press s) := by
  have total := counted.counted
  have one := toNat_succ (show s.targetSwitchCount.toNat + 1 < 2 ^ 32 by omega)
  have tasks := counted.tasks
  unfold press
  dsimp only
  split
  · rename_i on
    rw [on] at tasks
    refine ⟨by rw [on]; exact tasks, ?_, fun off => absurd on (by rw [off]; exact nofun)⟩
    show s.taken + (s.targetSwitchCount + 1).toNat = s.presses + 1
    omega
  · rename_i off
    rw [if_neg off] at tasks
    refine ⟨?_, ?_, nofun⟩
    · show s.posting + 1 + s.pending + s.running.length = 1
      omega
    · show s.taken + (s.targetSwitchCount + 1).toNat = s.presses + 1
      omega

theorem post_counted (counted : Counted s) : Counted (step s (.post true)) := by
  have tasks := counted.tasks
  simp only [step]
  split
  · exact counted
  · refine ⟨?_, counted.counted, counted.quiet⟩
    show s.posting - 1 + (s.pending + 1) + s.running.length = if s.switchTaskExecuting then 1 else 0
    omega

theorem begin_counted (counted : Counted s) : Counted (step s .begin) := by
  have tasks := counted.tasks
  simp only [step]
  split
  · exact counted
  · refine ⟨?_, counted.counted, counted.quiet⟩
    show s.posting + (s.pending - 1) + (s.running ++ [Stage.taking]).length =
      if s.switchTaskExecuting then 1 else 0
    rw [List.length_append, List.length_singleton]
    omega

/-- A switch touches the configured input method alone. -/
theorem switch_counted (answer : Answer) (bundleName : String) (counted : Counted s) :
    Counted (switch answer bundleName s) := by
  have parts : switch answer bundleName s =
    { s with current := (switch answer bundleName s).current } := by
    unfold switch
    split
    · rfl
    split
    · rfl
    split <;> rfl
  rw [parts]
  exact ⟨counted.tasks, counted.counted, counted.quiet⟩

theorem switch_running (answer : Answer) (bundleName : String) (s : State) :
    (switch answer bundleName s).running = s.running := by
  unfold switch
  split
  · rfl
  split
  · rfl
  split <;> rfl

/-- A task goes on to another step. -/
theorem Counted.goOn (counted : Counted s) (k : Nat) (stage : Stage) :
    Counted { s with running := s.running.set k stage } := by
  refine ⟨?_, counted.counted, counted.quiet⟩
  show s.posting + s.pending + (s.running.set k stage).length = _
  rw [List.length_set]
  exact counted.tasks

theorem task_counted (counted : Counted s) (k : Nat) (answer : Answer) :
    Counted (step s (.task k answer)) := by
  simp only [step]
  split
  · exact counted
  · rename_i stage runs
    obtain ⟨rfl, alone, posting, pending, on⟩ := counted.alone runs
    cases stage with
    | taking =>
        have taken : Counted { s with
            targetSwitchCount := 0, taken := s.taken + s.targetSwitchCount.toNat } :=
          ⟨counted.tasks, counted.counted, fun _ => rfl⟩
        exact taken.goOn 0 _
    | asking cacheCount => exact counted.goOn 0 _
    | switching bundleName =>
        cases bundleName with
        | error code => exact counted.goOn 0 _
        | ok bundleName =>
            have switched := (switch_counted answer bundleName counted).goOn 0 .checking
            rw [switch_running] at switched
            exact switched
    | checking =>
        simp only [Stage.next]
        by_cases more : 0 < s.targetSwitchCount
        · rw [if_pos more]
          exact counted.goOn 0 _
        · -- The task ends under the lock that it has found the count at zero by.
          rw [if_neg more]
          refine ⟨?_, counted.counted, fun _ => ?_⟩
          · show s.posting + s.pending + (s.running.eraseIdx 0).length = 0
            rw [posting, pending, alone]
            rfl
          · exact UInt32.le_antisymm (UInt32.not_lt.1 more) (UInt32.zero_le)

theorem step_counted (counted : Counted s) (few : s.presses + 1 < 2 ^ 32) {e : Turn}
    (posts : e ≠ .post false) :
    Counted (step s e) := by
  cases e with
  | press => exact press_counted counted few
  | post handler =>
      cases handler with
      | false => exact absurd rfl posts
      | true => exact post_counted counted
  | begin => exact begin_counted counted
  | task k answer => exact task_counted counted k answer

end Counting

/-! ## Rotating -/

/-- The input method `n` places on, round and round. -/
def EnabledList.at (enabled : EnabledList) (n : Nat) : Option String :=
  enabled.props[n % enabled.props.length]?

/-- What has been taken has been gone on by, but for what the running task has yet to do. -/
def Rotated (enabled : EnabledList) (i : Nat) (s : State) : Prop :=
  match s.running with
  | [.asking cacheCount] =>
      ∃ before, s.taken = before + cacheCount.toNat ∧ enabled.at (i + before) = some s.current
  | [.switching (.error _)] => False
  | [.switching (.ok bundleName)] =>
      enabled.at (i + s.taken) = some (if bundleName = "" then s.current else bundleName)
  | _ => enabled.at (i + s.taken) = some s.current

section Rotating

variable {enabled : EnabledList} {s : State}

/-- The place that `n` places lead to. -/
theorem EnabledList.at_index {n : Nat} {name : String} (there : enabled.at n = some name) :
    enabled.props.findIdx? (fun other => decide (other = name)) = some (n % enabled.props.length) := by
  obtain ⟨inside, same⟩ := List.getElem?_eq_some_iff.1 there
  refine List.findIdx?_eq_some_iff_getElem.2 ⟨inside, decide_eq_true same, ?_⟩
  intro j before found
  have again : enabled.props[j] = enabled.props[n % enabled.props.length] :=
    (of_decide_eq_true found).trans same.symm
  exact absurd ((enabled.distinct.getElem_inj_iff).1 again) (Nat.ne_of_lt before)

/-- `GetSwitchInfoBySwitchCount` goes on by the count. -/
theorem getSwitchInfo_at {answer : Answer} (listed : answer.props = .ok enabled.props) {n : Nat}
    {current : String}
    (there : enabled.at n = some current) {cacheCount : UInt32} (few : cacheCount.toNat < 2 ^ 31) :
    ∃ bundleName, getSwitchInfoBySwitchCount answer current cacheCount = .ok bundleName ∧
      enabled.at (n + cacheCount.toNat) = some (if bundleName = "" then current else bundleName) := by
  have inside : n % enabled.props.length < enabled.props.length := (List.getElem?_eq_some_iff.1 there).1
  have room := enabled.room
  have next : (cacheCount + UInt32.ofNat (n % enabled.props.length)).toNat % enabled.props.length =
      (n + cacheCount.toNat) % enabled.props.length := by
    rw [UInt32.toNat_add, UInt32.toNat_ofNat',
      Nat.mod_eq_of_lt (show n % enabled.props.length < 2 ^ 32 by omega),
      Nat.mod_eq_of_lt (show cacheCount.toNat + n % enabled.props.length < 2 ^ 32 by omega),
      Nat.add_mod_mod,
      Nat.add_comm]
  have further : (n + cacheCount.toNat) % enabled.props.length < enabled.props.length :=
    Nat.mod_lt _ (by omega)
  have same : UInt32.ofNat ((n + cacheCount.toNat) % enabled.props.length) =
      UInt32.ofNat (n % enabled.props.length) ↔
        (n + cacheCount.toNat) % enabled.props.length = n % enabled.props.length := by
    rw [← UInt32.toNat_inj, UInt32.toNat_ofNat', UInt32.toNat_ofNat',
      Nat.mod_eq_of_lt (show (n + cacheCount.toNat) % enabled.props.length < 2 ^ 32 by omega),
      Nat.mod_eq_of_lt (show n % enabled.props.length < 2 ^ 32 by omega)]
  rw [getSwitchInfoBySwitchCount, listed]
  dsimp only
  rw [enabled.at_index there]
  dsimp only
  rw [next]
  by_cases stays : (n + cacheCount.toNat) % enabled.props.length = n % enabled.props.length
  · refine ⟨"", if_pos (same.2 stays), ?_⟩
    rw [if_pos rfl, EnabledList.at, stays]
    exact there
  · have found := List.getElem?_eq_getElem further
    refine ⟨enabled.props[(n + cacheCount.toNat) % enabled.props.length], ?_, ?_⟩
    · rw [if_neg (fun equal => stays (same.1 equal)), UInt32.toNat_ofNat',
        Nat.mod_eq_of_lt (by omega), found]
      rfl
    · rw [if_neg, EnabledList.at, found]
      intro empty
      exact enabled.named (empty ▸ List.getElem_mem further)

theorem switch_current {answer : Answer} (allowed : answer.allowed = true)
    (session : answer.session = true)
    (succeeds : answer.left = none) (bundleName : String) (s : State) :
    switch answer bundleName s =
      { s with current := if bundleName = "" then s.current else bundleName } := by
  unfold switch
  rw [allowed, session, succeeds]
  by_cases stays : bundleName = ""
  · rw [if_pos stays, if_pos stays]
  · rw [if_neg stays, if_neg stays]
    rfl

theorem task_rotated {i : Nat} (rotated : Rotated enabled i s) (counted : Counted s)
    (few : s.presses < 2 ^ 31)
    {k : Nat} {answer : Answer} (succeeds : (Turn.task k answer).Succeeds enabled) :
    Rotated enabled i (step s (.task k answer)) := by
  obtain ⟨listed, allowed, session, left⟩ := succeeds
  have total := counted.counted
  simp only [step]
  split
  · exact rotated
  · rename_i stage runs
    obtain ⟨rfl, alone, -⟩ := counted.alone runs
    rw [Rotated, alone] at rotated
    cases stage with
    | taking =>
        rw [alone]
        exact ⟨s.taken, rfl, rotated⟩
    | asking cacheCount =>
        obtain ⟨before, taken, there⟩ := rotated
        obtain ⟨bundleName, answered, target⟩ := getSwitchInfo_at listed there
          (show cacheCount.toNat < 2 ^ 31 by omega)
        rw [alone]
        show Rotated enabled i { s with
          running := [.switching (getSwitchInfoBySwitchCount answer s.current cacheCount)] }
        rw [answered]
        show enabled.at (i + s.taken) = _
        rw [taken, ← Nat.add_assoc]
        exact target
    | switching bundleName =>
        cases bundleName with
        | error code => exact rotated.elim
        | ok bundleName =>
            simp only [Stage.next]
            rw [switch_current allowed session left, alone]
            exact rotated
    | checking =>
        simp only [Stage.next]
        by_cases more : 0 < s.targetSwitchCount
        · rw [if_pos more, alone]
          exact rotated
        · rw [if_neg more, alone]
          exact rotated

theorem step_rotated {i : Nat} (rotated : Rotated enabled i s) (counted : Counted s)
    (few : s.presses < 2 ^ 31)
    {e : Turn} (succeeds : e.Succeeds enabled) : Rotated enabled i (step s e) := by
  cases e with
  | press =>
      simp only [step, press]
      split
      · exact rotated
      · exact rotated
  | post handler =>
      simp only [step]
      split
      · exact rotated
      · exact rotated
  | begin =>
      simp only [step]
      split
      · exact rotated
      · -- The task that begins is alone as well.
        rename_i waits
        have nobody : s.running = [] := by
          have most := counted.tasks_le
          exact List.length_eq_zero_iff.1 (by omega)
        rw [Rotated, nobody] at rotated
        rw [nobody]
        exact rotated
  | task k answer => exact task_rotated rotated counted few succeeds

end Rotating

/-! ## Runs -/

theorem step_presses (s : State) (e : Turn) : (step s e).presses = s.presses + presses [e] := by
  cases e with
  | press =>
      simp only [step, press]
      split <;> rfl
  | post handler =>
      simp only [step]
      split <;> rfl
  | begin =>
      simp only [step]
      split <;> rfl
  | task k answer =>
      simp only [step]
      split
      · rfl
      · rename_i stage _
        have same : (stage.next answer s).1.presses = s.presses := by
          cases stage with
          | switching bundleName =>
              cases bundleName with
              | error code => rfl
              | ok bundleName =>
                  simp only [Stage.next, switch]
                  split
                  · rfl
                  split
                  · rfl
                  split <;> rfl
          | checking =>
              simp only [Stage.next]
              split <;> rfl
          | _ => rfl
        generalize stage.next answer s = next at same
        obtain ⟨s', stage'⟩ := next
        cases stage' <;> exact same

theorem run_presses (s : State) (es : List Turn) :
    (run step s es).presses = s.presses + presses es := by
  induction es using List.reverseRecOn with
  | nil => rfl
  | append_singleton es e ih =>
      rw [run_append]
      show (step (run step s es) e).presses = _
      rw [step_presses, ih, presses, presses, presses, List.countP_append, Nat.add_assoc]

theorem presses_append_le (es fs : List Turn) : presses es ≤ presses (es ++ fs) := by
  rw [presses, presses, List.countP_append]
  omega

theorem run_counted (current : String) (es : List Turn) (few : presses es < 2 ^ 31)
    (posts : Turn.post false ∉ es) : Counted (run step { current } es) := by
  induction es using List.reverseRecOn with
  | nil => exact ⟨rfl, rfl, fun _ => rfl⟩
  | append_singleton es e ih =>
      have fewer := presses_append_le es [e]
      have earlier := ih (by omega) fun member => posts (List.mem_append_left _ member)
      have count := run_presses { current } es
      rw [run_append]
      refine step_counted earlier (by rw [count]; show 0 + presses es + 1 < 2 ^ 32; omega) ?_
      rintro rfl
      exact posts (List.mem_append_right _ (List.mem_singleton.2 rfl))

theorem run_rotated {enabled : EnabledList} {i : Nat} {current : String}
    (there : enabled.props[i]? = some current) (es : List Turn) (few : presses es < 2 ^ 31)
    (succeeds : ∀ e ∈ es, e.Succeeds enabled) : Rotated enabled i (run step { current } es) := by
  induction es using List.reverseRecOn with
  | nil =>
      show enabled.at (i + 0) = some current
      rw [EnabledList.at, Nat.add_zero, Nat.mod_eq_of_lt (List.getElem?_eq_some_iff.1 there).1]
      exact there
  | append_singleton es e ih =>
      have fewer := presses_append_le es [e]
      have before : ∀ e ∈ es,
        e.Succeeds enabled := fun e member => succeeds e (List.mem_append_left _ member)
      have counted := run_counted current es (by omega) fun member => Bool.noConfusion (before _ member)
      have count := run_presses { current } es
      rw [run_append]
      refine step_rotated (ih (by omega) before) counted ?_ (succeeds e (by simp))
      rw [count]
      show 0 + presses es < 2 ^ 31
      omega

/-- **Presses of the switch key are coalesced without loss: there is one task at most, every press is
taken or still to be taken, all is at rest when no call and no task is in progress, and then the
presses have gone through the list as if they had been handled one at a time.** -/
theorem presses_coalesced (current : String) (es : List Turn) (few : presses es < 2 ^ 31)
    (posts : Turn.post false ∉ es) :
    let s := run step { current } es
    s.posting + s.pending + s.running.length ≤ 1 ∧
      s.taken + s.targetSwitchCount.toNat = presses es ∧
      (Idle s → s.targetSwitchCount = 0 ∧ s.switchTaskExecuting = false) ∧
      ∀ (enabled : EnabledList) (i : Nat), enabled.props[i]? = some current →
        (∀ e ∈ es, e.Succeeds enabled) → Idle s →
          enabled.props[(i + presses es) % enabled.props.length]? = some s.current := by
  intro s
  have counted : Counted s := run_counted current es few posts
  have total : s.taken + s.targetSwitchCount.toNat = presses es := by
    rw [counted.counted, run_presses]
    exact Nat.zero_add _
  refine ⟨counted.tasks_le, total, counted.idle, ?_⟩
  intro enabled i there succeeds idle
  have rotated : Rotated enabled i s := run_rotated there es few succeeds
  rw [(counted.idle idle).1] at total
  rw [Rotated, idle.2.2] at rotated
  rw [← total]
  exact rotated

/-! ## Poles -/

def threeNames : List String := ["com.example.one", "com.example.two", "com.example.three"]

theorem threeNames_listed : threeNames.Nodup ∧ "" ∉ threeNames ∧ threeNames.length ≤ 2 ^ 31 := by decide

def threeImes : EnabledList where
  props := threeNames
  distinct := threeNames_listed.1
  named := threeNames_listed.2.1
  room := threeNames_listed.2.2

def switched : Answer where
  props := .ok threeNames

/-- A press, and two more while the task switches. -/
def threePresses : List Turn :=
  [.press, .post true, .begin, .task 0 switched, .press, .task 0 switched, .press, .task 0 switched,
    .task 0 switched, .task 0 switched, .task 0 switched, .task 0 switched, .task 0 switched]

theorem threePresses_succeed : ∀ e ∈ threePresses, e.Succeeds threeImes := by
  intro e member
  simp only [threePresses, List.mem_cons, List.not_mem_nil, or_false] at member
  rcases member with rfl | rfl | rfl | rfl | rfl | rfl | rfl | rfl | rfl | rfl | rfl | rfl | rfl
    <;> trivial

/-- All the way round. -/
theorem three_presses_return :
    Idle (run step { current := "com.example.two" } threePresses) ∧
      some (run step { current := "com.example.two" } threePresses).current =
        some "com.example.two" := by
  have succeeds := threePresses_succeed
  have idle : Idle (run step { current := "com.example.two" } threePresses) := ⟨rfl, rfl, rfl⟩
  have coalesced := presses_coalesced "com.example.two" threePresses (by decide)
    fun member => Bool.noConfusion (succeeds _ member)
  refine ⟨idle, ?_⟩
  rw [← coalesced.2.2.2 threeImes 1 rfl succeeds idle]
  rfl

end Imf.SwitchKey
