/-
# Imf.Session.Registrations -- how often the window service is asked

`InitWindowMonitors` asks for four listeners and goes by the answer to the last one.  The other
three are tried once more when they fail, and all four are asked for again when the last one fails,
so that a listener can be registered several times, or be given up although the user counts as done
with. `registrations_accounted` says exactly how often.
-/
import Imf.Session.Startup

namespace Imf.Startup

set_option autoImplicit false

open Lib (run run_always)

namespace Service

variable {platform : Platform} {scene : Scene} {s s' : Service}

/-- The results of the passes of a user. -/
def passesOf (s : Service) (userId : Int32) : List Bool :=
  s.passes.filterMap fun pass => if pass.1 = userId then some pass.2 else none

/-- Every pass has asked for every listener once, and a user is done with after the first that
succeeds. -/
structure Accounted (s : Service) : Prop where
  asked : ∀ userId monitor, s.asked (userId, monitor) = (s.passesOf userId).length
  ended : ∀ userId, ∃ failures,
    s.passesOf userId = List.replicate failures false ++
      if userId ∈ s.initedUserList then [true] else []

/-- The registrations do not see the rest. -/
theorem Accounted.of_eq (accounted : Accounted s) (asked : ∀ task, s'.asked task = s.asked task)
    (passes : s'.passes = s.passes) (inited : s'.initedUserList = s.initedUserList) : Accounted s' where
  asked userId monitor := by
    unfold passesOf
    rw [asked, passes]
    exact accounted.asked userId monitor
  ended userId := by
    unfold passesOf
    rw [passes, inited]
    exact accounted.ended userId

theorem passes_initUser {userId : Int32} (new : userId ∉ s.initedUserList) :
    (s.initUser scene userId).passes = s.passes ++ [(userId, scene.passes userId)] := by
  have before : (s.initWindowMonitors scene userId).2.rest.passes = s.passes := by
    rw [rest_initWindowMonitors]
    rfl
  change (s.initWindowMonitors scene userId).2.passes = s.passes at before
  rw [initUser_new new]
  dsimp only
  split <;> exact congrArg (· ++ [_]) before

theorem asked_initUser {userId : Int32} (new : userId ∉ s.initedUserList) (task : Int32 × Monitor) :
    (s.initUser scene userId).asked task = s.asked task + if task.1 = userId then 1 else 0 := by
  rw [initUser_new new, ← @asked_initWindowMonitors scene]
  dsimp only
  split <;> rfl

theorem passesOf_initUser {userId : Int32} (new : userId ∉ s.initedUserList) (v : Int32) :
    (s.initUser scene userId).passesOf v = s.passesOf v ++ if v = userId then
    [scene.passes v] else [] := by
  unfold passesOf
  rw [passes_initUser new, List.filterMap_append]
  by_cases mine : v = userId
  · subst mine
    simp
  · have other : userId ≠ v := fun same => mine same.symm
    simp [mine, other]

theorem accounted_initUser (accounted : Accounted s) (userId : Int32) :
    Accounted (s.initUser scene userId) := by
  by_cases done : userId ∈ s.initedUserList
  · rwa [initUser_done done]
  · constructor
    · intro v monitor
      rw [asked_initUser done, passesOf_initUser done, accounted.asked]
      by_cases mine : v = userId <;> simp [mine]
    · intro v
      obtain ⟨failures, before⟩ := accounted.ended v
      rw [passesOf_initUser done, before]
      by_cases mine : v = userId
      · subst mine
        simp only [inited_initUser, true_and, done, false_or, if_false, if_true, List.append_nil]
        cases scene.passes v with
        | true => exact ⟨failures, by simp⟩
        | false => exact ⟨failures + 1, by simp [List.replicate_succ']⟩
      · exact ⟨failures, by simp only [inited_initUser, mine, false_and, or_false, if_false,
          List.append_nil]⟩

theorem accounted_initUsers (accounted : Accounted s) (users : List Int32) :
    Accounted (users.foldl (initUser scene) s) := by
  induction users generalizing s with
  | nil => exact accounted
  | cons userId users ih => exact ih (accounted_initUser accounted userId)

theorem accounted_initAllUsersWindowMonitors (accounted : Accounted s) :
    Accounted (s.initAllUsersWindowMonitors platform scene) := by
  unfold initAllUsersWindowMonitors
  split
  · exact accounted.of_eq (fun _ => rfl) rfl rfl
  · dsimp only
    split
    · exact accounted.of_eq (fun _ => rfl) rfl rfl
    · have begun : Accounted { s with waitAccountReadyToInit := false } :=
        accounted.of_eq (fun _ => rfl) rfl rfl
      exact accounted_initUsers begun _

theorem accounted_handle (accounted : Accounted s) (message : Message) :
    Accounted (s.handle platform scene message) := by
  cases message with
  | osAccountStarted =>
      obtain ⟨sessions, done, -⟩ := @handleOsAccountStarted_eq platform scene s
      have watched : Accounted (s.watched platform scene) := by
        unfold watched
        split
        · exact accounted_initAllUsersWindowMonitors accounted
        · exact accounted
      show Accounted (s.handleOsAccountStarted platform scene)
      rw [done]
      exact watched.of_eq (fun _ => rfl) rfl rfl
  | wmsStarted => exact accounted_initAllUsersWindowMonitors accounted
  | userSwitched fromUserId toUserId =>
      obtain ⟨sessions, added, -⟩ := @addUserSession_rest s toUserId
      have session : Accounted (s.addUserSession toUserId) := by
        rw [added]
        exact accounted.of_eq (fun _ => rfl) rfl rfl
      exact accounted_initUser session toUserId
  | userRemoved userId => exact accounted.of_eq (fun _ => rfl) rfl rfl

/-- A second try moves its registration from one list to another. -/
theorem accounted_retry (accounted : Accounted s) (i : Nat) (accepted : Bool) :
    Accounted (s.retry i accepted) := by
  refine accounted.of_eq (fun task => ?_) (congrArg (·.passes) (retry_rest s i accepted))
    (congrArg (·.initedUserList) (retry_rest s i accepted))
  unfold retry
  split
  · rfl
  · rename_i retried found
    obtain ⟨bound, rfl⟩ := List.getElem?_eq_some_iff.1 found
    have moved := (List.getElem_cons_eraseIdx_perm bound).count_eq task
    rw [List.count_cons] at moved
    unfold asked
    dsimp only
    split <;> simp only [List.count_append, List.count_singleton] <;> omega

end Service

theorem accounted_step {s : System} (accounted : s.service.Accounted) (e : Event) :
    (step s e).service.Accounted := by
  cases e with
  | accountStarts remembers => exact accounted
  | accountStops => exact accounted
  | windowStarts => exact accounted
  | windowStops => exact accounted
  | userSwitches fromUserId toUserId =>
      show (s.switchUser fromUserId toUserId).service.Accounted
      unfold System.switchUser
      split <;> exact accounted
  | userIsRemoved userId =>
      show (s.removeUser userId).service.Accounted
      unfold System.removeUser
      split <;> exact accounted
  | arrives i =>
      show (s.arrive i).service.Accounted
      unfold System.arrive
      split
      · exact accounted
      · exact accounted.of_eq (fun _ => rfl) rfl rfl
  | handles scene =>
      show (s.turn scene).service.Accounted
      unfold System.turn
      split
      · exact accounted
      · rename_i message messages queued
        have taken : Service.Accounted { s.service with messages } :=
          accounted.of_eq (fun _ => rfl) rfl rfl
        exact Service.accounted_handle taken message
  | retries i accepted => exact Service.accounted_retry accounted i accepted
  | restarts => exact ⟨fun _ _ => rfl, fun _ => ⟨0, rfl⟩⟩

/-- **Every registration is accounted for.**  In every run, `InitWindowMonitors` fails for a user
any number of times, then succeeds at most once and is not called for that user again; and each of
the four listeners has got through, is to be tried once more or was given up, exactly as often as it
was called. -/
theorem registrations_accounted (es : List Event) (userId : Int32) :
    let s := (run step {} es).service
    (∃ failures, s.passesOf userId =
        List.replicate failures false ++ if userId ∈ s.initedUserList then [true] else []) ∧
      ∀ monitor, s.registered.count (userId, monitor) + s.tasks.count (userId, monitor) +
        s.refused.count (userId, monitor) = (s.passesOf userId).length := by
  have fresh : ({} : System).service.Accounted := ⟨fun _ _ => rfl, fun _ => ⟨0, rfl⟩⟩
  have accounted : (run step {} es).service.Accounted :=
    run_always (P := fun s : System => s.service.Accounted)
      (fun _ e accounted => accounted_step accounted e) fresh es
  exact ⟨accounted.ended userId, accounted.asked userId⟩

end Imf.Startup
