/-
# Imf.Freeze.StateManager -- requests to one input method and its freeze flag

`ImeStateManager` unfreezes an input method before a request is sent to it and freezes it
again when a request has come back and the input method is not in use.  It keeps two flags
and no count of the requests that are still out.

`Requests` is the manager with the requests at each of their three steps; any number of them
interleave.  The flags are right after a step exactly when that step is not the return of a
request that leaves the input method unused while another request is out (`Returns`), and
`unfrozen_in_flight` is that over whole runs.
-/
import Imf.Lib.Run

namespace Imf.Freeze

set_option autoImplicit false

open Lib (Meets run prefixes_iff_meets)

/-! ## The manager -/

inductive RequestType where
  | normal
  | startInput
  | stopInput
  | requestShow
  | requestHide
  deriving DecidableEq, Repr

structure ImeStateManager where
  pid : Int
  uid : Int
  isFrozen : Bool := true
  isImeInUse : Bool := false
  deriving DecidableEq, Repr

namespace ImeStateManager

def isIpcNeeded (m : ImeStateManager) (type : RequestType) : Bool :=
  !(type == .requestHide && !m.isImeInUse)

/-- The flag `isImeInUse_` as `BeforeIpc` leaves it. -/
def inUseBefore (m : ImeStateManager) (type : RequestType) : Bool :=
  if type == .startInput || type == .requestShow then true else m.isImeInUse

/-- The manager after `BeforeIpc`, and the call of `ControlIme` that it makes. -/
def beforeIpc (m : ImeStateManager) (type : RequestType) : ImeStateManager × Option Bool :=
  let m := { m with isImeInUse := m.inUseBefore type }
  if !m.isFrozen then (m, none) else ({ m with isFrozen := false }, some false)

/-- The flag `isImeInUse_` as `AfterIpc` leaves it. -/
def inUseAfter (m : ImeStateManager) (type : RequestType) (isSuccess : Bool) : Bool :=
  let inUse := if type == .startInput || type == .requestShow then isSuccess else m.isImeInUse
  let inUse := if type == .requestHide && inUse then !isSuccess else inUse
  if type == .stopInput then false else inUse

/-- The manager after `AfterIpc`, and the call of `ControlIme` that it makes. -/
def afterIpc (m : ImeStateManager) (type : RequestType) (isSuccess : Bool) :
    ImeStateManager × Option Bool :=
  let m := { m with isImeInUse := m.inUseAfter type isSuccess }
  if m.isFrozen == !m.isImeInUse then (m, none)
  else ({ m with isFrozen := !m.isImeInUse }, some (!m.isImeInUse))

variable (m : ImeStateManager) (type : RequestType) (isSuccess : Bool)

theorem beforeIpc_eq : m.beforeIpc type =
    ({ m with isImeInUse := m.inUseBefore type, isFrozen := false },
      if m.isFrozen then some false else none) := by
  obtain ⟨pid, uid, frozen, used⟩ := m
  cases frozen <;> rfl

theorem afterIpc_eq : m.afterIpc type isSuccess =
    ({ m with isImeInUse := m.inUseAfter type isSuccess, isFrozen := !m.inUseAfter type isSuccess },
      if m.isFrozen = !m.inUseAfter type isSuccess then none
      else some (!m.inUseAfter type isSuccess)) := by
  simp only [afterIpc, beq_iff_eq]
  split
  · rename_i same
    rw [← same]
  · rfl

/-- What leaves the input method in use: a start or show that succeeded, a hide that failed
or an ordinary request while it was in use. -/
def Keeps (m : ImeStateManager) : RequestType → Bool → Prop
  | .startInput, isSuccess => isSuccess = true
  | .requestShow, isSuccess => isSuccess = true
  | .requestHide, isSuccess => m.isImeInUse = true ∧ isSuccess = false
  | .normal, _ => m.isImeInUse = true
  | .stopInput, _ => False

instance : Decidable (m.Keeps type isSuccess) := by
  cases type <;> unfold Keeps <;> infer_instance

theorem inUseAfter_iff : m.inUseAfter type isSuccess = true ↔ m.Keeps type isSuccess := by
  cases type <;> cases used : m.isImeInUse <;> cases isSuccess <;> simp [inUseAfter, Keeps, used]

end ImeStateManager

/-! ## Requests that interleave -/

/-- The manager of one input method, the requests that have passed `IsIpcNeeded`, and those
between `BeforeIpc` and `AfterIpc`. -/
structure Requests where
  manager : ImeStateManager
  admitted : List RequestType := []
  inFlight : List RequestType := []
  completed : Nat := 0
  deriving DecidableEq, Repr

/-- A step of `RequestIme`: a new request asks `IsIpcNeeded`, an admitted one calls
`BeforeIpc`, one in flight comes back and calls `AfterIpc`. -/
inductive Turn where
  | check (type : RequestType)
  | before (request : Nat)
  | after (request : Nat) (isSuccess : Bool)
  deriving DecidableEq, Repr

namespace Requests

def check (r : Requests) (type : RequestType) : Requests :=
  if r.manager.isIpcNeeded type then { r with admitted := r.admitted ++ [type] } else r

def before (r : Requests) (request : Nat) : Requests × Option Bool :=
  match r.admitted[request]? with
  | some type =>
      let called := r.manager.beforeIpc type
      ({ r with
          manager := called.1
          admitted := r.admitted.eraseIdx request
          inFlight := r.inFlight ++ [type] }, called.2)
  | none => (r, none)

def after (r : Requests) (request : Nat) (isSuccess : Bool) : Requests × Option Bool :=
  match r.inFlight[request]? with
  | some type =>
      let called := r.manager.afterIpc type isSuccess
      ({ r with
          manager := called.1
          inFlight := r.inFlight.eraseIdx request
          completed := r.completed + 1 }, called.2)
  | none => (r, none)

/-- The requests after a step, and the call of `ControlIme` made in it. -/
def take (r : Requests) : Turn → Requests × Option Bool
  | .check type => (r.check type, none)
  | .before request => r.before request
  | .after request isSuccess => r.after request isSuccess

def step (r : Requests) (turn : Turn) : Requests := (r.take turn).1

/-- While a request is in flight the input method is not frozen. -/
def Unfrozen (r : Requests) : Prop := r.inFlight ≠ [] → r.manager.isFrozen = false

instance (r : Requests) : Decidable r.Unfrozen :=
  inferInstanceAs (Decidable (_ → _))

/-- A request comes back alone, or leaves the input method in use. -/
def Returns (r : Requests) : Turn → Prop
  | .after request isSuccess => ∀ type ∈ r.inFlight[request]?,
      r.inFlight.length = 1 ∨ r.manager.Keeps type isSuccess
  | _ => True

instance (r : Requests) (turn : Turn) : Decidable (r.Returns turn) := by
  cases turn <;> unfold Returns <;> infer_instance

theorem check_manager (r : Requests) (type : RequestType) : (r.check type).manager = r.manager := by
  unfold check
  split <;> rfl

theorem check_inFlight (r : Requests) (type : RequestType) : (r.check type).inFlight = r.inFlight := by
  unfold check
  split <;> rfl

theorem unfrozen_after_iff {r : Requests} (unfrozen : r.Unfrozen) (request : Nat) (isSuccess : Bool) :
    (r.after request isSuccess).1.Unfrozen ↔ r.Returns (.after request isSuccess) := by
  unfold after Returns
  split
  · rename_i type found
    have bound : request < r.inFlight.length := (List.getElem?_eq_some_iff.1 found).1
    have alone : r.inFlight.eraseIdx request = [] ↔ r.inFlight.length = 1 := by
      rw [← List.length_eq_zero_iff, List.length_eraseIdx_of_lt bound]
      omega
    simp only [Unfrozen, ne_eq, alone, ImeStateManager.afterIpc_eq, Bool.not_eq_eq_eq_not,
      Bool.not_false, ImeStateManager.inUseAfter_iff, found, Option.mem_some_iff, forall_eq']
    exact Decidable.or_iff_not_imp_left.symm
  · rename_i missing
    simp [missing, unfrozen]

/-- A step keeps the input method unfrozen under its requests exactly when it is allowed. -/
theorem unfrozen_step_iff {r : Requests} (turn : Turn) (unfrozen : r.Unfrozen) :
    (r.step turn).Unfrozen ↔ r.Returns turn := by
  cases turn with
  | check type =>
      refine iff_of_true ?_ trivial
      simpa only [Unfrozen, step, take, check_manager, check_inFlight] using unfrozen
  | before request =>
      refine iff_of_true ?_ trivial
      simp only [step, take, before]
      split
      · simp only [Unfrozen, ImeStateManager.beforeIpc_eq, implies_true]
      · exact unfrozen
  | after request isSuccess => exact unfrozen_after_iff unfrozen request isSuccess

end Requests

/-- **No freeze under a running request, exactly.**  In every state of a run the input method
is unfrozen while a request is in flight, if and only if no request that leaves it unused
comes back while another one is in flight. -/
theorem unfrozen_in_flight (pid uid : Int) (turns : List Turn) :
    (∀ done, done <+: turns → (run Requests.step { manager := { pid, uid } } done).Unfrozen) ↔
      Meets Requests.step Requests.Returns { manager := { pid, uid } } turns := by
  refine prefixes_iff_meets (fun r turn unfrozen => ?_) fun busy => absurd rfl busy
  exact Requests.unfrozen_step_iff turn unfrozen

/-! ## Poles -/

/-- Two ordinary requests overlap: the return of the first freezes the input method under the
second. -/
theorem overlapping_requests_frozen :
    ¬ ∀ turns, (run Requests.step { manager := { pid := 100, uid := 200 } } turns).Unfrozen := by
  intro all
  have frozen := all [.check .normal, .check .normal, .before 0, .before 0, .after 0 true]
  revert frozen
  decide

end Imf.Freeze
