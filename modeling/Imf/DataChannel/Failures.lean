/-
# Imf.DataChannel.Failures -- what a failed request leaves behind

A request that fails should be gone: its handler is not in the map, and its callback is not
invoked.  When sending fails, `Request` deletes the handler; when the wait for a response times
out, `WaitResponse` does not.  A callback that a response, an eviction or a clear has invoked
while the request was still being sent is not undone by the failure either.

`failures_leave_no_trace` says that there is nothing else: the runs without a trace are those in
which no wait times out and no such callback comes before the failure.
-/
import Imf.DataChannel.ProxyWrap

namespace Imf.DataChannel

set_option autoImplicit false

open Lib (Meets invariant_prefixes_iff_meets run)

variable {δ : Type}

/-- A request that has failed is not in the map and its callback was not invoked. -/
def Request.Clean (request : Request δ) (registered : Prop) : Prop :=
  ∀ outcome, request.stage = .returned outcome → outcome.code ≠ NO_ERROR → ¬ registered ∧
    request.invoked = []

/-- `Request` has not returned, or has returned without an error and leaves the rest to its callback. -/
def Request.Awaits (request : Request δ) : Prop :=
  (∀ outcome, request.stage ≠ .returned outcome) ∨
    request.isSync = false ∧ ∃ outcome, request.stage = .returned outcome ∧ outcome.code = NO_ERROR

/-- The requests that have failed left no trace, and every entry of the map still waits for a
response. -/
def NoTrace (s : State δ) : Prop :=
  Holds Request.Clean s ∧
    ∀ entry ∈ s.rspHandlers, ∃ request, s.requests[entry.2]? = some request ∧ request.Awaits

/-- A wait does not time out, and the handler of an asynchronous request whose sending has failed is
still there to be deleted. -/
def Heeds (s : State δ) : Turn δ → Prop
  | .delete n => ∀ request ∈ s.requests[n]?, request.stage = .deleting →
      request.isSync = false → Registered s n
  | .wait n => ∀ request ∈ s.requests[n]?, request.stage = .waiting → request.syncBlockData ≠ none
  | _ => True

instance decidableHeeds [DecidableEq δ] (s : State δ) : (e : Turn δ) → Decidable (Heeds s e)
  | .delete n => inferInstanceAs (Decidable (∀ request ∈ s.requests[n]?, _ → _ → _))
  | .wait n => inferInstanceAs (Decidable (∀ request ∈ s.requests[n]?, _ → _ ≠ _))
  | .request .. | .work .. | .response .. | .clear => .isTrue trivial

/-! ## One request -/

section One

variable {request : Request δ} {registered : Prop}

theorem clean_running (running : ∀ outcome, request.stage ≠ .returned outcome) :
    request.Clean registered :=
  fun outcome returned => absurd returned (running outcome)

theorem clean_told : Told (Request.Clean (δ := δ)) where
  fresh _ _ _ := clean_running nofun
  notify _ _ clean outcome returned failed := absurd trivial (clean outcome returned failed).1

theorem clean_sent (succeeds : Bool) : (request.sent succeeds).Clean registered := by
  intro outcome returned failed
  have stage : (if !succeeds then .deleting else if request.isSync then .waiting else .returned .sent) =
      Stage.returned outcome := returned
  split at stage
  · cases stage
  · split at stage
    · cases stage
    · cases stage
      exact absurd rfl failed

/-- A failed request is clean unless its callback was invoked before. -/
theorem clean_failed_iff (sound : request.Sound registered) (deletes : request.stage = .deleting) :
    ({ request with stage := .returned .sendFailed } : Request δ).Clean False ↔
      (request.isSync = false → registered) := by
  have failed : ERROR_IMA_DATA_CHANNEL_ABNORMAL ≠ NO_ERROR := by decide
  constructor
  · intro clean async
    have silent : request.invoked = [] := (clean .sendFailed rfl failed).2
    by_contra away
    rcases sound.without away with ⟨returned, -⟩ | ⟨rspInfo, told⟩
    · rw [deletes] at returned
      cases returned
    · rw [if_neg (by rw [async]; exact Bool.false_ne_true), silent] at told
      cases told
  · intro there outcome _ _
    refine ⟨not_false, ?_⟩
    by_cases within : registered
    · exact (sound.within within).2.1
    · have sync : request.isSync = true := by
        cases sync : request.isSync with
        | true => rfl
        | false => exact absurd (there sync) within
      rcases sound.without within with ⟨-, silent⟩ | ⟨rspInfo, told⟩
      · exact silent
      · rw [if_pos sync] at told
        exact told.2

/-- A request that was waited for is clean unless the wait timed out. -/
theorem clean_waited_iff (sound : request.Sound registered) (waits : request.stage = .waiting) :
    request.waited.Clean registered ↔ request.syncBlockData ≠ none := by
  have sync := sound.waits (.inl waits)
  have failed : ERROR_IMA_DATA_CHANNEL_ABNORMAL ≠ NO_ERROR := by decide
  have told : ¬ registered → ∃ rspInfo,
    request.syncBlockData = some rspInfo ∧ request.invoked = [] := by
    intro away
    rcases sound.without away with ⟨returned, -⟩ | ⟨rspInfo, told⟩
    · rw [waits] at returned
      cases returned
    · rw [if_pos sync] at told
      exact ⟨rspInfo, told⟩
  unfold Request.waited
  split
  · rename_i empty
    refine iff_of_false (fun clean => ?_) (not_not.2 empty)
    obtain ⟨rspInfo, value, -⟩ := told (clean .timedOut rfl failed).1
    rw [empty] at value
    cases value
  · rename_i rspInfo value
    refine iff_of_true (fun outcome _ _ => ?_) (by rw [value]; exact nofun)
    have away : ¬ registered := fun within => by
      rw [(sound.within within).1] at value
      cases value
    exact ⟨away, (told away).choose_spec.2⟩

end One

/-! ## The steps -/

section Steps

variable {start : Nat} {s : State δ}

/-- The request whose turn it was. -/
theorem proceed_self {n : Nat} {request : Request δ} (there : s.requests[n]? = some request)
    (f : Request δ → Request δ) : (s.proceed n f).requests[n]? = some (f request) := by
  have changed := getElem?_modify_of_some there n f
  rw [if_pos rfl] at changed
  exact changed

theorem delete_clean_iff (sound : Holds Request.Sound s) (keyed : Keyed start s)
    (few : s.requests.length < 2 ^ 64)
    (clean : Holds Request.Clean s) (n : Nat) : Holds Request.Clean (step s (.delete n)) ↔
      Heeds s (.delete n) := by
  simp only [step]
  split
  · rename_i held
    have exact := clean_failed_iff (sound n _ held) rfl
    constructor
    · intro later request there _ async
      cases Option.some.inj (held.symm.trans there)
      have now := later n _ (proceed_self held _)
      have gone : ¬ Registered (s.deleteRspHandler _) n := fun member =>
        ((keyed.erased few held n).1 member).2 rfl
      refine exact.1 ?_ async
      rw [← eq_false gone]
      exact now
    · intro heeds
      exact clean.leave keyed few held (exact.2 (heeds _ held rfl))
  · rename_i idle
    refine iff_of_true clean fun request there deletes => ?_
    exact absurd (by rw [← deletes]; exact there) (idle request.msgId _ _ _ _ _)

theorem wait_clean_iff (sound : Holds Request.Sound s) (clean : Holds Request.Clean s) (n : Nat) :
    Holds Request.Clean (step s (.wait n)) ↔ Heeds s (.wait n) := by
  simp only [step]
  split
  · rename_i held
    have exact := clean_waited_iff (sound n _ held) rfl
    constructor
    · intro later request there _
      cases Option.some.inj (held.symm.trans there)
      exact exact.1 (later n _ (proceed_self held _))
    · intro heeds
      exact clean.proceed held (exact.2 (heeds _ held rfl))
  · rename_i idle
    refine iff_of_true clean fun request there waits => ?_
    exact absurd (by rw [← waits]; exact there) (idle request.msgId _ _ _ _ _)

theorem step_clean_iff {e : Turn δ} {es : List (Turn δ)} (inv : Invariant start s (e :: es))
    (clean : Holds Request.Clean s) : Holds Request.Clean (step s e) ↔ Heeds s e := by
  have keyed := inv.keyed
  have all := inv.few
  have count : requests (e :: es) = requests [e] + requests es := requests_append [e] es
  have fits : s.requests.length + requests [e] < 2 ^ 64 := by omega
  have few : s.requests.length < 2 ^ 64 := by omega
  cases e with
  | request channel isSync hasOutput =>
      refine iff_of_true ?_ trivial
      simp only [step]
      split
      · exact clean.addRspHandler clean_told keyed fits isSync hasOutput
      · exact clean
  | work n succeeds =>
      refine iff_of_true ?_ trivial
      simp only [step]
      split
      · rename_i held
        exact clean.proceed held (clean_sent succeeds)
      · exact clean
  | delete n => exact delete_clean_iff inv.sound keyed few clean n
  | wait n => exact wait_clean_iff inv.sound clean n
  | response msgId rspInfo =>
      exact iff_of_true (clean.handleMsg clean_told keyed few msgId rspInfo) trivial
  | clear => exact iff_of_true (clean.clearRspHandlers clean_told keyed) trivial

/-- Where failed requests are clean, the entries of the map wait for a response. -/
theorem noTrace_iff {es : List (Turn δ)} (inv : Invariant start s es) :
    NoTrace s ↔ Holds Request.Clean s := by
  refine ⟨And.left, fun clean => ⟨clean, fun entry member => ?_⟩⟩
  obtain ⟨request, held, -⟩ := inv.keyed.entries entry member
  have registered : Registered s entry.2 := List.mem_map_of_mem member
  have sound := inv.sound entry.2 request held
  refine ⟨request, held, ?_⟩
  by_cases running : ∀ outcome, request.stage ≠ .returned outcome
  · exact .inl running
  · obtain ⟨outcome, returned⟩ := not_forall.1 running
    have returned := not_not.1 returned
    have ok : outcome.code = NO_ERROR := by
      by_contra failed
      exact (clean entry.2 request held outcome returned failed).1 registered
    refine .inr ⟨?_, outcome, returned, ok⟩
    cases outcome with
    | sent => exact sound.returns returned
    | sendFailed => exact absurd returned (sound.within registered).2.2
    | timedOut =>
        have failed : ERROR_IMA_DATA_CHANNEL_ABNORMAL ≠ NO_ERROR := by decide
        exact absurd ok failed
    | answered rspInfo =>
        have empty := (sound.within registered).1
        rw [(sound.answered rspInfo returned).2.1] at empty
        cases empty

end Steps

/-- **Of fewer than 2^64 requests those that fail leave no trace in any state of a run exactly when no
wait of the run times out and no callback is invoked before the sending of its request has failed.** -/
theorem failures_leave_no_trace (msgId : UInt64) (es : List (Turn δ)) (few : requests es < 2 ^ 64) :
    (∀ fs, fs <+: es → NoTrace (run step { msgId } fs)) ↔ Meets step Heeds { msgId } es := by
  refine invariant_prefixes_iff_meets (I := Invariant msgId.toNat) (fun s e es => invariant_step) ?_
    (invariant_start msgId few) ⟨holds_start msgId, nofun⟩
  intro s e es inv clean
  rw [noTrace_iff (invariant_step inv)]
  exact step_clean_iff inv clean.1

/-! ## Poles -/

/-- The handler of a wait that has timed out stays in the map.  Its entry counts until a response, an
eviction or a clear. -/
theorem timed_out_stays :
    ¬ NoTrace (run step ({ msgId := 0 } : State Unit)
      [.request true true false, .work 0 true, .wait 0]) := by
  intro clean
  have trace := (clean.1 0 _ rfl .timedOut rfl (by decide)).1
  exact trace (by decide)

/-- A response comes while the request is still being sent; then the sending fails. -/
example :
    ¬ NoTrace (run step ({ msgId := 0 } : State Unit)
      [.request true false false, .response 1 ⟨NO_ERROR, none⟩, .work 0 false, .delete 0]) := by
  intro clean
  have silent := (clean.1 0 _ rfl .sendFailed rfl (by decide)).2
  cases silent

/-- A failed send, a wait that is answered with an error, and a callback that is still awaited. -/
def threeRequests : List (Turn Unit) :=
  [.request true false false, .request true true false, .request true false false,
    .work 0 false, .work 1 true,
    .response 2 ⟨ERROR_IMA_DATA_CHANNEL_ABNORMAL, none⟩, .delete 0, .wait 1, .work 2 true]

theorem three_requests_clean : NoTrace (run step { msgId := 0 } threeRequests) ∧
    (run step { msgId := 0 } threeRequests).rspHandlers = [(3, 2)] :=
  ⟨(failures_leave_no_trace 0 threeRequests (by decide)).2 (by decide) threeRequests
    (List.prefix_refl _), by decide⟩

end Imf.DataChannel
