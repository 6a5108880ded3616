/-
# Imf.DataChannel.ProxyWrap -- requests to the editor and their responses

`InputDataChannelProxyWrap` sends a request under a fresh id, stores a handler for the response and,
for a synchronous request, waits.  A handler leaves the map by a response, by eviction when the map
is full, by `ClearRspHandlers`, or because sending has failed.  All of this races: each access of
the map is a step, and so are the end of the sending and the end of the wait.

`settlement` reads off the steps of a run what a request should be told: the first response under
its id since it was added, or the error of its eviction or of a clear that came first.
`responses_delivered` says that requests are told this, once.
-/
import Imf.Lib.Keyed
import Imf.Lib.Run
import Mathlib.Algebra.Group.Nat.Defs
import Mathlib.Data.List.Sort

namespace Imf.DataChannel

set_option autoImplicit false

open Lib (eraseP_key lookup lookup_mem lookup_none lookup_of_mem run run_append run_cons run_nil)

/-! ## Handlers -/

def NO_ERROR : Int32 := 0
def ERROR_IMA_DATA_CHANNEL_ABNORMAL : Int32 := 46
def MESSAGE_UNANSWERED_MAX_NUMBER : Nat := 1000

/-- `data` is nothing where the variant holds `std::monostate`. -/
structure ResponseInfo (δ : Type) where
  dealRet : Int32
  data : Option δ
  deriving DecidableEq, Repr

/-- What an eviction and a clear say. -/
def abnormal {δ : Type} : ResponseInfo δ := ⟨ERROR_IMA_DATA_CHANNEL_ABNORMAL, none⟩

/-- How `Request` has returned. -/
inductive Outcome (δ : Type) where
  | sent
  | sendFailed
  | timedOut
  | answered (rspInfo : ResponseInfo δ)
  deriving DecidableEq, Repr

def Outcome.code {δ : Type} : Outcome δ → Int32
  | .sent => NO_ERROR
  | .sendFailed | .timedOut => ERROR_IMA_DATA_CHANNEL_ABNORMAL
  | .answered rspInfo => rspInfo.dealRet

/-- What `Request` does next, once its handler is added. -/
inductive Stage (δ : Type) where
  | working
  | deleting
  | waiting
  | returned (outcome : Outcome δ)
  deriving DecidableEq, Repr

/-- A call of `Request` with its `ResponseHandler`: what the block data holds, what the callback was
invoked with, and what `output` was called with.  Without a callback a request is synchronous. -/
structure Request (δ : Type) where
  msgId : UInt64
  isSync : Bool
  hasOutput : Bool
  stage : Stage δ := .working
  syncBlockData : Option (ResponseInfo δ) := none
  invoked : List (ResponseInfo δ) := []
  output : Option (Option δ) := none
  deriving DecidableEq, Repr

namespace Request

variable {δ : Type} (rspInfo : ResponseInfo δ) (request : Request δ)

/-- What is done with a handler that leaves the map other than for a failed send. -/
def notify : Request δ :=
  { request with
    syncBlockData := if request.isSync then some rspInfo else request.syncBlockData
    invoked := if request.isSync then request.invoked else request.invoked ++ [rspInfo] }

/-- What the request has been told. -/
def told : Option (ResponseInfo δ) :=
  if request.isSync then request.syncBlockData else request.invoked.head?

end Request

/-! ## The wrap -/

/-- `rspHandlers_` maps ids to the numbers of the requests, in the order of the ids. -/
structure State (δ : Type) where
  msgId : UInt64
  rspHandlers : List (UInt64 × Nat) := []
  requests : List (Request δ) := []
  deriving DecidableEq, Repr

/-- `GenerateMsgId`. -/
def generateMsgId (msgId : UInt64) : UInt64 := if msgId + 1 ≠ 0 then msgId + 1 else msgId + 1 + 1

namespace State

variable {δ : Type} (s : State δ)

/-- `HandleMsg`. -/
def handleMsg (msgId : UInt64) (rspInfo : ResponseInfo δ) : State δ :=
  match lookup Prod.fst msgId s.rspHandlers with
  | none => s
  | some entry =>
      { s with
        requests := s.requests.modify entry.2 (Request.notify rspInfo)
        rspHandlers := s.rspHandlers.eraseP fun entry => decide (entry.1 = msgId) }

/-- The request whose handler has to leave before another one is added. -/
def evicts : Option Nat :=
  if MESSAGE_UNANSWERED_MAX_NUMBER ≤ s.rspHandlers.length then s.rspHandlers.head?.map Prod.snd
  else none

/-- The eviction at the start of `AddRspHandler`. -/
def evict : State δ :=
  if MESSAGE_UNANSWERED_MAX_NUMBER ≤ s.rspHandlers.length then
    match s.rspHandlers with
    | [] => s
    | first :: _ => s.handleMsg first.1 abnormal
  else s

/-- `std::map::insert`, which leaves an entry that is there. -/
def insert (entry : UInt64 × Nat) : State δ :=
  if entry.1 ∈ s.rspHandlers.map Prod.fst then s
  else { s with rspHandlers := s.rspHandlers.orderedInsert (fun one other => one.1 ≤ other.1) entry }

/-- `AddRspHandler`. -/
def addRspHandler (isSync hasOutput : Bool) : State δ :=
  let s := s.evict
  let msgId := generateMsgId s.msgId
  ({ s with msgId, requests := s.requests ++ [{ msgId, isSync, hasOutput }] } : State δ).insert
    (msgId, s.requests.length)

/-- `ClearRspHandlers`. -/
def clearRspHandlers : State δ :=
  { s with
    requests := s.rspHandlers.foldl
      (fun requests entry => requests.modify entry.2 (Request.notify abnormal)) s.requests
    rspHandlers := [] }

/-- `DeleteRspHandler`. -/
def deleteRspHandler (msgId : UInt64) : State δ :=
  { s with rspHandlers := s.rspHandlers.eraseP fun entry => decide (entry.1 = msgId) }

/-- Request `n` is at another stage. -/
def proceed (n : Nat) (f : Request δ → Request δ) :
    State δ := { s with requests := s.requests.modify n f }

/-- `HandleResponse`. -/
def handleResponse (msgId : UInt64) (rspInfo : ResponseInfo δ) : State δ := s.handleMsg msgId rspInfo

end State

/-- The end of the sending. -/
def Request.sent {δ : Type} (succeeds : Bool) (request : Request δ) : Request δ :=
  { request with
    stage := if !succeeds then .deleting else if request.isSync then .waiting else .returned .sent }

/-- The end of the wait: `WaitResponse`. -/
def Request.waited {δ : Type} (request : Request δ) : Request δ :=
  match request.syncBlockData with
  | none => { request with stage := .returned .timedOut }
  | some rspInfo =>
      { request with
        stage := .returned (.answered rspInfo)
        output := if rspInfo.dealRet = NO_ERROR ∧ request.hasOutput = true then some rspInfo.data
          else request.output }

/-- A step.  A request without a data channel returns at once. -/
inductive Turn (δ : Type) where
  | request (channel isSync hasOutput : Bool)
  | work (n : Nat) (succeeds : Bool)
  | delete (n : Nat)
  | wait (n : Nat)
  | response (msgId : UInt64) (rspInfo : ResponseInfo δ)
  | clear
  deriving DecidableEq, Repr

def step {δ : Type} (s : State δ) : Turn δ → State δ
  | .request channel isSync hasOutput => if channel then s.addRspHandler isSync hasOutput else s
  | .work n succeeds =>
      match s.requests[n]? with
      | some { stage := .working, .. } => s.proceed n (Request.sent succeeds)
      | _ => s
  | .delete n =>
      match s.requests[n]? with
      | some { msgId, stage := .deleting, .. } =>
          (s.deleteRspHandler msgId).proceed n fun request =>
            { request with stage := .returned .sendFailed }
      | _ => s
  | .wait n =>
      match s.requests[n]? with
      | some { stage := .waiting, .. } => s.proceed n Request.waited
      | _ => s
  | .response msgId rspInfo => s.handleResponse msgId rspInfo
  | .clear => s.clearRspHandlers

def isRequest {δ : Type} : Turn δ → Bool
  | .request _ _ _ => true
  | _ => false

/-- The number of requests in a run. -/
def requests {δ : Type} (es : List (Turn δ)) : Nat := es.countP isRequest

/-- The handler of request `n` is in the map. -/
def Registered {δ : Type} (s : State δ) (n : Nat) : Prop := n ∈ s.rspHandlers.map Prod.snd

instance {δ : Type} (s : State δ) (n : Nat) : Decidable (Registered s n) :=
  inferInstanceAs (Decidable (n ∈ s.rspHandlers.map Prod.snd))

/-- What a step says to request `n`: the response under its id, or the error of its eviction or of
a clear. -/
def settles {δ : Type} (s : State δ) (n : Nat) : Turn δ → Option (ResponseInfo δ)
  | .response msgId rspInfo =>
      if s.requests[n]?.map Request.msgId = some msgId then some rspInfo else none
  | .request true _ _ => if s.evicts = some n then some abnormal else none
  | .clear => if Registered s n then some abnormal else none
  | _ => none

/-- The first that is said to request `n` in a run. -/
def settlement {δ : Type} (n : Nat) : State δ → List (Turn δ) → Option (ResponseInfo δ)
  | _, [] => none
  | s, e :: es => (settles s n e).or (settlement n (step s e) es)

theorem settlement_concat {δ : Type} (n : Nat) (s : State δ) (es : List (Turn δ)) (e : Turn δ) :
    settlement n s (es ++ [e]) = (settlement n s es).or (settles (run step s es) n e) := by
  induction es generalizing s with
  | nil => exact Option.or_none
  | cons first es ih => rw [List.cons_append, settlement, settlement, ih, Option.or_assoc, run_cons]

/-! ## One request -/

/-- What is true of a request whose handler is in the map, or is not. -/
structure Request.Sound {δ : Type} (request : Request δ) (registered : Prop) : Prop where
  within : registered → request.syncBlockData = none ∧ request.invoked = [] ∧
    request.stage ≠ .returned .sendFailed
  without : ¬ registered →
    (request.stage = .returned .sendFailed ∧ request.invoked = []) ∨
      ∃ rspInfo, if request.isSync then request.syncBlockData = some rspInfo ∧ request.invoked = []
        else request.invoked = [rspInfo]
  answered : ∀ rspInfo, request.stage = .returned (.answered rspInfo) →
    request.isSync = true ∧ request.syncBlockData = some rspInfo ∧
      (request.hasOutput = true → rspInfo.dealRet = NO_ERROR → request.output = some rspInfo.data)
  waits : request.stage = .waiting ∨ request.stage = .returned .timedOut → request.isSync = true
  returns : request.stage = .returned .sent → request.isSync = false

section One

variable {δ : Type} {request : Request δ} {registered : Prop}

theorem sound_fresh (msgId : UInt64) (isSync hasOutput : Bool) :
    ({ msgId, isSync, hasOutput } : Request δ).Sound True where
  within _ := ⟨rfl, rfl, nofun⟩
  without gone := absurd trivial gone
  answered := nofun
  waits := by rintro (impossible | impossible) <;> cases impossible
  returns := nofun

/-- The handler leaves the map and the request is told. -/
theorem Request.Sound.notify (sound : request.Sound True) (rspInfo : ResponseInfo δ) :
    (request.notify rspInfo).Sound False := by
  obtain ⟨empty, silent, kept⟩ := sound.within trivial
  refine ⟨False.elim, fun _ => .inr ⟨rspInfo, ?_⟩, ?_, sound.waits, sound.returns⟩
  · simp only [Request.notify, silent]
    split
    · exact ⟨rfl, rfl⟩
    · rfl
  · intro info returned
    have before := (sound.answered info returned).2.1
    rw [empty] at before
    cases before

theorem Request.Sound.sent (sound : request.Sound registered) (works : request.stage = .working)
    (succeeds : Bool) :
    (request.sent succeeds).Sound registered := by
  have stage : (request.sent succeeds).stage =
      if !succeeds then .deleting else if request.isSync then .waiting else .returned .sent := rfl
  refine ⟨fun within => ?_,
    fun gone => ?_, fun info returned => ?_, fun waits => ?_, fun returned => ?_⟩
  · obtain ⟨empty, silent, -⟩ := sound.within within
    refine ⟨empty, silent, ?_⟩
    rw [stage]
    split
    · exact nofun
    · split <;> exact nofun
  · rcases sound.without gone with ⟨failed, -⟩ | told
    · rw [works] at failed
      cases failed
    · exact .inr told
  · rw [stage] at returned
    split at returned
    · cases returned
    · split at returned <;> cases returned
  · rw [stage] at waits
    cases sync : request.isSync with
    | true => exact sync
    | false =>
        rw [sync] at waits
        cases succeeds <;> rcases waits with impossible | impossible <;> cases impossible
  · rw [stage] at returned
    cases sync : request.isSync with
    | false => exact sync
    | true =>
        rw [sync] at returned
        cases succeeds <;> cases returned

/-- Sending has failed and the handler is deleted, if it is still there. -/
theorem Request.Sound.failed (sound : request.Sound registered) (deletes : request.stage = .deleting) :
    ({ request with stage := .returned .sendFailed } : Request δ).Sound False := by
  refine ⟨False.elim, fun _ => ?_, nofun, ?_, nofun⟩
  · by_cases within : registered
    · exact .inl ⟨rfl, (sound.within within).2.1⟩
    · rcases sound.without within with ⟨failed, -⟩ | told
      · rw [deletes] at failed
        cases failed
      · exact .inr told
  · rintro (impossible | impossible) <;> cases impossible

theorem Request.Sound.waited (sound : request.Sound registered) (waits : request.stage = .waiting) :
    request.waited.Sound registered := by
  have sync := sound.waits (.inl waits)
  have without : ¬ registered → ∃ rspInfo,
      if request.isSync then request.syncBlockData = some rspInfo ∧ request.invoked = []
      else request.invoked = [rspInfo] := by
    intro gone
    rcases sound.without gone with ⟨failed, -⟩ | told
    · rw [waits] at failed
      cases failed
    · exact told
  unfold Request.waited
  cases value : request.syncBlockData with
  | none =>
      rw [value] at without
      refine ⟨fun within => ?_, fun gone => .inr (without gone), nofun, fun _ => sync, nofun⟩
      exact ⟨rfl, (sound.within within).2.1, nofun⟩
  | some rspInfo =>
      rw [value] at without
      refine ⟨fun within => ?_, fun gone => .inr (without gone), ?_, fun _ => sync, nofun⟩
      · have empty := (sound.within within).1
        rw [value] at empty
        cases empty
      · rintro info ⟨⟩
        exact ⟨sync, rfl, fun output ok => if_pos ⟨ok, output⟩⟩

theorem Request.Sound.invoked_le (sound : request.Sound registered) : request.invoked.length ≤ 1 := by
  by_cases within : registered
  · rw [(sound.within within).2.1]
    exact Nat.zero_le 1
  · rcases sound.without within with ⟨-, silent⟩ | ⟨rspInfo, told⟩
    · rw [silent]
      exact Nat.zero_le 1
    · split at told
      · rw [told.2]
        exact Nat.zero_le 1
      · rw [told]
        exact Nat.le_refl 1

/-- An asynchronous request without an error has been sent. -/
theorem Request.Sound.outcome_sent (sound : request.Sound registered) (async : request.isSync = false)
    {outcome : Outcome δ} (returned : request.stage = .returned outcome)
    (ok : outcome.code = NO_ERROR) :
    outcome = .sent := by
  cases outcome with
  | sent => rfl
  | sendFailed =>
      have failed : ERROR_IMA_DATA_CHANNEL_ABNORMAL ≠ NO_ERROR := by decide
      exact absurd ok failed
  | timedOut =>
      have sync := sound.waits (.inr returned)
      rw [async] at sync
      cases sync
  | answered rspInfo =>
      have sync := (sound.answered rspInfo returned).1
      rw [async] at sync
      cases sync

/-- The callback of a request that was sent. -/
theorem Request.Sound.callback (sound : request.Sound registered) (async : request.isSync = false)
    (returned : request.stage = .returned .sent) :
    (request.invoked.length = 1 ↔ ¬ registered) ∧
      ∀ rspInfo ∈ request.invoked, request.told = some rspInfo := by
  by_cases within : registered
  · rw [(sound.within within).2.1]
    exact ⟨iff_of_false nofun (not_not.2 within), nofun⟩
  · rcases sound.without within with ⟨failed, -⟩ | ⟨rspInfo, told⟩
    · rw [returned] at failed
      cases failed
    · rw [async] at told
      have told : request.invoked = [rspInfo] := told
      unfold Request.told
      rw [told, async]
      refine ⟨iff_of_true rfl within, fun info member => ?_⟩
      rw [List.mem_singleton.1 member]
      rfl

/-- The answer of a synchronous request. -/
theorem Request.Sound.answer (sound : request.Sound registered) {outcome : Outcome δ}
    (sync : request.isSync = true) (returned : request.stage = .returned outcome)
    (inTime : outcome ≠ .timedOut) (sent : outcome ≠ .sendFailed) :
    ∃ rspInfo, request.told = some rspInfo ∧ outcome.code = rspInfo.dealRet ∧
      (request.hasOutput = true → rspInfo.dealRet = NO_ERROR →
        request.output = some rspInfo.data) := by
  cases outcome with
  | sent =>
      have async := sound.returns returned
      rw [sync] at async
      cases async
  | sendFailed => exact absurd rfl sent
  | timedOut => exact absurd rfl inTime
  | answered rspInfo =>
      obtain ⟨-, value, output⟩ := sound.answered rspInfo returned
      refine ⟨rspInfo, ?_, rfl, output⟩
      unfold Request.told
      rw [if_pos sync]
      exact value

end One

/-! ## The ids -/

/-- The number of ids, which are the `uint64_t` but for zero. -/
def ID_COUNT : Nat := 2 ^ 64 - 1

theorem generateMsgId_toNat (msgId : UInt64) :
    (generateMsgId msgId).toNat = msgId.toNat % ID_COUNT + 1 := by
  have below : msgId.toNat < 2 ^ 64 := msgId.toNat_lt
  have next : (msgId + 1).toNat = (msgId.toNat + 1) % 2 ^ 64 := UInt64.toNat_add msgId 1
  unfold generateMsgId ID_COUNT
  split
  · rename_i inside
    have positive : (msgId + 1).toNat ≠ 0 := fun zero => inside (UInt64.toNat_inj.1 zero)
    omega
  · rename_i wrapped
    have zero : msgId + 1 = 0 := not_not.1 wrapped
    rw [zero] at next ⊢
    show (1 : UInt64).toNat = _
    have zero : (0 : UInt64).toNat = 0 := rfl
    have one : (1 : UInt64).toNat = 1 := rfl
    omega

/-! ## The map -/

section Map

variable {δ : Type}

/-- Every request has the id of its turn; every entry of the map stands under the id of its request,
at most a thousand of them. -/
structure Keyed (start : Nat) (s : State δ) : Prop where
  counter : s.msgId.toNat % ID_COUNT = (start + s.requests.length) % ID_COUNT
  ids : ∀ (n : Nat) (request : Request δ), s.requests[n]? = some request →
    request.msgId.toNat = (start + n) % ID_COUNT + 1
  entries : ∀ entry ∈ s.rspHandlers,
    ∃ request, s.requests[entry.2]? = some request ∧ request.msgId = entry.1
  distinct : (s.rspHandlers.map Prod.fst).Nodup
  room : s.rspHandlers.length ≤ MESSAGE_UNANSWERED_MAX_NUMBER

/-- `Q` is true of every request, with its handler in the map or not. -/
def Holds (Q : Request δ → Prop → Prop) (s : State δ) : Prop :=
  ∀ (n : Nat) (request : Request δ), s.requests[n]? = some request → Q request (Registered s n)

/-- `Q` is true of a new request, and goes on to be true when a request is told. -/
structure Told (Q : Request δ → Prop → Prop) : Prop where
  fresh : ∀ msgId isSync hasOutput, Q { msgId, isSync, hasOutput } True
  notify : ∀ request rspInfo, Q request True → Q (request.notify rspInfo) False

theorem sound_told : Told (Request.Sound (δ := δ)) where
  fresh := sound_fresh
  notify _ rspInfo sound := sound.notify rspInfo

variable {start : Nat} {s : State δ} (keyed : Keyed start s) (few : s.requests.length < 2 ^ 64)

include keyed few

/-- Requests have different ids. -/
theorem Keyed.same {i j : Nat} {one other : Request δ} (first : s.requests[i]? = some one)
    (second : s.requests[j]? = some other) (equal : one.msgId = other.msgId) : i = j := by
  have here := keyed.ids i one first
  have there := keyed.ids j other second
  have low : i < s.requests.length := (List.getElem?_eq_some_iff.1 first).1
  have high : j < s.requests.length := (List.getElem?_eq_some_iff.1 second).1
  rw [equal, there] at here
  unfold ID_COUNT at here
  omega

/-- Without the entries under the id of request `n` the map is without that request. -/
theorem Keyed.erased {n : Nat} {request : Request δ} (there : s.requests[n]? = some request) (m : Nat) :
    Registered (s.deleteRspHandler request.msgId) m ↔ Registered s m ∧ m ≠ n := by
  unfold Registered State.deleteRspHandler
  dsimp only
  rw [eraseP_key keyed.distinct]
  simp only [List.mem_map, List.mem_filter, decide_eq_true_iff]
  constructor
  · rintro ⟨entry, ⟨member, differs⟩, rfl⟩
    refine ⟨⟨entry, member, rfl⟩, fun same => differs ?_⟩
    obtain ⟨found, held, named⟩ := keyed.entries entry member
    rw [same, there] at held
    cases held
    exact named.symm
  · rintro ⟨⟨entry, member, rfl⟩, differs⟩
    refine ⟨entry, ⟨member, fun same => differs ?_⟩, rfl⟩
    obtain ⟨found, held, named⟩ := keyed.entries entry member
    exact keyed.same few held there (named.trans same)

/-- The entry under the id of a request is that of the request. -/
theorem Keyed.registered_iff {n : Nat} {request : Request δ} (there : s.requests[n]? = some request) :
    Registered s n ↔ request.msgId ∈ s.rspHandlers.map Prod.fst := by
  simp only [Registered, List.mem_map]
  constructor
  · rintro ⟨entry, member, rfl⟩
    obtain ⟨found, held, named⟩ := keyed.entries entry member
    rw [there] at held
    cases held
    exact ⟨entry, member, named.symm⟩
  · rintro ⟨entry, member, same⟩
    obtain ⟨found, held, named⟩ := keyed.entries entry member
    exact ⟨entry, member, keyed.same few held there (named.trans same)⟩

end Map

/-! ## Lists -/

section Lists

variable {α : Type} {l : List α} {n m : Nat} {f : α → α} {x y : α}

/-- What is found in a list one element of which was changed. -/
theorem getElem?_modify_some (there : (l.modify n f)[m]? = some x) :
    ∃ old, l[m]? = some old ∧ x = if n = m then f old else old := by
  rw [List.getElem?_modify] at there
  obtain ⟨old, found, same⟩ := Option.map_eq_some_iff.1 there
  exact ⟨old, found, same.symm⟩

theorem getElem?_modify_of_some (there : l[m]? = some x) (n : Nat) (f : α → α) :
    (l.modify n f)[m]? = some (if n = m then f x else x) := by
  rw [List.getElem?_modify, there]
  rfl

/-- What is found in a list that one element was put at the end of. -/
theorem getElem?_concat_some (there : (l ++ [x])[m]? = some y) :
    l[m]? = some y ∨ m = l.length ∧ y = x := by
  rcases Nat.lt_trichotomy m l.length with low | rfl | high
  · rw [List.getElem?_append_left low] at there
    exact .inl there
  · rw [List.getElem?_concat_length] at there
    exact .inr ⟨rfl, (Option.some.inj there).symm⟩
  · rw [List.getElem?_append_right (Nat.le_of_lt high), List.getElem?_singleton,
      if_neg (by omega)] at there
    cases there

theorem getElem?_concat_of_some (there : l[m]? = some x) (y : α) : (l ++ [y])[m]? = some x := by
  rw [List.getElem?_append_left (List.getElem?_eq_some_iff.1 there).1]
  exact there

/-- A change made once for each of several numbers. -/
theorem foldl_modify (f : α → α) {entries : List (UInt64 × Nat)} (once : (entries.map Prod.snd).Nodup)
    (l : List α) (m : Nat) :
    (entries.foldl (fun l entry => l.modify entry.2 f) l)[m]? =
      l[m]?.map fun x => if m ∈ entries.map Prod.snd then f x else x := by
  induction entries generalizing l with
  | nil => simp
  | cons entry entries ih =>
      rw [List.map_cons, List.nodup_cons] at once
      rw [List.foldl_cons, ih once.2, List.getElem?_modify, Option.map_eq_map,
        Option.map_map, List.map_cons]
      congr 1
      funext x
      simp only [Function.comp_apply, List.mem_cons]
      by_cases here : entry.2 = m
      · subst here
        rw [if_neg once.1, if_pos rfl, if_pos (.inl rfl)]
      · rw [if_neg here]
        simp only [Ne.symm here, false_or]

theorem length_foldl_modify (f : α → α) (entries : List (UInt64 × Nat)) (l : List α) :
    (entries.foldl (fun l entry => l.modify entry.2 f) l).length = l.length := by
  induction entries generalizing l with
  | nil => rfl
  | cons entry entries ih => rw [List.foldl_cons, ih, List.length_modify]

end Lists

/-! ## The steps -/

section Steps

variable {δ : Type} {start : Nat} {s : State δ} {Q : Request δ → Prop → Prop}

/-- One request changes, and the map changes for that request at most. -/
theorem Keyed.change (keyed : Keyed start s) (n : Nat) (f : Request δ → Request δ)
    (same : ∀ request, (f request).msgId = request.msgId) {rspHandlers : List (UInt64 × Nat)}
    (fewer : rspHandlers.Sublist s.rspHandlers) :
    Keyed start { s with rspHandlers, requests := s.requests.modify n f } := by
  refine ⟨?_, fun m changed found => ?_, fun entry member => ?_, ?_, fewer.length_le.trans keyed.room⟩
  · show s.msgId.toNat % ID_COUNT = (start + (s.requests.modify n f).length) % ID_COUNT
    rw [List.length_modify]
    exact keyed.counter
  · obtain ⟨old, held, rfl⟩ := getElem?_modify_some found
    rw [← keyed.ids m old held]
    split
    · rw [same]
    · rfl
  · obtain ⟨old, held, named⟩ := keyed.entries entry (fewer.subset member)
    refine ⟨_, getElem?_modify_of_some held n f, ?_⟩
    split
    · rw [same, named]
    · exact named
  · exact keyed.distinct.sublist (fewer.map _)

theorem Holds.change (holds : Holds Q s) {n : Nat} {request : Request δ}
    (there : s.requests[n]? = some request)
    {f : Request δ → Request δ} {rspHandlers : List (UInt64 × Nat)}
    (others : ∀ m, m ≠ n → (m ∈ rspHandlers.map Prod.snd ↔ Registered s m))
    (next : Q (f request) (n ∈ rspHandlers.map Prod.snd)) :
    Holds Q { s with rspHandlers, requests := s.requests.modify n f } := by
  intro m changed found
  obtain ⟨old, held, rfl⟩ := getElem?_modify_some found
  by_cases here : n = m
  · subst here
    cases there.symm.trans held
    rw [if_pos rfl]
    exact next
  · rw [if_neg here]
    have same : Registered { s with rspHandlers, requests := s.requests.modify n f } m =
      Registered s m :=
      propext (others m (Ne.symm here))
    rw [same]
    exact holds m old held

/-- The map stays. -/
theorem Holds.proceed (holds : Holds Q s) {n : Nat} {request : Request δ}
    (there : s.requests[n]? = some request)
    {f : Request δ → Request δ} (next : Q (f request) (Registered s n)) : Holds Q (s.proceed n f) :=
  holds.change there (fun _ _ => Iff.rfl) next

/-- The entry of the request leaves the map. -/
theorem Holds.leave (holds : Holds Q s) (keyed : Keyed start s)
    (few : s.requests.length < 2 ^ 64) {n : Nat}
    {request : Request δ} (there : s.requests[n]? = some request) {f : Request δ → Request δ}
    (next : Q (f request) False) : Holds Q ((s.deleteRspHandler request.msgId).proceed n f) := by
  have erased := keyed.erased few there
  refine holds.change there (fun m differs => (erased m).trans (and_iff_left differs)) ?_
  show Q (f request) (Registered (s.deleteRspHandler request.msgId) n)
  rw [eq_false fun member => ((erased n).1 member).2 rfl]
  exact next

theorem Keyed.handleMsg (keyed : Keyed start s) (msgId : UInt64) (rspInfo : ResponseInfo δ) :
    Keyed start (s.handleMsg msgId rspInfo) := by
  unfold State.handleMsg
  split
  · exact keyed
  · exact keyed.change _ (Request.notify rspInfo) (fun _ => rfl) List.eraseP_sublist

/-- What `HandleMsg` does to a request. -/
theorem handleMsg_request (keyed : Keyed start s) (few : s.requests.length < 2 ^ 64) {msgId : UInt64}
    {rspInfo : ResponseInfo δ} {n : Nat} {changed : Request δ}
    (there : (s.handleMsg msgId rspInfo).requests[n]? = some changed) :
    ∃ request, s.requests[n]? = some request ∧
      if Registered s n ∧ request.msgId = msgId then
        changed = request.notify rspInfo ∧ ¬ Registered (s.handleMsg msgId rspInfo) n
      else changed = request ∧ (Registered (s.handleMsg msgId rspInfo) n ↔ Registered s n) := by
  unfold State.handleMsg at there ⊢
  split at there
  · rename_i none
    refine ⟨changed, there, ?_⟩
    have absent : ¬ (Registered s n ∧ changed.msgId = msgId) := by
      rintro ⟨registered, rfl⟩
      exact lookup_none.1 none ((keyed.registered_iff few there).1 registered)
    rw [if_neg absent]
    exact ⟨rfl, Iff.rfl⟩
  · rename_i entry found
    obtain ⟨member, rfl⟩ := lookup_mem found
    obtain ⟨request, held, named⟩ := keyed.entries entry member
    have erased := keyed.erased few held
    rw [named] at erased
    obtain ⟨old, was, rfl⟩ := getElem?_modify_some there
    refine ⟨old, was, ?_⟩
    by_cases here : entry.2 = n
    · subst here
      cases held.symm.trans was
      rw [if_pos ⟨List.mem_map_of_mem member, named⟩, if_pos rfl]
      exact ⟨rfl, fun left => ((erased entry.2).1 left).2 rfl⟩
    · rw [if_neg fun both => here (keyed.same few held was (named.trans both.2.symm)), if_neg here]
      exact ⟨rfl, (erased n).trans (and_iff_left (Ne.symm here))⟩

theorem Holds.handleMsg (holds : Holds Q s) (told : Told Q) (keyed : Keyed start s)
    (few : s.requests.length < 2 ^ 64) (msgId : UInt64) (rspInfo : ResponseInfo δ) :
    Holds Q (s.handleMsg msgId rspInfo) := by
  intro n changed there
  obtain ⟨request, held, done⟩ := handleMsg_request keyed few there
  have before := holds n request held
  split at done
  · rename_i registered
    obtain ⟨rfl, gone⟩ := done
    rw [eq_true registered.1] at before
    rw [eq_false gone]
    exact told.notify request rspInfo before
  · obtain ⟨rfl, same⟩ := done
    rw [propext same]
    exact before

theorem handleMsg_length (s : State δ) (msgId : UInt64) (rspInfo : ResponseInfo δ) :
    (s.handleMsg msgId rspInfo).requests.length = s.requests.length := by
  unfold State.handleMsg
  split
  · rfl
  · exact List.length_modify ..

theorem Keyed.evict (keyed : Keyed start s) :
    Keyed start s.evict ∧ s.evict.rspHandlers.length < MESSAGE_UNANSWERED_MAX_NUMBER := by
  unfold State.evict
  split
  · rename_i full
    cases entries : s.rspHandlers with
    | nil =>
        rw [entries] at full
        exact absurd full (by decide)
    | cons first rest =>
        dsimp only
        have member : first ∈ s.rspHandlers := by
          rw [entries]
          exact List.mem_cons_self
        refine ⟨keyed.handleMsg _ _, ?_⟩
        unfold State.handleMsg
        rw [lookup_of_mem keyed.distinct member]
        show (s.rspHandlers.eraseP _).length < _
        rw [List.length_eraseP_of_mem member (decide_eq_true rfl)]
        have room := keyed.room
        have positive := List.length_pos_of_mem member
        omega
  · rename_i room
    exact ⟨keyed, by omega⟩

theorem evict_length (s : State δ) : s.evict.requests.length = s.requests.length := by
  unfold State.evict
  split
  · split
    · rfl
    · exact handleMsg_length s _ _
  · rfl

/-- What the eviction does to a request. -/
theorem evict_request (keyed : Keyed start s) (few : s.requests.length < 2 ^ 64) {n : Nat}
    {changed : Request δ} (there : s.evict.requests[n]? = some changed) :
    ∃ request, s.requests[n]? = some request ∧
      if s.evicts = some n then
        Registered s n ∧ changed = request.notify abnormal ∧ ¬ Registered s.evict n
      else changed = request ∧ (Registered s.evict n ↔ Registered s n) := by
  unfold State.evict State.evicts at *
  split at there
  · rename_i full
    rw [if_pos full, if_pos full]
    cases entries : s.rspHandlers with
    | nil =>
        rw [entries] at there
        exact ⟨changed, there, by rw [if_neg nofun]; exact ⟨rfl, Iff.rfl⟩⟩
    | cons first rest =>
        rw [entries] at there
        have member : first ∈ s.rspHandlers := by
          rw [entries]
          exact List.mem_cons_self
        obtain ⟨oldest, held, named⟩ := keyed.entries first member
        obtain ⟨request, found, done⟩ := handleMsg_request keyed few there
        refine ⟨request, found, ?_⟩
        by_cases here : first.2 = n
        · subst here
          cases held.symm.trans found
          have registered : Registered s first.2 := List.mem_map_of_mem member
          rw [if_pos ⟨registered, named⟩] at done
          rw [List.head?_cons, Option.map_some, if_pos rfl]
          exact ⟨registered, done⟩
        · rw [if_neg fun both => here (keyed.same few held found (named.trans both.2.symm))] at done
          rw [List.head?_cons, Option.map_some, if_neg fun same => here (Option.some.inj same)]
          exact done
  · rename_i room
    rw [if_neg room, if_neg room]
    exact ⟨changed, there, by rw [if_neg nofun]; exact ⟨rfl, Iff.rfl⟩⟩

theorem Holds.evict (holds : Holds Q s) (told : Told Q) (keyed : Keyed start s)
    (few : s.requests.length < 2 ^ 64) :
    Holds Q s.evict := by
  unfold State.evict
  split
  · split
    · exact holds
    · exact holds.handleMsg told keyed few _ _
  · exact holds

/-- The id of the next request is new. -/
theorem Keyed.fresh (keyed : Keyed start s) (few : s.requests.length + 1 < 2 ^ 64) :
    (generateMsgId s.msgId).toNat = (start + s.requests.length) % ID_COUNT + 1 ∧
      generateMsgId s.msgId ∉ s.rspHandlers.map Prod.fst := by
  have fresh : (generateMsgId s.msgId).toNat = (start + s.requests.length) % ID_COUNT + 1 := by
    rw [generateMsgId_toNat, keyed.counter]
  refine ⟨fresh, fun member => ?_⟩
  obtain ⟨entry, inside, same⟩ := List.mem_map.1 member
  obtain ⟨request, held, named⟩ := keyed.entries entry inside
  have id := keyed.ids entry.2 request held
  have low : entry.2 < s.requests.length := (List.getElem?_eq_some_iff.1 held).1
  rw [named, same, fresh] at id
  unfold ID_COUNT at id
  omega

/-- The state after `AddRspHandler`, when the id is new. -/
theorem addRspHandler_eq (keyed : Keyed start s) (few : s.requests.length + 1 < 2 ^ 64)
    (isSync hasOutput : Bool) :
    s.addRspHandler isSync hasOutput =
      { msgId := generateMsgId s.evict.msgId
        requests := s.evict.requests ++ [{ msgId := generateMsgId s.evict.msgId, isSync, hasOutput }]
        rspHandlers := s.evict.rspHandlers.orderedInsert (fun one other => one.1 ≤ other.1)
          (generateMsgId s.evict.msgId, s.evict.requests.length) } := by
  rw [← evict_length] at few
  have absent := (keyed.evict.1.fresh few).2
  unfold State.addRspHandler
  dsimp only
  rw [State.insert, if_neg absent]

theorem Keyed.addRspHandler (keyed : Keyed start s) (few : s.requests.length + 1 < 2 ^ 64)
    (isSync hasOutput : Bool) :
    Keyed start (s.addRspHandler isSync hasOutput) := by
  rw [addRspHandler_eq keyed few]
  rw [← evict_length] at few
  obtain ⟨keyed, room⟩ := keyed.evict
  generalize s.evict = s at keyed room few
  obtain ⟨fresh, absent⟩ := keyed.fresh few
  refine ⟨?_, fun m request held => ?_, fun entry member => ?_, ?_, ?_⟩
  · show (generateMsgId s.msgId).toNat % ID_COUNT = (start + (s.requests ++ [_]).length) % ID_COUNT
    rw [fresh, List.length_append, List.length_singleton, Nat.mod_add_mod, Nat.add_assoc]
  · rcases getElem?_concat_some held with before | ⟨rfl, rfl⟩
    · exact keyed.ids m request before
    · exact fresh
  · rcases (List.mem_orderedInsert _).1 member with rfl | before
    · exact ⟨_, List.getElem?_concat_length, rfl⟩
    · obtain ⟨request, held, named⟩ := keyed.entries entry before
      exact ⟨request, getElem?_concat_of_some held _, named⟩
  · rw [((List.perm_orderedInsert _ _ _).map Prod.fst).nodup_iff, List.map_cons, List.nodup_cons]
    exact ⟨absent, keyed.distinct⟩
  · show (s.rspHandlers.orderedInsert _ _).length ≤ _
    rw [List.orderedInsert_length]
    exact room

/-- The requests after `AddRspHandler`: a new one at the end, and what the eviction left. -/
theorem addRspHandler_request (keyed : Keyed start s) (few : s.requests.length + 1 < 2 ^ 64)
    {isSync hasOutput : Bool} {n : Nat} {changed : Request δ}
    (there : (s.addRspHandler isSync hasOutput).requests[n]? = some changed) :
    (n = s.requests.length ∧ changed = { msgId := generateMsgId s.evict.msgId, isSync, hasOutput } ∧
        Registered (s.addRspHandler isSync hasOutput) n) ∨
      s.evict.requests[n]? = some changed ∧
        (Registered (s.addRspHandler isSync hasOutput) n ↔ Registered s.evict n) := by
  have length := evict_length s
  rw [addRspHandler_eq keyed few] at there ⊢
  have registered : Registered
      { msgId := generateMsgId s.evict.msgId
        requests := s.evict.requests ++ [{ msgId := generateMsgId s.evict.msgId, isSync, hasOutput }]
        rspHandlers := s.evict.rspHandlers.orderedInsert (fun one other => one.1 ≤ other.1)
          (generateMsgId s.evict.msgId, s.evict.requests.length) } n ↔
      n = s.evict.requests.length ∨ Registered s.evict n := by
    show n ∈ (s.evict.rspHandlers.orderedInsert _ _).map Prod.snd ↔ _
    rw [((List.perm_orderedInsert _ _ _).map Prod.snd).mem_iff, List.map_cons, List.mem_cons]
    rfl
  rcases getElem?_concat_some there with before | ⟨rfl, rfl⟩
  · have low : n < s.evict.requests.length := (List.getElem?_eq_some_iff.1 before).1
    exact .inr ⟨before, registered.trans (or_iff_right (by omega))⟩
  · exact .inl ⟨length, rfl, registered.2 (.inl rfl)⟩

theorem Holds.addRspHandler (holds : Holds Q s) (told : Told Q) (keyed : Keyed start s)
    (few : s.requests.length + 1 < 2 ^ 64) (isSync hasOutput : Bool) :
    Holds Q (s.addRspHandler isSync hasOutput) := by
  intro n changed there
  rcases addRspHandler_request keyed few there with ⟨-, rfl, registered⟩ | ⟨before, same⟩
  · rw [eq_true registered]
    exact told.fresh _ isSync hasOutput
  · rw [propext same]
    exact holds.evict told keyed (by omega) n changed before

/-- The requests after `ClearRspHandlers`. -/
theorem cleared_some (keyed : Keyed start s) {m : Nat} {changed : Request δ}
    (there : s.clearRspHandlers.requests[m]? = some changed) :
    ∃ old, s.requests[m]? = some old ∧
      (if Registered s m then old.notify abnormal else old) = changed := by
  have once : (s.rspHandlers.map Prod.snd).Nodup := by
    refine List.Nodup.map_on ?_ (List.Nodup.of_map _ keyed.distinct)
    intro one first other second same
    obtain ⟨request, held, named⟩ := keyed.entries one first
    obtain ⟨again, found, named'⟩ := keyed.entries other second
    rw [same, found] at held
    cases held
    exact Prod.ext (named.symm.trans named') same
  rw [State.clearRspHandlers, foldl_modify _ once] at there
  exact Option.map_eq_some_iff.1 there

theorem Keyed.clearRspHandlers (keyed : Keyed start s) : Keyed start s.clearRspHandlers := by
  refine ⟨?_, fun m changed there => ?_, nofun, List.nodup_nil, Nat.zero_le _⟩
  · rw [State.clearRspHandlers, length_foldl_modify]
    exact keyed.counter
  · obtain ⟨old, held, rfl⟩ := cleared_some keyed there
    rw [← keyed.ids m old held]
    split <;> rfl

theorem Holds.clearRspHandlers (holds : Holds Q s) (told : Told Q) (keyed : Keyed start s) :
    Holds Q s.clearRspHandlers := by
  intro m changed there
  obtain ⟨old, held, rfl⟩ := cleared_some keyed there
  have before := holds m old held
  have gone : Registered s.clearRspHandlers m = False := eq_false nofun
  rw [gone]
  split
  · rename_i registered
    rw [eq_true registered] at before
    exact told.notify old abnormal before
  · rename_i away
    rw [eq_false away] at before
    exact before

end Steps

/-! ## Runs -/

section Runs

variable {δ : Type} {start : Nat} {s : State δ}

theorem waited_msgId (request : Request δ) : request.waited.msgId = request.msgId := by
  unfold Request.waited
  split <;> rfl

theorem step_keyed (keyed : Keyed start s) {e : Turn δ}
    (few : s.requests.length + requests [e] < 2 ^ 64) :
    Keyed start (step s e) := by
  cases e with
  | request channel isSync hasOutput =>
      simp only [step]
      split
      · exact keyed.addRspHandler few isSync hasOutput
      · exact keyed
  | work n succeeds =>
      simp only [step]
      split
      · exact keyed.change n (Request.sent succeeds) (fun _ => rfl) (List.Sublist.refl _)
      · exact keyed
  | delete n =>
      simp only [step]
      split
      · exact keyed.change n (fun request => { request with stage := .returned .sendFailed })
          (fun _ => rfl)
          List.eraseP_sublist
      · exact keyed
  | wait n =>
      simp only [step]
      split
      · exact keyed.change n Request.waited waited_msgId (List.Sublist.refl _)
      · exact keyed
  | response msgId rspInfo => exact keyed.handleMsg msgId rspInfo
  | clear => exact keyed.clearRspHandlers

theorem step_sound (sound : Holds Request.Sound s) (keyed : Keyed start s) {e : Turn δ}
    (few : s.requests.length + requests [e] < 2 ^ 64) : Holds Request.Sound (step s e) := by
  have some : s.requests.length < 2 ^ 64 := by omega
  cases e with
  | request channel isSync hasOutput =>
      simp only [step]
      split
      · exact sound.addRspHandler sound_told keyed few isSync hasOutput
      · exact sound
  | work n succeeds =>
      simp only [step]
      split
      · rename_i held
        exact sound.proceed held ((sound n _ held).sent rfl succeeds)
      · exact sound
  | delete n =>
      simp only [step]
      split
      · rename_i held
        exact sound.leave keyed some held ((sound n _ held).failed rfl)
      · exact sound
  | wait n =>
      simp only [step]
      split
      · rename_i held
        exact sound.proceed held ((sound n _ held).waited rfl)
      · exact sound
  | response msgId rspInfo => exact sound.handleMsg sound_told keyed some msgId rspInfo
  | clear => exact sound.clearRspHandlers sound_told keyed

theorem step_length (s : State δ) (e : Turn δ) :
    s.requests.length ≤ (step s e).requests.length ∧
      (step s e).requests.length ≤ s.requests.length + requests [e] := by
  cases e with
  | request channel isSync hasOutput =>
      have added : (s.addRspHandler isSync hasOutput).requests.length = s.requests.length + 1 := by
        simp only [State.addRspHandler, State.insert]
        split
        · rw [List.length_append, evict_length]
          rfl
        · rw [List.length_append, evict_length]
          rfl
      simp only [step]
      split
      · rw [added]
        exact ⟨Nat.le_succ _, Nat.le_refl _⟩
      · exact ⟨Nat.le_refl _, Nat.le_add_right _ _⟩
  | work n succeeds =>
      simp only [step]
      split
      · exact ⟨(List.length_modify ..).ge, (List.length_modify ..).le⟩
      · exact ⟨Nat.le_refl _, Nat.le_refl _⟩
  | delete n =>
      simp only [step]
      split
      · exact ⟨(List.length_modify ..).ge, (List.length_modify ..).le⟩
      · exact ⟨Nat.le_refl _, Nat.le_refl _⟩
  | wait n =>
      simp only [step]
      split
      · exact ⟨(List.length_modify ..).ge, (List.length_modify ..).le⟩
      · exact ⟨Nat.le_refl _, Nat.le_refl _⟩
  | response msgId rspInfo =>
      exact ⟨(handleMsg_length s msgId rspInfo).ge, (handleMsg_length s msgId rspInfo).le⟩
  | clear =>
      have same := length_foldl_modify (Request.notify abnormal) s.rspHandlers s.requests
      exact ⟨same.ge, same.le⟩

theorem requests_append (es fs : List (Turn δ)) : requests (es ++ fs) = requests es + requests fs :=
  List.countP_append

/-- The invariant, and that the rest of the run still has ids. -/
structure Invariant (start : Nat) (s : State δ) (es : List (Turn δ)) : Prop where
  keyed : Keyed start s
  sound : Holds Request.Sound s
  few : s.requests.length + requests es < 2 ^ 64

theorem no_request (n : Nat) (request : Request δ) : ([] : List (Request δ))[n]? ≠ some request := by
  rw [List.getElem?_nil]
  exact (Option.some_ne_none request).symm

theorem holds_start {Q : Request δ → Prop → Prop} (msgId : UInt64) : Holds Q { msgId } :=
  fun n request held => absurd held (no_request n request)

theorem invariant_start (msgId : UInt64) {es : List (Turn δ)} (few : requests es < 2 ^ 64) :
    Invariant msgId.toNat { msgId } es where
  keyed := ⟨rfl, fun n request held => absurd held (no_request n request), nofun,
    List.nodup_nil, Nat.zero_le _⟩
  sound := holds_start msgId
  few := by
    show 0 + requests es < 2 ^ 64
    omega

theorem invariant_step {e : Turn δ} {es : List (Turn δ)} (inv : Invariant start s (e :: es)) :
    Invariant start (step s e) es := by
  have few := inv.few
  have count : requests (e :: es) = requests [e] + requests es := requests_append [e] es
  have length := (step_length s e).2
  exact ⟨step_keyed inv.keyed (by omega), step_sound inv.sound inv.keyed (by omega), by omega⟩

theorem run_length (s : State δ) (es : List (Turn δ)) :
    (run step s es).requests.length ≤ s.requests.length + requests es := by
  induction es generalizing s with
  | nil => exact Nat.le_refl _
  | cons e es ih =>
      have count : requests (e :: es) = requests [e] + requests es := requests_append [e] es
      have length := (step_length s e).2
      have rest := ih (step s e)
      rw [run_cons]
      omega

theorem invariant_run {es : List (Turn δ)} (inv : Invariant start s es) :
    Invariant start (run step s es) [] := by
  induction es generalizing s with
  | nil => exact inv
  | cons e es ih => exact ih (invariant_step inv)

/-! ## What settles a request -/

theorem told_notify {request : Request δ} (sound : request.Sound True) (rspInfo : ResponseInfo δ) :
    (request.notify rspInfo).told = some rspInfo := by
  have silent := (sound.within trivial).2.1
  unfold Request.told Request.notify
  cases sync : request.isSync with
  | true => rfl
  | false =>
      simp only [silent]
      rfl

theorem told_waited (request : Request δ) : request.waited.told = request.told := by
  unfold Request.waited
  split <;> rfl

/-- A request in the map is one of the requests. -/
theorem Keyed.registered_some (keyed : Keyed start s) {n : Nat} (registered : Registered s n) :
    ∃ request, s.requests[n]? = some request := by
  obtain ⟨entry, member, rfl⟩ := List.mem_map.1 registered
  obtain ⟨request, held, -⟩ := keyed.entries entry member
  exact ⟨request, held⟩

/-- What a step does to a request: it is a new one; or it goes on as it was told, and if it stays in
the map the step has said nothing to it; or it leaves the map, told what the step says to it. -/
theorem step_request (keyed : Keyed start s) (sound : Holds Request.Sound s) {e : Turn δ}
    (few : s.requests.length + requests [e] < 2 ^ 64) {n : Nat} {changed : Request δ}
    (there : (step s e).requests[n]? = some changed) :
    (s.requests[n]? = none ∧ changed.told = none) ∨
      ∃ request, s.requests[n]? = some request ∧
        ((changed.told = request.told ∧
            (Registered (step s e) n → Registered s n ∧ settles s n e = none)) ∨
          (Registered s n ∧ ¬ Registered (step s e) n ∧ settles s n e = changed.told)) := by
  have some : s.requests.length < 2 ^ 64 := by omega
  cases e with
  | request channel isSync hasOutput =>
      simp only [step] at there ⊢
      cases channel with
      | false => exact .inr ⟨changed, there, .inl ⟨rfl, fun registered => ⟨registered, rfl⟩⟩⟩
      | true =>
          rcases addRspHandler_request keyed few there with ⟨rfl, rfl, -⟩ | ⟨before, same⟩
          · refine .inl ⟨List.getElem?_eq_none (Nat.le_refl _), ?_⟩
            unfold Request.told
            split <;> rfl
          · obtain ⟨request, held, done⟩ := evict_request keyed some before
            refine .inr ⟨request, held, ?_⟩
            simp only [settles, if_true]
            rw [same]
            split at done
            · rename_i evicted
              obtain ⟨registered, rfl, gone⟩ := done
              have before := sound n request held
              rw [eq_true registered] at before
              rw [if_pos evicted, told_notify before]
              exact .inr ⟨registered, gone, rfl⟩
            · rename_i stays
              obtain ⟨rfl, left⟩ := done
              rw [if_neg stays]
              exact .inl ⟨rfl, fun registered => ⟨left.1 registered, rfl⟩⟩
  | work m succeeds =>
      simp only [step] at there ⊢
      split at there
      · obtain ⟨old, held, rfl⟩ := getElem?_modify_some there
        refine .inr ⟨old, held, .inl ⟨?_, fun registered => ⟨registered, rfl⟩⟩⟩
        split <;> rfl
      · exact .inr ⟨changed, there, .inl ⟨rfl, fun registered => ⟨registered, rfl⟩⟩⟩
  | delete m =>
      simp only [step] at there ⊢
      split at there
      · obtain ⟨old, held, rfl⟩ := getElem?_modify_some there
        refine .inr ⟨old, held, .inl ⟨?_, fun registered => ⟨?_, rfl⟩⟩⟩
        · split <;> rfl
        · exact (List.eraseP_sublist.map Prod.snd).subset registered
      · exact .inr ⟨changed, there, .inl ⟨rfl, fun registered => ⟨registered, rfl⟩⟩⟩
  | wait m =>
      simp only [step] at there ⊢
      split at there
      · obtain ⟨old, held, rfl⟩ := getElem?_modify_some there
        refine .inr ⟨old, held, .inl ⟨?_, fun registered => ⟨registered, rfl⟩⟩⟩
        split
        · exact told_waited old
        · rfl
      · exact .inr ⟨changed, there, .inl ⟨rfl, fun registered => ⟨registered, rfl⟩⟩⟩
  | response msgId rspInfo =>
      obtain ⟨request, held, done⟩ := handleMsg_request keyed some there
      refine .inr ⟨request, held, ?_⟩
      simp only [settles, held, Option.map_some, Option.some.injEq]
      split at done
      · rename_i addressed
        obtain ⟨rfl, gone⟩ := done
        have before := sound n request held
        rw [eq_true addressed.1] at before
        rw [if_pos addressed.2, told_notify before]
        exact .inr ⟨addressed.1, gone, rfl⟩
      · rename_i other
        obtain ⟨rfl, same⟩ := done
        refine .inl ⟨rfl, fun registered => ⟨same.1 registered, if_neg fun carries => ?_⟩⟩
        exact other ⟨same.1 registered, carries⟩
  | clear =>
      obtain ⟨request, held, done⟩ := cleared_some keyed there
      refine .inr ⟨request, held, ?_⟩
      simp only [settles]
      split at done
      · rename_i registered
        have before := sound n request held
        rw [eq_true registered] at before
        rw [if_pos registered, ← done, told_notify before]
        exact .inr ⟨registered, nofun, rfl⟩
      · exact .inl ⟨by rw [done], nofun⟩

/-- A step says something only to a request that is there. -/
theorem settles_none (keyed : Keyed start s) {n : Nat} (absent : s.requests[n]? = none)
    (e : Turn δ) : settles s n e = none := by
  have away : ¬ Registered s n := fun registered => by
    obtain ⟨request, held⟩ := keyed.registered_some registered
    rw [absent] at held
    cases held
  cases e with
  | request channel isSync hasOutput =>
      cases channel with
      | false => rfl
      | true =>
          refine if_neg fun evicted => away ?_
          unfold State.evicts at evicted
          split at evicted
          · obtain ⟨first, head, rfl⟩ := Option.map_eq_some_iff.1 evicted
            exact List.mem_map_of_mem (List.mem_of_mem_head? head)
          · cases evicted
  | work m succeeds => rfl
  | delete m => rfl
  | wait m => rfl
  | response msgId rspInfo =>
      simp only [settles, absent]
      rfl
  | clear => exact if_neg away

/-- What has been said to each request so far: nothing while it is not there or in the map, and what
it was told is the first of it. -/
structure Settled (settled : Nat → Option (ResponseInfo δ)) (s : State δ) : Prop where
  absent : ∀ n, s.requests[n]? = none → settled n = none
  within : ∀ n, Registered s n → settled n = none
  told : ∀ (n : Nat) (request : Request δ) (rspInfo : ResponseInfo δ),
    s.requests[n]? = some request → request.told = some rspInfo → settled n = some rspInfo

theorem settled_step {settled : Nat → Option (ResponseInfo δ)} (heard : Settled settled s)
    (keyed : Keyed start s) (sound : Holds Request.Sound s) {e : Turn δ}
    (few : s.requests.length + requests [e] < 2 ^ 64) :
    Settled (fun n => (settled n).or (settles s n e)) (step s e) := by
  have next := step_keyed keyed few
  constructor
  case absent =>
    intro n absent
    have before : s.requests[n]? = none := by
      rw [List.getElem?_eq_none_iff] at absent ⊢
      exact (step_length s e).1.trans absent
    rw [heard.absent n before, settles_none keyed before]
    rfl
  case within =>
    intro n registered
    obtain ⟨changed, there⟩ := next.registered_some registered
    rcases step_request keyed sound few there with
      ⟨before, -⟩ | ⟨request, held, ⟨-, stays⟩ | ⟨-, gone, -⟩⟩
    · rw [heard.absent n before, settles_none keyed before]
      rfl
    · rw [heard.within n (stays registered).1, (stays registered).2]
      rfl
    · exact absurd registered gone
  case told =>
    intro n changed rspInfo there told
    rcases step_request keyed sound few there with
      ⟨-, silent⟩ | ⟨request, held, ⟨same, -⟩ | ⟨registered, -, spoken⟩⟩
    · rw [silent] at told
      cases told
    · rw [heard.told n request rspInfo held (same ▸ told)]
      rfl
    · rw [heard.within n registered, spoken, told]
      rfl

/-- In a run what is said to a request first is its settlement. -/
theorem settled_run (msgId : UInt64) {es : List (Turn δ)} (few : requests es < 2 ^ 64) :
    Settled (fun n => settlement n { msgId } es) (run step { msgId } es) := by
  induction es using List.reverseRecOn with
  | nil => exact ⟨fun _ _ => rfl, nofun, fun n request _ held => absurd held (no_request n request)⟩
  | append_singleton es e ih =>
      have count := requests_append es [e]
      have start : Invariant msgId.toNat { msgId } es := invariant_start msgId (by omega)
      have inv := invariant_run start
      have room : (run step { msgId } es).requests.length + requests [e] < 2 ^ 64 := by
        have length := run_length ({ msgId } : State δ) es
        have none : ({ msgId } : State δ).requests.length = 0 := rfl
        omega
      have next := settled_step (ih (by omega)) inv.keyed inv.sound room
      rw [run_append, run_cons, run_nil]
      simp only [settlement_concat]
      exact next

end Runs

/-- **In every run of fewer than 2^64 requests the map holds a thousand handlers at most, each under its
own id; a callback is invoked once at most, and for a request that was sent exactly when its handler
has left the map, with the settlement of the request; a synchronous request returns and puts out its
settlement.** -/
theorem responses_delivered {δ : Type} (msgId : UInt64) (es : List (Turn δ))
    (few : requests es < 2 ^ 64) :
    let s := run step { msgId } es
    (s.rspHandlers.length ≤ 1000 ∧ (s.rspHandlers.map Prod.fst).Nodup ∧
        ∀ entry ∈ s.rspHandlers, entry.1 ≠ 0 ∧
          ∃ request, s.requests[entry.2]? = some request ∧ request.msgId = entry.1) ∧
      ∀ (n : Nat) (request : Request δ), s.requests[n]? = some request →
        request.invoked.length ≤ 1 ∧
        (∀ outcome, request.isSync = false → request.stage = .returned outcome →
          outcome.code = NO_ERROR →
          (request.invoked.length = 1 ↔ ¬ Registered s n) ∧
            ∀ rspInfo ∈ request.invoked, settlement n { msgId } es = some rspInfo) ∧
        (∀ outcome, request.isSync = true → request.stage = .returned outcome → outcome ≠ .timedOut →
          outcome ≠ .sendFailed →
            ∃ rspInfo, settlement n { msgId } es = some rspInfo ∧ outcome.code = rspInfo.dealRet ∧
              (request.hasOutput = true → rspInfo.dealRet = NO_ERROR →
                request.output = some rspInfo.data)) := by
  intro s
  have inv : Invariant msgId.toNat s [] := invariant_run (invariant_start msgId few)
  have keyed := inv.keyed
  refine ⟨⟨keyed.room, keyed.distinct, fun entry member => ?_⟩, fun n request held => ?_⟩
  · obtain ⟨request, held, named⟩ := keyed.entries entry member
    refine ⟨fun zero => ?_, request, held, named⟩
    have id := keyed.ids entry.2 request held
    rw [named, zero] at id
    cases id
  have sound := inv.sound n request held
  have settled := (settled_run msgId few).told n request
  refine ⟨sound.invoked_le,
    fun outcome async returned ok => ?_, fun outcome sync returned inTime sent => ?_⟩
  · rw [sound.outcome_sent async returned ok] at returned
    obtain ⟨once, told⟩ := sound.callback async returned
    exact ⟨once, fun rspInfo member => settled rspInfo held (told rspInfo member)⟩
  · obtain ⟨rspInfo, told, code, output⟩ := sound.answer sync returned inTime sent
    exact ⟨rspInfo, settled rspInfo held told, code, output⟩

/-! ## Poles -/

/-- A callback and a wait.  The wait is answered before the sending ends, a stale response and a second
one come too late, and the callback is cleared. -/
def twoRequests : List (Turn String) :=
  [.request true false false, .work 0 true, .request true true true,
    .response 9 ⟨NO_ERROR, some "text"⟩,
    .response 7 ⟨NO_ERROR, none⟩, .work 1 true, .response 9 ⟨NO_ERROR, some "late"⟩, .wait 1, .clear]

theorem two_requests_delivered :
    let s := run step { msgId := 7 } twoRequests
    s.requests.map Request.invoked = [[abnormal], []] ∧
      s.requests.map Request.output = [none, some (some "text")] ∧
      settlement 0 { msgId := 7 } twoRequests = some abnormal ∧
      settlement 1 { msgId := 7 } twoRequests = some ⟨NO_ERROR, some "text"⟩ ∧
      s.rspHandlers.length ≤ 1000 := by
  intro s
  obtain ⟨⟨room, -⟩, -⟩ := responses_delivered 7 twoRequests (by decide)
  exact ⟨by decide, by decide, by decide, by decide, room⟩

end Imf.DataChannel
