/-
# Imf.Session.SwitchQueue -- switches, one after another

Every request to switch the input method pushes its `SwitchInfo` to the switch queue of the user's
session, asks whether it is at the front or waits for that, switches, and pops.  The queue compares
by value and removes whatever is at its front.  A push that finds no room is refused and a wait ends
after a time, and the requests go on in both cases as if nothing had happened.

`switches_serialised` says that the switches run one at a time, in order and each with its own
element, as long as every push finds room, no wait times out, and no request takes an equal
`SwitchInfo` of another one for its own (`Heeds`).
-/
import Imf.Lib.Run

namespace Imf.SwitchQueue

set_option autoImplicit false

open Lib (Meets run run_keeps)

/-! ## The queue -/

def MAX_QUEUE_SIZE : Nat := 1000

structure BlockQueue (α : Type) where
  queues : List α := []
  maxQueueSize : Nat := MAX_QUEUE_SIZE
  deriving DecidableEq

namespace BlockQueue

variable {α : Type} (q : BlockQueue α)

def pop : BlockQueue α := { q with queues := q.queues.tail }

def push (data : α) : Bool × BlockQueue α :=
  if q.maxQueueSize ≤ q.queues.length then (false, q)
  else (true, { q with queues := q.queues ++ [data] })

/-- `IsReady`, which is also the condition of `Wait`.  On an empty queue there is no `front()` to
compare with, and the outcome is undefined. -/
def isReady (same : α → Bool) : Option Bool := q.queues.head?.map same

end BlockQueue

structure SwitchInfo where
  timestamp : Int
  bundleName : String
  subName : String
  isTmpImeSwitchSubtype : Bool := false
  deriving DecidableEq, Repr

/-- `operator==`. -/
def SwitchInfo.same (info other : SwitchInfo) : Bool :=
  info.timestamp = other.timestamp && info.bundleName = other.bundleName && info.subName = other.subName

/-! ## The requests -/

/-- What a request does next: `IsReady`, the end of `Wait`, or `Pop` once it has switched. -/
inductive Stage where
  | asking
  | waiting
  | switching
  | returned
  deriving DecidableEq, Repr

/-- `accepted` is what `Push` has returned, and nobody looks at it. -/
structure Request where
  info : SwitchInfo
  accepted : Bool
  stage : Stage
  deriving DecidableEq, Repr

/-- The requests in the order of their `Push`, and the queue with the number of the request that each
element is of.  Then what has happened: whether every `front()` was there, the requests that were
accepted and those of them that have begun to switch, and who has popped whose element. -/
structure State where
  queue : BlockQueue (SwitchInfo × Nat) := {}
  requests : List Request := []
  defined : Bool := true
  pushed : List Nat := []
  started : List Nat := []
  popped : List (Nat × Option Nat) := []
  deriving DecidableEq

inductive Turn where
  | push (info : SwitchInfo)
  | isReady (k : Nat)
  /-- The condition of `Wait` is evaluated, and ends it if it is met. -/
  | wake (k : Nat)
  /-- The time of `Wait` is up. -/
  | timeout (k : Nat)
  | pop (k : Nat)
  deriving DecidableEq

namespace State

variable (s : State)

def enter (k : Nat) (stage : Stage) : State :=
  { s with requests := s.requests.modify k fun request => { request with stage } }

def push (info : SwitchInfo) : State :=
  let number := s.requests.length
  let (accepted, queue) := s.queue.push (info, number)
  { s with
    queue
    requests := s.requests ++ [⟨info, accepted, .asking⟩]
    pushed := if accepted then s.pushed ++ [number] else s.pushed }

/-- Request `k` begins to switch. -/
def start (k : Nat) (request : Request) : State :=
  { s.enter k .switching with started := if request.accepted then s.started ++ [k] else s.started }

/-- `front()` is compared with the element of the request; `otherwise` is what comes of a different
one. -/
def compare (k : Nat) (request : Request) (otherwise : State) : State :=
  match s.queue.isReady fun entry => request.info.same entry.1 with
  | none => { s with defined := false }
  | some true => s.start k request
  | some false => otherwise

def pop (k : Nat) : State :=
  { s.enter k .returned with
    queue := s.queue.pop
    popped := s.popped ++ [(k, s.queue.queues.head?.map Prod.snd)] }

end State

/-- Request `k` does what it does next; a turn of a request that is not at that stage does nothing. -/
def State.takes (s : State) (k : Nat) (stage : Stage) (act : Request → State) : State :=
  match s.requests[k]? with
  | some request => if request.stage = stage then act request else s
  | none => s

/-- Nothing is known after a `front()` of an empty queue, and nothing goes on. -/
def step (s : State) (turn : Turn) : State :=
  if s.defined = false then s
  else
    match turn with
    | .push info => s.push info
    | .isReady k => s.takes k .asking fun request => s.compare k request (s.enter k .waiting)
    | .wake k => s.takes k .waiting fun request => s.compare k request s
    | .timeout k => s.takes k .waiting fun request => s.compare k request (s.start k request)
    | .pop k => s.takes k .switching fun _ => s.pop k

/-! ## What is to hold, and when it does -/

structure Serialised (s : State) : Prop where
  defined : s.defined = true
  alone : ∀ (i j : Nat) (first second : Request),
    s.requests[i]? = some first → s.requests[j]? = some second →
    first.stage = .switching → second.stage = .switching → i = j
  ordered : s.started <+: s.pushed
  own : ∀ pop ∈ s.popped, pop.2 = some pop.1

/-- The front of the queue is the element of request `k`, or is not equal to it. -/
def Tells (s : State) (k : Nat) : Prop :=
  ∀ request ∈ s.requests[k]?,
    ∀ entry ∈ s.queue.queues.head?, request.info.same entry.1 = true → entry.2 = k

/-- The front of the queue is the element of request `k`. -/
def Leads (s : State) (k : Nat) : Prop :=
  ∀ request ∈ s.requests[k]?, request.stage = .waiting → ∀ entry ∈ s.queue.queues.head?, entry.2 = k

def Heeds (s : State) : Turn → Prop
  | .push _ => s.queue.queues.length < s.queue.maxQueueSize
  | .isReady k | .wake k => Tells s k
  | .timeout k => Leads s k
  | .pop _ => True

instance decidableHeeds (s : State) : ∀ turn, Decidable (Heeds s turn)
  | .push _ => inferInstanceAs (Decidable (_ < _))
  | .isReady k | .wake k =>
      inferInstanceAs (Decidable
        (∀ request ∈ s.requests[k]?, ∀ entry ∈ s.queue.queues.head?, _ = true → entry.2 = k))
  | .timeout k =>
      inferInstanceAs (Decidable
        (∀ request ∈ s.requests[k]?, _ = _ → ∀ entry ∈ s.queue.queues.head?, entry.2 = k))
  | .pop _ => inferInstanceAs (Decidable True)

/-! ## The line -/

/-- The requests stand in line: those before the first `done` have returned, the next one may switch,
and the queue holds the elements of all that are left, in order. -/
structure Lined (s : State) (done : Nat) : Prop where
  defined : s.defined = true
  entries : ∀ i, s.queue.queues[i]? = (s.requests[done + i]?).map fun request =>
    (request.info, done + i)
  length : done + s.queue.queues.length = s.requests.length
  accepted : ∀ (i : Nat) (request : Request), s.requests[i]? = some request → request.accepted = true
  returned : ∀ (i : Nat) (request : Request),
    s.requests[i]? = some request → (request.stage = .returned ↔ i < done)
  switching : ∀ (i : Nat) (request : Request),
    s.requests[i]? = some request → request.stage = .switching → i = done
  pushed : s.pushed = List.range s.requests.length
  started : ∃ begun, s.started = List.range begun ∧ begun ≤ s.requests.length ∧
    (begun = done ∨ begun = done + 1) ∧
    ∀ request, s.requests[done]? = some request → (request.stage = .switching ↔ begun = done + 1)
  popped : ∀ pop ∈ s.popped, pop.2 = some pop.1

section Line

variable {s : State} {done k : Nat} {request : Request}

theorem Lined.serialised (lined : Lined s done) : Serialised s where
  defined := lined.defined
  alone i j first second one other switches also := by
    rw [lined.switching i first one switches, lined.switching j second other also]
  ordered := by
    obtain ⟨begun, started, within, -⟩ := lined.started
    rw [started, lined.pushed]
    exact List.prefix_iff_eq_take.2 (by rw [List.length_range, List.take_range, Nat.min_eq_left within])
  own := lined.popped

/-- The front of the queue is the element of the first request that has not returned. -/
theorem Lined.front (lined : Lined s done) :
    s.queue.queues.head? = (s.requests[done]?).map fun request => (request.info, done) := by
  rw [List.head?_eq_getElem?, lined.entries 0]
  rfl

/-- A request that has not returned finds a front. -/
theorem Lined.exists_front (lined : Lined s done) (held : s.requests[k]? = some request)
    (here : request.stage ≠ .returned) :
    ∃ first, s.requests[done]? = some first ∧ s.queue.queues.head? = some (first.info, done) := by
  have behind : done ≤ k := Nat.le_of_not_lt fun before =>
    here ((lined.returned k request held).2 before)
  have inside : k < s.requests.length := (List.getElem?_eq_some_iff.1 held).1
  obtain ⟨first, there⟩ : ∃ first, s.requests[done]? = some first :=
    ⟨_, List.getElem?_eq_getElem (Nat.lt_of_le_of_lt behind inside)⟩
  refine ⟨first, there, ?_⟩
  rw [lined.front, there]
  rfl

theorem getElem?_enter (s : State) (k i : Nat) (stage : Stage) :
    (s.enter k stage).requests[i]? =
      (s.requests[i]?).map fun request => if k = i then { request with stage } else request := by
  simp only [State.enter, List.getElem?_modify]
  split <;> rfl

theorem length_enter (s : State) (k : Nat) (stage : Stage) :
    (s.enter k stage).requests.length = s.requests.length := List.length_modify ..

/-- What a request is after one of them has gone on. -/
theorem held_enter {stage : Stage} {i : Nat} (held : (s.enter k stage).requests[i]? = some request) :
    ∃ before, s.requests[i]? = some before ∧
      request = if k = i then { before with stage } else before := by
  rw [getElem?_enter] at held
  obtain ⟨before, there, same⟩ := Option.map_eq_some_iff.1 held
  exact ⟨before, there, same.symm⟩

/-- The queue knows nothing of the stages. -/
theorem entries_enter (s : State) (k i : Nat) (stage : Stage) :
    ((s.enter k stage).requests[i]?).map (fun request => (request.info, i)) =
      (s.requests[i]?).map fun request => (request.info, i) := by
  rw [getElem?_enter, Option.map_map]
  congr 1
  funext request
  show ((if k = i then { request with stage } else request).info, i) = _
  split <;> rfl

theorem push_eq (room : s.queue.queues.length < s.queue.maxQueueSize) (info : SwitchInfo) :
    s.push info =
      { s with
        queue := { s.queue with queues := s.queue.queues ++ [(info, s.requests.length)] }
        requests := s.requests ++ [⟨info, true, .asking⟩]
        pushed := s.pushed ++ [s.requests.length] } := by
  unfold State.push BlockQueue.push
  dsimp only
  rw [if_neg (Nat.not_le.2 room)]
  rfl

/-- A request after a push is one from before, or the new one. -/
theorem held_append {requests : List Request} {new : Request} {i : Nat}
    (held : (requests ++ [new])[i]? = some request) :
    requests[i]? = some request ∨ i = requests.length ∧ request = new := by
  rcases Nat.lt_or_ge i requests.length with inside | outside
  · rw [List.getElem?_append_left inside] at held
    exact .inl held
  · rw [List.getElem?_append_right outside, List.getElem?_singleton] at held
    split at held
    · cases held
      exact .inr ⟨by omega, rfl⟩
    · cases held

theorem Lined.push (lined : Lined s done) (room : s.queue.queues.length < s.queue.maxQueueSize)
    (info : SwitchInfo) :
    Lined (s.push info) done := by
  have length := lined.length
  rw [push_eq room]
  refine ⟨lined.defined, fun i => ?_, ?_, fun i request held => ?_, fun i request held => ?_,
    fun i request held switches => ?_, ?_, ?_, lined.popped⟩
  · show (s.queue.queues ++ [(info, s.requests.length)])[i]? =
      ((s.requests ++ [⟨info, true, .asking⟩])[done + i]?).map fun request => (request.info, done + i)
    rcases Nat.lt_or_ge i s.queue.queues.length with inside | outside
    · rw [List.getElem?_append_left inside, List.getElem?_append_left (by omega)]
      exact lined.entries i
    · rw [List.getElem?_append_right outside, List.getElem?_append_right (by omega),
        List.getElem?_singleton, List.getElem?_singleton]
      by_cases last : i = s.queue.queues.length
      · rw [if_pos (by omega), if_pos (by omega), last, length]
        rfl
      · rw [if_neg (by omega), if_neg (by omega)]
        rfl
  · simp only [List.length_append, List.length_singleton]
    omega
  · rcases held_append held with before | ⟨-, rfl⟩
    · exact lined.accepted i request before
    · rfl
  · rcases held_append held with before | ⟨last, rfl⟩
    · exact lined.returned i request before
    · refine iff_of_false nofun ?_
      omega
  · rcases held_append held with before | ⟨-, rfl⟩
    · exact lined.switching i request before switches
    · cases switches
  · show s.pushed ++ [s.requests.length] = List.range (s.requests ++ [_]).length
    rw [lined.pushed, List.length_append, List.length_singleton, List.range_succ]
  · obtain ⟨begun, started, within, which, first⟩ := lined.started
    refine ⟨begun, started, ?_, which, fun request held => ?_⟩
    · show begun ≤ (s.requests ++ [_]).length
      rw [List.length_append]
      omega
    · rcases held_append held with before | ⟨last, rfl⟩
      · exact first request before
      · refine iff_of_false nofun ?_
        omega

/-- Request `k` goes on to another stage, and the line with it. -/
theorem Lined.enter (lined : Lined s done) {stage : Stage} {after : Nat}
    {queue : BlockQueue (SwitchInfo × Nat)} {started : List Nat} {popped : List (Nat × Option Nat)}
    (entries : ∀ i, queue.queues[i]? = (s.requests[after + i]?).map fun request =>
      (request.info, after + i))
    (length : after + queue.queues.length = s.requests.length)
    (returned : stage = .returned ↔ k < after) (others : ∀ i, k ≠ i → (i < done ↔ i < after))
    (switching : stage = .switching → k = after) (next : ∀ i, k ≠ i → i = done → i = after)
    (begun : ∃ begun, started = List.range begun ∧ begun ≤ s.requests.length ∧
      (begun = after ∨ begun = after + 1) ∧
      ∀ request, (s.enter k stage).requests[after]? = some request →
        (request.stage = .switching ↔ begun = after + 1))
    (own : ∀ pop ∈ popped, pop.2 = some pop.1) :
    Lined { s.enter k stage with queue, started, popped } after := by
  refine ⟨lined.defined, fun i => ?_, ?_, fun i request held => ?_, fun i request held => ?_,
    fun i request held switches => ?_, ?_, ?_, own⟩
  · exact (entries i).trans (entries_enter s k (after + i) stage).symm
  · exact length.trans (length_enter s k stage).symm
  · obtain ⟨before, was, rfl⟩ := held_enter held
    have accepted := lined.accepted i before was
    split <;> exact accepted
  · obtain ⟨before, was, rfl⟩ := held_enter held
    split
    · rename_i same
      subst same
      exact returned
    · rename_i differs
      exact (lined.returned i before was).trans (others i differs)
  · obtain ⟨before, was, rfl⟩ := held_enter held
    split at switches
    · rename_i same
      subst same
      exact switching switches
    · rename_i differs
      exact next i differs (lined.switching i before was switches)
  · exact lined.pushed.trans (congrArg List.range (length_enter s k stage).symm)
  · obtain ⟨begun, same, within, rest⟩ := begun
    refine ⟨begun, same, ?_, rest⟩
    exact Nat.le_trans within (Nat.le_of_eq (length_enter s k stage).symm)

/-- It waits. -/
theorem Lined.wait (lined : Lined s done) (held : s.requests[k]? = some request)
    (asks : request.stage = .asking) :
    Lined (s.enter k .waiting) done := by
  have behind : ¬ k < done := by
    rw [← lined.returned k request held, asks]
    exact nofun
  refine lined.enter lined.entries lined.length (iff_of_false nofun behind) (fun _ _ => Iff.rfl) nofun
    (fun _ _ same => same) ?_ lined.popped
  obtain ⟨begun, started, within, which, first⟩ := lined.started
  refine ⟨begun, started, within, which, fun after there => ?_⟩
  obtain ⟨before, was, rfl⟩ := held_enter there
  rw [← first before was]
  split
  · rename_i same
    subst same
    rw [held] at was
    cases was
    rw [asks]
    exact iff_of_false nofun nofun
  · exact Iff.rfl

/-- The first one begins to switch. -/
theorem Lined.start (lined : Lined s done) (held : s.requests[done]? = some request)
    (idle : request.stage ≠ .switching) : Lined (s.start done request) done := by
  unfold State.start
  rw [lined.accepted done request held]
  refine lined.enter lined.entries lined.length (iff_of_false nofun (Nat.lt_irrefl _))
    (fun _ _ => Iff.rfl)
    (fun _ => rfl) (fun _ _ same => same) ?_ lined.popped
  obtain ⟨begun, started, -, which, first⟩ := lined.started
  have inside : done < s.requests.length := (List.getElem?_eq_some_iff.1 held).1
  have notYet : begun = done := which.resolve_right fun more => idle ((first request held).2 more)
  refine ⟨done + 1, ?_, inside, .inr rfl, fun after there => ?_⟩
  · show s.started ++ [done] = _
    rw [started, notYet, List.range_succ]
  · obtain ⟨before, was, rfl⟩ := held_enter there
    exact iff_of_true (by rw [if_pos rfl]) rfl

/-- It pops, and the next one is the first. -/
theorem Lined.pop (lined : Lined s done) (held : s.requests[done]? = some request)
    (switches : request.stage = .switching) : Lined (s.pop done) (done + 1) := by
  have inside : done < s.requests.length := (List.getElem?_eq_some_iff.1 held).1
  have length := lined.length
  unfold State.pop
  refine lined.enter (fun i => ?_) ?_ (iff_of_true rfl (Nat.lt_succ_self _)) (fun i differs => ?_) nofun
    (fun i differs same => absurd same.symm differs) ?_ (fun pop member => ?_)
  · show s.queue.queues.tail[i]? = _
    rw [List.getElem?_tail, lined.entries (i + 1), Nat.add_right_comm, Nat.add_assoc]
  · show done + 1 + s.queue.queues.tail.length = _
    rw [List.length_tail]
    omega
  · omega
  · obtain ⟨begun, started, within, which, first⟩ := lined.started
    have more : begun = done + 1 := (first request held).1 switches
    refine ⟨begun, started, within, .inl more, fun after there => ?_⟩
    obtain ⟨before, was, rfl⟩ := held_enter there
    rw [if_neg (Nat.ne_of_lt (Nat.lt_succ_self done))]
    refine iff_of_false (fun also => ?_) (by omega)
    have := lined.switching (done + 1) before was also
    omega
  · rcases List.mem_append.1 member with earlier | last
    · exact lined.popped pop earlier
    · rw [List.mem_singleton.1 last, lined.front, held]
      rfl

/-! ## Steps and runs -/

theorem same_refl (info : SwitchInfo) : info.same info = true := by simp [SwitchInfo.same]

/-- A comparison: the request finds the first element, and switches if it is its own. -/
theorem Lined.compare (lined : Lined s done) (held : s.requests[k]? = some request)
    (idle : request.stage = .asking ∨ request.stage = .waiting) (tells : Tells s k) {otherwise : State}
    (different : k ≠ done → Lined otherwise done) : Lined (s.compare k request otherwise) done := by
  have here : request.stage ≠ .returned := by
    rcases idle with stage | stage <;> rw [stage] <;> exact nofun
  have quiet : request.stage ≠ .switching := by
    rcases idle with stage | stage <;> rw [stage] <;> exact nofun
  obtain ⟨first, there, front⟩ := lined.exists_front held here
  unfold State.compare BlockQueue.isReady
  rw [front, Option.map_some]
  cases same : request.info.same first.info with
  | true =>
      have own : done = k := tells request held (first.info, done) front same
      subst own
      exact lined.start held quiet
  | false =>
      refine different fun own => ?_
      subst own
      rw [held] at there
      cases there
      rw [same_refl] at same
      cases same

theorem takes_induction {P : State → Prop} {stage : Stage} {act : Request → State} (stays : P s)
    (acts : ∀ request, s.requests[k]? = some request → request.stage = stage → P (act request)) :
    P (s.takes k stage act) := by
  unfold State.takes
  split
  · rename_i request held
    split
    · rename_i there
      exact acts request held there
    · exact stays
  · exact stays

theorem step_lined (lined : Lined s done) (turn : Turn) (heeds : Heeds s turn) :
    ∃ done, Lined (step s turn) done := by
  unfold step
  rw [if_neg (by rw [lined.defined]; exact nofun)]
  cases turn with
  | push info => exact ⟨done, lined.push heeds info⟩
  | isReady k =>
      refine ⟨done, takes_induction (P := fun s => Lined s done) lined fun request held asks => ?_⟩
      exact lined.compare held (.inl asks) heeds fun _ => lined.wait held asks
  | wake k =>
      refine ⟨done, takes_induction (P := fun s => Lined s done) lined fun request held waits => ?_⟩
      exact lined.compare held (.inr waits) heeds fun _ => lined
  | timeout k =>
      refine ⟨done, takes_induction (P := fun s => Lined s done) lined fun request held waits => ?_⟩
      have leads : ∀ entry ∈ s.queue.queues.head?, entry.2 = k := heeds request held waits
      obtain ⟨first, -, front⟩ := lined.exists_front held (by rw [waits]; exact nofun)
      refine lined.compare held (.inr waits) (fun _ _ entry found _ => leads entry found)
        fun differs => ?_
      exact absurd (leads _ front).symm differs
  | pop k =>
      refine takes_induction (P := fun s => ∃ done, Lined s done) ⟨done, lined⟩
        fun request held switches => ?_
      have first : k = done := lined.switching k request held switches
      subst first
      exact ⟨k + 1, lined.pop held switches⟩

end Line

theorem lined_start : Lined {} 0 where
  defined := rfl
  entries _ := rfl
  length := rfl
  accepted _ _ held := by cases held
  returned _ _ held := by cases held
  switching _ _ held := by cases held
  pushed := rfl
  started := ⟨0, rfl, Nat.le_refl _, .inl rfl, fun _ held => by cases held⟩
  popped _ member := by cases member

/-- **In every run in which pushes find room, no wait times out and no request takes an equal element of
another one for its own, no `front()` is missing, one request switches at a time, the accepted ones
switch in the order of their pushes, and each pops its own element.** -/
theorem switches_serialised (turns : List Turn) (heeds : Meets step Heeds {} turns) :
    Serialised (run step {} turns) := by
  have lined : ∃ done, Lined (run step {} turns) done :=
    run_keeps (P := fun s => ∃ done, Lined s done)
      (fun _ turn ⟨_, lined⟩ heeds => step_lined lined turn heeds)
      ⟨0, lined_start⟩ heeds
  obtain ⟨done, lined⟩ := lined
  exact lined.serialised

/-! ## Poles -/

def first : SwitchInfo := ⟨1, "com.example.one", "", false⟩

def second : SwitchInfo := ⟨2, "com.example.two", "", false⟩

/-- The second request waits for the first one. -/
def inTurn : List Turn :=
  [.push first, .isReady 0, .push second, .isReady 1, .wake 1, .pop 0, .wake 1, .pop 1]

theorem in_turn_serialised :
    (run step {} inTurn).popped = [(0, some 0), (1, some 1)] ∧ Serialised (run step {} inTurn) :=
  ⟨by decide, switches_serialised inTurn (by decide)⟩

/-- The wait of the second request times out: it switches beside the first one, and pops the element
of the first one. -/
theorem timed_out_beside :
    ¬ Serialised (run step {} [.push first, .isReady 0, .push second, .isReady 1, .timeout 1]) ∧
      (run step {} [.push first, .isReady 0, .push second, .isReady 1, .timeout 1, .pop 1]).popped =
        [(1, some 0)] := by
  refine ⟨fun serialised => ?_, by decide⟩
  exact absurd (serialised.alone 0 1 _ _ rfl rfl rfl rfl) (by decide)

/-- Two requests with equal elements are both ready. -/
example : ¬ Serialised (run step {} [.push first, .isReady 0, .push first, .isReady 1]) := by
  intro serialised
  exact absurd (serialised.alone 0 1 _ _ rfl rfl rfl rfl) (by decide)

end Imf.SwitchQueue
