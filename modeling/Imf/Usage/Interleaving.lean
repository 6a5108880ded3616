/-
# Imf.Usage.Interleaving -- callbacks that overlap

`OnImeBind`, `OnImeUnbind` and `OnScreenStatusChanged` change the cacher under `mutex_`
and write to the store after they have released it.  Here each callback is its prepare
step and the list of store operations it still has to make, and the steps of any number
of callbacks interleave; the store operations are atomic (`dbMutex_`).

For every bundle the outstanding operations stand in one of five phases (`Phase`): no
session, starting, open, closing, closing and starting again.  `orderly_run_clean` says
that a run whose store operations do not overtake each other within a bundle, and that
closes no session whose START row is still outstanding, leaves exactly the rows of the
current session.  Without that, a START row can be written after the settlement that
should have deleted it (`late_start_left_behind`).
-/
import Imf.Usage.Sessions

namespace Imf.Usage

set_option autoImplicit false

open DataHelper

/-! ## The system -/

/-- An operation that a callback makes on the store after its prepare step. -/
inductive StoreOp where
  | settle (stop : EventRecord) (durations : DurationMap) (startIndex : Int)
  | add (record : EventRecord)
  deriving DecidableEq

namespace StoreOp

def bundleName : StoreOp → String
  | settle stop _ _ => stop.bundleName
  | add record => record.bundleName

def isAdd (kind : EventId) : StoreOp → Bool
  | settle .. => false
  | add record => record.rawid == kind

/-- The operation on the store, with its writes successful. -/
def apply (s : DataHelper) (now : Tick) : StoreOp → DataHelper
  | settle stop durations startIndex => settleSession s stop durations startIndex now {}
  | add record => (s.addEvent record true).1

end StoreOp

@[simp] theorem StoreOp.bundleName_settle (stop : EventRecord) (durations : DurationMap)
    (startIndex : Int) : (StoreOp.settle stop durations startIndex).bundleName = stop.bundleName := rfl

@[simp] theorem StoreOp.bundleName_add (record : EventRecord) :
    (StoreOp.add record).bundleName = record.bundleName := rfl

/-- A cacher and its store, with what every callback begun so far still has to write, in
the order of their prepare steps. -/
structure Callbacks where
  cacher : EventCacher := {}
  store : DataHelper := {}
  outstanding : List (List StoreOp) := []
  deriving DecidableEq

/-- A prepare step of a new callback, or the next store operation of one begun before. -/
inductive Turn where
  | bind (bundleName : String) (hide start : Tick)
  | unbind (bundleName : String) (hide : Tick)
  | screen (preScreenStatus newScreenStatus : Int) (now : Tick)
  | store (callback : Nat) (now : Tick)
  deriving DecidableEq

/-- What `OnImeBind` does after its prepare step. -/
def ShowPrepareResult.ops (result : ShowPrepareResult) : List StoreOp :=
  (if result.hideRecord.rawid ≠ .none then
    [.settle result.hideRecord result.hideDurations result.hideStartIndex] else []) ++
  (if result.showRecord.rawid ≠ .none then [.add result.showRecord] else [])

namespace Callbacks

def bind (c : Callbacks) (bundleName : String) (hide start : Tick) : Callbacks :=
  let prepared := c.cacher.prepareShowEvent c.store bundleName hide start
  { c with cacher := prepared.2, outstanding := c.outstanding ++ [prepared.1.ops] }

def unbind (c : Callbacks) (bundleName : String) (hide : Tick) : Callbacks :=
  let prepared := c.cacher.prepareUnbind c.store bundleName hide
  let record := prepared.1.1
  { c with
    cacher := prepared.2
    outstanding := c.outstanding ++
      [if record.rawid ≠ .none then [.settle record prepared.1.2.1 prepared.1.2.2] else []] }

def screen (c : Callbacks) (preScreenStatus newScreenStatus : Int) (now : Tick) : Callbacks :=
  let prepared := c.cacher.prepareScreen preScreenStatus newScreenStatus now
  { c with
    cacher := prepared.2
    outstanding := c.outstanding ++
      [if prepared.1.rawid ≠ .none then [.add prepared.1] else []] }

/-- The next store operation of a callback; nothing when it has none left. -/
def next (c : Callbacks) (callback : Nat) (now : Tick) : Callbacks :=
  match c.outstanding[callback]? with
  | some (op :: ops) =>
      { c with store := op.apply c.store now, outstanding := c.outstanding.set callback ops }
  | _ => c

def step (c : Callbacks) : Turn → Callbacks
  | .bind bundleName hide start => c.bind bundleName hide start
  | .unbind bundleName hide => c.unbind bundleName hide
  | .screen pre new now => c.screen pre new now
  | .store callback now => c.next callback now

/-- Every callback has made all its store operations. -/
def Finished (c : Callbacks) : Prop := ∀ ops ∈ c.outstanding, ops = []

instance (c : Callbacks) : Decidable c.Finished :=
  inferInstanceAs (Decidable (∀ ops ∈ c.outstanding, _))

/-- The session that is showing has its rows, one START row and behind it STATUS_CHANGED
rows, and there are no other raw rows. -/
def Clean (c : Callbacks) : Prop :=
  (c.cacher.isKeyboardShowing = false → rawRows c.store.events = []) ∧
  (c.cacher.isKeyboardShowing = true → ∃ start statuses, rawRows c.store.events = start :: statuses ∧
    start.rawid = .inputStart ∧ (∀ row ∈ statuses, row.rawid = .inputStatusChanged) ∧
    ∀ row ∈ rawRows c.store.events, row.bundleName = c.cacher.currentImeBundle)

/-- The session of the current bundle can be closed: its START row has been written. -/
def Closable (c : Callbacks) : Prop :=
  c.store.nextId ≤ 2 ^ 31 ∧ ∀ op ∈ c.outstanding.flatten,
    op.bundleName = c.cacher.currentImeBundle → op.isAdd .inputStart = false

instance (c : Callbacks) : Decidable c.Closable :=
  inferInstanceAs (Decidable (_ ∧ ∀ op ∈ c.outstanding.flatten, _))

/-- No outstanding operation of the same bundle is overtaken, except that STATUS_CHANGED
rows may overtake each other. -/
def InTurn (c : Callbacks) (callback : Nat) : Prop :=
  ∀ op ∈ (c.outstanding[callback]?.getD []).head?, ∀ earlier ∈ (c.outstanding.take callback).flatten,
    earlier.bundleName = op.bundleName →
    earlier.isAdd .inputStatusChanged = true ∧ op.isAdd .inputStatusChanged = true

instance (c : Callbacks) (callback : Nat) : Decidable (c.InTurn callback) :=
  inferInstanceAs (Decidable (∀ op ∈ (c.outstanding[callback]?.getD []).head?, _))

end Callbacks

/-- An unbind names the bundle that is current. -/
def Turn.Current (c : Callbacks) : Turn → Prop
  | .unbind b _ => c.cacher.isKeyboardShowing = true → c.cacher.currentImeBundle = b
  | _ => True

/-- The condition on a step. -/
def Turn.Orderly (c : Callbacks) : Turn → Prop
  | .bind b _ _ =>
      c.cacher.isKeyboardShowing = true → c.cacher.currentImeBundle ≠ b → c.Closable
  | .unbind _ _ => c.cacher.isKeyboardShowing = true → c.Closable
  | .screen .. => True
  | .store callback _ => c.InTurn callback

instance (c : Callbacks) : (turn : Turn) → Decidable (turn.Orderly c)
  | .bind .. => inferInstanceAs (Decidable (_ → _ → _))
  | .unbind .. => inferInstanceAs (Decidable (_ → _))
  | .screen .. => .isTrue trivial
  | .store callback _ => inferInstanceAs (Decidable (c.InTurn callback))

/-! ## Phases of a bundle -/

def AllStatus (ops : List StoreOp) : Prop := ∀ op ∈ ops, op.isAdd .inputStatusChanged = true

/-- The raw rows of a bundle: none, or those of one session. -/
inductive Stored : Option Int → List EventRow → Prop where
  | none : Stored none []
  | session (start : EventRow) (statuses : List EventRow) (kind : start.rawid = .inputStart)
      (status : ∀ row ∈ statuses, row.rawid = .inputStatusChanged ∧ start.id ≤ row.id) :
      Stored (some start.id) (start :: statuses)

/-- The outstanding operations of a bundle behind the STATUS_CHANGED rows of the session
that the store holds, if it holds one; the flag says that the bundle is showing. -/
inductive Tail : Option Int → Bool → List StoreOp → Prop where
  | idle : Tail none false []
  | starting (start : StoreOp) (statuses : List StoreOp) (kind : start.isAdd .inputStart = true)
      (status : AllStatus statuses) : Tail none true (start :: statuses)
  | opened (id : Int) : Tail (some id) true []
  | closing (stop : EventRecord) (durations : DurationMap) (id : Int) :
      Tail (some id) false [.settle stop durations id]
  | restarting (stop : EventRecord) (durations : DurationMap) (id : Int) (start : StoreOp)
      (statuses : List StoreOp) (kind : start.isAdd .inputStart = true)
      (status : AllStatus statuses) :
      Tail (some id) true (.settle stop durations id :: start :: statuses)

/-- The rows and the outstanding operations of a bundle fit together. -/
inductive Phase (rows : List EventRow) (showing : Bool) : List StoreOp → Prop where
  | mk (id : Option Int) (statuses rest : List StoreOp) (stored : Stored id rows)
      (status : AllStatus statuses) (empty : id = none → statuses = [])
      (tail : Tail id showing rest) : Phase rows showing (statuses ++ rest)

theorem StoreOp.isAdd_ne {op : StoreOp} {kind kind' : EventId} (is : op.isAdd kind = true)
    (other : kind ≠ kind') : op.isAdd kind' = false := by
  cases op with
  | settle stop durations startIndex => rfl
  | add record =>
      simp only [StoreOp.isAdd, beq_iff_eq] at is
      simp [StoreOp.isAdd, is, other]

/-- What stands behind the STATUS_CHANGED rows does not begin with one. -/
theorem Tail.head {id : Option Int} {showing : Bool} {op : StoreOp} {rest : List StoreOp}
    (tail : Tail id showing (op :: rest)) : op.isAdd .inputStatusChanged = false := by
  cases tail with
  | starting _ _ kind _ => exact StoreOp.isAdd_ne kind (by decide)
  | closing _ _ _ => rfl
  | restarting _ _ _ _ _ _ _ => rfl

/-- An operation with only STATUS_CHANGED rows before it that is one itself stands among
those of the stored session. -/
theorem Tail.split {id : Option Int} {showing : Bool} {rest : List StoreOp}
    (tail : Tail id showing rest) {statuses before after : List StoreOp} {op : StoreOp}
    (same : statuses ++ rest = before ++ op :: after) (earlier : AllStatus before)
    (status : op.isAdd .inputStatusChanged = true) :
    ∃ middle, statuses = before ++ op :: middle ∧ after = middle ++ rest := by
  induction before generalizing statuses with
  | nil =>
      cases statuses with
      | nil =>
          rw [List.nil_append, List.nil_append] at same
          rw [same] at tail
          rw [tail.head] at status
          cases status
      | cons first statuses =>
          obtain ⟨rfl, rfl⟩ := List.cons.inj same
          exact ⟨statuses, rfl, rfl⟩
  | cons first before ih =>
      cases statuses with
      | nil =>
          rw [List.nil_append, List.cons_append] at same
          rw [same] at tail
          have := earlier first (by simp)
          rw [tail.head] at this
          cases this
      | cons first' statuses =>
          obtain ⟨rfl, rest'⟩ := List.cons.inj same
          obtain ⟨middle, rfl, rfl⟩ := ih rest' fun op member => earlier op (by simp [member])
          exact ⟨middle, rfl, rfl⟩

theorem Stored.append {id : Int} {rows : List EventRow} (stored : Stored (some id) rows)
    {row : EventRow} (kind : row.rawid = .inputStatusChanged) (young : ∀ r ∈ rows, r.id ≤ row.id) :
    Stored (some id) (rows ++ [row]) := by
  cases stored with
  | session start statuses startKind status =>
      refine .session start (statuses ++ [row]) startKind fun r member => ?_
      rcases List.mem_append.1 member with old | new
      · exact status r old
      · rw [List.mem_singleton.1 new]
        exact ⟨kind, young start (by simp)⟩

namespace Phase

variable {rows : List EventRow} {showing : Bool} {ops before after : List StoreOp} {op : StoreOp}

/-- A STATUS_CHANGED row is written. -/
theorem writeStatus (phase : Phase rows showing (before ++ op :: after)) (earlier : AllStatus before)
    (status : op.isAdd .inputStatusChanged = true) {row : EventRow}
    (kind : row.rawid = .inputStatusChanged) (young : ∀ r ∈ rows, r.id ≤ row.id) :
    Phase (rows ++ [row]) showing (before ++ after) := by
  generalize same : before ++ op :: after = ops at phase
  obtain ⟨id, statuses, rest, stored, statuses', empty, tail⟩ := phase
  obtain ⟨middle, rfl, rfl⟩ := tail.split same.symm earlier status
  cases id with
  | none => simp at empty
  | some id =>
      rw [← List.append_assoc]
      refine .mk (some id) _ rest (stored.append kind young) (fun op member => statuses' op ?_)
        (fun none => by cases none) tail
      rcases List.mem_append.1 member with member | member
      · simp [member]
      · simp [member]

/-- An operation that comes first and is no STATUS_CHANGED row. -/
theorem first (phase : Phase rows showing (op :: after))
    (other : op.isAdd .inputStatusChanged = false) :
    ∃ id, Stored id rows ∧ Tail id showing (op :: after) := by
  generalize same : op :: after = ops at phase
  obtain ⟨id, statuses, rest, stored, status, empty, tail⟩ := phase
  cases statuses with
  | nil => exact ⟨id, stored, by simpa using tail⟩
  | cons first statuses =>
      obtain ⟨rfl, -⟩ := List.cons.inj same
      have := status op (by simp)
      rw [other] at this
      cases this

/-- A START row is written: the bundle had no raw rows, and its session is open. -/
theorem writeStart (phase : Phase rows showing (op :: after)) (isStart : op.isAdd .inputStart = true)
    {row : EventRow} (kind : row.rawid = .inputStart) :
    Phase (rows ++ [row]) showing after := by
  obtain ⟨id, stored, tail⟩ := phase.first (StoreOp.isAdd_ne isStart (by decide))
  cases tail with
  | starting _ _ _ status =>
      cases stored
      have opened := Phase.mk (some row.id) after [] (.session row [] kind (by simp)) status
        (fun none => by cases none) (.opened row.id)
      rwa [List.append_nil] at opened
  | closing _ _ _ => cases isStart
  | restarting _ _ _ _ _ _ _ => cases isStart

/-- A settlement finds the session it was prepared for, and leaves no raw row. -/
theorem settle {stop : EventRecord} {durations : DurationMap} {startIndex : Int}
    (phase : Phase rows showing (.settle stop durations startIndex :: after)) :
    Stored (some startIndex) rows ∧ Phase [] showing after := by
  obtain ⟨id, stored, tail⟩ := phase.first rfl
  cases tail with
  | starting _ _ kind _ => cases kind
  | closing _ _ _ => exact ⟨stored, .mk none [] [] .none (by simp [AllStatus]) (fun _ => rfl) .idle⟩
  | restarting _ _ _ start statuses kind status =>
      exact ⟨stored, .mk none [] _ .none (by simp [AllStatus]) (fun _ => rfl)
        (.starting start statuses kind status)⟩

/-- A session whose START row is written is closed. -/
theorem close (phase : Phase rows true ops) (written : ∀ op ∈ ops, op.isAdd .inputStart = false) :
    ∃ id, Stored (some id) rows ∧
      ∀ stop durations, Phase rows false (ops ++ [.settle stop durations id]) := by
  obtain ⟨id, statuses, rest, stored, status, empty, tail⟩ := phase
  cases tail with
  | starting start _ kind _ =>
      have := written start (by simp)
      rw [kind] at this
      cases this
  | opened id =>
      refine ⟨id, stored, fun stop durations => ?_⟩
      rw [List.append_nil]
      exact .mk (some id) statuses _ stored status empty (.closing stop durations id)
  | restarting _ _ _ start _ kind _ =>
      have := written start (by simp)
      rw [kind] at this
      cases this

/-- A session is opened. -/
theorem opens (phase : Phase rows false ops) (op : StoreOp) (isStart : op.isAdd .inputStart = true) :
    Phase rows true (ops ++ [op]) := by
  obtain ⟨id, statuses, rest, stored, status, empty, tail⟩ := phase
  rw [List.append_assoc]
  cases tail with
  | idle => exact .mk none statuses _ stored status empty (.starting op [] isStart
      (by simp [AllStatus]))
  | closing stop durations id =>
      exact .mk (some id) statuses _ stored status empty
        (.restarting stop durations id op [] isStart (by simp [AllStatus]))

/-- The status of the session that is showing changes. -/
theorem turn (phase : Phase rows true ops) (op : StoreOp)
    (isStatus : op.isAdd .inputStatusChanged = true) :
    Phase rows true (ops ++ [op]) := by
  have more : ∀ {statuses : List StoreOp}, AllStatus statuses → AllStatus (statuses ++ [op]) := by
    intro statuses all op' member
    rcases List.mem_append.1 member with old | new
    · exact all op' old
    · rwa [List.mem_singleton.1 new]
  obtain ⟨id, statuses, rest, stored, status, empty, tail⟩ := phase
  cases tail with
  | starting start later kind status' =>
      rw [List.append_assoc]
      exact .mk none statuses _ stored status empty (.starting start _ kind (more status'))
  | opened id =>
      rw [List.append_nil]
      have opened := Phase.mk (some id) (statuses ++ [op]) [] stored (more status)
        (fun none => by cases none) (.opened id)
      rwa [List.append_nil] at opened
  | restarting stop durations id start later kind status' =>
      rw [List.append_assoc]
      exact .mk (some id) statuses _ stored status empty
        (.restarting stop durations id start _ kind (more status'))

/-- Nothing is outstanding. -/
theorem finished (phase : Phase rows showing []) :
    ∃ id, Stored id rows ∧ id.isSome = showing := by
  generalize same : ([] : List StoreOp) = ops at phase
  obtain ⟨id, statuses, rest, stored, status, empty, tail⟩ := phase
  obtain ⟨-, rfl⟩ := List.append_eq_nil_iff.1 same.symm
  cases tail with
  | idle => exact ⟨none, stored, rfl⟩
  | opened id => exact ⟨some id, stored, rfl⟩

end Phase

/-! ## Raw rows of a bundle -/

def rawOf (b : String) (events : List EventRow) : List EventRow :=
  (rawRows events).filter fun row => row.bundleName == b

theorem mem_rawOf {b : String} {events : List EventRow} {row : EventRow}
    (member : row ∈ rawOf b events) : row ∈ events ∧ row.bundleName = b := by
  obtain ⟨raw, bundle⟩ := List.mem_filter.1 member
  exact ⟨(List.mem_filter.1 raw).1, by simpa using bundle⟩

/-- They depend on the rows of the bundle alone. -/
theorem rawOf_congr {b : String} {events events' : List EventRow}
    (same : rowsOf b events = rowsOf b events') : rawOf b events = rawOf b events' := by
  have swap : ∀ events, rawOf b events = (rowsOf b events).filter fun row => !row.isCount := by
    intro events
    simp only [rawOf, rawRows, rowsOf, List.filter_filter, Bool.and_comm]
  rw [swap, swap, same]

theorem addEvent_other {s : DataHelper} {record : EventRecord} {b : String}
    (other : b ≠ record.bundleName) (written : Bool) :
    rowsOf b (s.addEvent record written).1.events = rowsOf b s.events := by
  unfold DataHelper.addEvent
  split
  · rfl
  · split
    · simp [rowsOf, makeRow, other.symm]
    · rfl

/-- A store operation leaves the rows of other bundles alone. -/
theorem StoreOp.apply_other (s : DataHelper) (now : Tick) {op : StoreOp} {b : String}
    (other : b ≠ op.bundleName) : rawOf b (op.apply s now).events = rawOf b s.events := by
  apply rawOf_congr
  cases op with
  | settle stop durations startIndex => exact settleSession_other s other durations startIndex now {}
  | add record => exact addEvent_other other true

theorem StoreOp.apply_wellFormed {s : DataHelper} (wf : WellFormed s) (now : Tick) (op : StoreOp) :
    WellFormed (op.apply s now) := by
  cases op with
  | settle stop durations startIndex => exact wf.settleSession _ _ _ _ _
  | add record => exact wf.addEvent _ _

theorem rawOf_addEvent {s : DataHelper} (ready : s.ready = true) {record : EventRecord}
    (raw : record.rawid ≠ .countDuration) :
    rawOf record.bundleName (s.addEvent record true).1.events =
      rawOf record.bundleName s.events ++ [makeRow s.nextId record 0] := by
  simp [rawOf, rawRows, DataHelper.addEvent, ready, EventRow.isCount, makeRow, raw]

/-- The rows of a session have ids from that of its START row on. -/
theorem Stored.young {s : DataHelper} (wf : WellFormed s) {id : Int} {rows : List EventRow}
    (stored : Stored (some id) rows) (members : ∀ row ∈ rows, row ∈ s.events) :
    0 ≤ id ∧ ∀ row ∈ rows, id ≤ row.id := by
  cases stored with
  | session start statuses kind status =>
      refine ⟨wf.nonneg start (members start (by simp)), fun row member => ?_⟩
      rcases List.mem_cons.1 member with rfl | member
      · exact le_rfl
      · exact (status row member).2

/-- A settlement deletes the raw rows of its session. -/
theorem rawOf_settleSession {s : DataHelper} (wf : WellFormed s) {stop : EventRecord} {id : Int}
    (stored : Stored (some id) (rawOf stop.bundleName s.events)) (durations : DurationMap)
    (now : Tick) :
    rawOf stop.bundleName (settleSession s stop durations id now {}).events = [] := by
  have young := stored.young wf fun row member => (mem_rawOf member).1
  have upserted := settleSession_written wf.ready stop durations id now
  rw [if_pos young.1] at upserted
  unfold rawOf
  rw [upserted.rawRows rfl, rawRows_eraseFrom, List.filter_filter, List.filter_eq_nil_iff]
  intro row raw both
  simp only [Bool.and_eq_true, beq_iff_eq, Bool.not_eq_true'] at both
  have mine : row ∈ rawOf stop.bundleName s.events := List.mem_filter.2 ⟨raw, by simp [both.1]⟩
  simp [isFrom, both.1, young.2 row mine] at both

/-- The index that closing a session reads is the id of its START row. -/
theorem getStartIndex_stored {s : DataHelper} (wf : WellFormed s) (bound : s.nextId ≤ 2 ^ 31)
    {b : String} {id : Int} (stored : Stored (some id) (rawOf b s.events)) :
    getStartIndex s b = id := by
  have wanted : ∀ row, isRow b .inputStart row = true →
      (!row.isCount && row.bundleName == b) = true := by
    intro row hit
    simp only [isRow, Bool.and_eq_true, beq_iff_eq] at hit
    simp [EventRow.isCount, hit.1, hit.2]
  have scan := Lib.findLast?_filter wanted s.events
  have same : s.events.filter (fun row => !row.isCount && row.bundleName == b) = rawOf b s.events := by
    simp only [rawOf, rawRows, List.filter_filter, Bool.and_comm]
  have members : ∀ row ∈ rawOf b s.events, row ∈ s.events ∧ row.bundleName = b :=
    fun row member => mem_rawOf member
  rw [same] at scan
  generalize rawOf b s.events = rows at stored scan members
  cases stored with
  | session start statuses kind status =>
      obtain ⟨member, bundle⟩ := members start (by simp)
      have hit : isRow b .inputStart start = true := by simp [isRow, bundle, kind]
      have misses : ∀ row ∈ statuses, isRow b .inputStart row = false := by
        intro row member
        simp [isRow, (status row member).1]
      have found := Lib.findLast?_split [] hit misses
      rw [List.nil_append, scan] at found
      have low := wf.nonneg start member
      have high := wf.below start member
      simp only [getStartIndex, queryRawEventIndex, wf.ready, Bool.true_eq_false, if_false, found]
      exact toInt32_eq (by omega) (by omega)

/-! ## The invariant -/

namespace Callbacks

/-- The outstanding operations of a bundle, in the order of their prepare steps. -/
def pipeline (c : Callbacks) (b : String) : List StoreOp :=
  c.outstanding.flatten.filter fun op => op.bundleName == b

def shows (c : Callbacks) (b : String) : Bool :=
  c.cacher.isKeyboardShowing && c.cacher.currentImeBundle == b

/-- Every bundle is in a phase. -/
structure Phased (c : Callbacks) : Prop where
  wf : WellFormed c.store
  phase : ∀ b, Phase (rawOf b c.store.events) (c.shows b) (c.pipeline b)

variable {c : Callbacks}

/-- A new callback joins at the end. -/
theorem pipeline_append (c : Callbacks) (cacher : EventCacher) (ops : List StoreOp) (b : String) :
    pipeline { c with cacher := cacher, outstanding := c.outstanding ++ [ops] } b =
      c.pipeline b ++ ops.filter fun op => op.bundleName == b := by
  simp [pipeline]

/-! ### Prepare steps -/

theorem bind_same {b : String} (showing : c.cacher.isKeyboardShowing = true)
    (same : c.cacher.currentImeBundle = b) (hide start : Tick) :
    c.bind b hide start = { c with cacher := c.cacher, outstanding := c.outstanding ++ [[]] } := by
  simp [Callbacks.bind, EventCacher.prepareShowEvent, showing, same, ShowPrepareResult.ops]

theorem bind_switch {b : String} (showing : c.cacher.isKeyboardShowing = true)
    (other : c.cacher.currentImeBundle ≠ b) (hide start : Tick) :
    ∃ durations, c.bind b hide start =
      { c with
        cacher := (c.cacher.hidden hide).opened b start
        outstanding := c.outstanding ++
          [[.settle (c.cacher.stopRecord c.cacher.currentImeBundle hide) durations
              (getStartIndex c.store c.cacher.currentImeBundle),
            .add ((c.cacher.hidden hide).startRecord b start)]] } := by
  simp [Callbacks.bind, EventCacher.prepareShowEvent, EventCacher.prepareHideRecord, showing, other,
    ShowPrepareResult.ops, closingDurations_index, EventCacher.stopRecord, EventCacher.startRecord]

theorem bind_idle (idle : c.cacher.isKeyboardShowing = false) (b : String) (hide start : Tick) :
    c.bind b hide start =
      { c with
        cacher := c.cacher.opened b start
        outstanding := c.outstanding ++ [[.add (c.cacher.startRecord b start)]] } := by
  simp [Callbacks.bind, EventCacher.prepareShowEvent, EventCacher.prepareHideRecord, idle,
    ShowPrepareResult.ops, EventCacher.startRecord]

theorem unbind_idle (idle : c.cacher.isKeyboardShowing = false) (b : String) (hide : Tick) :
    c.unbind b hide = { c with cacher := c.cacher, outstanding := c.outstanding ++ [[]] } := by
  simp [Callbacks.unbind, EventCacher.prepareUnbind, EventCacher.prepareHideRecord, idle]

theorem unbind_showing (showing : c.cacher.isKeyboardShowing = true) (b : String) (hide : Tick) :
    ∃ durations, c.unbind b hide =
      { c with
        cacher := c.cacher.hidden hide
        outstanding := c.outstanding ++
          [[.settle (c.cacher.stopRecord b hide) durations (getStartIndex c.store b)]] } := by
  simp [Callbacks.unbind, EventCacher.prepareUnbind, EventCacher.prepareHideRecord, showing,
    closingDurations_index, EventCacher.stopRecord]

theorem screen_skip {new : Int}
    (skip : c.cacher.isKeyboardShowing = false ∨ new = c.cacher.lastScreenStatus) (pre : Int)
    (now : Tick) :
    c.screen pre new now =
      { c with cacher := c.cacher.decoded new, outstanding := c.outstanding ++ [[]] } := by
  by_cases idle : c.cacher.isKeyboardShowing = false
  · simp [Callbacks.screen, EventCacher.prepareScreen, EventCacher.processScreenChangedEvent,
      EventCacher.decoded, idle]
  · have same := skip.resolve_left idle
    simp [Callbacks.screen, EventCacher.prepareScreen, EventCacher.processScreenChangedEvent,
      EventCacher.decoded, idle, same]

theorem screen_change {new : Int} (showing : c.cacher.isKeyboardShowing = true)
    (changed : new ≠ c.cacher.lastScreenStatus) (pre : Int) (now : Tick) :
    c.screen pre new now =
      { c with
        cacher := (c.cacher.decoded new).turned new now
        outstanding := c.outstanding ++ [[.add (c.cacher.statusRecord pre new now)]] } := by
  simp [Callbacks.screen, EventCacher.prepareScreen, EventCacher.processScreenChangedEvent,
    EventCacher.decoded, EventCacher.statusRecord, showing, changed]

/-- A callback that writes nothing, and leaves who is showing as it is. -/
theorem Phased.nothing (phased : c.Phased) {cacher : EventCacher}
    (showing : cacher.isKeyboardShowing = c.cacher.isKeyboardShowing)
    (current : cacher.currentImeBundle = c.cacher.currentImeBundle) :
    Phased { c with cacher := cacher, outstanding := c.outstanding ++ [[]] } := by
  refine ⟨phased.wf, fun b => ?_⟩
  rw [pipeline_append, List.filter_nil, List.append_nil]
  have same : shows { c with cacher := cacher, outstanding := c.outstanding ++ [[]] } b =
    c.shows b := by
    simp [shows, showing, current]
  rw [same]
  exact phased.phase b

/-- Closing the current session. -/
theorem Phased.close (phased : c.Phased) (showing : c.cacher.isKeyboardShowing = true)
    (closable : c.Closable) (stop : EventRecord) (durations : DurationMap) :
    Phase (rawOf c.cacher.currentImeBundle c.store.events) false
      (c.pipeline c.cacher.currentImeBundle ++
        [.settle stop durations (getStartIndex c.store c.cacher.currentImeBundle)]) := by
  have phase := phased.phase c.cacher.currentImeBundle
  have current : c.shows c.cacher.currentImeBundle = true := by simp [shows, showing]
  rw [current] at phase
  obtain ⟨id, stored, closed⟩ := phase.close fun op member => by
    obtain ⟨outstanding, bundle⟩ := List.mem_filter.1 member
    exact closable.2 op outstanding (by simpa using bundle)
  rw [getStartIndex_stored phased.wf closable.1 stored]
  exact closed stop durations

theorem Phased.bind (phased : c.Phased) {b : String} {hide start : Tick}
    (orderly : Turn.Orderly c (.bind b hide start)) : (c.bind b hide start).Phased := by
  by_cases showing : c.cacher.isKeyboardShowing = true
  · by_cases same : c.cacher.currentImeBundle = b
    · rw [bind_same showing same]
      exact phased.nothing rfl rfl
    · obtain ⟨durations, prepared⟩ := bind_switch showing same hide start
      rw [prepared]
      refine ⟨phased.wf, fun b' => ?_⟩
      rw [pipeline_append]
      by_cases old : b' = c.cacher.currentImeBundle
      · subst old
        have away : (b == c.cacher.currentImeBundle) = false := by simpa using Ne.symm same
        simpa [shows, EventCacher.opened, away] using
          phased.close showing (orderly showing same)
            (c.cacher.stopRecord c.cacher.currentImeBundle hide) durations
      · have phase := phased.phase b'
        have away : c.shows b' = false := by simp [shows, Ne.symm old]
        rw [away] at phase
        by_cases new : b' = b
        · subst new
          simpa [shows, EventCacher.opened, same] using
            phase.opens (.add ((c.cacher.hidden hide).startRecord b' start)) rfl
        · have away' : (b == b') = false := by simpa using Ne.symm new
          simpa [shows, EventCacher.opened, Ne.symm old, away'] using phase
  · have idle : c.cacher.isKeyboardShowing = false := by simpa using showing
    rw [bind_idle idle]
    refine ⟨phased.wf, fun b' => ?_⟩
    rw [pipeline_append]
    have phase := phased.phase b'
    have away : c.shows b' = false := by simp [shows, idle]
    rw [away] at phase
    by_cases new : b' = b
    · subst new
      simpa [shows, EventCacher.opened] using
        phase.opens (.add (c.cacher.startRecord b' start)) rfl
    · have away' : (b == b') = false := by simpa using Ne.symm new
      simpa [shows, EventCacher.opened, away'] using phase

theorem Phased.unbind (phased : c.Phased) {b : String} {hide : Tick}
    (current : Turn.Current c (.unbind b hide)) (orderly : Turn.Orderly c (.unbind b hide)) :
    (c.unbind b hide).Phased := by
  by_cases showing : c.cacher.isKeyboardShowing = true
  · obtain rfl := current showing
    obtain ⟨durations, prepared⟩ := unbind_showing showing c.cacher.currentImeBundle hide
    rw [prepared]
    refine ⟨phased.wf, fun b' => ?_⟩
    rw [pipeline_append]
    by_cases old : b' = c.cacher.currentImeBundle
    · subst old
      simpa [shows, EventCacher.hidden] using phased.close showing (orderly showing)
        (c.cacher.stopRecord c.cacher.currentImeBundle hide) durations
    · have phase := phased.phase b'
      have away : c.shows b' = false := by simp [shows, Ne.symm old]
      rw [away] at phase
      simpa [shows, EventCacher.hidden, Ne.symm old] using phase
  · rw [unbind_idle (by simpa using showing)]
    exact phased.nothing rfl rfl

theorem Phased.screen (phased : c.Phased) (pre new : Int) (now : Tick) :
    (c.screen pre new now).Phased := by
  by_cases skip : c.cacher.isKeyboardShowing = false ∨ new = c.cacher.lastScreenStatus
  · rw [screen_skip skip]
    exact phased.nothing rfl rfl
  · obtain ⟨showing, changed⟩ := not_or.1 skip
    have showing : c.cacher.isKeyboardShowing = true := by simpa using showing
    rw [screen_change showing changed]
    refine ⟨phased.wf, fun b => ?_⟩
    rw [pipeline_append]
    have phase := phased.phase b
    by_cases current : b = c.cacher.currentImeBundle
    · subst current
      have here : c.shows c.cacher.currentImeBundle = true := by simp [shows, showing]
      rw [here] at phase
      simpa [shows, EventCacher.turned, EventCacher.decoded, showing] using
        phase.turn (.add (c.cacher.statusRecord pre new now)) rfl
    · simpa [shows, EventCacher.turned, EventCacher.decoded, Ne.symm current] using phase

/-! ### Store steps -/

/-- The callback's next operation in the list of all that is outstanding. -/
theorem outstanding_split {callback : Nat} {op : StoreOp} {ops : List StoreOp}
    (here : c.outstanding[callback]? = some (op :: ops)) :
    ∃ after, c.outstanding.flatten = (c.outstanding.take callback).flatten ++ op :: after ∧
      (c.outstanding.set callback ops).flatten =
        (c.outstanding.take callback).flatten ++ after := by
  obtain ⟨lt, here⟩ := List.getElem?_eq_some_iff.1 here
  have cut : ∀ l, c.outstanding.set callback l =
      c.outstanding.take callback ++ l :: c.outstanding.drop (callback + 1) := fun l => by
    rw [List.set_eq_take_append_cons_drop, if_pos lt]
  have whole := cut (op :: ops)
  rw [← here, List.set_getElem_self lt, here] at whole
  refine ⟨ops ++ (c.outstanding.drop (callback + 1)).flatten, ?_, ?_⟩
  · conv => lhs; rw [whole]
    simp
  · rw [cut]
    simp

/-- The operation is applied to the store of its bundle. -/
theorem Phased.apply {s : DataHelper} (wf : WellFormed s) {op : StoreOp} {showing : Bool}
    {before after : List StoreOp}
    (phase : Phase (rawOf op.bundleName s.events) showing (before ++ op :: after))
    (inTurn : ∀ earlier ∈ before, earlier.isAdd .inputStatusChanged = true ∧
      op.isAdd .inputStatusChanged = true)
    (now : Tick) : Phase (rawOf op.bundleName (op.apply s now).events) showing (before ++ after) := by
  by_cases status : op.isAdd .inputStatusChanged = true
  · cases op with
    | settle stop durations startIndex => cases status
    | add record =>
        have kind : record.rawid = .inputStatusChanged := by simpa [StoreOp.isAdd] using status
        show Phase (rawOf record.bundleName (s.addEvent record true).1.events) showing _
        rw [rawOf_addEvent wf.ready (by simp [kind])]
        exact phase.writeStatus (fun op member => (inTurn op member).1) status kind
          fun row member => (wf.below row (mem_rawOf member).1).le
  · obtain rfl : before = [] := by
      cases before with
      | nil => rfl
      | cons first _ => exact absurd (inTurn first (by simp)).2 status
    cases op with
    | settle stop durations startIndex =>
        obtain ⟨stored, settled⟩ := phase.settle
        show Phase (rawOf stop.bundleName (settleSession s stop durations startIndex now {}).events)
          showing _
        rw [rawOf_settleSession wf stored]
        exact settled
    | add record =>
        have isStart : (StoreOp.add record).isAdd .inputStart = true := by
          obtain ⟨id, -, tail⟩ := phase.first (by simpa using status)
          cases tail with
          | starting _ _ kind _ => exact kind
        have kind : record.rawid = .inputStart := by simpa [StoreOp.isAdd] using isStart
        show Phase (rawOf record.bundleName (s.addEvent record true).1.events) showing _
        rw [rawOf_addEvent wf.ready (by simp [kind])]
        exact phase.writeStart isStart kind

theorem Phased.next (phased : c.Phased) {callback : Nat} (inTurn : c.InTurn callback) (now : Tick) :
    (c.next callback now).Phased := by
  unfold Callbacks.next
  split
  · rename_i op ops here
    obtain ⟨after, whole, rest⟩ := outstanding_split here
    refine ⟨op.apply_wellFormed phased.wf now, fun b => ?_⟩
    have phase := phased.phase b
    show Phase (rawOf b (op.apply c.store now).events) (c.shows b)
      ((c.outstanding.set callback ops).flatten.filter fun op => op.bundleName == b)
    rw [pipeline, whole, List.filter_append] at phase
    rw [rest, List.filter_append]
    by_cases own : b = op.bundleName
    · subst own
      rw [List.filter_cons_of_pos (by simp)] at phase
      refine Phased.apply phased.wf phase (fun earlier member => ?_) now
      obtain ⟨outstanding, bundle⟩ := List.mem_filter.1 member
      exact inTurn op (by simp [here]) earlier outstanding (by simpa using bundle)
    · rw [List.filter_cons_of_neg (by simpa using Ne.symm own)] at phase
      rw [StoreOp.apply_other c.store now own]
      exact phase
  · exact phased

/-! ### Runs -/

theorem Phased.step (phased : c.Phased) {turn : Turn} (current : turn.Current c)
    (orderly : turn.Orderly c) : (c.step turn).Phased := by
  cases turn with
  | bind b hide start => exact phased.bind orderly
  | unbind b hide => exact phased.unbind current orderly
  | screen pre new now => exact phased.screen pre new now
  | store callback now => exact phased.next orderly now

/-- When nothing is outstanding, the phases say what the store holds. -/
theorem Phased.clean (phased : c.Phased) (finished : c.Finished) : c.Clean := by
  have empty : c.outstanding.flatten = [] := List.flatten_eq_nil_iff.2 finished
  have held : ∀ b, ∃ id, Stored id (rawOf b c.store.events) ∧ id.isSome = c.shows b := by
    intro b
    have phase := phased.phase b
    rw [pipeline, empty, List.filter_nil] at phase
    exact phase.finished
  have others : ∀ row ∈ rawRows c.store.events, c.shows row.bundleName = true := by
    intro row member
    obtain ⟨id, stored, is⟩ := held row.bundleName
    have mine : row ∈ rawOf row.bundleName c.store.events := List.mem_filter.2 ⟨member, by simp⟩
    rw [← is]
    generalize rawOf row.bundleName c.store.events = rows at stored mine
    cases stored with
    | none => cases mine
    | session => rfl
  constructor
  · intro idle
    rw [List.eq_nil_iff_forall_not_mem]
    intro row member
    have := others row member
    simp [shows, idle] at this
  · intro showing
    have mine : ∀ row ∈ rawRows c.store.events, row.bundleName = c.cacher.currentImeBundle := by
      intro row member
      have := others row member
      simp only [shows, showing, Bool.true_and, beq_iff_eq] at this
      exact this.symm
    have all : rawOf c.cacher.currentImeBundle c.store.events = rawRows c.store.events :=
      List.filter_eq_self.2 fun row member => by simpa using mine row member
    obtain ⟨id, stored, is⟩ := held c.cacher.currentImeBundle
    rw [all] at stored
    generalize rawRows c.store.events = rows at stored mine
    cases stored with
    | none => simp [shows, showing] at is
    | session start statuses kind status =>
        exact ⟨start, statuses, rfl, kind, fun row member => (status row member).1, mine⟩

end Callbacks

/-- **Only the rows of the current session are left.**  From a recorder with no open session
and no raw rows, along every orderly interleaving of callbacks whose unbinds name the
current bundle, whenever all callbacks have finished. -/
theorem orderly_run_clean {c : Callbacks} (wf : WellFormed c.store)
    (idle : c.cacher.isKeyboardShowing = false) (raw : rawRows c.store.events = [])
    (none : c.outstanding = []) (turns : List Turn)
    (current : Lib.Meets Callbacks.step (fun c turn => turn.Current c) c turns)
    (orderly : Lib.Meets Callbacks.step (fun c turn => turn.Orderly c) c turns)
    (finished : (Lib.run Callbacks.step c turns).Finished) :
    (Lib.run Callbacks.step c turns).Clean := by
  have start : c.Phased := by
    refine ⟨wf, fun b => ?_⟩
    have empty : rawOf b c.store.events = [] := by simp [rawOf, raw]
    have away : c.shows b = false := by simp [Callbacks.shows, idle]
    rw [empty, away, Callbacks.pipeline, none]
    exact .mk .none [] [] .none (by simp [AllStatus]) (fun _ => rfl) .idle
  have reached : (Lib.run Callbacks.step c turns).Phased := by
    clear finished none idle raw wf
    induction turns generalizing c with
    | nil => exact start
    | cons turn turns ih => exact ih current.2 orderly.2 (start.step current.1 orderly.1)
  exact reached.clean finished

/-! ## Poles -/

/-- A recorder right after `Init`, with no callback begun. -/
def Callbacks.fresh : Callbacks := { cacher := .init 1 2 }

/-- A bind and the unbind that follows it, each prepared before the other has written. -/
def lateStart : List Turn :=
  [.bind "a" (.at 0) (.at 0), .unbind "a" (.at 100), .store 1 (.at 100), .store 0 (.at 101)]

/-- The unbind does not find the START row, which is written after it and stays. -/
theorem late_start_left_behind :
    let c := Lib.run Callbacks.step .fresh lateStart
    Lib.Meets Callbacks.step (fun c turn => turn.Current c) .fresh lateStart ∧ c.Finished ∧
      c.cacher.isKeyboardShowing = false ∧ (rawRows c.store.events).map EventRow.rawid = [.inputStart] ∧
      ¬ c.Clean := by
  refine ⟨⟨trivial, fun _ => by decide +kernel, trivial, trivial, trivial⟩, by decide +kernel,
    by decide +kernel, by decide +kernel, fun clean => ?_⟩
  have := clean.1 (by decide +kernel)
  revert this
  decide +kernel

/-- The START row is written before the unbind; a rotation is written after the next bind was
prepared. -/
theorem overlapping_callbacks_clean :
    (Lib.run Callbacks.step .fresh
      [.bind "a" (.at 0) (.at 0), .store 0 (.at 1), .screen 12 11 (.at 50), .unbind "a" (.at 100),
       .bind "a" (.at 110) (.at 110), .store 1 (.at 111), .store 2 (.at 112),
         .store 3 (.at 113)]).Clean :=
  orderly_run_clean Recorder.fresh_wellFormed rfl rfl rfl _
    ⟨trivial, trivial, trivial, fun _ => by decide +kernel, trivial, trivial, trivial, trivial, trivial⟩
    (by decide +kernel) (by decide +kernel)

end Imf.Usage
