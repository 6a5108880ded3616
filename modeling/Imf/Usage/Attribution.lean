/-
# Imf.Usage.Attribution -- whose time is booked

`Shown` is the abstract account: which IME was bound last and not yet unbound, since
when, and how long every IME has been in that place before.  `time_attributed` says that
the recorder refines it on every run whose unbinds name the IME that is showing: what is
booked for a bundle plus its open session is its abstract time.  `PrepareHideRecord` does
not compare the name it is given, so an unbind of another bundle closes the current
session and books it to that bundle (`unbind_books_to_named`).
-/
import Imf.Usage.Sessions

namespace Imf.Usage

set_option autoImplicit false

open DataHelper

/-! ## The abstract account -/

/-- Who is shown since when, and how long each bundle was shown before. -/
structure Shown where
  current : Option (String × Nat) := none
  total : String → Nat := fun _ => 0

namespace Shown

/-- The current bundle leaves. -/
def left (w : Shown) (now : Nat) : Shown :=
  match w.current with
  | none => w
  | some (b, since) =>
      { current := none, total := fun c => w.total c + if c = b then now - since else 0 }

/-- `b` is the last bound IME and was not unbound. -/
def Is (w : Shown) (b : String) : Prop := w.current.map Prod.fst = some b

instance (w : Shown) (b : String) : Decidable (w.Is b) :=
  inferInstanceAs (Decidable (_ = _))

def step (w : Shown) : Call → Shown
  | .bind b ticks _ _ =>
      if w.Is b then w else { w.left ticks.hide.boot with current := some (b, ticks.start.boot) }
  | .unbind b ticks _ => if w.Is b then w.left ticks.hide.boot else w
  | .screen .. => w

/-- How long `b` has been shown by `now`. -/
def time (w : Shown) (b : String) (now : Nat) : Nat :=
  w.total b +
    match w.current with
    | some (c, since) => if c = b then now - since else 0
    | none => 0

end Shown

/-! ## The open session -/

/-- The session of `c` began at `since`, all its time up to `clock` has a bucket. -/
structure EventCacher.Timed (c : EventCacher) (since clock : Nat) : Prop where
  ready : c.isSessionDurationsReady = true
  status : ValidStatus c.segmentScreenStatus
  total : since + DurationMap.total c.sessionDurations = c.segmentStartBootTime
  past : c.segmentStartBootTime ≤ clock

namespace EventCacher

variable {c : EventCacher} {since clock : Nat}

/-- The segments add up to the whole session. -/
theorem Timed.closeSegment (timed : c.Timed since clock) {now : Nat} (later : clock ≤ now) :
    since + DurationMap.total (c.closeSegment now) = now := by
  have total := timed.total
  have past := timed.past
  by_cases longer : now > c.segmentStartBootTime
  · rw [EventCacher.closeSegment, if_pos ⟨timed.ready, longer⟩, accumulate, DurationMap.total_add,
      total_bucket timed.status]
    omega
  · rw [EventCacher.closeSegment, if_neg fun both => longer both.2]
    omega

/-- A session that was not recovered is closed with its segments. -/
theorem closing_ready (ready : c.isSessionDurationsReady = true) (s : DataHelper)
    (stop : EventRecord) (hide : Tick) :
    ((c.hidden hide).closingDurations s stop hide).1 = c.closeSegment hide.boot := by
  simp [closingDurations, hidden, ready]

theorem Timed.opened (c : EventCacher) (valid : ValidStatus c.getScreenStatus) (b : String)
    {now : Tick} (earlier : now.boot ≤ clock) : (c.opened b now).Timed now.boot clock :=
  ⟨rfl, valid, by simp [EventCacher.opened], earlier⟩

theorem Timed.turned (timed : c.Timed since clock) {new : Int} (valid : ValidStatus new)
    {now : Tick} (later : clock ≤ now.boot) :
    ((c.decoded new).turned new now).Timed since now.boot :=
  ⟨timed.ready, valid, timed.closeSegment later, le_rfl⟩

theorem Timed.decoded (timed : c.Timed since clock) (new : Int) {now : Nat} (later : clock ≤ now) :
    (c.decoded new).Timed since now :=
  ⟨timed.ready, timed.status, timed.total, timed.past.trans later⟩

/-- A valid new status is what the cacher then reports. -/
theorem getScreenStatus_decoded (c : EventCacher) {new : Int} (valid : ValidStatus new) :
    (c.decoded new).getScreenStatus = new := by
  simp only [getScreenStatus, EventCacher.decoded, encode_decode]
  exact if_neg valid.ne_zero

end EventCacher

/-- What the open session of `b` amounts to at `now`. -/
def openTime (u : Recorder) (b : String) (now : Nat) : Nat :=
  if u.cacher.isKeyboardShowing = true ∧ u.cacher.currentImeBundle = b then
    DurationMap.total (u.cacher.closeSegment now)
  else 0

/-! ## Settlement with all writes successful -/

/-- **A guarded settlement books its session**, and nothing else changes in the books. -/
theorem settleSession_books {s : DataHelper} (stop : EventRecord)
    (guarded : Guarded stop.bundleName s) (wf : WellFormed s) (bound : s.nextId ≤ 2 ^ 32)
    (durations : DurationMap) (now : Tick) (b : String) :
    let s' := settleSession s stop durations (getStartIndex s stop.bundleName) now {}
    booked b s'.events = booked b s.events + (if b = stop.bundleName then durations else 0) ∧
      bookedShows b s'.events = bookedShows b s.events + (if b = stop.bundleName then 1 else 0) := by
  intro s'
  have upserted := settleSession_written wf.ready stop durations (getStartIndex s stop.bundleName) now
  have same : countRows b (if 0 ≤ getStartIndex s stop.bundleName then
      s.eraseFrom stop.bundleName (getStartIndex s stop.bundleName) else s).events =
      countRows b s.events := by
    split
    · rename_i nonneg
      exact eraseFrom_booked (guarded.older wf bound nonneg) b
    · rfl
  have sums := upserted.booked rfl rfl b
  simp only [booked, bookedShows, same] at sums
  exact sums

/-- Inserting a raw row books nothing. -/
theorem addEvent_countRows {s : DataHelper} (ready : s.ready = true) (record : EventRecord)
    (raw : record.rawid ≠ .countDuration) (b : String) :
    countRows b (s.addEvent record true).1.events = countRows b s.events := by
  have miss : isRow b .countDuration (makeRow s.nextId record 0) = false := by
    simp [isRow, makeRow, raw]
  simp [DataHelper.addEvent, ready, countRows, miss]

/-- The total of a booking. -/
theorem total_booked_ite (b c : String) (durations : DurationMap) :
    DurationMap.total (if b = c then durations else 0) =
      if b = c then DurationMap.total durations else 0 := by
  split
  · rfl
  · exact DurationMap.total_zero

/-! ## Refinement -/

/-- The boot clock readings of the call, in the order it makes them. -/
def Call.boots : Call → List Nat
  | .bind _ ticks _ _ => [ticks.hide.boot, ticks.start.boot, ticks.settle.boot]
  | .unbind _ ticks _ => [ticks.hide.boot, ticks.settle.boot]
  | .screen _ _ now _ => [now.boot]

/-- The condition on a call: ids fit, an unbind while an IME is showing names that one,
and a new status has a bucket. -/
def Call.Named (u : Recorder) : Call → Prop
  | .bind .. => u.store.nextId ≤ 2 ^ 32
  | .unbind b _ _ =>
      u.store.nextId ≤ 2 ^ 32 ∧
        (u.cacher.isKeyboardShowing = true → u.cacher.currentImeBundle = b)
  | .screen _ new _ _ => ValidStatus new

instance (u : Recorder) : (call : Call) → Decidable (call.Named u)
  | .bind .. => inferInstanceAs (Decidable (u.store.nextId ≤ 2 ^ 32))
  | .unbind .. => inferInstanceAs (Decidable (_ ∧ (_ → _)))
  | .screen _ new _ _ => inferInstanceAs (Decidable (ValidStatus new))

theorem Call.Named.fresh {u : Recorder} {call : Call} (named : call.Named u)
    (written : call.Written) : call.Fresh u := by
  cases call with
  | bind b ticks settled started => exact ⟨named, .inl written.2⟩
  | unbind b ticks settled => exact ⟨named.1, fun showing => .inl (named.2 showing)⟩
  | screen pre new now written => trivial

/-- The recorder agrees with the account, above what was booked at the start. -/
structure Attributed (initial : String → Nat) (u : Recorder) (w : Shown) (clock : Nat) : Prop where
  sound : u.Sound
  status : ValidStatus u.cacher.getScreenStatus
  idle : u.cacher.isKeyboardShowing = false → w.current = none
  showing : u.cacher.isKeyboardShowing = true →
    ∃ since, w.current = some (u.cacher.currentImeBundle, since) ∧ u.cacher.Timed since clock
  total : ∀ b, DurationMap.total (booked b u.store.events) = initial b + w.total b

namespace Attributed

variable {initial : String → Nat} {u : Recorder} {w : Shown} {clock : Nat}

theorem is_current (attributed : Attributed initial u w clock) (b : String) :
    w.Is b ↔ u.cacher.isKeyboardShowing = true ∧ u.cacher.currentImeBundle = b := by
  unfold Shown.Is
  cases showing : u.cacher.isKeyboardShowing with
  | false => simp [attributed.idle showing]
  | true =>
      obtain ⟨since, current, -⟩ := attributed.showing showing
      simp [current]

/-- The sum of what is booked and what is open. -/
theorem time (attributed : Attributed initial u w clock) {now : Nat} (later : clock ≤ now)
    (b : String) :
    DurationMap.total (booked b u.store.events) + openTime u b now = initial b + w.time b now := by
  rw [attributed.total b, Shown.time, openTime]
  cases showing : u.cacher.isKeyboardShowing with
  | false => simp [attributed.idle showing]
  | true =>
      obtain ⟨since, current, timed⟩ := attributed.showing showing
      have whole := timed.closeSegment later
      by_cases same : u.cacher.currentImeBundle = b
      · simp only [current, same, and_self, if_true]
        omega
      · simp [current, same]

/-- The open session is settled under its own name. -/
theorem settled (attributed : Attributed initial u w clock)
    (showing : u.cacher.isKeyboardShowing = true) (bound : u.store.nextId ≤ 2 ^ 32)
    {hide settle : Tick} (later : clock ≤ hide.boot) (b : String) :
    DurationMap.total (booked b (u.settled u.cacher.currentImeBundle hide settle {}).events) =
      initial b + (w.left hide.boot).total b := by
  obtain ⟨since, current, timed⟩ := attributed.showing showing
  have books := (settleSession_books (u.cacher.stopRecord u.cacher.currentImeBundle hide)
    (attributed.sound.guarded showing) attributed.sound.wf bound
    ((u.cacher.hidden hide).closingDurations u.store
      (u.cacher.stopRecord u.cacher.currentImeBundle hide) hide).1 settle b).1
  have whole := timed.closeSegment later
  rw [EventCacher.closing_ready timed.ready, EventCacher.stopRecord_bundleName] at books
  rw [Recorder.settled, EventCacher.closing_ready timed.ready, books, DurationMap.total_add,
    total_booked_ite, attributed.total b,
    Shown.left, current]
  by_cases same : b = u.cacher.currentImeBundle
  · simp only [same, if_true]
    omega
  · simp [same]

/-- A session is opened in a store whose books agree already. -/
theorem opened {c : EventCacher} (valid : ValidStatus c.getScreenStatus) {s : DataHelper}
    (wf : WellFormed s) (total : ∀ b, DurationMap.total (booked b s.events) = initial b + w.total b)
    (b : String) {start : Tick} (earlier : start.boot ≤ clock) :
    Attributed initial
      { cacher := c.opened b start, store := (s.addEvent (c.startRecord b start) true).1 }
      { w with current := some (b, start.boot) } clock := by
  refine ⟨⟨wf.addEvent _ _, fun _ => guarded_start wf (c.startRecord b start) rfl⟩, valid, ?_, ?_, ?_⟩
  · intro idle
    cases idle
  · intro _
    exact ⟨start.boot, rfl, .opened c valid b earlier⟩
  · intro b'
    rw [booked, addEvent_countRows wf.ready (c.startRecord b start) (by rintro ⟨⟩)]
    exact total b'

theorem bind (attributed : Attributed initial u w clock) (b : String) (ticks : BindTicks)
    (bound : u.store.nextId ≤ 2 ^ 32) {rest : List Nat}
    (ticking : (clock :: ([ticks.hide.boot, ticks.start.boot, ticks.settle.boot] ++ rest)).Pairwise
      (· ≤ ·)) :
    ∃ clock', Attributed initial (u.onImeBind b ticks {} true) (w.step (.bind b ticks {} true)) clock' ∧
      (clock' :: rest).Pairwise (· ≤ ·) := by
  have skip := Lib.pairwise_skip ticking
  simp only [List.cons_append, List.nil_append, List.pairwise_cons] at ticking
  have hide := ticking.1 ticks.hide.boot (by simp)
  have start := ticking.2.2.1 ticks.settle.boot (by simp)
  by_cases showing : u.cacher.isKeyboardShowing = true
  · by_cases same : u.cacher.currentImeBundle = b
    · rw [Recorder.onImeBind_same showing same, Shown.step,
        if_pos ((attributed.is_current b).2 ⟨showing, same⟩)]
      exact ⟨clock, attributed, skip⟩
    · rw [Recorder.onImeBind_switch showing same, Shown.step,
        if_neg fun current => same ((attributed.is_current b).1 current).2]
      exact ⟨ticks.settle.boot, opened (c := u.cacher.hidden ticks.hide) attributed.status
        (Recorder.settled_wellFormed attributed.sound.wf _ _ _ _)
        (attributed.settled showing bound hide) b start, List.pairwise_cons.2 ticking.2.2.2⟩
  · have idle : u.cacher.isKeyboardShowing = false := by simpa using showing
    have left : w.left ticks.hide.boot = w := by simp [Shown.left, attributed.idle idle]
    rw [Recorder.onImeBind_idle idle, Shown.step,
      if_neg fun current => showing ((attributed.is_current b).1 current).1, left]
    exact ⟨ticks.settle.boot,
      opened attributed.status attributed.sound.wf attributed.total b start,
      List.pairwise_cons.2 ticking.2.2.2⟩

theorem unbind (attributed : Attributed initial u w clock) {b : String} {ticks : UnbindTicks}
    (named : Call.Named u (.unbind b ticks {})) {rest : List Nat}
    (ticking : (clock :: ([ticks.hide.boot, ticks.settle.boot] ++ rest)).Pairwise (· ≤ ·)) :
    ∃ clock', Attributed initial (u.onImeUnbind b ticks {}) (w.step (.unbind b ticks {})) clock' ∧
      (clock' :: rest).Pairwise (· ≤ ·) := by
  have skip := Lib.pairwise_skip ticking
  have sound := (onImeUnbind_sound attributed.sound (named.fresh rfl)).1
  obtain ⟨bound, name⟩ := named
  simp only [List.cons_append, List.nil_append, List.pairwise_cons] at ticking
  have hide := ticking.1 ticks.hide.boot (by simp)
  by_cases showing : u.cacher.isKeyboardShowing = true
  · obtain rfl := name showing
    obtain ⟨since, current, -⟩ := attributed.showing showing
    rw [Shown.step, if_pos ((attributed.is_current _).2 ⟨showing, rfl⟩)]
    rw [Recorder.onImeUnbind_showing showing] at sound ⊢
    refine ⟨ticks.settle.boot, ⟨sound, attributed.status, fun _ => ?_, ?_,
      attributed.settled showing bound hide⟩, List.pairwise_cons.2 ticking.2.2⟩
    · simp [Shown.left, current]
    · rintro ⟨⟩
  · rw [Recorder.onImeUnbind_idle (by simpa using showing), Shown.step,
      if_neg fun current => showing ((attributed.is_current b).1 current).1]
    exact ⟨clock, attributed, skip⟩

theorem screen (attributed : Attributed initial u w clock) (pre : Int) {new : Int}
    (valid : ValidStatus new) {now : Tick} (later : clock ≤ now.boot) :
    Attributed initial (u.onScreenStatusChanged pre new now true) w now.boot := by
  have sound := (onScreenStatusChanged_sound attributed.sound pre new now true).1
  have status : ValidStatus (u.cacher.decoded new).getScreenStatus := by
    rw [u.cacher.getScreenStatus_decoded valid]
    exact valid
  by_cases skip : u.cacher.isKeyboardShowing = false ∨ new = u.cacher.lastScreenStatus
  · rw [Recorder.onScreenStatusChanged_skip skip] at sound ⊢
    refine ⟨sound, status, attributed.idle, fun showing => ?_, attributed.total⟩
    obtain ⟨since, current, timed⟩ := attributed.showing showing
    exact ⟨since, current, timed.decoded new later⟩
  · obtain ⟨showing, changed⟩ := not_or.1 skip
    have showing : u.cacher.isKeyboardShowing = true := by simpa using showing
    rw [Recorder.onScreenStatusChanged_change showing changed] at sound ⊢
    obtain ⟨since, current, timed⟩ := attributed.showing showing
    refine ⟨sound, status, fun idle => ?_, fun _ => ⟨since, current, timed.turned valid later⟩, ?_⟩
    · exact absurd (showing.symm.trans idle) (by decide)
    · intro b
      show DurationMap.total (booked b (u.store.addEvent _ true).1.events) = _
      rw [booked, addEvent_countRows attributed.sound.wf.ready (u.cacher.statusRecord pre new now)
        (by rintro ⟨⟩)]
      exact attributed.total b

/-- One call. -/
theorem step (attributed : Attributed initial u w clock) {call : Call} (written : call.Written)
    (named : call.Named u) {rest : List Nat}
    (ticking : (clock :: (call.boots ++ rest)).Pairwise (· ≤ ·)) :
    ∃ clock', Attributed initial (u.step call) (w.step call) clock' ∧
      (clock' :: rest).Pairwise (· ≤ ·) := by
  cases call with
  | bind b ticks settled started =>
      obtain ⟨rfl, rfl⟩ := written
      exact attributed.bind b ticks named ticking
  | unbind b ticks settled =>
      obtain rfl := written
      exact attributed.unbind named ticking
  | screen pre new now written' =>
      obtain rfl : written' = true := written
      obtain ⟨later, ticking'⟩ := List.pairwise_cons.1 ticking
      exact ⟨now.boot, attributed.screen pre named (later now.boot (by simp [Call.boots])), ticking'⟩

/-- A run of calls. -/
theorem run (attributed : Attributed initial u w clock) {calls : List Call}
    (written : ∀ call ∈ calls, call.Written)
    (named : Lib.Meets Recorder.step (fun u call => call.Named u) u calls) {rest : List Nat}
    (ticking : (clock :: (calls.flatMap Call.boots ++ rest)).Pairwise (· ≤ ·)) :
    ∃ clock', Attributed initial (Lib.run Recorder.step u calls) (Lib.run Shown.step w calls) clock' ∧
      (clock' :: rest).Pairwise (· ≤ ·) := by
  induction calls generalizing u w clock with
  | nil => exact ⟨clock, attributed, ticking⟩
  | cons call calls ih =>
      rw [List.flatMap_cons, List.append_assoc] at ticking
      obtain ⟨clock₁, next, ticking'⟩ := attributed.step (written call (by simp)) named.1 ticking
      exact ih next (fun c member => written c (by simp [member])) named.2 ticking'

end Attributed

/-- **Time is booked to the IME that was shown.**  Along every run from a recorder with no
open session whose calls are all written and all named, what is booked for a bundle and
its open session are the time it was the last bound IME not yet unbound; and an unbind
of another bundle that is named changes nothing. -/
theorem time_attributed {u : Recorder} (wf : WellFormed u.store)
    (idle : u.cacher.isKeyboardShowing = false) (status : ValidStatus u.cacher.getScreenStatus)
    (calls : List Call) (written : ∀ call ∈ calls, call.Written)
    (named : Lib.Meets Recorder.step (fun u call => call.Named u) u calls) (now : Nat)
    (ticking : (calls.flatMap Call.boots ++ [now]).Pairwise (· ≤ ·)) (b : String) :
    let v := Lib.run Recorder.step u calls
    DurationMap.total (booked b v.store.events) + openTime v b now =
        DurationMap.total (booked b u.store.events) + (Lib.run Shown.step {} calls).time b now ∧
      ∀ ticks, Call.Named v (.unbind b ticks {}) → v.cacher.currentImeBundle ≠ b →
        v.onImeUnbind b ticks {} = v := by
  intro v
  have start : Attributed (fun b => DurationMap.total (booked b u.store.events)) u {} 0 :=
    ⟨⟨wf, fun showing => absurd (showing.symm.trans idle) (by decide)⟩, status, fun _ => rfl,
      fun showing => absurd (showing.symm.trans idle) (by decide), fun _ => (Nat.add_zero _).symm⟩
  obtain ⟨clock, reached, ticking'⟩ := start.run written named (List.pairwise_cons.2
    ⟨fun _ _ => Nat.zero_le _, ticking⟩)
  refine ⟨reached.time ((List.pairwise_cons.1 ticking').1 now (by simp)) b, ?_⟩
  intro ticks closing other
  apply Recorder.onImeUnbind_idle
  by_contra showing
  exact other (closing.2 (by simpa using showing))

/-! ## Poles -/

/-- Binding one IME, turning the device, binding another and unbinding that one. -/
theorem two_imes_attributed :
    let calls : List Call :=
      [.bind "a" (.at 10) {} true, .screen 12 11 (.at 30) true, .bind "b" (.at 50) {} true,
       .unbind "b" (.at 90) {}]
    let v := Lib.run Recorder.step .fresh calls
    DurationMap.total (booked "a" v.store.events) + openTime v "a" 90 =
        DurationMap.total (booked "a" []) + (Lib.run Shown.step {} calls).time "a" 90 ∧
      ∀ ticks, Call.Named v (.unbind "a" ticks {}) → v.cacher.currentImeBundle ≠ "a" →
        v.onImeUnbind "a" ticks {} = v := by
  exact time_attributed Recorder.fresh_wellFormed rfl (by decide) _ (by simp [Call.Written])
    (by decide +kernel) 90 (by decide) "a"

/-- The session of `a` is closed by an unbind of `b`, and `b`, which was never bound, is
booked its 100 ms. -/
theorem unbind_books_to_named :
    let calls : List Call := [.bind "a" (.at 0) {} true, .unbind "b" (.at 100) {}]
    let v := Lib.run Recorder.step .fresh calls
    let w := Lib.run Shown.step {} calls
    (∀ call ∈ calls, call.Written) ∧ (calls.flatMap Call.boots ++ [100]).Pairwise (· ≤ ·) ∧
      v.cacher.isKeyboardShowing = false ∧
      DurationMap.total (booked "b" v.store.events) + openTime v "b" 100 = 100 ∧ w.time "b" 100 = 0 ∧
      DurationMap.total (booked "a" v.store.events) + openTime v "a" 100 = 0 ∧
      w.time "a" 100 = 100 := by
  refine ⟨by simp [Call.Written], by decide, ?_⟩
  decide +kernel

end Imf.Usage
