/-
# Imf.Usage.Sessions -- what settlements keep over runs of calls

Settlement deletes every row of the bundle from the id of its last START row on.  As
long as that START row is the one of the session being settled, everything booked for
the bundle is older and survives; a START row left over from an earlier session puts
booked rows behind it.  `Guarded` is the invariant, `Call.Fresh` the condition under
which every call keeps it, and `booked_never_decreases` the result over runs.
-/
import Imf.Usage.Booking
import Imf.Lib.Run

namespace Imf.Usage

set_option autoImplicit false

open DataHelper

/-! ## Settlement, whatever its writes do -/

/-- What settlement can leave: the rows as they were or without the deleted ones, with the
session booked or not. -/
theorem settleSession_forms (s : DataHelper) (stop : EventRecord) (durations : DurationMap)
    (startIndex : Int) (now : Tick) (written : SettleWrites) :
    ∃ base, (base = s ∨ 0 ≤ startIndex ∧ base = s.eraseFrom stop.bundleName startIndex) ∧
      (settleSession s stop durations startIndex now written = base ∨
        Upserted stop.bundleName now.today0 (countRecord stop now) durations base
          (settleSession s stop durations startIndex now written)) := by
  have upserts : ∀ base : DataHelper,
      (base.upsertCountDuration stop.bundleName now.today0 (countRecord stop now) durations
        written.upsert).1 = base ∨
      Upserted stop.bundleName now.today0 (countRecord stop now) durations base
        (base.upsertCountDuration stop.bundleName now.today0 (countRecord stop now) durations
          written.upsert).1 := by
    intro base
    unfold upsertCountDuration
    split
    · exact .inl rfl
    · split
      · exact .inr (upsertCountDurationLocked_spec _ _ _ _ _)
      · exact .inl rfl
  unfold settleSession
  dsimp only
  split
  · rename_i nonneg
    split
    · rename_i success
      unfold deleteAndUpsertTransactional at success ⊢
      split
      · simp_all
      · split
        · exact ⟨_, .inr ⟨nonneg, rfl⟩, .inr (upsertCountDurationLocked_spec _ _ _ _ _)⟩
        · simp_all
    · refine ⟨_, ?_, upserts _⟩
      unfold deleteEventsByBundleAndStartIndex
      dsimp only
      split
      · exact .inl rfl
      · split
        · exact .inl rfl
        · split
          · exact .inr ⟨nonneg, rfl⟩
          · exact .inl rfl
  · exact ⟨s, .inl rfl, upserts s⟩

/-- Settlement whose writes all succeed. -/
theorem settleSession_written {s : DataHelper} (ready : s.ready = true) (stop : EventRecord)
    (durations : DurationMap) (startIndex : Int) (now : Tick) :
    Upserted stop.bundleName now.today0 (countRecord stop now) durations
      (if 0 ≤ startIndex then s.eraseFrom stop.bundleName startIndex else s)
      (settleSession s stop durations startIndex now {}) := by
  by_cases nonneg : 0 ≤ startIndex
  · rw [if_pos nonneg]
    simp only [settleSession, deleteAndUpsertTransactional, ready, Bool.true_eq_false, if_false,
      if_true, if_pos (ge_iff_le.2 nonneg)]
    exact upsertCountDurationLocked_spec _ _ _ _ _
  · rw [if_neg nonneg]
    simp only [settleSession, upsertCountDuration, ready, Bool.true_eq_false, if_false, if_true,
      if_neg nonneg, ge_iff_le]
    exact upsertCountDurationLocked_spec _ _ _ _ _

/-! ## Ids -/

/-- The store is ready, ids are not negative and below the next one. -/
structure WellFormed (s : DataHelper) : Prop where
  ready : s.ready = true
  nonneg : ∀ row ∈ s.events, 0 ≤ row.id
  below : ∀ row ∈ s.events, row.id < s.nextId
  next : 0 ≤ s.nextId

theorem WellFormed.eraseFrom {s : DataHelper} (wf : WellFormed s) (b : String) (startIndex : Int) :
    WellFormed (s.eraseFrom b startIndex) :=
  ⟨wf.ready, fun row member => wf.nonneg row (List.mem_filter.1 member).1,
    fun row member => wf.below row (List.mem_filter.1 member).1, wf.next⟩

/-- A new row at the end. -/
theorem WellFormed.append {s : DataHelper} (wf : WellFormed s) {row : EventRow}
    (id : row.id = s.nextId) :
    WellFormed { s with events := s.events ++ [row], nextId := s.nextId + 1 } := by
  have next := wf.next
  refine ⟨wf.ready, fun r member => ?_, fun r member => ?_, by simp only; omega⟩
  · rcases List.mem_append.1 member with old | new
    · exact wf.nonneg r old
    · rw [List.mem_singleton.1 new, id]
      exact next
  · simp only
    rcases List.mem_append.1 member with old | new
    · have := wf.below r old
      omega
    · rw [List.mem_singleton.1 new, id]
      omega

theorem Upserted.wellFormed {b : String} {dayStartTime : Nat} {count : EventRecord}
    {durations : DurationMap} {s s' : DataHelper}
    (upserted : Upserted b dayStartTime count durations s s') (wf : WellFormed s) :
    WellFormed s' := by
  cases upserted with
  | existing before after row events bundle kind ofDay =>
      have ids : ∀ r ∈ before ++ row.addSession count durations :: after, ∃ r' ∈ s.events,
          r'.id = r.id := by
        intro r member
        rw [events]
        rcases List.mem_append.1 member with old | member
        · exact ⟨r, List.mem_append_left _ old, rfl⟩
        · rcases List.mem_cons.1 member with rfl | old
          · exact ⟨row, by simp, rfl⟩
          · exact ⟨r, by simp [old], rfl⟩
      refine ⟨wf.ready, fun r member => ?_, fun r member => ?_, wf.next⟩
      · obtain ⟨r', member', id⟩ := ids r member
        exact id ▸ wf.nonneg r' member'
      · obtain ⟨r', member', id⟩ := ids r member
        exact id ▸ wf.below r' member'
  | new => exact wf.append rfl

theorem WellFormed.addEvent {s : DataHelper} (wf : WellFormed s) (record : EventRecord)
    (written : Bool) : WellFormed (s.addEvent record written).1 := by
  unfold DataHelper.addEvent
  split
  · exact wf
  · split
    · exact wf.append rfl
    · exact wf

theorem WellFormed.settleSession {s : DataHelper} (wf : WellFormed s) (stop : EventRecord)
    (durations : DurationMap) (startIndex : Int) (now : Tick) (written : SettleWrites) :
    WellFormed (settleSession s stop durations startIndex now written) := by
  obtain ⟨base, erased, result⟩ := settleSession_forms s stop durations startIndex now written
  have wfBase : WellFormed base := by
    rcases erased with rfl | ⟨-, rfl⟩
    · exact wf
    · exact wf.eraseFrom _ _
  rcases result with same | upserted
  · rw [same]
    exact wfBase
  · exact upserted.wellFormed wfBase

/-! ## The last START row -/

/-- What is booked for the bundle is older than its last START row, when there is one. -/
def Guarded (b : String) (s : DataHelper) : Prop :=
  ∀ start ∈ Lib.findLast? (isRow b .inputStart) s.events,
    ∀ row ∈ s.events, isRow b .countDuration row = true → row.id < start.id

instance (b : String) (s : DataHelper) : Decidable (Guarded b s) :=
  inferInstanceAs (Decidable (∀ start ∈ Lib.findLast? (isRow b .inputStart) s.events, _))

/-- Settlement against a guarded index deletes nothing that is booked. -/
theorem Guarded.older {b : String} {s : DataHelper} (guarded : Guarded b s) (wf : WellFormed s)
    (bound : s.nextId ≤ 2 ^ 32) (nonneg : 0 ≤ getStartIndex s b) :
    ∀ row ∈ s.events, isRow b .countDuration row = true → row.id < getStartIndex s b := by
  unfold getStartIndex queryRawEventIndex at nonneg ⊢
  rw [wf.ready] at nonneg ⊢
  simp only [Bool.true_eq_false, if_false] at nonneg ⊢
  cases found : Lib.findLast? (isRow b .inputStart) s.events with
  | none =>
      rw [found] at nonneg
      exact absurd nonneg (by decide)
  | some start =>
      rw [found] at nonneg
      have member := (Lib.findLast?_eq_some found).1
      have low := wf.nonneg start member
      have high := wf.below start member
      show ∀ row ∈ s.events, _ → row.id < toInt32 start.id
      rw [toInt32_of_nonneg low (by omega) nonneg]
      exact guarded start found

/-- Only the rows of the bundle matter. -/
theorem Guarded.congr {b : String} {s s' : DataHelper} (guarded : Guarded b s)
    (same : rowsOf b s'.events = rowsOf b s.events) : Guarded b s' := by
  have wanted : ∀ kind row, isRow b kind row = true → (row.bundleName == b) = true := by
    intro kind row hit
    simp only [isRow, Bool.and_eq_true] at hit
    exact hit.1
  have last : Lib.findLast? (isRow b .inputStart) s'.events =
      Lib.findLast? (isRow b .inputStart) s.events := by
    rw [← Lib.findLast?_filter (wanted .inputStart) s'.events,
      ← Lib.findLast?_filter (wanted .inputStart) s.events]
    exact congrArg _ same
  intro start found row member hit
  rw [last] at found
  have here : row ∈ rowsOf b s'.events := List.mem_filter.2 ⟨member, wanted _ row hit⟩
  rw [same] at here
  exact guarded start found row (List.mem_filter.1 here).1 hit

/-- A START row that was written guards everything booked before it. -/
theorem guarded_start {s : DataHelper} (wf : WellFormed s) (record : EventRecord)
    (kind : record.rawid = .inputStart) :
    Guarded record.bundleName (s.addEvent record true).1 := by
  have hit : isRow record.bundleName .inputStart (makeRow s.nextId record 0) = true := by
    simp [isRow, makeRow, kind]
  have miss : isRow record.bundleName .countDuration (makeRow s.nextId record 0) = false := by
    simp [isRow, makeRow, kind]
  simp only [DataHelper.addEvent, wf.ready, Bool.true_eq_false, if_false, if_true]
  intro start found row member booked
  rw [Lib.findLast?_append_of_match _ hit] at found
  cases found
  rcases List.mem_append.1 member with old | new
  · exact wf.below row old
  · rw [List.mem_singleton.1 new, miss] at booked
    cases booked

/-- A row that is neither a START nor a COUNT_DURATION row changes nothing. -/
theorem Guarded.addStatus {b : String} {s : DataHelper} (guarded : Guarded b s)
    {record : EventRecord} (kind : record.rawid = .inputStatusChanged) (written : Bool) :
    Guarded b (s.addEvent record written).1 := by
  have miss : ∀ k, k ≠ .inputStatusChanged → isRow b k (makeRow s.nextId record 0) = false := by
    intro k other
    simp [isRow, makeRow, kind, other.symm]
  unfold DataHelper.addEvent
  split
  · exact guarded
  · split
    · intro start found row member booked
      rw [Lib.findLast?_append_of_miss _ (miss _ (by decide))] at found
      rcases List.mem_append.1 member with old | new
      · exact guarded start found row old booked
      · rw [List.mem_singleton.1 new, miss _ (by decide)] at booked
        cases booked
    · exact guarded

/-- Settlement leaves the rows of other bundles alone. -/
theorem settleSession_other (s : DataHelper) {stop : EventRecord} {b : String}
    (other : b ≠ stop.bundleName) (durations : DurationMap) (startIndex : Int) (now : Tick)
    (written : SettleWrites) :
    rowsOf b (settleSession s stop durations startIndex now written).events = rowsOf b s.events := by
  obtain ⟨base, erased, result⟩ := settleSession_forms s stop durations startIndex now written
  have same : rowsOf b base.events = rowsOf b s.events := by
    rcases erased with rfl | ⟨-, rfl⟩
    · rfl
    · exact eraseFrom_other other s startIndex
  rcases result with unchanged | upserted
  · rw [unchanged, same]
  · rw [upserted.other rfl other, same]

/-! ## What is booked stays booked -/

/-- The booked sums of every bundle only grow, and its `COUNT_DURATION` rows stay. -/
def Keeps (s s' : DataHelper) : Prop :=
  ∀ b, booked b s.events ≤ booked b s'.events ∧ bookedShows b s.events ≤ bookedShows b s'.events ∧
    ∀ row ∈ countRows b s.events, ∃ row' ∈ countRows b s'.events, row'.id = row.id

theorem Keeps.refl (s : DataHelper) : Keeps s s :=
  fun _ => ⟨le_rfl, le_rfl, fun row member => ⟨row, member, rfl⟩⟩

theorem Keeps.trans {s t r : DataHelper} (first : Keeps s t) (second : Keeps t r) : Keeps s r := by
  intro b
  obtain ⟨durations, shows, rows⟩ := first b
  obtain ⟨durations', shows', rows'⟩ := second b
  refine ⟨durations.trans durations', shows.trans shows', fun row member => ?_⟩
  obtain ⟨row₁, member₁, id₁⟩ := rows row member
  obtain ⟨row₂, member₂, id₂⟩ := rows' row₁ member₁
  exact ⟨row₂, member₂, id₂.trans id₁⟩

/-- **Settlement keeps every booking**, with any outcome of its writes. -/
theorem settleSession_keeps {s : DataHelper} (stop : EventRecord)
    (guarded : Guarded stop.bundleName s) (wf : WellFormed s) (bound : s.nextId ≤ 2 ^ 32)
    (durations : DurationMap) (now : Tick) (written : SettleWrites) :
    Keeps s (settleSession s stop durations (getStartIndex s stop.bundleName) now written) := by
  intro b
  obtain ⟨base, erased, result⟩ := settleSession_forms s stop durations
    (getStartIndex s stop.bundleName) now written
  have same : countRows b base.events = countRows b s.events := by
    rcases erased with rfl | ⟨nonneg, rfl⟩
    · rfl
    · exact eraseFrom_booked (guarded.older wf bound nonneg) b
  have sums : booked b base.events = booked b s.events ∧
      bookedShows b base.events = bookedShows b s.events := by
    simp only [booked, bookedShows, same, and_self]
  rcases result with unchanged | upserted
  · rw [unchanged, sums.1, sums.2]
    exact ⟨le_rfl, le_rfl, fun row member => ⟨row, by rwa [same], rfl⟩⟩
  · obtain ⟨durationsUp, showsUp⟩ := upserted.booked rfl rfl b
    rw [durationsUp, showsUp, sums.1, sums.2]
    refine ⟨fun i => Nat.le_add_right _ _, Nat.le_add_right _ _, fun row member => ?_⟩
    rw [← same] at member
    exact upserted.count_kept member

/-- An insert of a raw row keeps every booking. -/
theorem addEvent_keeps (s : DataHelper) (record : EventRecord) (written : Bool) :
    Keeps s (s.addEvent record written).1 := by
  unfold DataHelper.addEvent
  split
  · exact Keeps.refl s
  · split
    · intro b
      simp only [booked_append, bookedShows_append]
      refine ⟨fun i => Nat.le_add_right _ _, Nat.le_add_right _ _, fun row member => ?_⟩
      refine ⟨row, ?_, rfl⟩
      rw [countRows, List.filter_append]
      exact List.mem_append_left _ member
    · exact Keeps.refl s

/-! ## Runs -/

/-- The ids fit in 32 bits, and every name a session is opened or closed under is guarded:
by its own START row, because that was written or because the session is the current
one, or by what the store holds. -/
def Call.Fresh (u : Recorder) : Call → Prop
  | .bind b _ _ started => u.store.nextId ≤ 2 ^ 32 ∧ (started = true ∨ Guarded b u.store)
  | .unbind b _ _ =>
      u.store.nextId ≤ 2 ^ 32 ∧
        (u.cacher.isKeyboardShowing = true → u.cacher.currentImeBundle = b ∨ Guarded b u.store)
  | .screen .. => True

instance (u : Recorder) : (call : Call) → Decidable (call.Fresh u)
  | .bind .. => inferInstanceAs (Decidable (_ ∧ (_ ∨ _)))
  | .unbind .. => inferInstanceAs (Decidable (_ ∧ (_ → _ ∨ _)))
  | .screen .. => .isTrue trivial

/-- The invariant: the open session is guarded. -/
structure Recorder.Sound (u : Recorder) : Prop where
  wf : WellFormed u.store
  guarded : u.cacher.isKeyboardShowing = true → Guarded u.cacher.currentImeBundle u.store

/-- Opening a session after everything else of the call. -/
theorem guarded_opened {s : DataHelper} (wf : WellFormed s) (c : EventCacher) {b : String}
    {started : Bool} (fresh : started = true ∨ Guarded b s) (now : Tick) :
    Guarded b (s.addEvent (c.startRecord b now) started).1 := by
  cases started with
  | true => exact guarded_start wf (c.startRecord b now) rfl
  | false =>
      have guarded := fresh.resolve_left (by decide)
      simpa [DataHelper.addEvent] using guarded

theorem Recorder.settled_keeps {u : Recorder} (wf : WellFormed u.store) {b : String}
    (guarded : Guarded b u.store) (bound : u.store.nextId ≤ 2 ^ 32) (hide settle : Tick)
    (written : SettleWrites) : Keeps u.store (u.settled b hide settle written) :=
  settleSession_keeps (u.cacher.stopRecord b hide) guarded wf bound _ settle written

theorem Recorder.settled_wellFormed {u : Recorder} (wf : WellFormed u.store) (b : String)
    (hide settle : Tick) (written : SettleWrites) : WellFormed (u.settled b hide settle written) :=
  wf.settleSession _ _ _ _ _

theorem onImeBind_sound {u : Recorder} (sound : u.Sound) {b : String} {ticks : BindTicks}
    {settled : SettleWrites} {started : Bool} (fresh : Call.Fresh u (.bind b ticks settled started)) :
    (u.onImeBind b ticks settled started).Sound ∧
      Keeps u.store (u.onImeBind b ticks settled started).store := by
  obtain ⟨bound, opening⟩ := fresh
  by_cases showing : u.cacher.isKeyboardShowing = true
  · by_cases same : u.cacher.currentImeBundle = b
    · rw [Recorder.onImeBind_same showing same]
      exact ⟨sound, Keeps.refl _⟩
    · rw [Recorder.onImeBind_switch showing same]
      have wf := Recorder.settled_wellFormed sound.wf u.cacher.currentImeBundle ticks.hide
        ticks.settle settled
      refine ⟨⟨wf.addEvent _ _, fun _ => ?_⟩, ?_⟩
      · refine guarded_opened wf _ (opening.imp_right fun guarded => ?_) _
        exact guarded.congr (settleSession_other _ (Ne.symm same) _ _ _ _)
      · exact (Recorder.settled_keeps sound.wf (sound.guarded showing) bound _ _ _).trans
          (addEvent_keeps _ _ _)
  · rw [Recorder.onImeBind_idle (by simpa using showing)]
    exact ⟨⟨sound.wf.addEvent _ _, fun _ => guarded_opened sound.wf _ opening _⟩,
      addEvent_keeps _ _ _⟩

theorem onImeUnbind_sound {u : Recorder} (sound : u.Sound) {b : String} {ticks : UnbindTicks}
    {settled : SettleWrites} (fresh : Call.Fresh u (.unbind b ticks settled)) :
    (u.onImeUnbind b ticks settled).Sound ∧ Keeps u.store (u.onImeUnbind b ticks settled).store := by
  obtain ⟨bound, closing⟩ := fresh
  by_cases showing : u.cacher.isKeyboardShowing = true
  · rw [Recorder.onImeUnbind_showing showing]
    have guarded : Guarded b u.store := by
      rcases closing showing with rfl | guarded
      · exact sound.guarded showing
      · exact guarded
    refine ⟨⟨Recorder.settled_wellFormed sound.wf _ _ _ _, ?_⟩,
      Recorder.settled_keeps sound.wf guarded bound _ _ _⟩
    rintro ⟨⟩
  · rw [Recorder.onImeUnbind_idle (by simpa using showing)]
    exact ⟨sound, Keeps.refl _⟩

theorem onScreenStatusChanged_sound {u : Recorder} (sound : u.Sound) (pre new : Int) (now : Tick)
    (written : Bool) :
    (u.onScreenStatusChanged pre new now written).Sound ∧
      Keeps u.store (u.onScreenStatusChanged pre new now written).store := by
  by_cases skip : u.cacher.isKeyboardShowing = false ∨ new = u.cacher.lastScreenStatus
  · rw [Recorder.onScreenStatusChanged_skip skip]
    exact ⟨⟨sound.wf, sound.guarded⟩, Keeps.refl _⟩
  · obtain ⟨showing, changed⟩ := not_or.1 skip
    rw [Recorder.onScreenStatusChanged_change (by simpa using showing) changed]
    refine ⟨⟨sound.wf.addEvent _ _, fun _ => ?_⟩, addEvent_keeps _ _ _⟩
    exact (sound.guarded (by simpa using showing)).addStatus rfl written

/-- One call. -/
theorem step_sound {u : Recorder} (sound : u.Sound) {call : Call} (fresh : call.Fresh u) :
    (u.step call).Sound ∧ Keeps u.store (u.step call).store := by
  cases call with
  | bind b ticks settled started => exact onImeBind_sound sound fresh
  | unbind b ticks settled => exact onImeUnbind_sound sound fresh
  | screen pre new now written => exact onScreenStatusChanged_sound sound pre new now written

theorem run_sound {u : Recorder} (sound : u.Sound) {calls : List Call}
    (fresh : Lib.Meets Recorder.step (fun u call => call.Fresh u) u calls) :
    (Lib.run Recorder.step u calls).Sound ∧ Keeps u.store (Lib.run Recorder.step u calls).store := by
  induction calls generalizing u with
  | nil => exact ⟨sound, Keeps.refl _⟩
  | cons call calls ih =>
      obtain ⟨sound', keeps⟩ := step_sound sound fresh.1
      obtain ⟨reached, rest⟩ := ih sound' fresh.2
      exact ⟨reached, keeps.trans rest⟩

/-- **Settled data stays.**  From a recorder with no open session, along every run of
calls, with any outcomes of their writes, that are fresh where they are made. -/
theorem booked_never_decreases {u : Recorder} (wf : WellFormed u.store)
    (idle : u.cacher.isKeyboardShowing = false) (calls later : List Call)
    (fresh : Lib.Meets Recorder.step (fun u call => call.Fresh u) u (calls ++ later)) :
    Keeps (Lib.run Recorder.step u calls).store (Lib.run Recorder.step u (calls ++ later)).store := by
  have sound : u.Sound := ⟨wf, fun showing => absurd showing (by simp [idle])⟩
  obtain ⟨before, after⟩ := Lib.meets_append.1 fresh
  rw [Lib.run_append]
  exact (run_sound (run_sound sound before).1 after).2

/-! ## Poles -/

/-- All readings of a call at one time of the first day. -/
def Tick.at (ms : Nat) : Tick := { boot := ms, wall := ms, today0 := 0 }

def BindTicks.at (ms : Nat) : BindTicks := { hide := .at ms, start := .at ms, settle := .at ms }

def UnbindTicks.at (ms : Nat) : UnbindTicks := { hide := .at ms, settle := .at ms }

/-- A recorder right after `Init`, unfolded and in portrait. -/
def Recorder.fresh : Recorder := { cacher := .init 1 2 }

theorem Recorder.fresh_wellFormed : WellFormed Recorder.fresh.store :=
  ⟨rfl, by simp [Recorder.fresh], by simp [Recorder.fresh], by decide⟩

/-- A session of 100 ms whose START row survives its settlement, and a session of 50 ms
whose START row is not written. -/
def leftoverStart : List Call :=
  [.bind "a" (.at 0) {} true,
   .unbind "a" (.at 100) { transaction := false, delete := false },
   .bind "a" (.at 200) {} false]

/-- Settling the second session deletes what was booked for the first. -/
theorem leftover_start_destroys_booking :
    let before := (Lib.run Recorder.step .fresh leftoverStart).store
    let after := (Lib.run Recorder.step .fresh (leftoverStart ++ [.unbind "a" (.at 250) {}])).store
    DurationMap.total (booked "a" before.events) = 100 ∧
      DurationMap.total (booked "a" after.events) = 50 ∧ ¬ Keeps before after := by
  refine ⟨by decide +kernel, by decide +kernel, fun keeps => ?_⟩
  have rows := (keeps "a").2.2
  revert rows
  decide +kernel

/-- The same calls with the second START row written: both sessions stay booked. -/
theorem second_start_keeps_booking :
    let calls : List Call :=
      [.bind "a" (.at 0) {} true,
       .unbind "a" (.at 100) { transaction := false, delete := false },
       .bind "a" (.at 200) {} true]
    Keeps (Lib.run Recorder.step .fresh calls).store
      (Lib.run Recorder.step .fresh (calls ++ [.unbind "a" (.at 250) {}])).store := by
  exact booked_never_decreases Recorder.fresh_wellFormed rfl _ _ (by decide +kernel)

end Imf.Usage
