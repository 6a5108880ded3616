/-
# Imf.Usage.Partition -- the time of a session, by screen status

A session is closed in segments, each in the bucket of the status that was told last when it began.
`Tracks` is the invariant: closing the session now gives every bucket the time since the bind at
which the latest status was that of the bucket, for any history of statuses.  `session_partition` is
the result for a whole session.  A bind of the IME that is showing opens none and is skipped, and a
status without a bucket is not counted (`repeated_bind_keeps_start`).
-/
import Imf.Usage.Sessions
import Imf.Lib.Timeline

namespace Imf.Usage

set_option autoImplicit false

open Lib (latest latest_append timeWith run)

/-! ## Statuses and buckets -/

/-- A bucket is that of one status. -/
theorem screenStatusToIndex_injective {status status' : Int} {i : Fin durationCount}
    (here : screenStatusToIndex status = some i) (there : screenStatusToIndex status' = some i) :
    status = status' := by
  rw [← encode_decode status, ← encode_decode status']
  unfold screenStatusToIndex at here there
  dsimp only at here there
  split at here
  · cases here
  · split at there
    · cases there
    · rename_i inside inside'
      have same := congrArg Fin.val ((Option.some.inj here).trans (Option.some.inj there).symm)
      simp only [Fin.ofNat, foldStatusMin, foldStatusMax, vhModeMin, vhModeMax,
        vhModeCount, durationCount,
        encodeScreenStatus, screenStatusEncodeBase] at *
      omega

/-- What a duration adds to a bucket. -/
theorem bucket_apply (status : Int) (duration : Nat) (i : Fin durationCount) :
    bucket status duration i = if screenStatusToIndex status = some i then duration else 0 := by
  unfold bucket
  cases index : screenStatusToIndex status with
  | none => simp
  | some j =>
      by_cases same : j = i
      · obtain rfl := same
        simp
      · simp [same]

/-! ## The segments of a session -/

/-- The session of `c` that began at `since` is tracked at `clock`: it is in a segment with the latest
status, and closed from now on it has in every bucket the time with a status of the bucket. -/
structure EventCacher.Tracks (initial : Int) (changes : List (Nat × Int)) (since : Nat)
    (c : EventCacher) (clock : Nat) :
    Prop where
  ready : c.isSessionDurationsReady = true
  showing : c.isKeyboardShowing = true
  last : c.lastScreenStatus = c.segmentScreenStatus
  status : ∀ x, clock ≤ x → latest initial changes x = c.segmentScreenStatus
  began : since ≤ c.segmentStartBootTime
  past : c.segmentStartBootTime ≤ clock
  closed : ∀ now, clock ≤ now → ∀ i,
    c.closeSegment now i =
      timeWith (fun status => screenStatusToIndex status = some i) initial changes since now

namespace EventCacher

variable {initial : Int} {changes : List (Nat × Int)} {since clock : Nat} {c : EventCacher}

/-- The durations of a ready session, bucket by bucket. -/
theorem closeSegment_apply (ready : c.isSessionDurationsReady = true) (now : Nat)
    (i : Fin durationCount) :
    c.closeSegment now i = c.sessionDurations i +
      if screenStatusToIndex c.segmentScreenStatus = some i then
        now - c.segmentStartBootTime else 0 := by
  by_cases longer : now > c.segmentStartBootTime
  · rw [closeSegment, if_pos ⟨ready, longer⟩, accumulate, Pi.add_apply, bucket_apply]
  · rw [closeSegment, if_neg fun both => longer both.2, Nat.sub_eq_zero_of_le (not_lt.1 longer),
      ite_self, Nat.add_zero]

theorem Tracks.since_le (tracks : c.Tracks initial changes since clock) : since ≤ clock :=
  tracks.began.trans tracks.past

/-- A session that is opened now, with the status told last. -/
theorem Tracks.opened (c : EventCacher) (b : String) (now : Tick)
    (status : ∀ x, now.boot ≤ x → latest initial changes x = c.getScreenStatus) :
    (c.opened b now).Tracks initial changes now.boot now.boot where
  ready := rfl
  showing := rfl
  last := rfl
  status := status
  began := le_rfl
  past := le_rfl
  closed := by
    intro end' later i
    rw [closeSegment_apply rfl, Lib.timeWith_const fun x low _ => status x low]
    exact Nat.zero_add _

/-- A new status ends the segment. -/
theorem Tracks.turned (tracks : c.Tracks initial changes since clock) (new : Int) {now : Tick}
    (later : clock ≤ now.boot) :
    ((c.decoded new).turned new now).Tracks initial (changes ++ [(now.boot, new)]) since now.boot where
  ready := tracks.ready
  showing := tracks.showing
  last := rfl
  status := by
    intro x after
    rw [latest_append, if_pos after]
    rfl
  began := tracks.since_le.trans later
  past := le_rfl
  closed := by
    intro end' after i
    have told : ∀ x, now.boot ≤ x → x < end' →
      latest initial (changes ++ [(now.boot, new)]) x = new := by
      intro x low _
      rw [latest_append, if_pos low]
    rw [Lib.timeWith_add _ initial _ (tracks.since_le.trans later) after,
      Lib.timeWith_append_before le_rfl,
      Lib.timeWith_const told, ← tracks.closed now.boot later i]
    exact closeSegment_apply (c := (c.decoded new).turned new now) tracks.ready end' i

/-- The status of the segment told again. -/
theorem Tracks.repeated (tracks : c.Tracks initial changes since clock) {new : Int}
    (same : new = c.lastScreenStatus) {now : Nat} (later : clock ≤ now) :
    (c.decoded new).Tracks initial (changes ++ [(now, new)]) since now := by
  have unchanged : ∀ x, latest initial (changes ++ [(now, new)]) x = latest initial changes x := by
    intro x
    rw [latest_append]
    split
    · rename_i after
      rw [tracks.status x (later.trans after), same, tracks.last]
    · rfl
  refine ⟨tracks.ready, tracks.showing, tracks.last,
    fun x after => ?_, tracks.began, tracks.past.trans later,
    fun end' after i => ?_⟩
  · rw [unchanged]
    exact tracks.status x (later.trans after)
  · exact (tracks.closed end' (later.trans after) i).trans
      (Lib.timeWith_congr fun x _ _ => by rw [unchanged])

end EventCacher

/-! ## A whole session -/

/-- A call of `OnScreenStatusChanged`. -/
structure ScreenChange where
  preScreenStatus : Int
  newScreenStatus : Int
  now : Tick
  written : Bool
  deriving DecidableEq

def ScreenChange.call (change : ScreenChange) : Call :=
  .screen change.preScreenStatus change.newScreenStatus change.now change.written

/-- What it tells, and when. -/
def ScreenChange.told (change : ScreenChange) : Nat × Int := (change.now.boot, change.newScreenStatus)

/-- The call ends the session of `b`: its unbind, or the bind of another IME. -/
def Call.Closes (b : String) : Call → Prop
  | .bind other _ _ _ => other ≠ b
  | .unbind named _ _ => named = b
  | .screen .. => False

instance (b : String) : (call : Call) → Decidable (call.Closes b)
  | .bind other _ _ _ => inferInstanceAs (Decidable (other ≠ b))
  | .unbind named _ _ => inferInstanceAs (Decidable (named = b))
  | .screen .. => .isFalse fun closes => closes

/-- When the call ends a session. -/
def Call.hideBoot : Call → Nat
  | .bind _ ticks _ _ => ticks.hide.boot
  | .unbind _ ticks _ => ticks.hide.boot
  | .screen _ _ now _ => now.boot

/-- The bundle and the durations that the call hands to `SettleSession`. -/
def Recorder.settles (u : Recorder) : Call → Option (String × DurationMap)
  | .bind b ticks _ _ =>
      let result := (u.cacher.prepareShowEvent u.store b ticks.hide ticks.start).1
      if result.hideRecord.rawid ≠ .none then
        some (result.hideRecord.bundleName, result.hideDurations) else none
  | .unbind b ticks _ =>
      let prepared := (u.cacher.prepareUnbind u.store b ticks.hide).1
      if prepared.1.rawid ≠ .none then some (prepared.1.bundleName, prepared.2.1) else none
  | .screen .. => none

/-- A session that was not recovered is settled with its segments. -/
theorem Recorder.settles_closing {u : Recorder} (showing : u.cacher.isKeyboardShowing = true)
    (ready : u.cacher.isSessionDurationsReady = true) {call : Call}
    (closes : call.Closes u.cacher.currentImeBundle) :
    u.settles call = some (u.cacher.currentImeBundle, u.cacher.closeSegment call.hideBoot) := by
  cases call with
  | bind other ticks settled started =>
      have different : ¬ u.cacher.currentImeBundle = other := Ne.symm closes
      simp [settles, EventCacher.prepareShowEvent, EventCacher.prepareHideRecord,
        EventCacher.closingDurations,
        EventCacher.stopRecord, EventCacher.hidden, Call.hideBoot, showing, ready, different]
  | unbind named ticks settled =>
      obtain rfl : named = _ := closes
      simp [settles, EventCacher.prepareUnbind, EventCacher.prepareHideRecord,
        EventCacher.closingDurations,
        EventCacher.stopRecord, EventCacher.hidden, Call.hideBoot, showing, ready]
  | screen pre new now written => exact closes.elim

/-- What holds of the recorder in the session of `b`. -/
structure Recorder.Follows (b : String) (initial : Int) (changes : List (Nat × Int))
    (since : Nat) (u : Recorder) (clock : Nat) : Prop where
  current : u.cacher.currentImeBundle = b
  tracks : u.cacher.Tracks initial changes since clock

namespace Recorder

variable {b : String} {initial : Int} {changes : List (Nat × Int)} {since clock : Nat} {u : Recorder}

/-- A bind that is not skipped opens a session, with the status that the cacher reports. -/
theorem follows_bind (opens : ¬ (u.cacher.isKeyboardShowing = true ∧ u.cacher.currentImeBundle = b))
    (ticks : BindTicks) (settled : SettleWrites) (started : Bool) :
    (u.onImeBind b ticks settled started).Follows b u.cacher.getScreenStatus
      [] ticks.start.boot ticks.start.boot := by
  by_cases showing : u.cacher.isKeyboardShowing = true
  · rw [onImeBind_switch showing fun same => opens ⟨showing, same⟩]
    exact ⟨rfl, .opened (u.cacher.hidden ticks.hide) b ticks.start fun _ _ => rfl⟩
  · rw [onImeBind_idle (by simpa using showing)]
    exact ⟨rfl, .opened u.cacher b ticks.start fun _ _ => rfl⟩

theorem Follows.screen (follows : u.Follows b initial changes since clock) (change : ScreenChange)
    (later : clock ≤ change.now.boot) :
    (u.step change.call).Follows b initial (changes ++ [change.told]) since change.now.boot := by
  have showing := follows.tracks.showing
  show (u.onScreenStatusChanged change.preScreenStatus change.newScreenStatus change.now
    change.written).Follows _ _ _ _ _
  by_cases same : change.newScreenStatus = u.cacher.lastScreenStatus
  · rw [onScreenStatusChanged_skip (.inr same)]
    exact ⟨follows.current, follows.tracks.repeated same later⟩
  · rw [onScreenStatusChanged_change showing same]
    exact ⟨follows.current, follows.tracks.turned change.newScreenStatus later⟩

/-- The clock of a session goes on with its status changes. -/
theorem Follows.screens (follows : u.Follows b initial changes since clock)
    {screens : List ScreenChange} {till : Nat}
    (ticking : (clock :: (screens.map (·.now.boot) ++ [till])).Pairwise (· ≤ ·)) :
    ∃ clock', clock' ≤ till ∧
      (run step u (screens.map ScreenChange.call)).Follows b initial
        (changes ++ screens.map ScreenChange.told) since
        clock' := by
  induction screens generalizing u changes clock with
  | nil =>
      refine ⟨clock, (List.pairwise_cons.1 ticking).1 till (by simp), ?_⟩
      rw [List.map_nil, List.append_nil]
      exact follows
  | cons change screens ih =>
      obtain ⟨first, rest⟩ := List.pairwise_cons.1 ticking
      obtain ⟨clock', before, further⟩ := ih (follows.screen change (first _ (by simp))) rest
      refine ⟨clock', before, ?_⟩
      rw [List.append_assoc] at further
      exact further

end Recorder

/-- The latest of valid statuses is valid. -/
theorem latest_valid {initial : Int} (valid : ValidStatus initial) {screens : List ScreenChange}
    (all : ∀ change ∈ screens, ValidStatus change.newScreenStatus) (x : Nat) :
    ValidStatus (latest initial (screens.map ScreenChange.told) x) := by
  induction screens using List.reverseRecOn with
  | nil => exact valid
  | append_singleton screens change ih =>
      rw [List.map_append, List.map_singleton, ScreenChange.told, latest_append]
      split
      · exact all change (by simp)
      · exact ih fun change member => all change (List.mem_append_left _ member)

/-- **A session is settled with the time of each status**: for every bind that opens a session of `b`,
the status changes that follow and the call that closes it, every status that has a bucket has there the
time for which it was the latest one.  When the status at the bind has a bucket, the sum is the whole
session. -/
theorem session_partition (u : Recorder) {b : String}
    (opens : ¬ (u.cacher.isKeyboardShowing = true ∧ u.cacher.currentImeBundle = b)) (ticks : BindTicks)
    (settled : SettleWrites) (started : Bool) (screens : List ScreenChange)
    (valid : ∀ change ∈ screens, ValidStatus change.newScreenStatus) {close : Call}
    (closes : close.Closes b)
    (ticking : (ticks.start.boot :: (screens.map (·.now.boot) ++ [close.hideBoot])).Pairwise (· ≤ ·)) :
    ∃ durations : DurationMap,
      (run Recorder.step u (.bind b ticks settled started :: screens.map ScreenChange.call)).settles
        close =
          some (b, durations) ∧
        (∀ status i, screenStatusToIndex status = some i →
          durations i = timeWith (· = status) u.cacher.getScreenStatus (screens.map ScreenChange.told)
            ticks.start.boot close.hideBoot) ∧
        (ValidStatus u.cacher.getScreenStatus →
          DurationMap.total durations = close.hideBoot - ticks.start.boot) := by
  obtain ⟨clock, before, current, tracks⟩ :=
    (Recorder.follows_bind opens ticks settled started).screens ticking
  have settles := Recorder.settles_closing tracks.showing tracks.ready (current.symm ▸ closes)
  rw [current] at settles
  refine ⟨_, settles, fun status i index => ?_, fun start => ?_⟩
  · refine (tracks.closed _ before i).trans (Lib.timeWith_congr fun x _ _ => ?_)
    exact ⟨fun there => screenStatusToIndex_injective there index, fun same => same ▸ index⟩
  · rw [DurationMap.total, Finset.sum_congr rfl fun i _ => tracks.closed _ before i]
    exact Lib.sum_timeWith screenStatusToIndex fun x _ _ => latest_valid start valid x

/-! ## Poles -/

/-- A device that is turned, told so twice, and turned back, in one session. -/
theorem turned_session_partition :
    ∃ durations : DurationMap,
      (run Recorder.step .fresh
          [.bind "a" (.at 10) {} true, .screen 12 11 (.at 30) true, .screen 12 11 (.at 45) false,
            .screen 11 12 (.at 70) true]).settles (.bind "b" (.at 100) {} true) =
              some ("a", durations) ∧
        (∀ status i, screenStatusToIndex status = some i →
          durations i = timeWith (· = status) 12 [(30, 11), (45, 11), (70, 12)] 10 100) ∧
        (ValidStatus 12 → DurationMap.total durations = 100 - 10) :=
  session_partition .fresh (by decide) (.at 10) {} true
    [⟨12, 11, .at 30, true⟩, ⟨12, 11, .at 45, false⟩, ⟨11, 12, .at 70, true⟩] (by decide)
      (by decide) (by decide)

/-- The second bind of `a` is skipped, and the session settled later is that of the first.  And a status
without a bucket: the session is settled with no time at all. -/
theorem repeated_bind_keeps_start :
    (∃ durations : DurationMap,
      (run Recorder.step .fresh [.bind "a" (.at 0) {} true, .bind "a" (.at 10) {} true]).settles
        (.unbind "a" (.at 20) {}) =
          some ("a", durations) ∧
        screenStatusToIndex 12 = some 1 ∧ durations 1 = 20 ∧ timeWith (· = 12) 12 [] 10 20 = 10 ∧
        DurationMap.total durations ≠ 20 - 10) ∧
      ∃ durations : DurationMap,
        (run Recorder.step { cacher := .init 0 1 } [.bind "a" (.at 0) {} true]).settles
          (.unbind "a" (.at 10) {}) =
            some ("a", durations) ∧
          DurationMap.total durations ≠ 10 - 0 := by
  refine ⟨⟨Pi.single 1 20, ?_⟩, 0, ?_⟩ <;> decide +kernel

end Imf.Usage
