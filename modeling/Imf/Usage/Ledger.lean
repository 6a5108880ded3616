/-
# Imf.Usage.Ledger -- the account of sessions

`Ledger` is the abstract account of what was shown: the session that is open and, for
every session that has ended, when it began, ended and was settled.  `shownUntil` and
`sessionsUntil` are what reports up to a midnight should add up to.  The second half
adds the sessions up by the day they were settled on, which is how the store books them.
-/
import Imf.Usage.EventCacher
import Imf.Lib.Fiber

namespace Imf.Usage

set_option autoImplicit false

/-! ## The abstract account -/

/-- A session that has ended, with the readings of its ends and of its settlement. -/
structure Session where
  bundleName : String
  start : Tick
  hide : Tick
  settle : Tick
  deriving DecidableEq

def Session.time (s : Session) : Nat := s.hide.boot - s.start.boot

/-- How long the session was shown before `midnight`. -/
def Session.shownUntil (s : Session) (midnight : Nat) : Nat :=
  if s.hide.wall < midnight then s.time else midnight - s.start.wall

structure Ledger where
  current : Option (String × Tick) := none
  closed : List Session := []
  deriving DecidableEq

namespace Ledger

/-- The current session ends. -/
def close (w : Ledger) (hide settle : Tick) : Ledger :=
  match w.current with
  | none => w
  | some (b, start) => { current := none, closed := w.closed ++ [⟨b, start, hide, settle⟩] }

def call (w : Ledger) : Call → Ledger
  | .bind b ticks _ _ =>
      if w.current.map Prod.fst = some b then w
      else { w.close ticks.hide ticks.settle with current := some (b, ticks.start) }
  | .unbind b ticks _ =>
      if w.current.map Prod.fst = some b then w.close ticks.hide ticks.settle else w
  | .screen .. => w

/-- How long `b` was shown before `midnight`. -/
def shownUntil (w : Ledger) (b : String) (midnight : Nat) : Nat :=
  ((w.closed.filter fun s => s.bundleName == b).map fun s => s.shownUntil midnight).sum +
    match w.current with
    | some (c, start) => if c = b then midnight - start.wall else 0
    | none => 0

/-- In how many sessions. -/
def sessionsUntil (w : Ledger) (b : String) (midnight : Nat) : Nat :=
  (w.closed.filter fun s => s.bundleName == b && decide (s.start.wall < midnight)).length +
    match w.current with
    | some (c, start) => if c = b ∧ start.wall < midnight then 1 else 0
    | none => 0

end Ledger

/-! ## The ledger by days -/

namespace Ledger

variable {dayStart : Nat → Nat}

/-- A sum over the sessions of a bundle that were settled on a day. -/
def onDay (dayStart : Nat → Nat) (value : Session → Nat) (w : Ledger) (b : String) (d : Nat) : Nat :=
  ((w.closed.filter fun s => s.bundleName == b && dayStart s.settle.wall == d).map value).sum

/-- A sum over those that were settled on a day before `midnight`. -/
def before (dayStart : Nat → Nat) (value : Session → Nat) (w : Ledger) (b : String) (midnight : Nat) :
    Nat :=
  ((w.closed.filter fun s =>
    s.bundleName == b && decide (dayStart s.settle.wall < midnight)).map value).sum

/-- The days between two midnights, one by one. -/
theorem before_days (value : Session → Nat) (w : Ledger) (b : String) {midnight later : Nat}
    (order : midnight ≤ later) {days : List Nat} (nodup : days.Nodup)
    (between : ∀ d ∈ days, midnight ≤ d ∧ d < later)
    (cover : ∀ s ∈ w.closed, s.bundleName = b → midnight ≤ dayStart s.settle.wall →
      dayStart s.settle.wall < later → dayStart s.settle.wall ∈ days) :
    w.before dayStart value b later =
      w.before dayStart value b midnight + (days.map (w.onDay dayStart value b)).sum := by
  have split := Lib.sum_filter_split
    (fun s : Session => s.bundleName == b && decide (dayStart s.settle.wall < later))
    (fun s => decide (dayStart s.settle.wall < midnight)) value w.closed
  have old : (w.closed.filter fun s => (s.bundleName == b && decide (dayStart s.settle.wall < later)) &&
      decide (dayStart s.settle.wall < midnight)) =
      w.closed.filter fun s => s.bundleName == b && decide (dayStart s.settle.wall < midnight) := by
    apply List.filter_congr
    intro s _
    by_cases earlier : dayStart s.settle.wall < midnight
    · simp [earlier, lt_of_lt_of_le earlier order]
    · simp [earlier]
  have keys := Lib.sum_by_key nodup (fun s : Session => dayStart s.settle.wall) value
    (w.closed.filter fun s => (s.bundleName == b && decide (dayStart s.settle.wall < later)) &&
      !decide (dayStart s.settle.wall < midnight)) (by
    intro s member
    obtain ⟨here, test⟩ := List.mem_filter.1 member
    simp only [Bool.and_eq_true, beq_iff_eq, decide_eq_true_eq, Bool.not_eq_true',
      decide_eq_false_iff_not, not_lt] at test
    exact cover s here test.1.1 test.2 test.1.2)
  have each : ∀ d ∈ days, ((((w.closed.filter fun s =>
      (s.bundleName == b && decide (dayStart s.settle.wall < later)) &&
        !decide (dayStart s.settle.wall < midnight)).filter
        fun s => dayStart s.settle.wall == d)).map value).sum = w.onDay dayStart value b d := by
    intro d member
    obtain ⟨low, high⟩ := between d member
    rw [List.filter_filter, onDay]
    refine congrArg (fun l => (List.map value l).sum) (List.filter_congr fun s _ => ?_)
    by_cases same : dayStart s.settle.wall = d
    · simp [same, high, low]
    · simp [beq_eq_false_iff_ne.2 same]
  rw [before, split, old, ← keys, List.map_congr_left each]
  rfl

/-- A session that is settled on a day from `midnight` on. -/
theorem before_append (value : Session → Nat) {w : Ledger} {s : Session} {midnight : Nat}
    (later : midnight ≤ dayStart s.settle.wall) (current : Option (String × Tick)) (b : String) :
    before dayStart value { current := current, closed := w.closed ++ [s] } b midnight =
      w.before dayStart value b midnight := by
  simp [before, not_lt.2 later]

theorem onDay_append (value : Session → Nat) (w : Ledger) (s : Session)
    (current : Option (String × Tick)) (b : String) (d : Nat) :
    onDay dayStart value { current := current, closed := w.closed ++ [s] } b d =
      w.onDay dayStart value b d +
        if b = s.bundleName ∧ d = dayStart s.settle.wall then value s else 0 := by
  by_cases hit : b = s.bundleName ∧ d = dayStart s.settle.wall
  · obtain ⟨rfl, rfl⟩ := hit
    simp [onDay]
  · have miss : (s.bundleName == b && dayStart s.settle.wall == d) = false := by
      rw [Bool.eq_false_iff]
      intro both
      simp only [Bool.and_eq_true, beq_iff_eq] at both
      exact hit ⟨both.1.symm, both.2.symm⟩
    simp [onDay, miss, hit]

/-- No session lies on both sides of `midnight`: what was shown before it is what was
settled on the days before it. -/
theorem until_eq_before (w : Ledger) {midnight : Nat}
    (later : ∀ c start, w.current = some (c, start) → midnight ≤ start.wall)
    (side : ∀ s ∈ w.closed, (s.start.wall < midnight ↔ dayStart s.settle.wall < midnight) ∧
      s.shownUntil midnight = if dayStart s.settle.wall < midnight then s.time else 0)
    (b : String) :
    w.shownUntil b midnight = w.before dayStart Session.time b midnight ∧
      w.sessionsUntil b midnight = w.before dayStart (fun _ => 1) b midnight := by
  constructor
  · have none : (match w.current with
        | some (c, start) => if c = b then midnight - start.wall else 0
        | none => 0) = 0 := by
      split
      · rename_i c start current
        have began := later c start current
        split <;> omega
      · rfl
    rw [shownUntil, none, Nat.add_zero, before, Lib.sum_filter_and]
    refine congrArg List.sum (List.map_congr_left fun s member => ?_)
    rw [(side s (List.mem_filter.1 member).1).2]
    simp only [decide_eq_true_eq]
  · have none : (match w.current with
        | some (c, start) => if c = b ∧ start.wall < midnight then 1 else 0
        | none => 0) = 0 := by
      split
      · rename_i c start current
        have began := later c start current
        exact if_neg fun both => absurd both.2 (not_lt.2 began)
      · rfl
    rw [sessionsUntil, none, Nat.add_zero, before, List.map_const', List.sum_replicate,
      smul_eq_mul, Nat.mul_one]
    refine congrArg List.length (List.filter_congr fun s member => ?_)
    rw [decide_eq_decide.2 (side s member).1]

end Ledger

end Imf.Usage
