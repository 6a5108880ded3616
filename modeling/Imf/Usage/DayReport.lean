/-
# Imf.Usage.DayReport -- the report of one day is exact

The report of a period adds up the rows of the period for each bundle, and merges the part of the
session that is open, which it reads back from the raw rows.  For a day whose rows are those of a
`Journal` both channels together give every bundle the account of the day (`Journal.merged`), and
the report keeps the hundred bundles with the largest usage (`collectAndSortResults_spec`).
`day_report_exact` is the result over every log of a day.

The START row of a session is found again through an `int32_t`.  From id 2^31 on it is not found: its
rows stay in the store when the session ends, and the report counts the session twice
(`narrowed_start_counts_twice`).
-/
import Imf.Usage.DayBooks

namespace Imf.Usage

set_option autoImplicit false

open DataHelper
open Lib (timeWith)

/-! ## The largest usages -/

/-- **The report keeps the largest usages**, in descending order: all that are positive, or a hundred of
them such that none that is left out is larger than one that is kept. -/
theorem collectAndSortResults_spec (infos : List UsageInfo) :
    (collectAndSortResults infos).Pairwise (fun a b => a.usage ≥ b.usage) ∧
      (collectAndSortResults infos).length =
        min maxImeUsageSize (infos.filter fun info => decide (info.usage > 0)).length ∧
      (collectAndSortResults infos).Subperm (infos.filter fun info => decide (info.usage > 0)) ∧
      ∀ info ∈ infos, 0 < info.usage → info ∈ collectAndSortResults infos ∨
        ∀ kept ∈ collectAndSortResults infos, info.usage ≤ kept.usage := by
  let descending : UsageInfo → UsageInfo → Prop := fun a b => a.usage ≥ b.usage
  have : Std.Total descending := ⟨fun a b => Nat.le_total b.usage a.usage⟩
  have : IsTrans UsageInfo descending := ⟨fun a b c first second => Nat.le_trans second first⟩
  have sorted := List.pairwise_insertionSort descending
    (infos.filter fun info => decide (info.usage > 0))
  have perm := List.perm_insertionSort descending (infos.filter fun info => decide (info.usage > 0))
  have split := List.take_append_drop maxImeUsageSize
    ((infos.filter fun info => decide (info.usage > 0)).insertionSort descending)
  refine ⟨sorted.sublist (List.take_sublist _ _), ?_,
    (List.take_sublist _ _).subperm.trans perm.subperm,
    fun info member positive => ?_⟩
  · rw [collectAndSortResults, List.length_take, perm.length_eq]
  · have here := perm.mem_iff.2 (List.mem_filter.2 ⟨member, decide_eq_true positive⟩)
    rw [← split] at here sorted
    rcases List.mem_append.1 here with kept | omitted
    · exact .inl kept
    · exact .inr fun other kept => (List.pairwise_append.1 sorted).2.2 other kept info omitted

/-! ## The rows of a bundle -/

/-- The bookings of a bundle and its raw rows. -/
theorem sum_rowsOf {M : Type} [AddCommMonoid M] (value : EventRow → M) (b : String)
    (events : List EventRow) :
    ((rowsOf b events).map value).sum =
      ((countRows b events).map value).sum + ((rowsOf b (rawRows events)).map value).sum := by
  induction events with
  | nil => simp [rowsOf, countRows, rawRows]
  | cons row events ih =>
      simp only [rowsOf, countRows, rawRows] at ih ⊢
      by_cases mine : row.bundleName = b
      · by_cases count : row.rawid = .countDuration
        · simp [isRow, EventRow.isCount, mine, count, ih, add_assoc]
        · simp [isRow, EventRow.isCount, mine, count, ih, add_left_comm]
      · simp only [isRow, List.filter_cons, beq_iff_eq, mine, Bool.and_eq_true, false_and, if_false, ih]
        split
        · rw [List.filter_cons_of_neg (by simpa using mine)]
        · rfl

/-- The foreground channel reads raw rows alone. -/
theorem collectForegroundEvents_raw (b : String) (rows : List EventRow) :
    collectForegroundEvents b (rawRows rows) = collectForegroundEvents b rows := by
  induction rows with
  | nil => rfl
  | cons row rows ih =>
      by_cases count : row.rawid = .countDuration
      · rw [rawRows, List.filter_cons_of_neg (by simp [EventRow.isCount, count])]
        show collectForegroundEvents b (rawRows rows) = _
        rw [ih, collectForegroundEvents]
        simp [count]
      · rw [rawRows, List.filter_cons_of_pos (by simp [EventRow.isCount, count])]
        show collectForegroundEvents b (row :: rawRows rows) = _
        rw [collectForegroundEvents, collectForegroundEvents, ih]

/-- It reads the rows of an open session back, newest first. -/
theorem collectForegroundEvents_session {b : String} {start : EventRow} {statuses : List EventRow}
    (kind : start.rawid = .inputStart) (kinds : ∀ row ∈ statuses, row.rawid = .inputStatusChanged)
    (bundle : ∀ row ∈ start :: statuses, row.bundleName = b) :
    collectForegroundEvents b (start :: statuses).reverse =
      (start :: statuses).reverse.map toForeground := by
  have newestFirst : ∀ rows : List EventRow,
    (∀ row ∈ rows, row.rawid = .inputStatusChanged ∧ row.bundleName = b) →
      collectForegroundEvents b (rows ++ [start]) = (rows ++ [start]).map toForeground := by
    intro rows
    induction rows with
    | nil => simp [collectForegroundEvents, kind, bundle start (by simp)]
    | cons row rows ih =>
        intro all
        obtain ⟨status, mine⟩ := all row (by simp)
        rw [List.cons_append,
          List.map_cons, ← ih fun row member => all row (by simp [member]), collectForegroundEvents,
          if_neg (by simp [mine]), if_neg (by simp [status]), if_pos status]
  rw [List.reverse_cons]
  refine newestFirst _ fun row member => ?_
  have here := List.mem_reverse.1 member
  exact ⟨kinds row here, bundle row (by simp [here])⟩

/-! ## Both channels -/

/-- What a report at `till` should say of a bundle. -/
def Ledger.dayInfo (w : Ledger) (initial : Int) (changes : List (Nat × Int)) (till : Nat)
    (b : String) : UsageInfo :=
  let durations : DurationMap := fun i =>
    w.shownWith (fun status => screenStatusToIndex status = some i) initial changes b till
  { package := b, durations, showCount := w.sessions b, usage := DurationMap.total durations }

namespace Journal

section Report

variable {from_ offset : Nat} {initial : Int} {changes : List (Nat × Int)} {u : Recorder}
  {w : Ledger} {seen clock till : Nat}

/-- All the rows are of the day. -/
theorem inPeriod_all (journal : Journal from_ offset initial changes u w seen clock)
    (before : clock ≤ till) :
    ∀ row ∈ u.store.events, inPeriod from_ (till + offset) row = true := by
  intro row member
  have window := journal.window row member
  simp only [inPeriod, decide_eq_true_eq]
  omega

/-- The times of a day shorter than 2^32 ms fit. -/
theorem small (journal : Journal from_ offset initial changes u w seen clock) (before : clock ≤ till)
    (short : till + offset < from_ + 2 ^ 32) (p : Int → Prop) [DecidablePred p] (b : String) :
    w.shownWith p initial changes b till < 2 ^ 32 := by
  have closed : w.closedWith p initial changes b ≤ (w.closed.map Session.time).sum :=
    Ledger.closedWith_le w b
  have order := journal.order
  unfold Ledger.shownWith Ledger.openWith
  cases showing : u.cacher.isKeyboardShowing with
  | false =>
      have span := journal.span
      rw [(journal.idle showing).1]
      dsimp only
      omega
  | true =>
      obtain ⟨since, start, statuses, entry⟩ := journal.showing showing
      have span := entry.span
      have began := entry.began
      have inside := entry.tracks.since_le
      have most := Lib.timeWith_le p initial changes since.boot till
      rw [entry.current]
      dsimp only
      split <;> omega

theorem sessions_small (journal : Journal from_ offset initial changes u w seen clock) (b : String) :
    w.sessions b < 2 ^ 32 := by
  have few := journal.few
  have fewer := List.length_filter_le (fun s : Session => s.bundleName == b) w.closed
  have one : w.openSessions b ≤ 1 := by
    unfold Ledger.openSessions
    split
    · split <;> omega
    · omega
  unfold Ledger.sessions
  omega

/-- The raw rows of a bundle have no durations, and show it once when it is showing. -/
theorem raw_sums (journal : Journal from_ offset initial changes u w seen clock) (b : String) :
    ((rowsOf b (rawRows u.store.events)).map EventRow.durations).sum = 0 ∧
      ((rowsOf b (rawRows u.store.events)).map EventRow.shows).sum = w.openSessions b := by
  unfold Ledger.openSessions
  cases showing : u.cacher.isKeyboardShowing with
  | false =>
      obtain ⟨current, raw⟩ := journal.idle showing
      simp [current, raw, rowsOf]
  | true =>
      obtain ⟨since, start, statuses, entry⟩ := journal.showing showing
      rw [entry.current, entry.raw]
      dsimp only
      by_cases same : u.cacher.currentImeBundle = b
      · have all : rowsOf b (start :: statuses) = start :: statuses :=
          List.filter_eq_self.2 fun row member => by simp [entry.session.bundle row member, same]
        have once : start.shows = 1 := by simp [EventRow.shows, entry.session.started]
        have none : ∀ row ∈ statuses, row.shows = 0 := by
          intro row member
          simp [EventRow.shows, (entry.session.changed row member).1]
        rw [all, if_pos same]
        constructor
        · rw [List.map_congr_left entry.segmented.nothing]
          simp
        · rw [List.map_cons, once, List.map_congr_left none]
          simp
      · have nothing : rowsOf b (start :: statuses) = [] :=
          List.filter_eq_nil_iff.2 fun row member => by simp [entry.session.bundle row member, same]
        rw [nothing, if_neg same]
        exact ⟨rfl, rfl⟩

/-- The statistic channel: the closed sessions, and the number of all. -/
theorem statistic (journal : Journal from_ offset initial changes u w seen clock)
    (before : clock ≤ till) (short : till + offset < from_ + 2 ^ 32) :
    u.store.queryStatisticEventsInPeriod from_ (till + offset) =
      (u.store.events.map EventRow.bundleName).dedup.map fun b =>
        { package := b, durations := booked b u.store.events, showCount := w.sessions b,
          usage := DurationMap.total (booked b u.store.events) } := by
  have all : u.store.events.filter (inPeriod from_ (till + offset)) = u.store.events :=
    List.filter_eq_self.2 (journal.inPeriod_all before)
  unfold queryStatisticEventsInPeriod
  rw [if_neg (by simp [journal.store.ready])]
  dsimp only
  rw [all]
  refine List.map_congr_left fun b _ => ?_
  have counted : (countRows b u.store.events).map EventRow.shows =
    (countRows b u.store.events).map EventRow.showCount := by
    refine List.map_congr_left fun row member => ?_
    have hit := (List.mem_filter.1 member).2
    simp only [isRow, Bool.and_eq_true, beq_iff_eq] at hit
    rw [EventRow.shows, hit.2]
    rfl
  have durations := sum_rowsOf EventRow.durations b u.store.events
  have shows := sum_rowsOf EventRow.shows b u.store.events
  rw [(journal.raw_sums b).1, add_zero] at durations
  rw [(journal.raw_sums b).2, counted] at shows
  have shows : ((rowsOf b u.store.events).map EventRow.shows).sum = w.sessions b := by
    rw [shows, Ledger.sessions, ← journal.shows b, bookedShows]
  have fits : (fun i =>
    toUInt32 ((0 : DurationMap) i + ((rowsOf b u.store.events).map EventRow.durations).sum i)) =
      booked b u.store.events := by
    funext i
    have bound := journal.small before short (fun status => screenStatusToIndex status = some i) b
    have closed := journal.durations b i
    rw [Pi.zero_apply, Nat.zero_add, durations]
    refine toUInt32_eq (?_ : booked b u.store.events i < 2 ^ 32)
    rw [closed]
    exact lt_of_le_of_lt (Nat.le_add_right _ _) bound
  rw [show (u.store.events.filter fun row => row.bundleName == b) = rowsOf b u.store.events from rfl,
    foldl_addRow _ (fun i => by simp) (by simp), fits, shows, Nat.zero_add,
    toUInt32_eq (journal.sessions_small b)]
  rfl

/-- The foreground channel reads the rows of the session that is open, the newest first. -/
theorem collected (journal : Journal from_ offset initial changes u w seen clock)
    (before : clock ≤ till) {since : Tick} {start : EventRow} {statuses : List EventRow}
    (entry : OpenEntry from_ offset initial changes u w seen since start statuses) :
    collectForegroundEvents u.cacher.currentImeBundle
      (u.store.events.reverse.filter fun row =>
        row.bundleName == u.cacher.currentImeBundle && inPeriod from_ (till + offset) row) =
      (start :: statuses).reverse.map toForeground := by
  have mine : rawRows (u.store.events.reverse.filter fun row =>
      row.bundleName == u.cacher.currentImeBundle && inPeriod from_ (till + offset) row) =
      (start :: statuses).reverse := by
    rw [← entry.raw, rawRows, rawRows, List.filter_filter, ← List.filter_reverse]
    refine List.filter_congr fun row member => ?_
    have here := List.mem_reverse.1 member
    cases count : row.isCount with
    | true => rfl
    | false =>
        have raw : row ∈ start :: statuses := by
          rw [← entry.raw]
          exact List.mem_filter.2 ⟨here, by simp [count]⟩
        simp [journal.inPeriod_all before row here, entry.session.bundle row raw]
  rw [← collectForegroundEvents_raw, mine]
  exact collectForegroundEvents_session entry.session.started
    (fun row member => (entry.session.changed row member).1)
    entry.session.bundle

/-- The foreground channel: the segments of the session that is open, up to the end. -/
theorem foreground (journal : Journal from_ offset initial changes u w seen clock)
    (before : clock ≤ till)
    (short : till + offset < from_ + 2 ^ 32) {since : Tick} {start : EventRow}
    {statuses : List EventRow}
    (entry : OpenEntry from_ offset initial changes u w seen since start statuses)
    (screenStatus : Int) :
    u.store.queryForegroundImeInfo from_ (till + offset) screenStatus
      { package := u.cacher.currentImeBundle } =
      { package := u.cacher.currentImeBundle, durations := u.cacher.closeSegment till } := by
  have later : seen ≤ till := journal.order.trans before
  have began := entry.began
  have within := entry.tracks.began
  have past := entry.tracks.past
  have segment := entry.segmented.segment entry.tracks.ready (entry.small later short)
  obtain ⟨newest, older, reversed, -, happenTime, status⟩ := entry.segmented.newest
  have oldest : ((newest :: older).map toForeground).getLast? = some (toForeground start) := by
    rw [← reversed]
    simp
  have last : (if newest.happenTime < till + offset then
    toUInt32 (till + offset - newest.happenTime) else 0) =
      till - u.cacher.segmentStartBootTime := by
    rw [happenTime, narrowed_sub (by omega)]
    omega
  have kind : (toForeground start).rawId ≠ .inputStatusChanged := by
    rw [show (toForeground start).rawId = start.rawid from rfl, entry.session.started]
    rintro ⟨⟩
  unfold queryForegroundImeInfo
  rw [if_neg (by simp [journal.store.ready])]
  dsimp only
  rw [journal.collected before entry, reversed]
  unfold calculateForegroundDuration
  rw [oldest]
  simp only [List.map_cons, if_neg kind]
  rw [← List.map_cons, ← reversed]
  show (foregroundPairs _ _).addDuration newest.screenStatus
    (if newest.happenTime < till + offset then toUInt32 (till + offset - newest.happenTime) else 0) = _
  rw [last, status]
  exact segment

/-- A bundle that is not showing has been shown as it is booked. -/
theorem booked_shown (journal : Journal from_ offset initial changes u w seen clock) {b : String}
    (hidden : ∀ since, w.current ≠ some (b, since)) (till : Nat) :
    booked b u.store.events =
      fun i => w.shownWith
        (fun status => screenStatusToIndex status = some i) initial changes b till := by
  funext i
  rw [journal.durations b i, Ledger.shownWith, Ledger.openWith]
  split
  · rename_i c since current
    rw [if_neg fun same : c = b => hidden since (same ▸ current), Nat.add_zero]
  · rfl

/-- The last row is one of the session that is open. -/
theorem finalEvent (journal : Journal from_ offset initial changes u w seen clock)
    (before : clock ≤ till) {since : Tick} {start : EventRow} {statuses : List EventRow}
    (entry : OpenEntry from_ offset initial changes u w seen since start statuses) :
    ((u.store.queryFinalEventInfo (till + offset)).rawId = .inputStart ∨
        (u.store.queryFinalEventInfo (till + offset)).rawId = .inputStatusChanged) ∧
      (u.store.queryFinalEventInfo (till + offset)).package = u.cacher.currentImeBundle ∧
      u.cacher.currentImeBundle ∈ (u.store.events.map EventRow.bundleName).dedup := by
  obtain ⟨rows, last, events, member, -⟩ := entry.session.last
  have early : last.happenTime ≤ till + offset := by
    have window := journal.window last (by simp [events])
    omega
  have found : Lib.findLast? (fun row => decide (row.happenTime ≤ till + offset)) u.store.events =
    some last := by
    rw [events]
    exact Lib.findLast?_append_of_match rows (by simpa using early)
  have package : last.bundleName = u.cacher.currentImeBundle := entry.session.bundle last member
  rw [queryFinalEventInfo, if_neg (by simp [journal.store.ready]), found]
  refine ⟨?_, package, ?_⟩
  · rcases List.mem_cons.1 member with rfl | later
    · exact .inl entry.session.started
    · exact .inr (entry.session.changed last later).1
  · rw [List.mem_dedup, ← package]
    exact List.mem_map_of_mem (by simp [events])

/-- A bundle that is showing has been shown as it is booked and as its session has lasted. -/
theorem booked_open (journal : Journal from_ offset initial changes u w seen clock)
    (before : clock ≤ till) {since : Tick} {start : EventRow} {statuses : List EventRow}
    (entry : OpenEntry from_ offset initial changes u w seen since start statuses)
    (i : Fin durationCount) :
    booked u.cacher.currentImeBundle u.store.events i + u.cacher.closeSegment till i =
      w.shownWith (fun status => screenStatusToIndex status = some i) initial changes
        u.cacher.currentImeBundle till := by
  rw [journal.durations _ i, entry.tracks.closed till (journal.order.trans before) i, Ledger.shownWith,
    Ledger.openWith, entry.current]
  exact congrArg _ (if_pos rfl).symm

/-- **Both channels together give every bundle its account.** -/
theorem merged (journal : Journal from_ offset initial changes u w seen clock) (before : clock ≤ till)
    (short : till + offset < from_ + 2 ^ 32) :
    u.store.mergeForegroundInfo (u.store.queryStatisticEventsInPeriod from_ (till + offset)) from_
      (till + offset) =
      (u.store.events.map EventRow.bundleName).dedup.map (w.dayInfo initial changes till) := by
  rw [journal.statistic before short]
  cases showing : u.cacher.isKeyboardShowing with
  | false =>
      obtain ⟨current, raw⟩ := journal.idle showing
      have counts : ∀ row ∈ u.store.events,
        row.happenTime ≤ till + offset → row.rawid = .countDuration := by
        intro row member _
        by_contra other
        have here : row ∈ rawRows u.store.events :=
          List.mem_filter.2 ⟨member, by simpa [EventRow.isCount] using other⟩
        rw [raw] at here
        cases here
      rw [mergeForegroundInfo_none counts]
      refine List.map_congr_left fun b _ => ?_
      rw [journal.booked_shown (by simp [current]) till]
      rfl
  | true =>
      obtain ⟨since, start, statuses, entry⟩ := journal.showing showing
      obtain ⟨kind, package, listed⟩ := journal.finalEvent before entry
      unfold mergeForegroundInfo
      dsimp only
      rw [if_neg fun both => kind.elim both.1 both.2, package, journal.foreground before short entry,
        if_pos (List.any_eq_true.2 ⟨_, List.mem_map_of_mem listed, by simp⟩), List.map_map]
      refine List.map_congr_left fun b _ => ?_
      dsimp only [Function.comp_apply]
      by_cases same : b = u.cacher.currentImeBundle
      · rw [if_pos same]
        subst same
        simp only [UsageInfo.add, Ledger.dayInfo, journal.booked_open before entry,
          toUInt32_eq (journal.small before short _ _), Nat.add_zero,
          toUInt32_eq (journal.sessions_small _)]
      · rw [if_neg same]
        rw [journal.booked_shown (by simp [entry.current, Ne.symm same]) till]
        rfl

/-- A bundle with a usage has a row. -/
theorem listed (journal : Journal from_ offset initial changes u w seen clock) {b : String}
    (used : 0 < (w.dayInfo initial changes till b).usage) :
    b ∈ u.store.events.map EventRow.bundleName := by
  by_contra absent
  have others : ∀ row ∈ u.store.events,
    row.bundleName ≠ b := fun row member same => absent (same ▸ List.mem_map_of_mem member)
  have hidden : ∀ since, w.current ≠ some (b, since) := by
    intro since current
    obtain ⟨showing, same⟩ := (journal.is_current b).1 (by rw [current]; rfl)
    obtain ⟨_, start, statuses, entry⟩ := journal.showing showing
    exact others start (mem_of_raw entry.raw) ((entry.session.bundle start (by simp)).trans same)
  have none : countRows b u.store.events = [] := by
    refine List.filter_eq_nil_iff.2 fun row member hit => ?_
    simp only [isRow, Bool.and_eq_true, beq_iff_eq] at hit
    exact others row member hit.1
  have shown := journal.booked_shown hidden till
  simp only [Ledger.dayInfo, ← shown, booked, none, List.map_nil, List.sum_nil,
    DurationMap.total_zero] at used
  exact absurd used (by decide)

end Report

end Journal

/-- A bundle with a usage was shown. -/
theorem Ledger.mem_bundles {w : Ledger} {initial : Int} {changes : List (Nat × Int)}
    {till : Nat} {b : String}
    (used : 0 < (w.dayInfo initial changes till b).usage) : b ∈ w.bundles := by
  by_contra absent
  simp only [bundles, List.mem_dedup, List.mem_append, not_or] at absent
  have closed : (w.closed.filter fun s => s.bundleName == b) = [] := by
    refine List.filter_eq_nil_iff.2 fun s member same => absent.1 ?_
    exact beq_iff_eq.1 same ▸ List.mem_map_of_mem member
  have nothing : ∀ i, w.shownWith
    (fun status => screenStatusToIndex status = some i) initial changes b till = 0 := by
    intro i
    unfold shownWith closedWith openWith
    rw [closed]
    split
    · rename_i c since current
      rw [if_neg fun same => absent.2 (by simp [current, same])]
      rfl
    · rfl
  have zero : (w.dayInfo initial changes till b).usage = 0 := by
    simp [dayInfo, nothing, DurationMap.total]
  omega

/-- The time in a bucket is the time with its status. -/
theorem Ledger.shownWith_status (w : Ledger) (initial : Int) (changes : List (Nat × Int))
    (b : String) (till : Nat)
    {status : Int} {i : Fin durationCount} (index : screenStatusToIndex status = some i) :
    w.shownWith (fun status => screenStatusToIndex status = some i) initial changes b till =
      w.shownWith (· = status) initial changes b till := by
  have same : ∀ since now,
    timeWith (fun status => screenStatusToIndex status = some i) initial changes since now =
      timeWith (· = status) initial changes since now := fun since now =>
        Lib.timeWith_congr fun x _ _ =>
    ⟨fun there => screenStatusToIndex_injective there index, fun same => same ▸ index⟩
  simp only [shownWith, closedWith, openWith, same]

/-! ## The report of a day -/

/-- **The report of a day is exact.**  From an empty store, for every log of sequential calls
between `S` and `E` in which the START row of every session that is closed has an id below 2^31:
what is reported of a bundle is, for every status, the time it was shown with that status, the
session that is open counted up to `E`, with the number of its sessions; the bundles reported are
those with a positive usage or a hundred of the largest, in descending order. -/
theorem day_report_exact {u : Recorder} (ready : u.store.ready = true) (empty : u.store.events = [])
    (next : 0 ≤ u.store.nextId) (idle : u.cacher.isKeyboardShowing = false) {calls : List Call}
    {S E offset till : Nat} (wall : E = till + offset) (short : E - S < 2 ^ 32)
    (logged : Lib.Meets Recorder.step (fun u call => call.Logged u) u calls)
    (fits : Lib.Meets Recorder.step (fun u call => call.StartFits u) u calls)
    (clocks : ∀ call ∈ calls, ∀ t ∈ call.ticks, t.OfDay S offset)
    (ticking : (calls.flatMap Call.boots ++ [till]).Pairwise (· ≤ ·)) :
    let initial := u.cacher.getScreenStatus
    let changes := calls.flatMap Call.told
    let w := Lib.run Ledger.call {} calls
    let usage := fun b => (w.dayInfo initial changes till b).usage
    let infos := (Lib.run Recorder.step u calls).store.getUsageInfo S E
    (∀ info ∈ infos,
        (∀ status i, screenStatusToIndex status = some i →
          info.durations i = w.shownWith (· = status) initial changes info.package till) ∧
        info.showCount = w.sessions info.package ∧ info.usage = usage info.package ∧ 0 < info.usage) ∧
      (infos.map UsageInfo.package).Nodup ∧ infos.Pairwise (fun a b => a.usage ≥ b.usage) ∧
      infos.length = min maxImeUsageSize (w.bundles.filter fun b => decide (usage b > 0)).length ∧
      ∀ b, 0 < usage b → b ∈ infos.map UsageInfo.package ∨ ∀ info ∈ infos, usage b ≤ info.usage := by
  intro initial changes w usage infos
  subst wall
  obtain ⟨seen, clock, journal, before⟩ :=
    (Journal.empty ready empty next idle S offset).run logged fits clocks
    (List.pairwise_cons.2 ⟨fun _ _ => Nat.zero_le _, ticking⟩) (by omega)
  rw [List.nil_append] at journal
  have merged := journal.merged before (by omega)
  let v := Lib.run Recorder.step u calls
  obtain ⟨sorted, length, kept, largest⟩ := collectAndSortResults_spec
    (v.store.mergeForegroundInfo (v.store.queryStatisticEventsInPeriod S (till + offset)) S
      (till + offset))
  change infos.Pairwise _ at sorted
  change infos.length = _ at length
  change infos.Subperm _ at kept
  change ∀ info ∈ _, _ → info ∈ infos ∨ ∀ kept ∈ infos, info.usage ≤ kept.usage at largest
  rw [merged] at length kept largest
  have nodup := List.nodup_dedup (v.store.events.map EventRow.bundleName)
  have reported : ∀ info ∈ infos,
    0 < info.usage ∧ info = w.dayInfo initial changes till info.package := by
    intro info member
    obtain ⟨here, positive⟩ := List.mem_filter.1 (kept.subset member)
    obtain ⟨b, -, rfl⟩ := List.mem_map.1 here
    exact ⟨of_decide_eq_true positive, rfl⟩
  refine ⟨fun info member => ?_, ?_, sorted, ?_, fun b used => ?_⟩
  · obtain ⟨positive, same⟩ := reported info member
    refine ⟨fun status i index => ?_, congrArg UsageInfo.showCount same,
      congrArg UsageInfo.usage same, positive⟩
    exact (congrFun (congrArg UsageInfo.durations same) i).trans
      (w.shownWith_status initial changes info.package till index)
  · obtain ⟨chosen, perm, fewer⟩ := kept
    refine (perm.map UsageInfo.package).nodup_iff.1 ?_
    refine List.Nodup.sublist ((fewer.trans List.filter_sublist).map UsageInfo.package) ?_
    rw [List.map_map]
    exact (List.map_id _).symm ▸ nodup
  · rw [length, List.filter_map, List.length_map]
    refine congrArg (min maxImeUsageSize) ?_
    refine List.Perm.length_eq
      ((List.perm_ext_iff_of_nodup (nodup.filter _) ((List.nodup_dedup _).filter _)).2 fun b => ?_)
    simp only [List.mem_filter, Function.comp_apply, decide_eq_true_eq]
    exact ⟨fun ⟨_, used⟩ => ⟨Ledger.mem_bundles used, used⟩, fun ⟨_, used⟩ =>
      ⟨List.mem_dedup.2 (journal.listed used), used⟩⟩
  · rcases largest _ (List.mem_map_of_mem (List.mem_dedup.2 (journal.listed used))) used
      with member | smaller
    · exact .inl (List.mem_map.2 ⟨_, member, rfl⟩)
    · exact .inr smaller

/-! ## Poles -/

/-- Two IMEs on a device that is turned, the first of them shown again at the end. -/
def turnedDay : List Call :=
  [.bind "a" (.at 10) {} true, .screen 12 11 (.at 30) true, .bind "b" (.at 50) {} true,
    .unbind "b" (.at 90) {},
    .screen 11 12 (.at 95) true, .bind "a" (.at 100) {} true, .screen 12 11 (.at 160) true]

theorem turned_day_reported :
    let changes := turnedDay.flatMap Call.told
    let w := Lib.run Ledger.call {} turnedDay
    let usage := fun b => (w.dayInfo 12 changes 200 b).usage
    let infos := (Lib.run Recorder.step .fresh turnedDay).store.getUsageInfo 0 200
    (∀ info ∈ infos,
        (∀ status i, screenStatusToIndex status = some i →
          info.durations i = w.shownWith (· = status) 12 changes info.package 200) ∧
        info.showCount = w.sessions info.package ∧ info.usage = usage info.package ∧ 0 < info.usage) ∧
      (infos.map UsageInfo.package).Nodup ∧ infos.Pairwise (fun a b => a.usage ≥ b.usage) ∧
      infos.length = min maxImeUsageSize (w.bundles.filter fun b => decide (usage b > 0)).length ∧
      ∀ b, 0 < usage b → b ∈ infos.map UsageInfo.package ∨ ∀ info ∈ infos, usage b ≤ info.usage :=
  @day_report_exact .fresh rfl rfl (by decide) rfl turnedDay 0 200 0 200 rfl (by decide)
    (by decide +kernel) (by decide +kernel)
    (by decide) (by decide)

/-- A recorder whose store has given out 2^31 - 1 ids and holds no rows any more. -/
def Recorder.longUsed : Recorder := { cacher := .init 1 2, store := { nextId := 2 ^ 31 } }

/-- Its next session, closed after 100 ms: the START row is not found, stays in the store, and is
counted as a second session. -/
theorem narrowed_start_counts_twice :
    let calls : List Call := [.bind "a" (.at 0) {} true, .unbind "a" (.at 100) {}]
    let infos := (Lib.run Recorder.step .longUsed calls).store.getUsageInfo 0 200
    Lib.Meets Recorder.step (fun u call => call.Logged u) .longUsed calls ∧
      (∀ call ∈ calls, ∀ t ∈ call.ticks, t.OfDay 0 0) ∧
        (calls.flatMap Call.boots ++ [200]).Pairwise (· ≤ ·) ∧
      (infos.map fun info => (info.package, info.showCount)) = [("a", 2)] ∧
      (Lib.run Ledger.call {} calls).sessions "a" = 1 := by
  refine ⟨?_, ?_, ?_, ?_, ?_⟩ <;> decide +kernel

end Imf.Usage
