/-
# Imf.Events.Listeners -- who has asked for which events

An application registers listeners for any of five events.  Its `ImeEventMonitorManagerImpl`
keeps the listeners by the bit of their event; the service keeps, for each user, one entry a
process (`ImeEventListenerManager`) whose flag holds the bits of all events the process
listens to.  A notification of the service goes to the processes whose flag has the bit, and
in the process to the listeners of the bit.

A registration sends the new flag first and is entered after the service has taken it; what
is removed is removed first, and stays removed when the service does not hear of it.

* `mem_getListeners_insertAll`, `mem_getListeners_eraseAll`: what entering and removing change;
* `lookup_updateVec`: what an update leaves of every process.
-/
import Imf.Lib.EntryMap

namespace Imf.Events

set_option autoImplicit false

open Imf.Lib

/-! ## Flags -/

inductive ImeEvent where
  | imeChange
  | imeShow
  | imeHide
  | inputStatusChanged
  | softKeyboardInfoChanged
  deriving DecidableEq, Repr

def eventImeChangeMask : UInt32 := 1
def eventImeShowMask : UInt32 := 1 <<< (1 : UInt32)
def eventImeHideMask : UInt32 := 1 <<< (2 : UInt32)
def eventInputStatusChangedMask : UInt32 := 1 <<< (3 : UInt32)
def eventSoftKeyboardInfoChangedMask : UInt32 := 1 <<< (4 : UInt32)

def allEventMask : UInt32 :=
  eventImeChangeMask ||| eventImeShowMask ||| eventImeHideMask ||| eventInputStatusChangedMask |||
    eventSoftKeyboardInfoChangedMask

namespace ImeEvent

def all : List ImeEvent := [imeChange, imeShow, imeHide, inputStatusChanged, softKeyboardInfoChanged]

def mask : ImeEvent → UInt32
  | imeChange => eventImeChangeMask
  | imeShow => eventImeShowMask
  | imeHide => eventImeHideMask
  | inputStatusChanged => eventInputStatusChangedMask
  | softKeyboardInfoChanged => eventSoftKeyboardInfoChangedMask

/-- The position of the bit. -/
def bit : ImeEvent → Nat
  | imeChange => 0
  | imeShow => 1
  | imeHide => 2
  | inputStatusChanged => 3
  | softKeyboardInfoChanged => 4

end ImeEvent

/-- The five queries of `EventStatusManager` differ in their mask alone. -/
def isEventOn (mask eventFlag : UInt32) : Bool := eventFlag &&& mask == mask

def isImeShowOn : UInt32 → Bool := isEventOn eventImeShowMask
def isImeChangeOn : UInt32 → Bool := isEventOn eventImeChangeMask
def isImeHideOn : UInt32 → Bool := isEventOn eventImeHideMask
def isSoftKeyboardInfoChangedOn : UInt32 → Bool := isEventOn eventSoftKeyboardInfoChangedMask
def isInputStatusChangedOn : UInt32 → Bool := isEventOn eventInputStatusChangedMask

/-- The flag has the bit of the event. -/
def On (eventFlag : UInt32) (event : ImeEvent) : Prop := isEventOn event.mask eventFlag = true

instance (eventFlag : UInt32) (event : ImeEvent) : Decidable (On eventFlag event) :=
  inferInstanceAs (Decidable (_ = true))

theorem mask_toBitVec (event : ImeEvent) : event.mask.toBitVec = BitVec.twoPow 32 event.bit := by
  cases event <;> rfl

/-- The five masks are single bits, so what is on is read bit by bit. -/
theorem on_iff_bit {eventFlag : UInt32} {event : ImeEvent} :
    On eventFlag event ↔ eventFlag.toBitVec.getLsbD event.bit = true := by
  unfold On isEventOn
  rw [beq_iff_eq, ← UInt32.toBitVec_inj, UInt32.toBitVec_and, mask_toBitVec, BitVec.and_twoPow]
  cases eventFlag.toBitVec.getLsbD event.bit with
  | true => simp
  | false => cases event <;> decide

@[simp] theorem on_or {a b : UInt32} {event : ImeEvent} : On (a ||| b) event ↔ On a event ∨
    On b event := by
  simp only [on_iff_bit, UInt32.toBitVec_or, BitVec.getLsbD_or, Bool.or_eq_true]

@[simp] theorem on_and {a b : UInt32} {event : ImeEvent} : On (a &&& b) event ↔ On a event ∧
    On b event := by
  simp only [on_iff_bit, UInt32.toBitVec_and, BitVec.getLsbD_and, Bool.and_eq_true]

@[simp] theorem not_on_zero (event : ImeEvent) : ¬ On 0 event := by cases event <;> decide

@[simp] theorem on_allEventMask (event : ImeEvent) : On allEventMask event := by cases event <;> decide

theorem on_mask {event other : ImeEvent} : On other.mask event ↔ event = other := by
  cases event <;> cases other <;> decide

/-- The mask of an event is what the flag has of it. -/
theorem and_mask (eventFlag : UInt32) (event : ImeEvent) :
    eventFlag &&& event.mask = if On eventFlag event then event.mask else 0 := by
  rw [← UInt32.toBitVec_inj, UInt32.toBitVec_and, mask_toBitVec, BitVec.and_twoPow,
    apply_ite UInt32.toBitVec,
    mask_toBitVec]
  simp only [on_iff_bit]
  rfl

theorem mask_ne_zero (event : ImeEvent) : event.mask ≠ 0 := by cases event <;> decide

theorem mask_injective {event other : ImeEvent} (same : event.mask = other.mask) : event = other := by
  rw [← on_mask, ← same, on_mask]

/-! ## The service -/

/-- An entry of the service: the flag of a process, the object it is called back through (null when
the client could not make one) and its pid.  -/
structure ImeEventListenerInfo where
  eventFlag : UInt32
  client : Option Nat
  pid : Nat
  deriving DecidableEq, Repr

def ImeEventListenerInfo.setFlag (eventFlag : UInt32) (listener : ImeEventListenerInfo) :
    ImeEventListenerInfo :=
  { listener with eventFlag := eventFlag }

@[simp] theorem setFlag_pid (eventFlag : UInt32) (listener : ImeEventListenerInfo) :
    (listener.setFlag eventFlag).pid = listener.pid := rfl

abbrev ImeEventListeners := EntryMap Int32 (List ImeEventListenerInfo)

/-- What an update makes of the vector of the user. -/
def updateVec (vec : List ImeEventListenerInfo) (info : ImeEventListenerInfo) :
    List ImeEventListenerInfo :=
  if vec.any fun listener => decide (listener.pid = info.pid) then
    let updated := modifyFirst (fun listener => decide (listener.pid = info.pid))
      (.setFlag info.eventFlag) vec
    if info.eventFlag = 0 then updated.eraseP fun listener =>
      decide (listener.pid = info.pid) else updated
  else vec ++ [info]

/-- `UpdateListenerInfo`.  `operator[]` makes the vector of the user; an empty one is erased again. -/
def updateListenerInfo (registry : ImeEventListeners) (userId : Int32) (info : ImeEventListenerInfo) :
    ImeEventListeners :=
  (registry.insert userId []).alter userId fun vec =>
    let updated := updateVec vec info
    if updated.isEmpty then none else some updated

/-- `GetListenerInfo`: those of the user, then those of user 0. -/
def getListenerInfo (registry : ImeEventListeners) (userId : Int32) : List ImeEventListenerInfo :=
  let own := (registry.find userId).getD []
  if userId = 0 then own else own ++ (registry.find 0).getD []

/-- `OnListenerDied`: the first entry of the user with the object that died. -/
def onListenerDied (registry : ImeEventListeners) (userId : Int32) (remote : Nat) : ImeEventListeners :=
  registry.alter userId fun vec =>
    if vec.any fun listener => decide (listener.client = some remote) then
      let left := vec.eraseP fun listener => decide (listener.client = some remote)
      if left.isEmpty then none else some left
    else some vec

/-- The objects that a notification calls, in the order in which it calls them. -/
def notify (isOn : UInt32 → Bool) (registry : ImeEventListeners) (userId : Int32) : List Nat :=
  (getListenerInfo registry userId).filterMap fun listener =>
    if isOn listener.eventFlag then listener.client else none

def notifyImeChange := notify isImeChangeOn
def notifyInputStart := notify isInputStatusChangedOn
def notifyInputStop := notify isInputStatusChangedOn
def notifySoftKeyBoardInfoChanged := notify isSoftKeyboardInfoChangedOn

inductive InputWindowStatus where
  | show
  | hide
  deriving DecidableEq, Repr

/-- `NotifyPanelStatusChange` skips what has not the event of the status. -/
def notifyPanelStatusChange (status : InputWindowStatus) :=
  notify fun eventFlag =>
    !((status = .show && !isImeShowOn eventFlag) || (status = .hide && !isImeHideOn eventFlag))

inductive Notification where
  | imeChange
  | inputStart
  | inputStop
  | softKeyBoardInfoChanged
  | panelStatusChange (status : InputWindowStatus)
  deriving DecidableEq, Repr

namespace Notification

/-- What the service calls. -/
def send : Notification → ImeEventListeners → Int32 → List Nat
  | imeChange => notifyImeChange
  | inputStart => notifyInputStart
  | inputStop => notifyInputStop
  | softKeyBoardInfoChanged => notifySoftKeyBoardInfoChanged
  | panelStatusChange status => notifyPanelStatusChange status

/-- Whose listeners the application calls when it is called. -/
def event : Notification → ImeEvent
  | imeChange => .imeChange
  | inputStart => .inputStatusChanged
  | inputStop => .inputStatusChanged
  | softKeyBoardInfoChanged => .softKeyboardInfoChanged
  | panelStatusChange .show => .imeShow
  | panelStatusChange .hide => .imeHide

theorem send_eq (notification : Notification) :
    notification.send = notify (isEventOn notification.event.mask) := by
  cases notification with
  | panelStatusChange status =>
      have same : ∀ eventFlag, (!((status = .show && !isImeShowOn eventFlag) ||
          (status = .hide && !isImeHideOn eventFlag))) =
            isEventOn (panelStatusChange status).event.mask eventFlag := by
        intro eventFlag
        cases status
        · simp [event, ImeEvent.mask, isImeShowOn]
        · simp [event, ImeEvent.mask, isImeHideOn]
      show notifyPanelStatusChange status = _
      unfold notifyPanelStatusChange
      exact congrArg notify (funext same)
  | _ => rfl

end Notification

/-! ### The vector of a user -/

section Registry

variable {registry : ImeEventListeners} {userId : Int32} {info : ImeEventListenerInfo}

/-- The entries of a user. -/
def entries (registry : ImeEventListeners) (userId : Int32) : List ImeEventListenerInfo :=
  (registry.find userId).getD []

theorem updateVec_ne_nil_or (vec : List ImeEventListenerInfo) (info : ImeEventListenerInfo) :
    (if (updateVec vec info).isEmpty then none else some (updateVec vec info)).getD [] =
      updateVec vec info := by
  split
  · rename_i empty
    exact (List.isEmpty_iff.1 empty).symm
  · rfl

/-- An update changes the vector of its user and no other. -/
theorem entries_updateListenerInfo (v : Int32) :
    entries (updateListenerInfo registry userId info) v =
      if v = userId then updateVec (entries registry userId) info else entries registry v := by
  unfold entries updateListenerInfo
  rw [EntryMap.find_alter, EntryMap.find_insert]
  split
  · rename_i same
    subst same
    rw [Option.bind_some]
    exact updateVec_ne_nil_or _ _
  · rfl

theorem entries_onListenerDied (remote : Nat) (v : Int32) :
    entries (onListenerDied registry userId remote) v =
      if v = userId then (entries registry userId).eraseP fun listener =>
        decide (listener.client = some remote)
      else entries registry v := by
  unfold entries onListenerDied
  rw [EntryMap.find_alter]
  split
  · rename_i same
    subst same
    cases registry.find v with
    | none => rfl
    | some vec =>
        rw [Option.bind_some, Option.getD_some]
        dsimp only
        split
        · split
          · rename_i empty
            exact (List.isEmpty_iff.1 empty).symm
          · rfl
        · rename_i absent
          refine (List.eraseP_of_forall_not fun listener inside is => absent ?_).symm
          exact List.any_eq_true.2 ⟨listener, inside, is⟩
  · rfl

/-- No update leaves an empty vector behind. -/
theorem updateListenerInfo_filled (filled : ∀ v, registry.find v ≠ some []) (v : Int32) :
    (updateListenerInfo registry userId info).find v ≠ some [] := by
  unfold updateListenerInfo
  rw [EntryMap.find_alter, EntryMap.find_insert]
  split
  · rw [Option.bind_some]
    dsimp only
    split
    · simp
    · rename_i some
      exact fun empty => some (List.isEmpty_iff.2 (Option.some.inj empty))
  · exact filled v

theorem onListenerDied_filled (filled : ∀ v, registry.find v ≠ some []) (remote : Nat) (v : Int32) :
    (onListenerDied registry userId remote).find v ≠ some [] := by
  unfold onListenerDied
  rw [EntryMap.find_alter]
  split
  · intro empty
    obtain ⟨vec, found, left⟩ := Option.bind_eq_some_iff.1 empty
    dsimp only at left
    split at left
    · split at left
      · cases left
      · rename_i some
        exact some (List.isEmpty_iff.2 (Option.some.inj left))
    · exact filled v (found.trans left)
  · exact filled v

theorem setFlag_distinct {vec : List ImeEventListenerInfo}
    (distinct : (vec.map ImeEventListenerInfo.pid).Nodup) :
    ((modifyFirst (fun listener => decide (listener.pid = info.pid)) (.setFlag info.eventFlag) vec).map
      ImeEventListenerInfo.pid).Nodup := by
  rw [modifyFirst, map_modify (setFlag_pid _)]
  exact distinct

/-- What an update leaves of a process: it has its new flag, unless that is empty and took its entry
away, and every other process has what it had. -/
theorem lookup_updateVec {vec : List ImeEventListenerInfo}
    (distinct : (vec.map ImeEventListenerInfo.pid).Nodup) (pid : Nat) :
    lookup ImeEventListenerInfo.pid pid (updateVec vec info) =
      if pid = info.pid then
        match lookup ImeEventListenerInfo.pid info.pid vec with
        | none => some info
        | some old => if info.eventFlag = 0 then none else some (old.setFlag info.eventFlag)
      else lookup ImeEventListenerInfo.pid pid vec := by
  unfold updateVec
  rw [@any_iff_lookup _ _ ImeEventListenerInfo.pid]
  cases found : lookup ImeEventListenerInfo.pid info.pid vec with
  | none =>
      rw [if_neg (by simp), lookup_append]
      split
      · rename_i asked
        rw [asked, found]
        simp [lookup]
      · rename_i other
        have skip : ¬ info.pid = pid := fun equal => other equal.symm
        simp [lookup, skip]
  | some old =>
      have changed := lookup_modifyFirst (setFlag_pid info.eventFlag) info.pid pid vec
      rw [Option.isSome_some, if_pos rfl]
      dsimp only
      split
      · rw [lookup_eraseP (setFlag_distinct distinct), changed, found]
        split <;> rfl
      · rw [changed, found]
        rfl

theorem updateVec_distinct {vec : List ImeEventListenerInfo}
    (distinct : (vec.map ImeEventListenerInfo.pid).Nodup) :
    ((updateVec vec info).map ImeEventListenerInfo.pid).Nodup := by
  unfold updateVec
  rw [@any_iff_lookup _ _ ImeEventListenerInfo.pid]
  cases found : lookup ImeEventListenerInfo.pid info.pid vec with
  | none =>
      rw [if_neg (by simp), List.map_append, List.nodup_append]
      refine ⟨distinct, List.nodup_singleton _, ?_⟩
      rintro pid old _ new rfl
      rw [List.mem_singleton.1 new] at old
      exact lookup_none.1 found old
  | some old =>
      rw [Option.isSome_some, if_pos rfl]
      dsimp only
      split
      · exact (setFlag_distinct distinct).sublist (List.eraseP_sublist.map _)
      · exact setFlag_distinct distinct

end Registry

/-! ## The application -/

/-- `listeners_`: the set of listeners of each bit that has any. -/
abbrev Listeners := EntryMap UInt32 (List Nat)

def maxEventNum : Nat := 5

/-- The bits of a flag that the loops of the manager stop at. -/
def eventMasks (eventFlag : UInt32) : List UInt32 :=
  ((List.range maxEventNum).map fun i => eventFlag &&& ((1 : UInt32) <<< UInt32.ofNat i)).filter (· ≠ 0)

/-- All bits that have listeners. -/
def currentEventFlag (listeners : Listeners) : UInt32 :=
  listeners.entries.foldl (fun flag entry => flag ||| entry.1) 0

def insertListener (listener : Nat) (listeners : Listeners) (eventMask : UInt32) : Listeners :=
  (listeners.insert eventMask []).alter eventMask fun there =>
    some (if listener ∈ there then there else there ++ [listener])

def eraseListener (listener : Nat) (listeners : Listeners) (eventMask : UInt32) : Listeners :=
  listeners.alter eventMask fun there =>
    if listener ∈ there then
      let left := there.erase listener
      if left.isEmpty then none else some left
    else some there

/-- The listener was not there to be removed. -/
def isAbsent (listener : Nat) (listeners : Listeners) (eventMask : UInt32) : Bool :=
  !decide (listener ∈ (listeners.find eventMask).getD [])

/-- The loop of `RegisterImeEventListener`. -/
def insertAll (eventFlag : UInt32) (listener : Nat) (listeners : Listeners) : Listeners :=
  (eventMasks eventFlag).foldl (insertListener listener) listeners

/-- The loop of `UnRegisterImeEventListener`. -/
def eraseAll (eventFlag : UInt32) (listener : Nat) (listeners : Listeners) : Listeners × Bool :=
  (eventMasks eventFlag).foldl
    (fun (listeners, isAbsentParam) eventMask =>
      (eraseListener listener listeners eventMask,
        isAbsentParam || isAbsent listener listeners eventMask))
    (listeners, false)

def getListeners (listeners : Listeners) (eventMask : UInt32) :
    List Nat := (listeners.find eventMask).getD []

/-! ### What the loops do to one event -/

theorem eventMasks_eq (eventFlag : UInt32) :
    eventMasks eventFlag =
      (ImeEvent.all.filter fun event => decide (On eventFlag event)).map ImeEvent.mask := by
  have masks : (List.range maxEventNum).map (fun i => eventFlag &&& ((1 : UInt32) <<< UInt32.ofNat i)) =
      ImeEvent.all.map fun event => eventFlag &&& event.mask := rfl
  unfold eventMasks
  rw [masks]
  induction ImeEvent.all with
  | nil => rfl
  | cons event events ih =>
      rw [List.map_cons, List.filter_cons, List.filter_cons, ih, and_mask]
      by_cases on : On eventFlag event
      · simp [on, mask_ne_zero]
      · simp [on]

theorem mask_mem_eventMasks {eventFlag : UInt32} {event : ImeEvent} :
    event.mask ∈ eventMasks eventFlag ↔ On eventFlag event := by
  rw [eventMasks_eq, List.mem_map]
  constructor
  · rintro ⟨other, inside, same⟩
    rw [← mask_injective same]
    exact of_decide_eq_true (List.mem_filter.1 inside).2
  · intro on
    refine ⟨event, List.mem_filter.2 ⟨?_, decide_eq_true on⟩, rfl⟩
    cases event <;> decide

theorem eventMasks_nodup (eventFlag : UInt32) : (eventMasks eventFlag).Nodup := by
  rw [eventMasks_eq]
  have distinct : (ImeEvent.all.map ImeEvent.mask).Nodup := by decide
  exact distinct.sublist (List.filter_sublist.map _)

/-- No set is empty, every key is the bit of an event and no listener stands twice in a set. -/
structure Kept (listeners : Listeners) : Prop where
  filled : ∀ key, listeners.find key ≠ some []
  bits : ∀ key there, listeners.find key = some there → ∃ event : ImeEvent, key = event.mask
  once : ∀ key, (getListeners listeners key).Nodup

theorem kept_empty : Kept .empty where
  filled := nofun
  bits := nofun
  once _ := List.nodup_nil

section Loops

variable {listeners : Listeners} {listener : Nat} {eventFlag : UInt32} {event : ImeEvent}

theorem find_insertListener (key k : UInt32) :
    (insertListener listener listeners key).find k =
      if k = key then
        let there := getListeners listeners key
        some (if listener ∈ there then there else there ++ [listener])
      else listeners.find k := by
  unfold insertListener getListeners
  rw [EntryMap.find_alter, EntryMap.find_insert]
  split
  · rename_i same
    rw [same]
    rfl
  · rfl

theorem find_eraseListener (key k : UInt32) :
    (eraseListener listener listeners key).find k =
      if k = key then
        (listeners.find key).bind fun there =>
          if listener ∈ there then
            let left := there.erase listener
            if left.isEmpty then none else some left
          else some there
      else listeners.find k := by
  unfold eraseListener
  rw [EntryMap.find_alter]
  split
  · rename_i same
    rw [same]
  · rfl

theorem getListeners_insertListener (key k : UInt32) :
    getListeners (insertListener listener listeners key) k =
      if k = key then
        if listener ∈ getListeners listeners k then getListeners listeners k
        else getListeners listeners k ++ [listener]
      else getListeners listeners k := by
  unfold getListeners
  rw [find_insertListener]
  split
  · rename_i same
    rw [same]
    rfl
  · rfl

theorem getListeners_eraseListener (key k : UInt32) :
    getListeners (eraseListener listener listeners key) k =
      if k = key then (getListeners listeners k).erase listener else getListeners listeners k := by
  unfold getListeners
  rw [find_eraseListener]
  split
  · rename_i same
    subst same
    cases listeners.find k with
    | none => rfl
    | some there =>
        rw [Option.bind_some, Option.getD_some]
        dsimp only
        split
        · split
          · rename_i empty
            exact (List.isEmpty_iff.1 empty).symm
          · rfl
        · rename_i absent
          exact (List.erase_of_not_mem absent).symm
  · rfl

theorem insertListener_kept (kept : Kept listeners) (bit : ImeEvent) :
    Kept (insertListener listener listeners bit.mask) where
  filled k := by
    rw [find_insertListener]
    split
    · intro empty
      have none : (if listener ∈ getListeners listeners bit.mask then getListeners listeners bit.mask
        else getListeners listeners bit.mask ++ [listener]) = [] := Option.some.inj empty
      split at none
      · rename_i there
        rw [none] at there
        cases there
      · simp at none
    · exact kept.filled k
  bits k there := by
    rw [find_insertListener]
    split
    · exact fun _ => ⟨bit, ‹_›⟩
    · exact kept.bits k there
  once k := by
    rw [getListeners_insertListener]
    split
    · split
      · exact kept.once k
      · rename_i absent
        refine List.nodup_append.2 ⟨kept.once k, List.nodup_singleton _, ?_⟩
        rintro other inside _ new rfl
        rw [List.mem_singleton.1 new] at inside
        exact absent inside
    · exact kept.once k

theorem eraseListener_kept (kept : Kept listeners) (key : UInt32) :
    Kept (eraseListener listener listeners key) where
  filled k := by
    rw [find_eraseListener]
    split
    · intro empty
      obtain ⟨there, found, left⟩ := Option.bind_eq_some_iff.1 empty
      dsimp only at left
      split at left
      · split at left
        · cases left
        · rename_i some
          exact some (List.isEmpty_iff.2 (Option.some.inj left))
      · exact kept.filled key (found.trans left)
    · exact kept.filled k
  bits k there := by
    rw [find_eraseListener]
    split
    · rename_i same
      intro left
      obtain ⟨old, found, _⟩ := Option.bind_eq_some_iff.1 left
      rw [same]
      exact kept.bits key old found
    · exact kept.bits k there
  once k := by
    rw [getListeners_eraseListener]
    split
    · exact (kept.once k).erase listener
    · exact kept.once k

/-- A loop over distinct bits changes the listeners of these bits alone, each once. -/
theorem getListeners_foldl {change : Listeners → UInt32 → Listeners} {g : List Nat → List Nat}
    (one : ∀ listeners key k, getListeners (change listeners key) k =
      if k = key then g (getListeners listeners k) else getListeners listeners k)
    {keys : List UInt32} (distinct : keys.Nodup) (listeners : Listeners) (k : UInt32) :
    getListeners (keys.foldl change listeners) k =
      if k ∈ keys then g (getListeners listeners k) else getListeners listeners k := by
  induction keys generalizing listeners with
  | nil => rfl
  | cons key keys ih =>
      obtain ⟨fresh, rest⟩ := List.nodup_cons.1 distinct
      rw [List.foldl_cons, ih rest, one]
      by_cases here : k = key
      · subst here
        simp [fresh]
      · simp [here]

theorem getListeners_insertAll :
    getListeners (insertAll eventFlag listener listeners) event.mask =
      if On eventFlag event ∧ listener ∉ getListeners listeners event.mask then
        getListeners listeners event.mask ++ [listener]
      else getListeners listeners event.mask := by
  have looped := getListeners_foldl
    (g := fun there => if listener ∈ there then there else there ++ [listener])
    (fun _ _ _ => getListeners_insertListener _ _) (eventMasks_nodup eventFlag) listeners event.mask
  unfold insertAll
  rw [looped]
  simp only [mask_mem_eventMasks]
  by_cases on : On eventFlag event
  · by_cases there : listener ∈ getListeners listeners event.mask
    · simp [on, there]
    · simp [on, there]
  · simp [on]

/-- What entering a listener changes. -/
theorem mem_getListeners_insertAll {other : Nat} :
    other ∈ getListeners (insertAll eventFlag listener listeners) event.mask ↔
      (On eventFlag event ∧ other = listener) ∨ other ∈ getListeners listeners event.mask := by
  rw [getListeners_insertAll]
  by_cases on : On eventFlag event
  · by_cases there : listener ∈ getListeners listeners event.mask
    · rw [if_neg (fun absent => absent.2 there)]
      constructor
      · exact .inr
      · rintro (⟨-, rfl⟩ | inside)
        · exact there
        · exact inside
    · simp [on, there, or_comm]
  · simp [on]

theorem eraseAll_fst (keys : List UInt32) (absent : Bool) :
    (keys.foldl (fun (listeners, isAbsentParam) eventMask =>
      (eraseListener listener listeners eventMask,
        isAbsentParam || isAbsent listener listeners eventMask))
      (listeners, absent)).1 = keys.foldl (eraseListener listener) listeners := by
  induction keys generalizing listeners absent with
  | nil => rfl
  | cons key keys ih => exact ih _

theorem getListeners_eraseAll :
    getListeners (eraseAll eventFlag listener listeners).1 event.mask =
      if On eventFlag event then (getListeners listeners event.mask).erase listener
      else getListeners listeners event.mask := by
  have looped := getListeners_foldl (g := fun there => there.erase listener)
    (fun _ _ _ => getListeners_eraseListener _ _) (eventMasks_nodup eventFlag) listeners event.mask
  unfold eraseAll
  rw [eraseAll_fst, looped]
  simp only [mask_mem_eventMasks]

/-- What removing a listener changes. -/
theorem mem_getListeners_eraseAll (kept : Kept listeners) {other : Nat} :
    other ∈ getListeners (eraseAll eventFlag listener listeners).1 event.mask ↔
      ¬ (On eventFlag event ∧ other = listener) ∧ other ∈ getListeners listeners event.mask := by
  rw [getListeners_eraseAll]
  split
  · rename_i on
    rw [(kept.once event.mask).mem_erase_iff]
    simp [on]
  · rename_i off
    simp [off]

theorem eventMasks_keeps {change : Listeners → UInt32 → Listeners}
    (keeps : ∀ listeners, Kept listeners → ∀ event : ImeEvent, Kept (change listeners event.mask))
    (kept : Kept listeners) (eventFlag : UInt32) :
    Kept ((eventMasks eventFlag).foldl change listeners) := by
  rw [eventMasks_eq, List.foldl_map]
  induction ImeEvent.all.filter fun event => decide (On eventFlag event) generalizing listeners with
  | nil => exact kept
  | cons event events ih => exact ih (keeps listeners kept event)

theorem insertAll_kept (kept : Kept listeners) : Kept (insertAll eventFlag listener listeners) :=
  eventMasks_keeps (fun _ kept event => insertListener_kept kept event) kept eventFlag

theorem eraseAll_kept (kept : Kept listeners) : Kept (eraseAll eventFlag listener listeners).1 := by
  unfold eraseAll
  rw [eraseAll_fst]
  exact eventMasks_keeps (fun _ kept _ => eraseListener_kept kept _) kept eventFlag

theorem on_foldl (entries : List (UInt32 × List Nat)) (flag : UInt32) :
    On (entries.foldl (fun flag entry => flag ||| entry.1) flag) event ↔
      On flag event ∨ ∃ entry ∈ entries, On entry.1 event := by
  induction entries generalizing flag with
  | nil => simp
  | cons entry entries ih => simp [ih, or_assoc]

/-- The flag that is sent has the bits of the events that have listeners. -/
theorem on_currentEventFlag (kept : Kept listeners) :
    On (currentEventFlag listeners) event ↔ getListeners listeners event.mask ≠ [] := by
  unfold currentEventFlag
  rw [on_foldl]
  unfold getListeners
  constructor
  · rintro (zero | ⟨⟨key, there⟩, inside, on⟩)
    · exact absurd zero (not_on_zero event)
    · have found := EntryMap.find_eq_some.2 inside
      obtain ⟨other, rfl⟩ := kept.bits key there found
      rw [on_mask.1 on, found]
      intro empty
      rw [Option.getD_some] at empty
      exact kept.filled _ (found.trans (congrArg some empty))
  · intro some
    cases found : listeners.find event.mask with
    | none => simp [found] at some
    | some there => exact .inr ⟨_, EntryMap.find_eq_some.1 found, on_mask.2 rfl⟩

end Loops

end Imf.Events
