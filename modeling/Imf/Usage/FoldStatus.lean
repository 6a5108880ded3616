/-
# Imf.Usage.FoldStatus -- fold status and orientation, as notified and as read

`FoldStatusAdapter` keeps what the display manager tells: the fold status that a notification
carries, and the orientation that its handler then reads.  Handlers run on several threads.  They
read outside the lock and update under it, and so does `Init`, with the listeners registered
already.

What was read can be out of date when it is stored, and no later event corrects it.
`fold_status_converges` says when all ends well: whenever something is stored that is out of date,
what will put it right is on its way (`Heeds`).  `stale_read_stays` is two handlers that store in
the other order than they read.
-/
import Imf.Lib.Run
import Imf.Lib.Threads
import Imf.Usage.Common
import Mathlib.Data.List.Chain

namespace Imf.FoldStatus

set_option autoImplicit false

open Lib (Meets goOn mem_goOn_iff mem_threads_iff run run_keeps)
open Usage (encodeScreenStatus)

/-! ## The display -/

inductive FoldDisplayMode where
  | unknown
  | full
  | main
  | sub
  | coordination
  | globalFull
  | vMain
  | nMain
  | lFull
  deriving DecidableEq, Repr

def UNFOLDED : Int := 1
def FOLD : Int := 2
def EXPAND : Int := 3
def G : Int := 4
def N : Int := 5
def LM : Int := 6
def LANDSCAPE : Int := 1
def PORTRAIT : Int := 2
def IME_SCREEN_STATUS_UNAVAILABLE : Int := -1

def convertDisplayMode : FoldDisplayMode → Int
  | .full => EXPAND
  | .main => FOLD
  | .sub => IME_SCREEN_STATUS_UNAVAILABLE
  | .coordination => EXPAND
  | .globalFull => G
  | .vMain => IME_SCREEN_STATUS_UNAVAILABLE
  | .nMain => N
  | .lFull => LM
  | .unknown => IME_SCREEN_STATUS_UNAVAILABLE

structure Display where
  mode : FoldDisplayMode
  width : Int32
  height : Int32
  deriving DecidableEq, Repr

def Display.orientation (display : Display) :
    Int := if display.width > display.height then LANDSCAPE else PORTRAIT

/-- `ConvertVhMode`; the display is not always answered. -/
def convertVhMode (display : Display) (answered : Bool) :
    Int := if answered then display.orientation else PORTRAIT

/-! ## The adapter -/

inductive Notice where
  | displayModeChanged (mode : FoldDisplayMode)
  | attributeChange
  deriving DecidableEq, Repr

/-- What a running handler does next: `HandleDisplayModeChanged` corrects `isFoldable_` first; both
read the orientation, and update. -/
inductive Handler where
  | correcting (newFoldStatus : Int)
  | modeReading (newFoldStatus : Int)
  | modeUpdating (newFoldStatus newVhMode : Int)
  | reading
  | updating (newVhMode : Int)
  deriving DecidableEq, Repr

/-- What `Init` does next. -/
inductive InitStage where
  | idle
  | asking
  | registeringMode (foldable : Bool)
  | registeringAttribute (foldable : Bool)
  | readingVhMode (foldable : Bool)
  | readingDisplayMode (vhMode : Int)
  | updating (foldable : Bool) (foldStatus vhMode : Int)
  | resetting
  | done
  deriving DecidableEq, Repr

/-- The display, the adapter, the notifications that are outstanding, the handlers and `Init`, and
what has happened: the callbacks, and the fold status last notified that is one of an input method. -/
structure State where
  display : Display
  foldStatus : Int := 0
  vhMode : Int := 0
  isFoldable : Bool := false
  isInitialized : Bool := false
  isInitializing : Bool := false
  modeListener : Bool := false
  attributeListener : Bool := false
  onScreenStatusChanged : Bool := false
  notices : List Notice := []
  handlers : List Handler := []
  init : InitStage := .idle
  callbacks : List (Int × Int) := []
  lastNotified : Option Int := none
  deriving DecidableEq, Repr

namespace State

variable (s : State)

def screenStatus : Int := encodeScreenStatus s.foldStatus s.vhMode

/-- The end of both handlers, under the lock. -/
def update (newFoldStatus newVhMode : Int) : State :=
  let oldScreenStatus := encodeScreenStatus s.foldStatus s.vhMode
  let newScreenStatus := encodeScreenStatus newFoldStatus newVhMode
  { s with
    foldStatus := newFoldStatus
    vhMode := newVhMode
    callbacks :=
      if oldScreenStatus ≠ newScreenStatus ∧ s.onScreenStatusChanged = true then
        s.callbacks ++ [(oldScreenStatus, newScreenStatus)]
      else s.callbacks }

/-- One step of a handler, and what it does then. -/
def handle (answered : Bool) : Handler → State × Option Handler
  | .correcting newFoldStatus =>
      (if s.isFoldable then s else { s with isFoldable := true }, some (.modeReading newFoldStatus))
  | .modeReading newFoldStatus =>
      (s, some (.modeUpdating newFoldStatus (convertVhMode s.display answered)))
  | .modeUpdating newFoldStatus newVhMode => (s.update newFoldStatus newVhMode, none)
  | .reading => (s, some (.updating (convertVhMode s.display answered)))
  | .updating newVhMode => (if newVhMode = s.vhMode then s else s.update s.foldStatus newVhMode, none)

/-- A listener is called. -/
def notify : Notice → State
  | .attributeChange => { s with handlers := s.handlers ++ [.reading] }
  | .displayModeChanged mode =>
      let newFoldStatus := convertDisplayMode mode
      if newFoldStatus = IME_SCREEN_STATUS_UNAVAILABLE then s
      else { s with handlers := s.handlers ++
        [.correcting newFoldStatus], lastNotified := some newFoldStatus }

/-- The first section of `Init` under the lock. -/
def callInit : State :=
  if s.isInitialized || s.isInitializing then s else { s with isInitializing := true, init := .asking }

/-- `Init` goes on; `foldable` and `answered` are what the display manager says. -/
def initStep (foldable answered : Bool) : State :=
  match s.init with
  | .idle => s
  | .asking => { s with init := .registeringMode foldable }
  | .registeringMode foldable => { s with modeListener := true, init := .registeringAttribute foldable }
  | .registeringAttribute foldable =>
      { s with attributeListener := true, init := .readingVhMode foldable }
  | .readingVhMode foldable =>
      let vhMode := convertVhMode s.display answered
      { s with init := if foldable then .readingDisplayMode vhMode
        else .updating false UNFOLDED vhMode }
  | .readingDisplayMode vhMode =>
      let foldStatus := convertDisplayMode s.display.mode
      { s with init := .updating true (if foldStatus = IME_SCREEN_STATUS_UNAVAILABLE then UNFOLDED else foldStatus) vhMode }
  | .updating foldable foldStatus vhMode =>
      { s with isFoldable := foldable, foldStatus, vhMode, isInitialized := true, init := .resetting }
  | .resetting => { s with isInitializing := false, init := .done }
  | .done => s

end State

inductive Turn where
  | setMode (mode : FoldDisplayMode) (width height : Int32)
  | rotate (width height : Int32)
  | notify (k : Nat)
  | handle (k : Nat) (answered : Bool)
  | callInit
  | initStep (foldable answered : Bool)
  | setScreenStatusChangedCallback
  deriving DecidableEq, Repr

def step (s : State) : Turn → State
  | .setMode mode width height =>
      { s with
        display := { mode, width, height }
        notices := if s.modeListener then s.notices ++ [.displayModeChanged mode] else s.notices }
  | .rotate width height =>
      { s with
        display := { s.display with width, height }
        notices := if s.attributeListener then s.notices ++ [.attributeChange] else s.notices }
  | .notify k =>
      match s.notices[k]? with
      | none => s
      | some notice => ({ s with notices := s.notices.eraseIdx k } : State).notify notice
  | .handle k answered =>
      match s.handlers[k]? with
      | none => s
      | some handler =>
          let (s', next) := s.handle answered handler
          { s' with handlers := goOn s.handlers k next }
  | .callInit => s.callInit
  | .initStep foldable answered => s.initStep foldable answered
  | .setScreenStatusChangedCallback => { s with onScreenStatusChanged := true }

/-- `Init` and all handlers have finished, and no notification is outstanding. -/
def Settled (s : State) : Prop := s.notices = [] ∧ s.handlers = [] ∧ s.init = .done

instance (s : State) : Decidable (Settled s) :=
  inferInstanceAs (Decidable (s.notices = [] ∧ s.handlers = [] ∧ s.init = .done))

/-! ## What is on its way -/

/-- The handler will read the orientation, or has read this one. -/
def Handler.Brings (orientation : Int) : Handler → Prop
  | .modeUpdating _ newVhMode | .updating newVhMode => newVhMode = orientation
  | _ => True

/-- So will the handler of the notification. -/
def Notice.Handled : Notice → Prop
  | .attributeChange => True
  | .displayModeChanged mode => convertDisplayMode mode ≠ IME_SCREEN_STATUS_UNAVAILABLE

/-- So will `Init`. -/
def InitStage.Brings (orientation : Int) : InitStage → Prop
  | .readingDisplayMode vhMode | .updating _ _ vhMode => vhMode = orientation
  | .resetting | .done => False
  | _ => True

def Coming (orientation : Int) (notices : List Notice) (handlers : List Handler)
    (init : InitStage) : Prop :=
  (∃ notice ∈ notices, notice.Handled) ∨ (∃ handler ∈ handlers, handler.Brings orientation) ∨
    init.Brings orientation

def Handler.newFoldStatus : Handler → Option Int
  | .correcting newFoldStatus | .modeReading newFoldStatus | .modeUpdating newFoldStatus _ =>
      some newFoldStatus
  | _ => none

/-- A fold status that is not the last one notified is stored while the handler of that one runs. -/
def FoldHeeded (foldStatus : Int) (lastNotified : Option Int) (handlers : List Handler) : Prop :=
  ∀ last, lastNotified = some last → foldStatus = last ∨ ∃ handler ∈ handlers,
    handler.newFoldStatus = some last

/-- An orientation that is not that of the display is stored, or left as the handler of a fold mode
without an input method leaves it, while the right one is on its way; likewise when a read is not
answered.  `Init` changes the screen status only before the first callback. -/
def Heeds (s : State) : Turn → Prop
  | .setMode mode width height =>
      convertDisplayMode mode = IME_SCREEN_STATUS_UNAVAILABLE →
        let orientation := ({ mode, width, height } : Display).orientation
        s.vhMode = orientation ∨ Coming orientation s.notices s.handlers s.init
  | .handle k answered =>
      match s.handlers[k]? with
      | some (.modeReading _) | some .reading =>
          answered = false → s.display.orientation ≠ PORTRAIT →
            s.vhMode = s.display.orientation ∨
              Coming s.display.orientation s.notices (s.handlers.eraseIdx k) s.init
      | some (.modeUpdating newFoldStatus newVhMode) =>
          (newVhMode = s.display.orientation ∨
              Coming s.display.orientation s.notices (s.handlers.eraseIdx k) s.init) ∧
            FoldHeeded newFoldStatus s.lastNotified (s.handlers.eraseIdx k)
      | some (.updating newVhMode) =>
          newVhMode = s.display.orientation ∨
            Coming s.display.orientation s.notices (s.handlers.eraseIdx k) s.init
      | _ => True
  | .initStep _ answered =>
      match s.init with
      | .readingVhMode _ =>
          answered = false → s.display.orientation ≠ PORTRAIT →
            s.vhMode = s.display.orientation ∨ Coming s.display.orientation s.notices s.handlers .done
      | .updating _ foldStatus vhMode =>
          (vhMode = s.display.orientation ∨ Coming s.display.orientation s.notices s.handlers .done) ∧
            FoldHeeded foldStatus s.lastNotified s.handlers ∧
            (s.callbacks = [] ∨ encodeScreenStatus foldStatus vhMode = s.screenStatus)
      | _ => True
  | _ => True

/-- Each old status is the new one of the callback before; the last new one is the screen status. -/
structure Chained (callbacks : List (Int × Int)) (screenStatus : Int) : Prop where
  linked : callbacks.IsChain fun one next => one.2 = next.1
  last : ∀ callback, callbacks.getLast? = some callback → callback.2 = screenStatus

/-- How many listeners `Init` has registered. -/
def InitStage.registered : InitStage → Nat
  | .idle | .asking | .registeringMode _ => 0
  | .registeringAttribute _ => 1
  | _ => 2

/-- They are registered before `Init` reads. -/
structure Listens (s : State) : Prop where
  mode : 1 ≤ s.init.registered → s.modeListener = true
  rotation : 2 ≤ s.init.registered → s.attributeListener = true

/-- What holds all along. -/
structure Converging (s : State) : Prop where
  orientation : s.vhMode = s.display.orientation ∨
    Coming s.display.orientation s.notices s.handlers s.init
  fold : FoldHeeded s.foldStatus s.lastNotified s.handlers
  chained : Chained s.callbacks s.screenStatus
  silent : s.onScreenStatusChanged = false → s.callbacks = []
  listens : Listens s

/-! ## The orientation -/

section Orientation

variable {orientation : Int} {notices notices' : List Notice} {handlers handlers' : List Handler}
  {init init' : InitStage}

theorem Coming.mono (coming : Coming orientation notices handlers init)
    (moreNotices : ∀ notice ∈ notices, notice.Handled → notice ∈ notices')
    (moreHandlers : ∀ handler ∈ handlers, handler ∈ handlers')
    (same : init.Brings orientation → init'.Brings orientation) :
    Coming orientation notices' handlers' init' := by
  rcases coming with ⟨notice, member, handled⟩ | ⟨handler, member, brings⟩ | brings
  · exact .inl ⟨notice, moreNotices notice member handled, handled⟩
  · exact .inr (.inl ⟨handler, moreHandlers handler member, brings⟩)
  · exact .inr (.inr (same brings))

theorem Coming.goOn {k : Nat} {handler : Handler} (picked : handlers[k]? = some handler)
    (next : Option Handler) (coming : Coming orientation notices (handlers.eraseIdx k) init) :
    Coming orientation notices (Lib.goOn handlers k next) init :=
  coming.mono (fun _ member _ => member) (fun _ member => (mem_goOn_iff picked).2 (.inr member)) id

theorem Coming.of_next {k : Nat} {handler next : Handler} (picked : handlers[k]? = some handler)
    (brings : next.Brings orientation) :
    Coming orientation notices (Lib.goOn handlers k (some next)) init :=
  .inr (.inl ⟨next, (mem_goOn_iff picked).2 (.inl rfl), brings⟩)

end Orientation

section Steps

variable {s : State}

/-- The orientation is right, or on its way. -/
def OnCourse (s : State) : Prop :=
  s.vhMode = s.display.orientation ∨ Coming s.display.orientation s.notices s.handlers s.init

theorem convertVhMode_right {display : Display} {answered : Bool}
    (right : answered = false → display.orientation = PORTRAIT) :
    convertVhMode display answered = display.orientation := by
  cases answered with
  | true => rfl
  | false => exact (right rfl).symm

/-- `Init` has not read before both listeners are registered. -/
theorem brings_of_registered {init : InitStage} (early : init.registered < 2) (orientation : Int) :
    init.Brings orientation := by
  cases init with
  | idle => trivial
  | asking => trivial
  | registeringMode foldable => trivial
  | registeringAttribute foldable => trivial
  | _ => exact absurd early (Nat.lt_irrefl 2)

theorem Listens.early_mode (listens : Listens s) (off : s.modeListener = false) :
    s.init.registered < 2 := by
  by_contra late
  rw [listens.mode (by omega)] at off
  cases off

theorem Listens.early_rotation (listens : Listens s) (off : s.attributeListener = false) :
    s.init.registered < 2 := by
  by_contra late
  rw [listens.rotation (by omega)] at off
  cases off

theorem setMode_onCourse (listens : Listens s) {mode : FoldDisplayMode} {width height : Int32}
    (heeds : Heeds s (.setMode mode width height)) :
    OnCourse (step s (.setMode mode width height)) := by
  unfold OnCourse
  simp only [step]
  by_cases unavailable : convertDisplayMode mode = IME_SCREEN_STATUS_UNAVAILABLE
  · refine (heeds unavailable).imp_right fun coming => coming.mono ?_ (fun _ member => member) id
    intro notice member _
    split
    · exact List.mem_append_left _ member
    · exact member
  · refine .inr ?_
    cases listening : s.modeListener with
    | false => exact .inr (.inr (brings_of_registered (listens.early_mode listening) _))
    | true => exact .inl ⟨.displayModeChanged mode, by simp, unavailable⟩

theorem rotate_onCourse (listens : Listens s) (width height : Int32) :
    OnCourse (step s (.rotate width height)) := by
  unfold OnCourse
  simp only [step]
  refine .inr ?_
  cases listening : s.attributeListener with
  | false => exact .inr (.inr (brings_of_registered (listens.early_rotation listening) _))
  | true => exact .inl ⟨.attributeChange, by simp, trivial⟩

theorem notify_onCourse (course : OnCourse s) (k : Nat) : OnCourse (step s (.notify k)) := by
  simp only [step]
  split
  · exact course
  · rename_i notice picked
    -- A notification that is handled comes back as its handler.
    have left : ∀ other ∈ s.notices, other = notice ∨ other ∈ s.notices.eraseIdx k :=
      fun other member => (mem_threads_iff picked).1 member
    cases notice with
    | attributeChange =>
        exact .inr (.inr (.inl ⟨.reading, by simp [State.notify], trivial⟩))
    | displayModeChanged mode =>
        simp only [State.notify]
        split
        · rename_i unavailable
          refine course.imp_right fun coming => coming.mono ?_ (fun _ member => member) id
          rintro other member handled
          rcases left other member with rfl | others
          · exact absurd unavailable handled
          · exact others
        · exact .inr (.inr (.inl
            ⟨.correcting _, List.mem_append_right _ (List.mem_singleton.2 rfl), trivial⟩))

theorem handle_onCourse (course : OnCourse s) {k : Nat} {answered : Bool}
    (heeds : Heeds s (.handle k answered)) :
    OnCourse (step s (.handle k answered)) := by
  simp only [step]
  simp only [Heeds] at heeds
  split
  · exact course
  · rename_i handler picked
    rw [picked] at heeds
    -- A handler that reads brings the right orientation, or leaves it to others.
    have reads : ∀ next,
      (answered = false → s.display.orientation ≠ PORTRAIT → s.vhMode = s.display.orientation ∨
          Coming s.display.orientation s.notices (s.handlers.eraseIdx k) s.init) →
        (convertVhMode s.display answered = s.display.orientation → next.Brings s.display.orientation) →
          OnCourse { s with handlers := goOn s.handlers k (some next) } := by
      intro next heeds brings
      by_cases right : answered = false → s.display.orientation = PORTRAIT
      · exact .inr (.of_next picked (brings (convertVhMode_right right)))
      · obtain ⟨unanswered, landscape⟩ := Classical.not_imp.1 right
        exact (heeds unanswered landscape).imp_right fun coming => coming.goOn picked (some next)
    cases handler with
    | correcting newFoldStatus =>
        simp only [State.handle]
        split
        · exact .inr (.of_next picked trivial)
        · exact .inr (.of_next picked trivial)
    | modeReading newFoldStatus => exact reads _ heeds id
    | reading => exact reads _ heeds id
    | modeUpdating newFoldStatus newVhMode => exact heeds.1.imp_right fun coming => coming.goOn picked none
    | updating newVhMode =>
        simp only [State.handle]
        have updated : newVhMode = s.display.orientation ∨
            Coming s.display.orientation s.notices (goOn s.handlers k none) s.init :=
          heeds.imp_right fun coming => coming.goOn picked none
        split
        · rename_i same
          rw [same] at updated
          exact updated
        · exact updated

theorem callInit_onCourse (course : OnCourse s) : OnCourse s.callInit := by
  unfold State.callInit
  split
  · exact course
  · exact .inr (.inr (.inr trivial))

theorem Coming.init_any {orientation : Int} {notices : List Notice} {handlers : List Handler}
    (init : InitStage)
    (coming : Coming orientation notices handlers .done) : Coming orientation notices handlers init :=
  coming.mono (fun _ member _ => member) (fun _ member => member) False.elim

theorem initStep_onCourse (course : OnCourse s) {foldable answered : Bool}
    (heeds : Heeds s (.initStep foldable answered)) :
    OnCourse (s.initStep foldable answered) := by
  simp only [Heeds] at heeds
  unfold State.initStep
  split
  · exact course
  · exact .inr (.inr (.inr trivial))
  · exact .inr (.inr (.inr trivial))
  · exact .inr (.inr (.inr trivial))
  · rename_i foldable reading
    rw [reading] at heeds
    by_cases right : answered = false → s.display.orientation = PORTRAIT
    · refine .inr (.inr (.inr ?_))
      dsimp only
      split
      · exact convertVhMode_right right
      · exact convertVhMode_right right
    · obtain ⟨unanswered, landscape⟩ := Classical.not_imp.1 right
      exact (heeds unanswered landscape).imp_right (Coming.init_any _)
  · rename_i vhMode reading
    rw [OnCourse, reading] at course
    exact course
  · rename_i foldable foldStatus vhMode updating
    rw [updating] at heeds
    exact heeds.1.imp_right (Coming.init_any _)
  · rename_i resetting
    rw [OnCourse, resetting] at course
    exact course
  · exact course

/-! ## The fold status -/

theorem FoldHeeded.mono {foldStatus : Int} {lastNotified : Option Int}
    {handlers handlers' : List Handler} (heeded : FoldHeeded foldStatus lastNotified handlers)
    (more : ∀ handler ∈ handlers, ∃ later ∈ handlers', later.newFoldStatus = handler.newFoldStatus) :
    FoldHeeded foldStatus lastNotified handlers' := by
  intro last notified
  rcases heeded last notified with same | ⟨handler, member, carries⟩
  · exact .inl same
  · obtain ⟨later, there, same⟩ := more handler member
    exact .inr ⟨later, there, same.trans carries⟩

theorem notify_fold (heeded : FoldHeeded s.foldStatus s.lastNotified s.handlers) (notice : Notice) :
    FoldHeeded (s.notify notice).foldStatus (s.notify notice).lastNotified
      (s.notify notice).handlers := by
  cases notice with
  | attributeChange => exact heeded.mono fun handler member =>
      ⟨handler, List.mem_append_left _ member, rfl⟩
  | displayModeChanged mode =>
      simp only [State.notify]
      split
      · exact heeded
      · rintro last ⟨⟩
        exact .inr ⟨.correcting _, List.mem_append_right _ (List.mem_singleton.2 rfl), rfl⟩

theorem handle_fold (heeded : FoldHeeded s.foldStatus s.lastNotified s.handlers) {k : Nat}
    {answered : Bool} (heeds : Heeds s (.handle k answered)) :
    FoldHeeded (step s (.handle k answered)).foldStatus (step s (.handle k answered)).lastNotified
      (step s (.handle k answered)).handlers := by
  simp only [step]
  simp only [Heeds] at heeds
  split
  · exact heeded
  · rename_i handler picked
    rw [picked] at heeds
    -- A handler that goes on carries the same fold status; one that ends without it loses nothing.
    have goesOn : ∀ next : Handler, next.newFoldStatus = handler.newFoldStatus →
        FoldHeeded s.foldStatus s.lastNotified (goOn s.handlers k (some next)) := by
      intro next same
      refine heeded.mono fun other member => ?_
      rcases (mem_threads_iff picked).1 member with rfl | others
      · exact ⟨next, (mem_goOn_iff picked).2 (.inl rfl), same⟩
      · exact ⟨other, (mem_goOn_iff picked).2 (.inr others), rfl⟩
    cases handler with
    | correcting newFoldStatus =>
        simp only [State.handle]
        split
        · exact goesOn _ rfl
        · exact goesOn _ rfl
    | modeReading newFoldStatus => exact goesOn _ rfl
    | modeUpdating newFoldStatus newVhMode => exact heeds.2
    | reading => exact goesOn _ rfl
    | updating newVhMode =>
        have ended : FoldHeeded s.foldStatus s.lastNotified (goOn s.handlers k none) := by
          intro last notified
          rcases heeded last notified with same | ⟨other, member, carries⟩
          · exact .inl same
          · rcases (mem_threads_iff picked).1 member with rfl | others
            · cases carries
            · exact .inr ⟨other, others, carries⟩
        simp only [State.handle]
        split
        · exact ended
        · exact ended

theorem initStep_fold (heeded : FoldHeeded s.foldStatus s.lastNotified s.handlers)
    {foldable answered : Bool} (heeds : Heeds s (.initStep foldable answered)) :
    FoldHeeded (s.initStep foldable answered).foldStatus (s.initStep foldable answered).lastNotified
      (s.initStep foldable answered).handlers := by
  simp only [Heeds] at heeds
  unfold State.initStep
  split
  case h_7 foldable foldStatus vhMode updating =>
    rw [updating] at heeds
    exact heeds.2.1
  all_goals exact heeded

/-! ## The callbacks -/

theorem chained_nil (screenStatus : Int) : Chained [] screenStatus := ⟨.nil, nofun⟩

theorem update_chained (chained : Chained s.callbacks s.screenStatus)
    (silent : s.onScreenStatusChanged = false → s.callbacks = []) (newFoldStatus newVhMode : Int) :
    Chained (s.update newFoldStatus newVhMode).callbacks
      (s.update newFoldStatus newVhMode).screenStatus := by
  simp only [State.update, State.screenStatus]
  split
  · refine ⟨List.isChain_append.2 ⟨chained.linked, .singleton _, ?_⟩, ?_⟩
    · rintro callback last _ ⟨⟩
      exact chained.last callback last
    · intro callback last
      rw [List.getLast?_concat] at last
      cases last
      rfl
  · rename_i quiet
    cases callback : s.onScreenStatusChanged with
    | false =>
        rw [silent callback]
        exact chained_nil _
    | true =>
        have same : encodeScreenStatus s.foldStatus s.vhMode =
          encodeScreenStatus newFoldStatus newVhMode :=
          by_contra fun differs => quiet ⟨differs, callback⟩
        exact same ▸ chained

theorem update_silent (silent : s.onScreenStatusChanged = false → s.callbacks = [])
    (newFoldStatus newVhMode : Int) :
    s.onScreenStatusChanged = false → (s.update newFoldStatus newVhMode).callbacks = [] := by
  intro off
  simp only [State.update]
  rw [if_neg (by rw [off]; exact fun both => Bool.noConfusion both.2)]
  exact silent off

theorem handle_chained (chained : Chained s.callbacks s.screenStatus)
    (silent : s.onScreenStatusChanged = false → s.callbacks = []) (answered : Bool)
    (handler : Handler) :
    Chained (s.handle answered handler).1.callbacks (s.handle answered handler).1.screenStatus ∧
      ((s.handle answered handler).1.onScreenStatusChanged = false →
        (s.handle answered handler).1.callbacks = []) := by
  cases handler with
  | correcting newFoldStatus =>
      simp only [State.handle]
      split
      · exact ⟨chained, silent⟩
      · exact ⟨chained, silent⟩
  | modeReading newFoldStatus => exact ⟨chained, silent⟩
  | reading => exact ⟨chained, silent⟩
  | modeUpdating newFoldStatus newVhMode =>
      exact ⟨update_chained chained silent _ _, update_silent silent _ _⟩
  | updating newVhMode =>
      simp only [State.handle]
      split
      · exact ⟨chained, silent⟩
      · exact ⟨update_chained chained silent _ _, update_silent silent _ _⟩

theorem initStep_chained (chained : Chained s.callbacks s.screenStatus) {foldable answered : Bool}
    (heeds : Heeds s (.initStep foldable answered)) :
    Chained (s.initStep foldable answered).callbacks (s.initStep foldable answered).screenStatus := by
  simp only [Heeds] at heeds
  unfold State.initStep
  split
  case h_7 foldable foldStatus vhMode updating =>
    rw [updating] at heeds
    show Chained s.callbacks (encodeScreenStatus foldStatus vhMode)
    rcases heeds.2.2 with none | same
    · rw [none]
      exact chained_nil _
    · rw [same]
      exact chained
  all_goals exact chained

end Steps

/-! ## Runs -/

section Runs

variable {s : State}

theorem initStep_listens (listens : Listens s) (foldable answered : Bool) :
    Listens (s.initStep foldable answered) := by
  have mode := listens.mode
  have rotation := listens.rotation
  unfold State.initStep
  split
  all_goals rename_i stage
  all_goals rw [stage] at mode rotation
  · exact listens
  · exact ⟨fun late => absurd late (Nat.not_succ_le_zero 0), fun late =>
      absurd late (Nat.not_succ_le_zero 1)⟩
  · exact ⟨fun _ => rfl, fun late => absurd late (Nat.lt_irrefl 1)⟩
  · exact ⟨fun _ => mode (Nat.le_refl 1), fun _ => rfl⟩
  · exact ⟨fun _ => mode (Nat.le_succ 1), fun _ => rotation (Nat.le_refl 2)⟩
  · exact ⟨fun _ => mode (Nat.le_succ 1), fun _ => rotation (Nat.le_refl 2)⟩
  · exact ⟨fun _ => mode (Nat.le_succ 1), fun _ => rotation (Nat.le_refl 2)⟩
  · exact ⟨fun _ => mode (Nat.le_succ 1), fun _ => rotation (Nat.le_refl 2)⟩
  · exact listens

/-- A handler changes nothing of `Init`. -/
theorem handle_listens (listens : Listens s) (answered : Bool) (handler : Handler) :
    Listens (s.handle answered handler).1 := by
  cases handler with
  | correcting newFoldStatus =>
      simp only [State.handle]
      split
      · exact listens
      · exact ⟨listens.mode, listens.rotation⟩
  | modeReading newFoldStatus => exact listens
  | reading => exact listens
  | modeUpdating newFoldStatus newVhMode => exact ⟨listens.mode, listens.rotation⟩
  | updating newVhMode =>
      simp only [State.handle]
      split
      · exact listens
      · exact ⟨listens.mode, listens.rotation⟩

theorem initStep_silent (silent : s.onScreenStatusChanged = false → s.callbacks = [])
    (foldable answered : Bool) :
    (s.initStep foldable answered).onScreenStatusChanged = false →
      (s.initStep foldable answered).callbacks = [] := by
  unfold State.initStep
  split <;> exact silent

theorem notify_converging (converging : Converging s) (k : Nat) : Converging (step s (.notify k)) := by
  obtain ⟨course, fold, chained, silent, listens⟩ := converging
  have course := notify_onCourse course k
  cases picked : s.notices[k]? with
  | none =>
      simp only [step, picked] at course ⊢
      exact ⟨course, fold, chained, silent, listens⟩
  | some notice =>
      have fold := notify_fold (s := { s with notices := s.notices.eraseIdx k }) fold notice
      simp only [step, picked] at course ⊢
      cases notice with
      | attributeChange => exact ⟨course, fold, chained, silent, listens.mode, listens.rotation⟩
      | displayModeChanged mode =>
          simp only [State.notify] at course fold ⊢
          split
          · rename_i unavailable
            rw [if_pos unavailable] at course fold
            exact ⟨course, fold, chained, silent, listens.mode, listens.rotation⟩
          · rename_i available
            rw [if_neg available] at course fold
            exact ⟨course, fold, chained, silent, listens.mode, listens.rotation⟩

theorem handle_converging (converging : Converging s) {k : Nat} {answered : Bool}
    (heeds : Heeds s (.handle k answered)) :
    Converging (step s (.handle k answered)) := by
  obtain ⟨course, fold, chained, silent, listens⟩ := converging
  have course := handle_onCourse course heeds
  have fold := handle_fold fold heeds
  cases picked : s.handlers[k]? with
  | none =>
      simp only [step, picked] at course fold ⊢
      exact ⟨course, fold, chained, silent, listens⟩
  | some handler =>
      obtain ⟨chained, silent⟩ := handle_chained chained silent answered handler
      have listens := handle_listens listens answered handler
      simp only [step, picked] at course fold ⊢
      exact ⟨course, fold, chained, silent, listens.mode, listens.rotation⟩

theorem callInit_converging (converging : Converging s) : Converging s.callInit := by
  have course := callInit_onCourse converging.orientation
  unfold State.callInit at course ⊢
  split
  · exact converging
  · rename_i first
    rw [if_neg first] at course
    exact ⟨course, converging.fold, converging.chained, converging.silent,
      fun late => absurd late (Nat.not_succ_le_zero 0), fun late =>
        absurd late (Nat.not_succ_le_zero 1)⟩

theorem step_converging (s : State) (e : Turn) (converging : Converging s) (heeds : Heeds s e) :
    Converging (step s e) := by
  have ⟨course, fold, chained, silent, listens⟩ := converging
  cases e with
  | setMode mode width height =>
      exact ⟨setMode_onCourse listens heeds, fold, chained, silent, listens.mode, listens.rotation⟩
  | rotate width height =>
      exact ⟨rotate_onCourse listens width height, fold, chained, silent, listens.mode,
        listens.rotation⟩
  | notify k => exact notify_converging converging k
  | handle k answered => exact handle_converging converging heeds
  | callInit => exact callInit_converging converging
  | initStep foldable answered =>
      exact ⟨initStep_onCourse course heeds, initStep_fold fold heeds, initStep_chained chained heeds,
        initStep_silent silent foldable answered, initStep_listens listens foldable answered⟩
  | setScreenStatusChangedCallback =>
      exact ⟨course, fold, chained, nofun, listens.mode, listens.rotation⟩

theorem start_converging (display : Display) : Converging { display } where
  orientation := .inr (.inr (.inr trivial))
  fold := nofun
  chained := chained_nil _
  silent _ := rfl
  listens := ⟨fun late => absurd late (Nat.not_succ_le_zero 0), fun late =>
    absurd late (Nat.not_succ_le_zero 1)⟩

/-- Where nothing is on its way any more, all is right. -/
theorem Converging.settled (converging : Converging s) (settled : Settled s) :
    s.vhMode = s.display.orientation ∧ ∀ last, s.lastNotified = some last → s.foldStatus = last := by
  obtain ⟨notices, handlers, done⟩ := settled
  constructor
  · have course := converging.orientation
    rw [notices, handlers, done] at course
    rcases course with right | ⟨_, none, _⟩ | ⟨_, none, _⟩ | none
    · exact right
    · cases none
    · cases none
    · exact none.elim
  · intro last notified
    have fold := converging.fold last notified
    rw [handlers] at fold
    rcases fold with right | ⟨_, none, _⟩
    · exact right
    · cases none

end Runs

/-- **In every run in which the right orientation and fold status are on their way whenever others are
stored, all is right when everything has finished, and the callbacks form a chain all along.** -/
theorem fold_status_converges (display : Display) (es : List Turn)
    (heeds : Meets step Heeds { display } es) :
    ∀ fs, fs <+: es →
      let s := run step { display } fs
      (Settled s →
        s.vhMode = s.display.orientation ∧ ∀ last, s.lastNotified = some last → s.foldStatus = last) ∧
      Chained s.callbacks s.screenStatus := by
  rintro fs ⟨rest, rfl⟩
  have converging := run_keeps step_converging (start_converging display) (Lib.meets_append.1 heeds).1
  exact ⟨converging.settled, converging.chained⟩

/-! ## Poles -/

def portrait : Display where
  mode := .main
  width := 1080
  height := 2340

/-- All of `Init`, on a device that folds. -/
def initialized : List Turn := .callInit :: List.replicate 7 (.initStep true true)

/-- The device is unfolded and turned, and each handler stores what it has read before anything else
happens. -/
theorem unfolded_and_turned :
    let es := initialized ++
      [.setScreenStatusChangedCallback, .setMode .full 2200 2480, .notify 0,
        .handle 0 true, .handle 0 true,
        .handle 0 true, .rotate 2480 2200, .notify 0, .handle 0 true, .handle 0 true]
    Settled (run step { display := portrait } es) ∧
      (run step { display := portrait } es).callbacks = [(22, 32), (32, 31)] ∧
      (run step { display := portrait } es).vhMode = LANDSCAPE ∧
      Chained (run step { display := portrait } es).callbacks
        (run step { display := portrait } es).screenStatus := by
  intro es
  have heeds : Meets step Heeds { display := portrait } es := by
    refine ⟨trivial, trivial, trivial, trivial, nofun, trivial, ⟨.inl rfl, nofun, .inl rfl⟩,
      trivial, trivial, ?_⟩
    refine ⟨fun unavailable => absurd unavailable (by decide), trivial, trivial, nofun,
      ⟨.inl rfl, ?_⟩, trivial, trivial,
      nofun, .inl rfl, trivial⟩
    intro last notified
    exact .inl (Option.some.inj notified)
  have settled : Settled (run step { display := portrait } es) := ⟨rfl, rfl, rfl⟩
  obtain ⟨right, chained⟩ := fold_status_converges portrait es heeds es (List.prefix_refl es)
  have turned : (run step { display := portrait } es).display.orientation = LANDSCAPE := by decide
  exact ⟨settled, by decide, (right settled).1.trans turned, chained⟩

/-- Two turns back and forth: the handler of the first reads before the second and stores after the
other handler. -/
def outOfOrder : List Turn :=
  initialized ++
    [.rotate 2340 1080, .notify 0, .handle 0 true, .rotate 1080 2340, .notify 0,
      .handle 1 true, .handle 1 true,
      .handle 0 true]

/-- The display is back in portrait, and the adapter is not. -/
theorem stale_read_stays :
    Settled (run step { display := portrait } outOfOrder) ∧
      (run step { display := portrait } outOfOrder).display.orientation = PORTRAIT ∧
      (run step { display := portrait } outOfOrder).vhMode = LANDSCAPE :=
  ⟨⟨rfl, rfl, rfl⟩, rfl, rfl⟩

/-- A notification is handled between a read of `Init` and its update. -/
def duringInit : List Turn :=
  [.setScreenStatusChangedCallback, .callInit, .initStep true true, .initStep true true,
    .initStep true true,
    .initStep true true, .initStep true true, .setMode .full 2200 2480, .notify 0, .handle 0 true,
    .handle 0 true, .handle 0 true, .initStep true true, .initStep true true]

/-- `Init` takes the fold status back, and tells nobody. -/
example :
    Settled (run step { display := portrait } duringInit) ∧
      (run step { display := portrait } duringInit).lastNotified = some EXPAND ∧
      (run step { display := portrait } duringInit).foldStatus = FOLD ∧
      ¬ Chained (run step { display := portrait } duringInit).callbacks
        (run step { display := portrait } duringInit).screenStatus := by
  have delivered : (run step { display := portrait } duringInit).callbacks = [(0, 32)] := by decide
  refine ⟨by decide, by decide, by decide, fun chained => ?_⟩
  rw [delivered] at chained
  exact absurd (chained.last (0, 32) rfl) (by decide)

end Imf.FoldStatus
