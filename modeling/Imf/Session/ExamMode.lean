/-
# Imf.Session.ExamMode -- the input method that exam mode sets aside

`ExamModeManager` and the handlers of its two messages.  Entering exam mode writes down the input
method of the user and goes over to the default one, unless it is the default one; leaving it goes
back.  The flag and the name are members of the service and a JSON text in the settings data, and
the service may be restarted in between.

* `step_accesses`: the members and the text are a value of `Lib.Backed`, which a message accesses.
* `restarts_unseen`: where the settings data works, no restart makes a difference.
* `restores_iff`: and leaving exam mode asks for an input method exactly when it was set aside and
  neither another entry nor a return came since.
* `set_aside_before`: in any run at all, nothing else is asked for, and never the default one.

Names go through `c_str()` on their way to the text, and come from texts: they have no NUL (`Name`).
The members are one set for all users, and the default input method is that of the configuration.
-/
import Imf.Common.ErrorCode
import Imf.Json.Serializable
import Imf.Lib.Backed

namespace Imf.ExamMode

set_option autoImplicit false

open Json (CJson NulFree cStr getBool ofString getSubNode getSubNode_of_find sameKey)
open Lib (Access Agrees Codec Held Ledger Meets Since run run_nil run_cons run_append)

abbrev Name := { name : String // NulFree name }

def Name.empty : Name := ⟨"", by decide⟩


structure ImeNativeCfg where
  bundleName : Name
  subName : Name
  deriving DecidableEq

/-! ## The manager -/

structure ExamModeManager where
  isExamMode : Bool := false
  previousImeBundleName : Name := Name.empty
  previousImeSubName : Name := Name.empty
  deriving DecidableEq

/-- No input method is remembered. -/
def ImeNativeCfg.none : ImeNativeCfg := ⟨Name.empty, Name.empty⟩

namespace ExamModeManager

def previous (m : ExamModeManager) : ImeNativeCfg := ⟨m.previousImeBundleName, m.previousImeSubName⟩

def flag (isExamMode : Bool) (m : ExamModeManager) : ExamModeManager := { m with isExamMode }

def remember (ime : ImeNativeCfg) (m : ExamModeManager) : ExamModeManager :=
  { m with previousImeBundleName := ime.bundleName, previousImeSubName := ime.subName }

@[simp] theorem previous_fresh : ({} : ExamModeManager).previous = ImeNativeCfg.none := rfl

@[simp] theorem previous_flag (isExamMode : Bool) (m : ExamModeManager) :
    (m.flag isExamMode).previous = m.previous := rfl

@[simp] theorem previous_remember (ime : ImeNativeCfg) (m : ExamModeManager) :
    (m.remember ime).previous = ime := rfl

def fields (m : ExamModeManager) : List (String × Lib.Json) :=
  [("isExamMode", .bool m.isExamMode), ("previousBundleName", ofString m.previousImeBundleName.1),
    ("previousSubName", ofString m.previousImeSubName.1)]

/-- A string item of the text. -/
def nameOf (root : Lib.Json) (field : String) : Option Name :=
  match getSubNode root field with
  | some (.str s) => some ⟨cStr s, Json.cStr_nulFree s⟩
  | _ => none

/-- `LoadFromPersistedData` of the value that was read: a field that is missing stays as it was. -/
def loadFromPersistedData (cjson : CJson) (m : ExamModeManager) (value : String) :
    Option ExamModeManager :=
  if value = "" then none
  else
    match cjson.parse (cStr value) with
    | none => none
    | some root =>
        some
          { isExamMode := (getBool root "isExamMode").getD m.isExamMode
            previousImeBundleName := (nameOf root "previousBundleName").getD m.previousImeBundleName
            previousImeSubName := (nameOf root "previousSubName").getD m.previousImeSubName }

/-- What `Persist` writes and `InitFromPersistedData` reads. -/
def codec (cjson : CJson) : Codec ExamModeManager String where
  fresh := {}
  encode m := cjson.print (.obj m.fields)
  decode := loadFromPersistedData cjson

section Text

variable {cjson : CJson} (m : ExamModeManager)

theorem plain_fields : Json.Plain (.obj m.fields) := by
  show Json.PlainFields m.fields
  rw [Json.plainFields_iff]
  intro field member
  simp only [fields, List.mem_cons, List.not_mem_nil, or_false] at member
  obtain rfl | rfl | rfl := member
  · exact ⟨show NulFree "isExamMode" by decide, trivial⟩
  · exact ⟨show NulFree "previousBundleName" by decide, Json.plain_ofString _⟩
  · exact ⟨show NulFree "previousSubName" by decide, Json.plain_ofString _⟩

theorem nameOf_of {root : Lib.Json} {field : String} {name : Name}
    (found : getSubNode root field = some (ofString name.1)) : nameOf root field = some name := by
  simp only [nameOf, found, ofString, Json.cStr_eq name.2]

/-- **All three members survive the text.** -/
theorem codec_lawful (lawful : cjson.Lawful) : (codec cjson).Lawful := by
  intro memory m
  have flag : getBool (.obj m.fields) "isExamMode" = some m.isExamMode := by
    have found : getSubNode (.obj m.fields) "isExamMode" = some (.bool m.isExamMode) :=
      getSubNode_of_find (by decide) (by simp [fields, sameKey])
    rw [getBool, found]
  have bundleName : nameOf (.obj m.fields) "previousBundleName" = some m.previousImeBundleName :=
    nameOf_of (getSubNode_of_find (by decide) (by simp [fields, sameKey]))
  have subName : nameOf (.obj m.fields) "previousSubName" = some m.previousImeSubName :=
    nameOf_of (getSubNode_of_find (by decide) (by simp [fields, sameKey]))
  show loadFromPersistedData cjson memory (cjson.print (.obj m.fields)) = some m
  simp only [loadFromPersistedData, if_neg (lawful.nonempty _), lawful.cStr_print,
    lawful.parse_print _ (plain_fields m), flag, bundleName, subName, Option.getD_some]

end Text

end ExamModeManager

open ExamModeManager (codec)

/-! ## The service -/

/-- `asked`: every `OnSwitchInputMethod` of the two handlers, the last one at the end. -/
structure Service where
  exam : Held ExamModeManager String := ⟨{}, none⟩
  isDataShareReady : Bool := false
  asked : List (Int32 × ImeNativeCfg) := []
  deriving DecidableEq

/-- What one message finds: the user it carries, the session and the input methods of that user,
what the switch comes to and which writes the settings data accepts. -/
structure Scene where
  userId : Option Int32
  current : Option ImeNativeCfg := none
  session : Bool := true
  isEnabled : Bool := true
  switched : ErrorCode := .noError
  firstAccepted : Bool := true
  secondAccepted : Bool := true
  deriving DecidableEq

inductive Event where
  | examModeOn (scene : Scene)
  | examModeOff (scene : Scene)
  | dataShareReady (readable : Bool)
  | restart
  deriving DecidableEq

section Service

variable (cjson : CJson) (defaultIme : ImeNativeCfg) (s : Service)

namespace Service

/-- The members are changed, then `Persist` writes them. -/
def persisted (f : ExamModeManager → ExamModeManager) (accepted : Bool) : Service :=
  { s with exam := (codec cjson).step s.exam (.change f accepted) }

def setExamMode (isExamMode accepted : Bool) : Service :=
  s.persisted cjson (ExamModeManager.flag isExamMode) accepted

def savePreviousIme (ime : ImeNativeCfg) (accepted : Bool) : Service :=
  s.persisted cjson (ExamModeManager.remember ime) accepted

def clearPreviousIme (accepted : Bool) : Service :=
  s.persisted cjson (ExamModeManager.remember .none) accepted

def getPreviousIme : ImeNativeCfg := s.exam.memory.previous

/-- The request is pushed on the switch queue of the session and handled at once. -/
def ask (userId : Int32) (ime : ImeNativeCfg) :
    Service := { s with asked := s.asked ++ [(userId, ime)] }

/-- `INVALID_USER_ID`. -/
def invalidUserId : Int32 := -1

def switchToDefaultIme (userId : Int32) (scene : Scene) : ErrorCode × Service :=
  if defaultIme.bundleName.1 = "" then (.errorImsaGetImeInfoFailed, s)
  else if ¬ scene.session then (.errorNullPointer, s)
  else (scene.switched, s.ask userId ⟨defaultIme.bundleName, Name.empty⟩)

def switchToPreviousIme (userId : Int32) (scene : Scene) : ErrorCode × Service :=
  if s.getPreviousIme.bundleName.1 = "" then (.noError, s)
  else if ¬ scene.session then (.errorNullPointer, s)
  else if ¬ scene.isEnabled then (.errorEnableIme, s)
  else (scene.switched, s.ask userId s.getPreviousIme)

/-- `IsSysIme`. -/
def isSysIme (bundleName : String) : Bool := bundleName != "" && bundleName == defaultIme.bundleName.1

def onExamModeOn (scene : Scene) : Service :=
  match scene.userId with
  | none => s
  | some userId =>
      if userId = invalidUserId then s
      else
        match scene.current with
        | none => s
        | some current =>
            if current.bundleName.1 = "" then s
            else
              let s := s.setExamMode cjson true scene.firstAccepted
              if isSysIme defaultIme current.bundleName.1 then
                s.clearPreviousIme cjson scene.secondAccepted
              else
                let s := s.savePreviousIme cjson current scene.secondAccepted
                (s.switchToDefaultIme defaultIme userId scene).2

def onExamModeOff (scene : Scene) : Service :=
  match scene.userId with
  | none => s
  | some userId =>
      if userId = invalidUserId then s
      else
        let s :=
          if s.getPreviousIme.bundleName.1 = "" then s
          else
            let (ret, s) := s.switchToPreviousIme userId scene
            if ret = .noError then s.clearPreviousIme cjson scene.firstAccepted else s
        s.setExamMode cjson false scene.secondAccepted

/-- `HandleDataShareReady`: once in the life of the service. -/
def handleDataShareReady (readable : Bool) : Service :=
  if s.isDataShareReady then s
  else { s with isDataShareReady := true, exam := (codec cjson).step s.exam (.load readable) }

/-- A new process: the members start again, the settings data stays. -/
def restart : Service :=
  { s with isDataShareReady := false, exam := (codec cjson).step s.exam .restart }

def step (s : Service) : Event → Service
  | .examModeOn scene => s.onExamModeOn cjson defaultIme scene
  | .examModeOff scene => s.onExamModeOff cjson scene
  | .dataShareReady readable => s.handleDataShareReady cjson readable
  | .restart => s.restart cjson

end Service

end Service

/-! ## What a message accesses -/

namespace Scene

variable (scene : Scene)

def validUser : Option Int32 := scene.userId.filter fun userId => userId ≠ Service.invalidUserId

/-- The input method that entering exam mode finds. -/
def entered : Option ImeNativeCfg :=
  scene.validUser.bind fun _ => scene.current.filter fun current => current.bundleName.1 ≠ ""

/-- The switch back is asked for. -/
def Asks : Prop := scene.session ∧ scene.isEnabled

instance : Decidable scene.Asks := inferInstanceAs (Decidable (_ ∧ _))

end Scene

section Accesses

variable (defaultIme : ImeNativeCfg)

/-- What entering exam mode puts aside of an input method. -/
def putAside (current : ImeNativeCfg) : ImeNativeCfg :=
  if Service.isSysIme defaultIme current.bundleName.1 then .none else current

namespace Event

/-- The accesses of a message to a memory `m`; `ready`: the settings data was ready before. -/
def accesses (ready : Bool) (m : ExamModeManager) : Event → List (Access ExamModeManager)
  | .examModeOn scene =>
      match scene.entered with
      | none => []
      | some current =>
          [.change (ExamModeManager.flag true) scene.firstAccepted,
            .change (ExamModeManager.remember (putAside defaultIme current)) scene.secondAccepted]
  | .examModeOff scene =>
      match scene.validUser with
      | none => []
      | some _ =>
          (if m.previous.bundleName.1 ≠ "" ∧ scene.Asks ∧ scene.switched = .noError then
            [.change (ExamModeManager.remember .none) scene.firstAccepted] else []) ++
            [.change (ExamModeManager.flag false) scene.secondAccepted]
  | .dataShareReady readable => if ready then [] else [.load readable]
  | .restart => [.restart]

def readyAfter (ready : Bool) : Event → Bool
  | .dataShareReady _ => true
  | .restart => false
  | _ => ready

/-- The input methods that a message asks for. -/
def requests (m : ExamModeManager) : Event → List (Int32 × ImeNativeCfg)
  | .examModeOn scene =>
      match scene.validUser, scene.entered with
      | some userId, some current =>
          if Service.isSysIme defaultIme current.bundleName.1 ∨ defaultIme.bundleName.1 = "" ∨
              ¬ scene.session then []
          else [(userId, ⟨defaultIme.bundleName, Name.empty⟩)]
      | _, _ => []
  | .examModeOff scene =>
      match scene.validUser with
      | none => []
      | some userId => if m.previous.bundleName.1 ≠ "" ∧ scene.Asks then [(userId, m.previous)] else []
  | _ => []

end Event

variable {cjson : CJson} {defaultIme : ImeNativeCfg}

theorem onExamModeOn_eq (s : Service) (scene : Scene) :
    s.onExamModeOn cjson defaultIme scene =
      { s with
        exam := run (codec cjson).step s.exam
          (Event.accesses defaultIme s.isDataShareReady s.exam.memory (.examModeOn scene))
        asked := s.asked ++ Event.requests defaultIme s.exam.memory (.examModeOn scene) } := by
  simp only [Service.onExamModeOn, Event.accesses, Event.requests, Scene.entered, Scene.validUser]
  cases scene.userId with
  | none => simp
  | some userId =>
      by_cases valid : userId = Service.invalidUserId
      · simp [Option.filter_some, valid]
      · cases scene.current with
        | none => simp [Option.filter_some, valid]
        | some current =>
            by_cases empty : current.bundleName.1 = ""
            · simp [Option.filter_some, valid, empty]
            · cases sys : Service.isSysIme defaultIme current.bundleName.1 with
              | true => simp [Option.filter_some, valid, empty, sys, putAside,
                  Service.clearPreviousIme, Service.setExamMode,
                  Service.persisted]
              | false =>
                  by_cases noDefault : defaultIme.bundleName.1 = ""
                  · simp [Option.filter_some, valid, empty, sys, putAside, noDefault,
                      Service.switchToDefaultIme, Service.savePreviousIme,
                      Service.setExamMode, Service.persisted]
                  · cases session : scene.session <;>
                      simp [Option.filter_some, valid, empty, sys, putAside, noDefault, session,
                        Service.switchToDefaultIme,
                        Service.savePreviousIme, Service.setExamMode, Service.persisted, Service.ask]

theorem onExamModeOff_eq (s : Service) (scene : Scene) :
    s.onExamModeOff cjson scene =
      { s with
        exam := run (codec cjson).step s.exam
          (Event.accesses defaultIme s.isDataShareReady s.exam.memory (.examModeOff scene))
        asked := s.asked ++ Event.requests defaultIme s.exam.memory (.examModeOff scene) } := by
  simp only [Service.onExamModeOff, Event.accesses, Event.requests, Scene.validUser,
    Service.getPreviousIme]
  cases scene.userId with
  | none => simp
  | some userId =>
      by_cases valid : userId = Service.invalidUserId
      · simp [Option.filter_some, valid]
      · by_cases empty : s.exam.memory.previous.bundleName.1 = ""
        · simp [Option.filter_some, valid, empty, Service.setExamMode, Service.persisted]
        · by_cases asks : scene.Asks
          · by_cases switched : scene.switched = .noError
            · simp [Option.filter_some, valid, empty, asks, asks.1, asks.2, switched,
                Service.switchToPreviousIme,
                Service.getPreviousIme, Service.clearPreviousIme, Service.setExamMode,
                Service.persisted,
                Service.ask]
            · simp [Option.filter_some, valid, empty, asks, asks.1, asks.2, switched,
                Service.switchToPreviousIme,
                Service.getPreviousIme, Service.setExamMode, Service.persisted, Service.ask]
          · have refused : ¬ (scene.session = true ∧ scene.isEnabled = true) := asks
            cases session : scene.session with
            | false => simp [Option.filter_some, valid, empty, asks, session,
                Service.switchToPreviousIme, Service.getPreviousIme,
                Service.setExamMode, Service.persisted]
            | true =>
                have disabled : scene.isEnabled = false := by simpa [session] using refused
                simp [Option.filter_some, valid, empty, asks, session, disabled,
                  Service.switchToPreviousIme, Service.getPreviousIme,
                  Service.setExamMode, Service.persisted]

/-- Every event is a run of accesses to the members and the text, chosen by the memory. -/
theorem step_accesses (s : Service) (e : Event) :
    Service.step cjson defaultIme s e =
      { exam := run (codec cjson).step s.exam (e.accesses defaultIme s.isDataShareReady s.exam.memory)
        isDataShareReady := e.readyAfter s.isDataShareReady
        asked := s.asked ++ e.requests defaultIme s.exam.memory } := by
  cases e with
  | examModeOn scene => exact onExamModeOn_eq s scene
  | examModeOff scene => exact onExamModeOff_eq s scene
  | dataShareReady readable =>
      cases ready : s.isDataShareReady with
      | true =>
          have same : s = { s with isDataShareReady := true } := by rw [← ready]
          simpa [Service.step, Service.handleDataShareReady, Event.accesses, Event.requests,
            Event.readyAfter, ready] using same
      | false => simp [Service.step, Service.handleDataShareReady, Event.accesses, Event.requests,
          Event.readyAfter, ready]
  | restart => simp [Service.step, Service.restart, Event.accesses, Event.requests, Event.readyAfter]

/-- Whatever the settings data does, the members and its text are what the ledger of the accesses
says. -/
theorem agrees_step (defaultIme : ImeNativeCfg) (lawful : cjson.Lawful) {s : Service}
    {ledger : Ledger ExamModeManager} (agrees : Agrees (codec cjson) s.exam ledger) (e : Event) :
    Agrees (codec cjson) (Service.step cjson defaultIme s e).exam
      (run (Ledger.step {}) ledger (e.accesses defaultIme s.isDataShareReady ledger.live)) := by
  rw [step_accesses, ← agrees.memory]
  exact Lib.run_agrees (ExamModeManager.codec_lawful lawful) agrees _

end Accesses

/-! ## Where the settings data works -/

namespace Event

def isMessage : Event → Bool
  | .examModeOn _ => true
  | .examModeOff _ => true
  | _ => false

/-- The settings data takes what it is given, and a new process reads it before the first message. -/
def Works (s : Service) : Event → Prop
  | .examModeOn scene => s.isDataShareReady ∧ scene.firstAccepted ∧ scene.secondAccepted
  | .examModeOff scene => s.isDataShareReady ∧ scene.firstAccepted ∧ scene.secondAccepted
  | .dataShareReady readable => s.isDataShareReady ∨ readable
  | .restart => True

instance (s : Service) : ∀ e : Event, Decidable (e.Works s)
  | .examModeOn _ => inferInstanceAs (Decidable (_ ∧ _ ∧ _))
  | .examModeOff _ => inferInstanceAs (Decidable (_ ∧ _ ∧ _))
  | .dataShareReady _ => inferInstanceAs (Decidable (_ ∨ _))
  | .restart => .isTrue trivial

end Event

section Works

variable {cjson : CJson} {defaultIme : ImeNativeCfg}

theorem accesses_accepted {s : Service} {e : Event} (isMessage : e.isMessage)
    (works : e.Works s) (ready : Bool)
    (m : ExamModeManager) : ∀ access ∈ e.accesses defaultIme ready m, ∃ f, access = .change f true := by
  intro access member
  cases e with
  | examModeOn scene =>
      obtain ⟨-, first, second⟩ := works
      simp only [Event.accesses] at member
      cases entered : scene.entered with
      | none => simp [entered] at member
      | some current =>
          simp only [entered, first, second, List.mem_cons, List.not_mem_nil, or_false] at member
          obtain rfl | rfl := member
          · exact ⟨_, rfl⟩
          · exact ⟨_, rfl⟩
  | examModeOff scene =>
      obtain ⟨-, first, second⟩ := works
      simp only [Event.accesses] at member
      cases valid : scene.validUser with
      | none => simp [valid] at member
      | some userId =>
          simp only [valid, first, second, List.mem_append, List.mem_singleton] at member
          obtain cleared | rfl := member
          · split at cleared
            · exact ⟨_, List.mem_singleton.1 cleared⟩
            · cases cleared
          · exact ⟨_, rfl⟩
  | dataShareReady readable => cases isMessage
  | restart => cases isMessage

/-- A service that may have been restarted, and one that was not. -/
structure Follows (cjson : CJson) (s plain : Service) : Prop where
  text : Agrees (codec cjson) s.exam ⟨s.exam.memory, plain.exam.memory⟩
  plainText : Agrees (codec cjson) plain.exam ⟨plain.exam.memory, plain.exam.memory⟩
  ready : s.isDataShareReady → s.exam.memory = plain.exam.memory
  asked : s.asked = plain.asked

theorem follows_self (cjson : CJson) : Follows cjson {} {} where
  text := Lib.agrees_empty (codec cjson)
  plainText := Lib.agrees_empty (codec cjson)
  ready _ := rfl
  asked := rfl

/-- A message finds the same members on both sides, and leaves the text up to date. -/
theorem Follows.message (lawful : cjson.Lawful) {s plain : Service}
    (follows : Follows cjson s plain) {e : Event} (isMessage : e.isMessage) (works : e.Works s) :
    Follows cjson (Service.step cjson defaultIme s e) (Service.step cjson defaultIme plain e) := by
  have ready : s.isDataShareReady = true := by
    cases e with
    | examModeOn scene => exact works.1
    | examModeOff scene => exact works.1
    | dataShareReady readable => cases isMessage
    | restart => cases isMessage
  have same := follows.ready ready
  have text := follows.text
  rw [same] at text
  have left := agrees_step defaultIme lawful text e
  have right := agrees_step defaultIme lawful follows.plainText e
  have accesses : e.accesses defaultIme plain.isDataShareReady plain.exam.memory =
      e.accesses defaultIme s.isDataShareReady plain.exam.memory := by
    cases e with
    | examModeOn scene => rfl
    | examModeOff scene => rfl
    | dataShareReady readable => cases isMessage
    | restart => cases isMessage
  rw [accesses] at right
  have current : (run (Ledger.step {}) ⟨plain.exam.memory, plain.exam.memory⟩
      (e.accesses defaultIme s.isDataShareReady plain.exam.memory)).Current :=
    Lib.current_changes (accesses_accepted isMessage works _ _) rfl
  generalize run (Ledger.step {}) ⟨plain.exam.memory, plain.exam.memory⟩
    (e.accesses defaultIme s.isDataShareReady plain.exam.memory) = ledger at left right current
  obtain ⟨live, kept⟩ := ledger
  cases current
  have now := left.memory
  have plainNow := right.memory
  refine ⟨?_, ?_, fun _ => now.trans plainNow.symm, ?_⟩
  · rw [now, plainNow]
    exact left
  · rw [plainNow]
    exact right
  · rw [step_accesses, step_accesses, follows.asked, same]

theorem Follows.other (lawful : cjson.Lawful) {s plain : Service}
    (follows : Follows cjson s plain) {e : Event}
    (other : e.isMessage = false) (works : e.Works s) :
    Follows cjson (Service.step cjson defaultIme s e) plain := by
  have text := agrees_step defaultIme lawful follows.text e
  rw [step_accesses] at text ⊢
  cases e with
  | examModeOn scene => cases other
  | examModeOff scene => cases other
  | dataShareReady readable =>
      cases ready : s.isDataShareReady with
      | true =>
          rw [ready] at text
          refine ⟨text, follows.plainText, fun _ => follows.ready ready, ?_⟩
          exact (List.append_nil _).trans follows.asked
      | false =>
          rw [ready] at text
          have readable : readable = true := by simpa [Event.Works, ready] using works
          subst readable
          have loaded := text.memory
          refine ⟨?_, follows.plainText, fun _ => loaded, ?_⟩
          · rw [loaded]
            exact text
          · exact (List.append_nil _).trans follows.asked
  | restart =>
      refine ⟨?_, follows.plainText, nofun, ?_⟩
      · exact text
      · exact (List.append_nil _).trans follows.asked

theorem run_follows (lawful : cjson.Lawful) {s plain : Service} (follows : Follows cjson s plain)
    {es : List Event} (works : Meets (Service.step cjson defaultIme) (fun s e => e.Works s) s es) :
    Follows cjson (run (Service.step cjson defaultIme) s es)
      (run (Service.step cjson defaultIme) plain (es.filter Event.isMessage)) := by
  induction es generalizing s plain with
  | nil => exact follows
  | cons e es ih =>
      cases isMessage : e.isMessage with
      | true =>
          rw [List.filter_cons_of_pos isMessage, run_cons, run_cons]
          exact ih (follows.message lawful isMessage works.1) works.2
      | false =>
          rw [List.filter_cons_of_neg (by simp [isMessage]), run_cons]
          exact ih (follows.other lawful isMessage works.1) works.2

/-- **No restart is noticed.**  Where the settings data takes every write and is read before the first
message, the run without its restarts asks for the same input methods; the text says what its members
are, and so do the members, as soon as they are read. -/
theorem restarts_unseen (lawful : cjson.Lawful) {es : List Event}
    (works : Meets (Service.step cjson defaultIme) (fun s e => e.Works s) {} es) :
    (run (Service.step cjson defaultIme) {} es).asked =
        (run (Service.step cjson defaultIme) {} (es.filter Event.isMessage)).asked ∧
      (∀ memory, (codec cjson).reading memory (run (Service.step cjson defaultIme) {} es).exam.stored =
        (run (Service.step cjson defaultIme) {} (es.filter Event.isMessage)).exam.memory) ∧
      ((run (Service.step cjson defaultIme) {} es).isDataShareReady →
        (run (Service.step cjson defaultIme) {} es).exam.memory =
          (run (Service.step cjson defaultIme) {} (es.filter Event.isMessage)).exam.memory) := by
  have follows := run_follows lawful (follows_self cjson) works
  exact ⟨follows.asked, follows.text.stored, follows.ready⟩

end Works

/-! ## What is set aside -/

namespace Event

/-- Exam mode is entered while `ime`, which is not the default one, is current. -/
def SetsAside (defaultIme ime : ImeNativeCfg) (e : Event) : Prop :=
  ∃ scene, e = .examModeOn scene ∧ scene.entered = some ime ∧
    Service.isSysIme defaultIme ime.bundleName.1 = false

/-- Neither another entry nor a return. -/
def LeavesAside : Event → Prop
  | .examModeOn scene => scene.entered = none
  | .examModeOff scene => scene.validUser = none ∨ ¬ (scene.Asks ∧ scene.switched = .noError)
  | _ => True

end Event

section Aside

variable {cjson : CJson} {defaultIme : ImeNativeCfg} {s : Service}

theorem putAside_eq {current ime : ImeNativeCfg} (named : ime.bundleName.1 ≠ "") :
    putAside defaultIme current = ime ↔
      current = ime ∧ Service.isSysIme defaultIme ime.bundleName.1 = false := by
  unfold putAside
  cases sys : Service.isSysIme defaultIme current.bundleName.1 with
  | true =>
      constructor
      · rintro rfl
        exact absurd rfl named
      · rintro ⟨rfl, other⟩
        rw [sys] at other
        cases other
  | false =>
      constructor
      · rintro rfl
        exact ⟨rfl, sys⟩
      · exact fun same => same.1

/-- What a message leaves of the name that is remembered. -/
theorem step_previous (s : Service) {e : Event} (isMessage : e.isMessage) {ime : ImeNativeCfg}
    (named : ime.bundleName.1 ≠ "") :
    (Service.step cjson defaultIme s e).exam.memory.previous = ime ↔
      e.SetsAside defaultIme ime ∨ (s.exam.memory.previous = ime ∧ e.LeavesAside) := by
  rw [step_accesses]
  cases e with
  | examModeOn scene =>
      cases entered : scene.entered with
      | none => simp [Event.accesses, Event.SetsAside, Event.LeavesAside, entered]
      | some current =>
          have aside : (run (codec cjson).step s.exam
            (Event.accesses defaultIme s.isDataShareReady s.exam.memory
              (.examModeOn scene))).memory.previous = putAside defaultIme current := by
            simp [Event.accesses, entered, Codec.step]
          rw [aside, putAside_eq named]
          simp [Event.SetsAside, Event.LeavesAside, entered]
  | examModeOff scene =>
      have noEntry : ¬ (Event.examModeOff scene).SetsAside defaultIme ime := by
        rintro ⟨_, other, -⟩
        cases other
      cases valid : scene.validUser with
      | none => simp [Event.accesses, Event.LeavesAside, valid, noEntry]
      | some userId =>
          by_cases back : s.exam.memory.previous.bundleName.1 ≠ "" ∧ scene.Asks ∧
            scene.switched = .noError
          · have cleared : (run (codec cjson).step s.exam
              (Event.accesses defaultIme s.isDataShareReady s.exam.memory
                (.examModeOff scene))).memory.previous = .none := by
              simp [Event.accesses, valid, back, Codec.step]
            have left : ¬ (Event.examModeOff scene).LeavesAside := by
              simp [Event.LeavesAside, valid, back.2.1, back.2.2]
            rw [cleared]
            constructor
            · rintro rfl
              exact absurd rfl named
            · rintro (entry | ⟨-, leaves⟩)
              · exact absurd entry noEntry
              · exact absurd leaves left
          · have kept : (run (codec cjson).step s.exam
              (Event.accesses defaultIme s.isDataShareReady s.exam.memory
                (.examModeOff scene))).memory.previous = s.exam.memory.previous := by
              simp [Event.accesses, valid, if_neg back, Codec.step]
            rw [kept]
            constructor
            · intro remembered
              refine .inr ⟨remembered, .inr fun restores => back ⟨?_, restores⟩⟩
              rw [remembered]
              exact named
            · rintro (entry | ⟨remembered, -⟩)
              · exact absurd entry noEntry
              · exact remembered
  | dataShareReady readable => cases isMessage
  | restart => cases isMessage

/-- The name in the text goes from the entry that set it aside to the next entry or return. -/
theorem remembered_iff (lawful : cjson.Lawful) {ime : ImeNativeCfg} (named : ime.bundleName.1 ≠ "")
    {es : List Event} (works : Meets (Service.step cjson defaultIme) (fun s e => e.Works s) {} es) :
    ((codec cjson).reading {} (run (Service.step cjson defaultIme) {} es).exam.stored).previous = ime ↔
      Since (Service.step cjson defaultIme)
        (fun _ e => e.SetsAside defaultIme ime) Event.LeavesAside {} es := by
  refine Lib.allowed_iff_since (P := fun s => ((codec cjson).reading {} s.exam.stored).previous = ime)
    (I := fun s => ∃ plain, Follows cjson s plain) ?_ ?_ ⟨{}, follows_self cjson⟩ ?_ works
  · rintro s e ⟨plain, follows⟩ works
    cases isMessage : e.isMessage with
    | true => exact ⟨_, follows.message lawful isMessage works⟩
    | false => exact ⟨plain, follows.other lawful isMessage works⟩
  · rintro s e ⟨plain, follows⟩ works
    have before := follows.text.stored {}
    cases isMessage : e.isMessage with
    | true =>
        have next : Follows cjson (Service.step cjson defaultIme s e)
          (Service.step cjson defaultIme plain e) :=
          follows.message lawful isMessage works
        have after := next.text.stored {}
        rw [after, before]
        exact step_previous plain isMessage named
    | false =>
        have next : Follows cjson (Service.step cjson defaultIme s e) plain :=
          follows.other lawful isMessage works
        have after := next.text.stored {}
        rw [after, before]
        cases e with
        | examModeOn scene => cases isMessage
        | examModeOff scene => cases isMessage
        | dataShareReady readable => simp [Event.SetsAside, Event.LeavesAside]
        | restart => simp [Event.SetsAside, Event.LeavesAside]
  · rintro rfl
    exact named rfl

/-- **Leaving exam mode asks for the input method that was set aside**, and only for that: where the
settings data works, and the user, a session and an enabled input method are there, `ime` is asked for
exactly when exam mode was entered with it and neither another entry nor a return came since, however
often the service was restarted. -/
theorem restores_iff (lawful : cjson.Lawful) {ime : ImeNativeCfg} (named : ime.bundleName.1 ≠ "")
    {es : List Event} (works : Meets (Service.step cjson defaultIme) (fun s e => e.Works s) {} es)
    (ready : (run (Service.step cjson defaultIme) {} es).isDataShareReady) {scene : Scene}
    {userId : Int32} (valid : scene.validUser = some userId) (asks : scene.Asks) :
    (run (Service.step cjson defaultIme) {} (es ++ [.examModeOff scene])).asked =
        (run (Service.step cjson defaultIme) {} es).asked ++ [(userId, ime)] ↔
      Since (Service.step cjson defaultIme)
        (fun _ e => e.SetsAside defaultIme ime) Event.LeavesAside {} es := by
  rw [← remembered_iff lawful named works, run_append, run_cons, run_nil]
  have follows := run_follows lawful (follows_self cjson) works
  have same := (follows.text.stored {}).trans (follows.ready ready).symm
  rw [same, step_accesses, List.append_cancel_left_eq]
  simp only [Event.requests, valid]
  generalize (run (Service.step cjson defaultIme) {} es).exam.memory.previous = previous
  constructor
  · intro asked
    split at asked
    · simpa using asked
    · cases asked
  · rintro rfl
    rw [if_pos ⟨named, asks⟩]

/-- Where a remembered name comes from. -/
def Origin (defaultIme : ImeNativeCfg) (es : List Event) (ime : ImeNativeCfg) : Prop :=
  ime = .none ∨ ∃ e ∈ es, e.SetsAside defaultIme ime

/-- Every change that a message makes is to a name that it may make. -/
theorem changes_origin {es : List Event} {e : Event} (member : e ∈ es) {ready : Bool}
    {m : ExamModeManager} {f : ExamModeManager → ExamModeManager} {accepted : Bool}
    (change : Access.change f accepted ∈ e.accesses defaultIme ready m) (value : ExamModeManager)
    (origin : Origin defaultIme es value.previous) : Origin defaultIme es (f value).previous := by
  cases e with
  | examModeOn scene =>
      simp only [Event.accesses] at change
      cases entered : scene.entered with
      | none => simp [entered] at change
      | some current =>
          simp only [entered, List.mem_cons, List.not_mem_nil, or_false, Access.change.injEq] at change
          obtain ⟨rfl, -⟩ | ⟨rfl, -⟩ := change
          · exact origin
          · rw [ExamModeManager.previous_remember]
            unfold putAside
            cases sys : Service.isSysIme defaultIme current.bundleName.1 with
            | true => exact .inl rfl
            | false => exact .inr ⟨_, member, scene, rfl, entered, sys⟩
  | examModeOff scene =>
      simp only [Event.accesses] at change
      cases valid : scene.validUser with
      | none => simp [valid] at change
      | some userId =>
          simp only [valid, List.mem_append, List.mem_singleton, Access.change.injEq] at change
          obtain cleared | ⟨rfl, -⟩ := change
          · split at cleared
            · obtain ⟨rfl, -⟩ := Access.change.inj (List.mem_singleton.1 cleared)
              exact .inl rfl
            · cases cleared
          · exact origin
  | dataShareReady readable =>
      simp only [Event.accesses] at change
      split at change <;> simp at change
  | restart => simp [Event.accesses] at change

theorem requests_origin {es : List Event} {e : Event} {m : ExamModeManager}
    (origin : Origin defaultIme es m.previous) {asked : Int32 × ImeNativeCfg}
    (requested : asked ∈ e.requests defaultIme m) :
    asked.2 = ⟨defaultIme.bundleName, Name.empty⟩ ∨ ∃ e ∈ es, e.SetsAside defaultIme asked.2 := by
  cases e with
  | examModeOn scene =>
      simp only [Event.requests] at requested
      split at requested
      · split at requested
        · cases requested
        · rw [List.mem_singleton.1 requested]
          exact .inl rfl
      · cases requested
  | examModeOff scene =>
      simp only [Event.requests] at requested
      split at requested
      · cases requested
      · split at requested
        case isTrue asks =>
          rw [List.mem_singleton.1 requested]
          rcases origin with none | aside
          · rw [none] at asks
            exact absurd rfl asks.1
          · exact .inr aside
        case isFalse => cases requested
  | dataShareReady readable => cases requested
  | restart => cases requested

/-- **Nothing else is ever asked for.**  In every run, whatever is refused or cannot be read, each
input method that the two messages ask for is the default one, or was current when exam mode was
entered and is not the default one. -/
theorem set_aside_before (lawful : cjson.Lawful) (es : List Event) :
    ∀ asked ∈ (run (Service.step cjson defaultIme) {} es).asked,
      asked.2 = ⟨defaultIme.bundleName, Name.empty⟩ ∨ ∃ e ∈ es, e.SetsAside defaultIme asked.2 := by
  have none : ∀ asked ∈ ({} : Service).asked,
      asked.2 = ⟨defaultIme.bundleName, Name.empty⟩ ∨ ∃ e ∈ es,
        e.SetsAside defaultIme asked.2 := by simp
  have kept : ∃ ledger, Agrees (codec cjson) (run (Service.step cjson defaultIme) {} es).exam ledger ∧
      ledger.Both (fun m => Origin defaultIme es m.previous) ∧
      ∀ asked ∈ (run (Service.step cjson defaultIme) {} es).asked,
        asked.2 = ⟨defaultIme.bundleName, Name.empty⟩ ∨ ∃ e ∈ es, e.SetsAside defaultIme asked.2 := by
    refine Lib.run_members (P := fun s : Service => ∃ ledger, Agrees (codec cjson) s.exam ledger ∧
      ledger.Both (fun m => Origin defaultIme es m.previous) ∧ ∀ asked ∈ s.asked,
        asked.2 = ⟨defaultIme.bundleName, Name.empty⟩ ∨ ∃ e ∈ es, e.SetsAside defaultIme asked.2) ?_
      ⟨⟨{}, {}⟩, Lib.agrees_empty (codec cjson), ⟨.inl rfl, .inl rfl⟩, none⟩
    rintro s e member ⟨ledger, agrees, both, asked⟩
    refine ⟨_, agrees_step _ lawful agrees e, ?_, ?_⟩
    · refine Lib.run_accounted (.inl rfl) (fun f accepted change value origin => ?_) both
      exact changes_origin member change value origin
    · rw [step_accesses]
      intro request listed
      rcases List.mem_append.1 listed with before | now
      · exact asked request before
      · rw [agrees.memory] at now
        exact requests_origin both.1 now
  obtain ⟨ledger, -, -, asked⟩ := kept
  exact asked

end Aside

/-! ## Poles -/

section Poles

def defaultKeyboard : ImeNativeCfg := ⟨⟨"com.example.keyboard", by decide⟩, Name.empty⟩

def chosen : ImeNativeCfg := ⟨⟨"com.example.chosen", by decide⟩, ⟨"zh", by decide⟩⟩

/-- The service is restarted twice while the exam goes on. -/
def examDay : List Event :=
  [.dataShareReady true, .examModeOn { userId := some 100, current := some chosen }, .restart, .restart,
    .dataShareReady true]

theorem examDay_unseen :
    (run (Service.step Json.compact defaultKeyboard) {} examDay).exam.memory =
      (run (Service.step Json.compact defaultKeyboard) {}
        (examDay.filter Event.isMessage)).exam.memory :=
  (restarts_unseen Json.compact_lawful (by decide)).2.2 (by decide)

theorem examDay_restores :
    (run (Service.step Json.compact defaultKeyboard) {}
      (examDay ++ [.examModeOff { userId := some 100 }])).asked =
      (run (Service.step Json.compact defaultKeyboard) {} examDay).asked ++ [(100, chosen)] := by
  refine (restores_iff Json.compact_lawful (by decide) (by decide) (by decide) rfl (by decide)).2 ?_
  exact ⟨[.dataShareReady true], _, [.restart, .restart, .dataShareReady true], rfl,
    ⟨_, rfl, rfl, by decide⟩,
    by simp [Event.LeavesAside]⟩

/-- The exam is over before the service restarts. -/
def shortExam : List Event :=
  [.examModeOn { userId := some 100, current := some chosen }, .examModeOff { userId := some 100 }]

theorem shortExam_asked : ∃ e ∈ shortExam, e.SetsAside defaultKeyboard chosen := by
  have aside : chosen = ⟨defaultKeyboard.bundleName, Name.empty⟩ ∨ ∃ e ∈ shortExam,
    e.SetsAside defaultKeyboard chosen :=
    set_aside_before Json.compact_lawful shortExam (100, chosen) (.tail _ (.head _))
  exact aside.resolve_left (by decide)

end Poles

end Imf.ExamMode
