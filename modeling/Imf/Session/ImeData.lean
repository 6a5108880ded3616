/-
# Imf.Session.ImeData -- what a session knows of an input method

`ImeData` is what a session keeps of an input method that it has started, or that has registered as
a proxy or as a mirror.  A module sets and reads the fields that its functions set and read, and
leaves the others as they are.

`FillImeData` fills it in when the input method registers.  A registration that fails half way
leaves behind what it has filled in so far.
-/
import Imf.Common.ErrorCode
import Imf.Ipc.ClientInfo

namespace Imf

set_option autoImplicit false

open Ipc (ImeType)

inductive ImeStatus where
  | starting
  | ready
  | exiting
  deriving DecidableEq, Repr

/-- Remote objects are numbered, and null pointers are `none`. -/
structure ImeData where
  core : Option Nat := none
  agent : Option Nat := none
  deathRecipient : Bool := false
  pid : Int32 := -1
  uid : Int32 := -1
  type : ImeType := .ime
  imeStatus : ImeStatus := .starting
  ime : String × String := ("", "")
  isStartedInScreenLocked : Bool := false
  deriving DecidableEq, Repr

def ImeData.isImeMirror (data : ImeData) : Bool := data.type == .imeMirror

def ImeData.isRealIme (data : ImeData) : Bool := data.type == .ime

def PROXY_IME_NAME : String := "proxyIme"

def IME_MIRROR_NAME : String := "proxyIme_IME_MIRROR"

/-- What `FillImeData` is told. -/
structure FillAnswers where
  /-- A death recipient can be created. -/
  newRecipient : Bool := true
  /-- The remote object of the core, and whether it is a proxy object. -/
  coreObject : Option Bool := some true
  addDeathRecipient : Bool := true
  deriving DecidableEq, Repr

def fillImeData (core agent : Option Nat) (pid : Int32) (type : ImeType)
    (imeData : ImeData) (uid : Int32) (answers : FillAnswers) : ErrorCode × ImeData :=
  if core = none ∨ agent = none then (.errorNullPointer, imeData)
  else
    let imeData := if type ≠ .ime then { imeData with imeStatus := .ready } else imeData
    let imeData := { imeData with type, core, agent, pid, uid }
    if !answers.newRecipient then (.errorNullPointer, imeData)
    else if answers.coreObject.all fun isProxyObject => isProxyObject && !answers.addDeathRecipient then
      (.errorAddDeathRecipientFailed, imeData)
    else
      let imeData := { imeData with deathRecipient := true }
      let imeData :=
        if type = .imeMirror then { imeData with ime := (IME_MIRROR_NAME, imeData.ime.2) }
        else imeData
      (.noError,
        if type = .proxyIme then { imeData with ime := (PROXY_IME_NAME, imeData.ime.2) }
        else imeData)

/-- The core, the agent and the process are filled in whatever fails after that; the status of a
real input method is left alone. -/
theorem fillImeData_fills (core agent : Nat) (pid : Int32) (imeData : ImeData) (uid : Int32)
    (answers : FillAnswers) :
    let filled := (fillImeData (some core) (some agent) pid .ime imeData uid answers).2
    filled.core = some core ∧ filled.agent = some agent ∧ filled.pid = pid ∧
      filled.imeStatus = imeData.imeStatus := by
  unfold fillImeData
  rw [if_neg (by simp)]
  dsimp only
  split
  · exact ⟨rfl, rfl, rfl, rfl⟩
  · split <;> exact ⟨rfl, rfl, rfl, rfl⟩

end Imf
