/-
# Imf.Ipc.StatusInfo -- what is told about focus, input start and input stop

Five structures report the state of a session over the parcel: which window has the focus,
which input method and client are bound, and that input started or stopped.  Writer and reader
of each are written by hand.

`status_survives` says which values come back as they were with the parcel standing right
behind them: all bound infos and start infos, a focused info without the pid of a host of an
extension, which neither side mentions, and no stop info, whose display is written twice.
-/
import Imf.Ipc.ClientInfo

namespace Imf.Ipc

set_option autoImplicit false

open Lib (Parcel)
open Lib.Parcel

/-! ## Structures, writers and readers -/

structure InputWindowStatus where
  value : UInt32
  deriving DecidableEq, Repr

structure PanelFlag where
  value : Int32
  deriving DecidableEq, Repr

structure InputStartScene where
  value : UInt32
  deriving DecidableEq, Repr

structure InputStopScene where
  value : UInt32
  deriving DecidableEq, Repr

def InputWindowStatus.hide : InputWindowStatus := ⟨1⟩

def PanelFlag.none : PanelFlag := ⟨3⟩

def InputStartScene.none : InputStartScene := ⟨4⟩

def InputStopScene.clientTrigger : InputStopScene := ⟨0⟩

def InputStopScene.none : InputStopScene := ⟨3⟩

def DEFAULT_USER_ID : Int32 := -1

structure FocusedInfo where
  windowId : UInt32 := 0
  displayId : UInt64 := 0
  displayGroupId : UInt64 := 0
  keyboardWindowId : UInt32 := 0
  keyboardDisplayId : UInt64 := 0
  keyboardDisplayGroupId : UInt64 := 0
  uiExtensionHostPid : Int32 := INVALID_PID
  deriving DecidableEq, Repr

namespace FocusedInfo

def readFromParcel : Reader FocusedInfo := do
  let windowId ← readUint32
  let displayId ← readUint64
  let displayGroupId ← readUint64
  let keyboardWindowId ← readUint32
  let keyboardDisplayId ← readUint64
  let keyboardDisplayGroupId ← readUint64
  return { windowId, displayId, displayGroupId, keyboardWindowId, keyboardDisplayId, keyboardDisplayGroupId }

def marshalling (f : FocusedInfo) : Parcel :=
  List.flatten [
    writeUint32 f.windowId,
    writeUint64 f.displayId,
    writeUint64 f.displayGroupId,
    writeUint32 f.keyboardWindowId,
    writeUint64 f.keyboardDisplayId,
    writeUint64 f.keyboardDisplayGroupId]

/-- The pid of the host is not written, and the reader leaves it at its default. -/
theorem decodes (f : FocusedInfo) :
    Decodes readFromParcel f.marshalling { f with uiExtensionHostPid := INVALID_PID } := by
  refine (decodes_uint32 f.windowId).bind ?_
  refine (decodes_uint64 f.displayId).bind ?_
  refine (decodes_uint64 f.displayGroupId).bind ?_
  refine (decodes_uint32 f.keyboardWindowId).bind ?_
  refine (decodes_uint64 f.keyboardDisplayId).bind ?_
  exact (decodes_uint64 f.keyboardDisplayGroupId).bind (decodes_pure _)

end FocusedInfo

structure BoundImeInfo where
  status : InputWindowStatus := .hide
  panelFlag : PanelFlag := .none
  displayId : UInt64 := 0
  deriving DecidableEq, Repr

namespace BoundImeInfo

def readFromParcel : Reader BoundImeInfo := do
  let statusTmp ← readUint32
  let panelFlagTmp ← readInt32
  let displayId ← readUint64
  return { status := ⟨statusTmp⟩, panelFlag := ⟨panelFlagTmp⟩, displayId }

def marshalling (b : BoundImeInfo) : Parcel :=
  List.flatten [
    writeUint32 b.status.value,
    writeInt32 b.panelFlag.value,
    writeUint64 b.displayId]

theorem decodes (b : BoundImeInfo) : Decodes readFromParcel b.marshalling b := by
  refine (decodes_uint32 b.status.value).bind ?_
  refine (decodes_int32 b.panelFlag.value).bind ?_
  exact (decodes_uint64 b.displayId).bind (decodes_pure _)

end BoundImeInfo

structure BoundClientInfo where
  displayId : UInt64 := 0
  windowId : UInt32 := 0
  requestKeyboardReason : Int32 := 0
  isShowKeyboard : Bool := true
  deriving DecidableEq, Repr

namespace BoundClientInfo

def readFromParcel : Reader BoundClientInfo := do
  let displayId ← readUint64
  let windowId ← readUint32
  let requestKeyboardReason ← readInt32
  let isShowKeyboard ← readBool
  return { displayId, windowId, requestKeyboardReason, isShowKeyboard }

def marshalling (b : BoundClientInfo) : Parcel :=
  List.flatten [
    writeUint64 b.displayId,
    writeUint32 b.windowId,
    writeInt32 b.requestKeyboardReason,
    writeBool b.isShowKeyboard]

theorem decodes (b : BoundClientInfo) : Decodes readFromParcel b.marshalling b := by
  refine (decodes_uint64 b.displayId).bind ?_
  refine (decodes_uint32 b.windowId).bind ?_
  refine (decodes_int32 b.requestKeyboardReason).bind ?_
  exact (decodes_bool b.isShowKeyboard).bind (decodes_pure _)

end BoundClientInfo

structure InputStartInfo where
  userId : Int32 := DEFAULT_USER_ID
  scene : InputStartScene := .none
  clientInfo : BoundClientInfo := {}
  imeInfo : BoundImeInfo := {}
  deriving DecidableEq, Repr

namespace InputStartInfo

def readFromParcel : Reader InputStartInfo := do
  let userId ← readInt32
  let sceneTmp ← readUint32
  let clientInfo ← readParcelable BoundClientInfo.readFromParcel
  let imeInfo ← readParcelable BoundImeInfo.readFromParcel
  return { userId, scene := ⟨sceneTmp⟩, clientInfo, imeInfo }

def marshalling (i : InputStartInfo) : Parcel :=
  List.flatten [
    writeInt32 i.userId,
    writeUint32 i.scene.value,
    writeParcelable i.clientInfo.marshalling,
    writeParcelable i.imeInfo.marshalling]

theorem decodes (i : InputStartInfo) : Decodes readFromParcel i.marshalling i := by
  refine (decodes_int32 i.userId).bind ?_
  refine (decodes_uint32 i.scene.value).bind ?_
  refine i.clientInfo.decodes.parcelable.bind ?_
  exact i.imeInfo.decodes.parcelable.bind (decodes_pure _)

end InputStartInfo

structure InputStopInfo where
  scene : InputStopScene := .none
  userId : Int32 := DEFAULT_USER_ID
  displayId : UInt64 := 0
  deriving DecidableEq, Repr

namespace InputStopInfo

def readFromParcel : Reader InputStopInfo := do
  let sceneTmp ← readUint32
  let userId ← readInt32
  let displayId ← readUint64
  return { scene := ⟨sceneTmp⟩, userId, displayId }

/-- The display is written a second time. -/
def marshalling (i : InputStopInfo) : Parcel :=
  List.flatten [
    writeUint32 i.scene.value,
    writeInt32 i.userId,
    writeUint64 i.displayId,
    writeUint64 i.displayId]

/-- The reader stops before the second display. -/
theorem decodes (i : InputStopInfo) : Decodes readFromParcel
    (List.flatten [writeUint32 i.scene.value, writeInt32 i.userId, writeUint64 i.displayId]) i := by
  refine (decodes_uint32 i.scene.value).bind ?_
  refine (decodes_int32 i.userId).bind ?_
  exact (decodes_uint64 i.displayId).bind (decodes_pure _)

end InputStopInfo

/-! ## The five together -/

/-- A value of one of the structures. -/
inductive StatusInfo where
  | focused (info : FocusedInfo)
  | boundIme (info : BoundImeInfo)
  | boundClient (info : BoundClientInfo)
  | start (info : InputStartInfo)
  | stop (info : InputStopInfo)
  deriving DecidableEq, Repr

namespace StatusInfo

def marshalling : StatusInfo → Parcel
  | .focused info => info.marshalling
  | .boundIme info => info.marshalling
  | .boundClient info => info.marshalling
  | .start info => info.marshalling
  | .stop info => info.marshalling

/-- The reader of the structure that the value is of. -/
def unmarshalling : StatusInfo → Reader StatusInfo
  | .focused _ => do return .focused (← FocusedInfo.readFromParcel)
  | .boundIme _ => do return .boundIme (← BoundImeInfo.readFromParcel)
  | .boundClient _ => do return .boundClient (← BoundClientInfo.readFromParcel)
  | .start _ => do return .start (← InputStartInfo.readFromParcel)
  | .stop _ => do return .stop (← InputStopInfo.readFromParcel)

/-- The value comes back and what follows it is left. -/
def Survives (v : StatusInfo) (rest : Parcel) : Prop :=
  v.unmarshalling (v.marshalling ++ rest) = some (v, rest)

instance (v : StatusInfo) (rest : Parcel) : Decidable (v.Survives rest) :=
  inferInstanceAs (Decidable ((_ : Option (StatusInfo × Parcel)) = _))

/-- No host of an extension, and not a stop. -/
def Carried : StatusInfo → Prop
  | .focused info => info.uiExtensionHostPid = INVALID_PID
  | .stop _ => False
  | _ => True

theorem focused_survives_iff (info : FocusedInfo) (rest : Parcel) :
    Survives (.focused info) rest ↔ info.uiExtensionHostPid = INVALID_PID := by
  have read : (StatusInfo.focused info).unmarshalling (info.marshalling ++ rest) =
      some (.focused { info with uiExtensionHostPid := INVALID_PID }, rest) :=
    (info.decodes.wrap StatusInfo.focused) rest
  constructor
  · intro survives
    have same := read.symm.trans survives
    simp only [Option.some.injEq, Prod.mk.injEq, StatusInfo.focused.injEq, and_true] at same
    rw [← same]
  · intro absent
    have same : { info with uiExtensionHostPid := INVALID_PID } = info := by rw [← absent]
    rw [same] at read
    exact read

theorem not_stop_survives (info : InputStopInfo) (rest : Parcel) : ¬ Survives (.stop info) rest := by
  intro survives
  have read : (StatusInfo.stop info).unmarshalling (info.marshalling ++ rest) =
      some (.stop info, writeUint64 info.displayId ++ rest) :=
    info.decodes.wrap StatusInfo.stop (writeUint64 info.displayId ++ rest)
  have same := read.symm.trans survives
  simp only [Option.some.injEq, Prod.mk.injEq, true_and] at same
  exact absurd (congrArg List.length same) (by simp [writeUint64])

end StatusInfo

/-- **Which status values survive the parcel**, whatever follows them. -/
theorem status_survives (v : StatusInfo) (rest : Parcel) : v.Survives rest ↔ v.Carried := by
  cases v with
  | focused info => exact StatusInfo.focused_survives_iff info rest
  | boundIme info => exact iff_of_true (info.decodes.wrap StatusInfo.boundIme rest) trivial
  | boundClient info => exact iff_of_true (info.decodes.wrap StatusInfo.boundClient rest) trivial
  | start info => exact iff_of_true (info.decodes.wrap StatusInfo.start rest) trivial
  | stop info => exact iff_of_false (StatusInfo.not_stop_survives info rest) id

/-! ## Poles -/

/-- A stop of the client leaves its display in front of what follows. -/
theorem stop_leaves_display :
    ¬ ∀ (v : StatusInfo) (rest : Parcel), v.Survives rest := by
  intro all
  exact absurd (all (.stop { scene := .clientTrigger, userId := 100, displayId := 5 }) []) (by decide)

/-- A focus in an extension forgets its host. -/
example : ¬ StatusInfo.Survives (.focused { windowId := 3, uiExtensionHostPid := 40 }) [] := by
  decide

end Imf.Ipc
