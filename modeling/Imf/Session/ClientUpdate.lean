/-
# Imf.Session.ClientUpdate -- updates of a registered client

Everybody who changes the info of a registered client goes through `UpdateClientInfo`, with a map
from flags to values.  A value is a variant of ten alternatives, chosen by the type of what is
passed; the flag chooses the field, and with it the alternative that is read.  A value that holds
another alternative is skipped, and nobody hears of it.

A type that a variant holds is an instance of `Holds`.  An unordered map is gone through in any
order (`MapOrder`), and the order makes no difference to the callers there are (`apply_order`).

The operations of the session change a client by exactly the updates of their callers
(`addClientInfo_updates` and its like), here by name and in Imf.Session.Clients as a function.

`updates_delivered` says that every caller but `ShowKeyboard` passes what is read.  `ShowKeyboard`
passes its reason as a number, so the reason of the client stays what it was.
-/
import Imf.Session.Clients
import Mathlib.Data.List.Pairwise

namespace Imf.ClientUpdate

set_option autoImplicit false

open Ipc (BindImeData ClientState ClientType ImeType InputClientInfo RequestKeyboardReason
  TextTotalConfig)
open Session (ClientGroup)

/-! ## Flags and values -/

inductive UpdateFlag where
  | eventFlag
  | isShowKeyboard
  | bindImeType
  | state
  | textConfig
  | uiExtensionTokenId
  | clientType
  | bindImeData
  | uiExtensionHostWindowPid
  | clientGroupId
  | requestKeyboardReason
  deriving DecidableEq, Repr

/-- The value of an update.  `pid_t` is `int32_t`, and a shared pointer can be null. -/
inductive Variant where
  | bool (value : Bool)
  | uint32 (value : UInt32)
  | imeType (value : ImeType)
  | clientState (value : ClientState)
  | textTotalConfig (value : TextTotalConfig)
  | clientType (value : ClientType)
  | pid (value : Int32)
  | bindImeData (value : Option BindImeData)
  | uint64 (value : UInt64)
  | requestKeyboardReason (value : RequestKeyboardReason)
  deriving DecidableEq, Repr

/-- A type that is an alternative of the variant: what a value of it is converted to, and what
`holds_alternative` and `get` find in a variant. -/
class Holds (α : Type) where
  convert : α → Variant
  get? : Variant → Option α
  get_convert : ∀ value, get? (convert value) = some value

export Holds (convert)

instance : Holds Bool where
  convert := .bool
  get?
    | .bool value => some value
    | _ => none
  get_convert _ := rfl

instance : Holds UInt32 where
  convert := .uint32
  get?
    | .uint32 value => some value
    | _ => none
  get_convert _ := rfl

instance : Holds ClientState where
  convert := .clientState
  get?
    | .clientState value => some value
    | _ => none
  get_convert _ := rfl

instance : Holds TextTotalConfig where
  convert := .textTotalConfig
  get?
    | .textTotalConfig value => some value
    | _ => none
  get_convert _ := rfl

instance : Holds ClientType where
  convert := .clientType
  get?
    | .clientType value => some value
    | _ => none
  get_convert _ := rfl

instance : Holds Int32 where
  convert := .pid
  get?
    | .pid value => some value
    | _ => none
  get_convert _ := rfl

instance : Holds (Option BindImeData) where
  convert := .bindImeData
  get?
    | .bindImeData value => some value
    | _ => none
  get_convert _ := rfl

instance : Holds UInt64 where
  convert := .uint64
  get?
    | .uint64 value => some value
    | _ => none
  get_convert _ := rfl

instance : Holds RequestKeyboardReason where
  convert := .requestKeyboardReason
  get?
    | .requestKeyboardReason value => some value
    | _ => none
  get_convert _ := rfl

/-- `VariantUtil::GetValue`, with what becomes of `output`. -/
def getValue {α : Type} [Holds α] (input : Variant) (output : α) : Bool × α :=
  match Holds.get? input with
  | none => (false, output)
  | some value => (true, value)

/-! ## The group -/

/-- The body of the loop of `UpdateClientInfo`. -/
def updateField (info : InputClientInfo) (updateInfo : UpdateFlag × Variant) : InputClientInfo :=
  match updateInfo.1 with
  | .isShowKeyboard => { info with isShowKeyboard := (getValue updateInfo.2 info.isShowKeyboard).2 }
  | .state => { info with state := (getValue updateInfo.2 info.state).2 }
  | .textConfig => { info with config := (getValue updateInfo.2 info.config).2 }
  | .uiExtensionTokenId =>
      { info with uiExtensionTokenId := (getValue updateInfo.2 info.uiExtensionTokenId).2 }
  | .clientType => { info with type := (getValue updateInfo.2 info.type).2 }
  | .bindImeData => { info with bindImeData := (getValue updateInfo.2 info.bindImeData).2 }
  | .uiExtensionHostWindowPid =>
      { info with uiExtensionHostPid := (getValue updateInfo.2 info.uiExtensionHostPid).2 }
  | .clientGroupId => { info with clientGroupId := (getValue updateInfo.2 info.clientGroupId).2 }
  | .requestKeyboardReason =>
      { info with
        config.requestKeyboardReason := (getValue updateInfo.2 info.config.requestKeyboardReason).2 }
  | .eventFlag => info
  | .bindImeType => info

/-- The order in which an unordered map goes through its entries. -/
structure MapOrder where
  arrange : List (UpdateFlag × Variant) → List (UpdateFlag × Variant)
  perm : ∀ updateInfos, (arrange updateInfos).Perm updateInfos

/-- The bound input method is there, and takes the request. -/
structure Answers where
  imeData : Bool := true
  request : Bool := true
  deriving DecidableEq, Repr

/-- Who calls `UpdateClientInfo`, with what the values are taken from. -/
inductive Caller where
  | addClientInfo (clientInfo : InputClientInfo)
  | hideKeyboard
  | showKeyboard (requestKeyboardReason : Int32)
  | onHideSoftKeyBoardSelf
  | updateClientAfterRequestHide
  | deactivateClient
  | bindClientWithIme (clientInfo : InputClientInfo) (imePid : Int32) (imeType : ImeType)
  deriving DecidableEq, Repr

def Caller.updateInfos : Caller → List (UpdateFlag × Variant)
  | .addClientInfo clientInfo =>
      [(.textConfig, convert clientInfo.config), (.clientType, convert clientInfo.type),
        (.uiExtensionTokenId, convert clientInfo.uiExtensionTokenId),
        (.uiExtensionHostWindowPid, convert clientInfo.uiExtensionHostPid),
        (.clientGroupId, convert clientInfo.clientGroupId)]
  | .hideKeyboard => [(.isShowKeyboard, convert false)]
  | .showKeyboard requestKeyboardReason =>
      [(.isShowKeyboard, convert true), (.requestKeyboardReason, convert requestKeyboardReason)]
  | .onHideSoftKeyBoardSelf => [(.isShowKeyboard, convert false)]
  | .updateClientAfterRequestHide => [(.isShowKeyboard, convert false)]
  | .deactivateClient => [(.state, convert ClientState.inactive)]
  | .bindClientWithIme clientInfo imePid imeType =>
      [(.isShowKeyboard, convert clientInfo.isShowKeyboard), (.state, convert ClientState.active),
        (.bindImeData, convert (some { pid := imePid, type := imeType } : Option BindImeData))]

section Updates

variable (order : MapOrder) (group : ClientGroup)

def updateClientInfo (client : Option Nat) (updateInfos : List (UpdateFlag × Variant)) : ClientGroup :=
  client.elim group fun client =>
    group.updateClientInfo client fun info => (order.arrange updateInfos).foldl updateField info

/-- The input method of the client is asked to show or hide the keyboard; then the client is updated. -/
def requestKeyboard (nullClient requestFailed : ErrorCode) (caller : Caller)
    (currentClient : Option Nat) (answers : Answers) : ErrorCode × ClientGroup :=
  match currentClient with
  | none => (nullClient, group)
  | some client =>
      if (group.getClientInfo client).isNone then (.errorClientNotFound, group)
      else if !answers.imeData then (.errorImeNotStarted, group)
      else if !answers.request then (requestFailed, group)
      else (.noError, updateClientInfo order group (some client) caller.updateInfos)

def showKeyboard (currentClient : Option Nat) (requestKeyboardReason : Int32) (answers : Answers) :
    ErrorCode × ClientGroup :=
  requestKeyboard order group .errorImsaNullptr .errorKbdShowFailed
    (.showKeyboard requestKeyboardReason) currentClient
    answers

end Updates

/-! ## What an update should be -/

/-- The field of a flag. -/
def field (info : InputClientInfo) : UpdateFlag → Option Variant
  | .isShowKeyboard => some (convert info.isShowKeyboard)
  | .state => some (convert info.state)
  | .textConfig => some (convert info.config)
  | .uiExtensionTokenId => some (convert info.uiExtensionTokenId)
  | .clientType => some (convert info.type)
  | .bindImeData => some (convert info.bindImeData)
  | .uiExtensionHostWindowPid => some (convert info.uiExtensionHostPid)
  | .clientGroupId => some (convert info.clientGroupId)
  | .requestKeyboardReason => some (convert info.config.requestKeyboardReason)
  | .eventFlag => none
  | .bindImeType => none

/-- `index()`, by which alternatives are told apart. -/
def Variant.index : Variant → Nat
  | .bool _ => 0
  | .uint32 _ => 1
  | .imeType _ => 2
  | .clientState _ => 3
  | .textTotalConfig _ => 4
  | .clientType _ => 5
  | .pid _ => 6
  | .bindImeData _ => 7
  | .uint64 _ => 8
  | .requestKeyboardReason _ => 9

/-- The info without the field of a flag. -/
def forgetField (info : InputClientInfo) : UpdateFlag → InputClientInfo
  | .isShowKeyboard => { info with isShowKeyboard := false }
  | .state => { info with state := .inactive }
  | .textConfig => { info with config := {} }
  | .uiExtensionTokenId => { info with uiExtensionTokenId := 0 }
  | .clientType => { info with type := .innerKit }
  | .bindImeData => { info with bindImeData := none }
  | .uiExtensionHostWindowPid => { info with uiExtensionHostPid := Ipc.INVALID_PID }
  | .clientGroupId => { info with clientGroupId := 0 }
  | .requestKeyboardReason => { info with config.requestKeyboardReason := .none }
  | .eventFlag => info
  | .bindImeType => info

/-- The update of a client that was `before` and is `after` now. -/
structure Delivered (updateInfos : List (UpdateFlag × Variant)) (before after : InputClientInfo) :
    Prop where
  /-- Each value holds the alternative that its field is read as. -/
  alternative : ∀ updateInfo ∈ updateInfos,
    (field before updateInfo.1).map Variant.index = some updateInfo.2.index
  taken : ∀ updateInfo ∈ updateInfos, field after updateInfo.1 = some updateInfo.2
  /-- Nothing but the fields of the flags is changed. -/
  kept : (updateInfos.map Prod.fst).foldl forgetField after =
    (updateInfos.map Prod.fst).foldl forgetField before

/-! ## Single updates -/

/-- Flags of different fields, neither of them a part of the other. -/
def Apart (flag other : UpdateFlag) : Prop :=
  flag ≠ other ∧ (flag, other) ≠ (.textConfig, .requestKeyboardReason) ∧
    (flag, other) ≠ (.requestKeyboardReason, .textConfig)

instance (flag other : UpdateFlag) : Decidable (Apart flag other) :=
  inferInstanceAs (Decidable (_ ∧ _ ∧ _))

theorem Apart.symm {flag other : UpdateFlag} (apart : Apart flag other) : Apart other flag := by
  obtain ⟨differs, whole, part⟩ := apart
  refine ⟨differs.symm, fun same => ?_, fun same => ?_⟩
  · cases same
    exact part rfl
  · cases same
    exact whole rfl

section Fields

variable {flag other : UpdateFlag} (info : InputClientInfo) (value : Variant)

/-- What a field is read as does not depend on the info. -/
theorem index_field (before : InputClientInfo) (flag : UpdateFlag) :
    (field info flag).map Variant.index = (field before flag).map Variant.index := by
  cases flag <;> rfl

theorem field_updateField (fits : (field info flag).map Variant.index = some value.index) :
    field (updateField info (flag, value)) flag = some value := by
  cases flag <;> cases value <;> first
    | rfl
    | exact absurd fits (by simp [field, convert, Holds.convert, Variant.index])

theorem field_updateField_of_apart (apart : Apart flag other) :
    field (updateField info (other, value)) flag = field info flag := by
  cases flag <;> cases other <;> first
    | rfl
    | exact absurd apart (by decide)

theorem forgetField_updateField :
    forgetField (updateField info (flag, value)) flag = forgetField info flag := by
  cases flag <;> rfl

theorem forgetField_updateField_of_apart (apart : Apart flag other) :
    forgetField (updateField info (other, value)) flag = updateField (forgetField info flag)
      (other, value) := by
  cases flag <;> cases other <;> first
    | rfl
    | exact absurd apart (by decide)

theorem updateField_comm (apart : Apart flag other) (given : Variant) :
    updateField (updateField info (flag, value)) (other, given) =
      updateField (updateField info (other, given)) (flag, value) := by
  cases flag <;> cases other <;> first
    | rfl
    | exact absurd apart (by decide)

end Fields

/-! ## Updates together -/

section Together

variable {updateInfos : List (UpdateFlag × Variant)}

theorem field_foldl_of_apart {named : UpdateFlag}
    (apart : ∀ updateInfo ∈ updateInfos, Apart named updateInfo.1)
    (info : InputClientInfo) : field (updateInfos.foldl updateField info) named = field info named := by
  induction updateInfos generalizing info with
  | nil => rfl
  | cons updateInfo updateInfos ih =>
      obtain ⟨flag, value⟩ := updateInfo
      obtain ⟨here, later⟩ := List.forall_mem_cons.1 apart
      rw [List.foldl_cons, ih later, field_updateField_of_apart info value here]

/-- Values that fit are taken, each by its own field. -/
theorem field_foldl (apart : updateInfos.Pairwise fun first second => Apart first.1 second.1)
    (info : InputClientInfo) (fit : ∀ updateInfo ∈ updateInfos,
      (field info updateInfo.1).map Variant.index = some updateInfo.2.index) :
    ∀ updateInfo ∈ updateInfos,
      field (updateInfos.foldl updateField info) updateInfo.1 = some updateInfo.2 := by
  induction updateInfos generalizing info with
  | nil => exact List.forall_mem_nil _
  | cons updateInfo updateInfos ih =>
      obtain ⟨flag, value⟩ := updateInfo
      obtain ⟨ahead, rest⟩ := List.pairwise_cons.1 apart
      obtain ⟨here, later⟩ := List.forall_mem_cons.1 fit
      rw [List.forall_mem_cons, List.foldl_cons]
      refine ⟨?_, ih rest _ fun next member => ?_⟩
      · rw [field_foldl_of_apart ahead]
        exact field_updateField info value here
      · rw [index_field _ info]
        exact later next member

/-- What is forgotten can be updated before. -/
theorem forget_updateField {flags : List UpdateFlag} (apart : flags.Pairwise Apart) {flag : UpdateFlag}
    (named : flag ∈ flags) (info : InputClientInfo) (value : Variant) :
    flags.foldl forgetField (updateField info (flag, value)) = flags.foldl forgetField info := by
  induction flags generalizing info with
  | nil => cases named
  | cons first flags ih =>
      obtain ⟨ahead, rest⟩ := List.pairwise_cons.1 apart
      rw [List.foldl_cons, List.foldl_cons]
      rcases List.mem_cons.1 named with rfl | later
      · rw [forgetField_updateField]
      · rw [forgetField_updateField_of_apart info value (ahead flag later), ih rest later]

theorem forget_foldl {flags : List UpdateFlag} (apart : flags.Pairwise Apart)
    (named : ∀ updateInfo ∈ updateInfos, updateInfo.1 ∈ flags) (info : InputClientInfo) :
    flags.foldl forgetField (updateInfos.foldl updateField info) = flags.foldl forgetField info := by
  induction updateInfos generalizing info with
  | nil => rfl
  | cons updateInfo updateInfos ih =>
      obtain ⟨flag, value⟩ := updateInfo
      obtain ⟨here, later⟩ := List.forall_mem_cons.1 named
      rw [List.foldl_cons, ih later, forget_updateField apart here info value]

theorem delivered_foldl (apart : (updateInfos.map Prod.fst).Pairwise Apart) {info : InputClientInfo}
    (fit : ∀ updateInfo ∈ updateInfos,
      (field info updateInfo.1).map Variant.index = some updateInfo.2.index) :
    Delivered updateInfos info (updateInfos.foldl updateField info) where
  alternative := fit
  taken := field_foldl (List.pairwise_map.1 apart) info fit
  kept := forget_foldl apart (fun _ member => List.mem_map_of_mem member) info

/-- Updates of fields apart from each other can be made in any order. -/
theorem apply_order (order : MapOrder) (apart : (updateInfos.map Prod.fst).Pairwise Apart)
    (info : InputClientInfo) :
    (order.arrange updateInfos).foldl updateField info = updateInfos.foldl updateField info := by
  refine ((order.perm updateInfos).symm.foldl_eq' ?_ info).symm
  rintro ⟨flag, value⟩ isFirst ⟨other, given⟩ isSecond before
  by_cases same : (flag, value) = (other, given)
  · rw [same]
  · have symmetric : Std.Symm fun first second : UpdateFlag × Variant => Apart first.1 second.1 :=
      ⟨fun _ _ => Apart.symm⟩
    have apart : Apart flag other := (List.pairwise_map.1 apart).forall isFirst isSecond same
    rw [updateField_comm before value apart given]

end Together

/-! ## The callers -/

theorem updateInfos_apart (caller : Caller) : (caller.updateInfos.map Prod.fst).Pairwise Apart := by
  cases caller with
  | addClientInfo clientInfo =>
      show [UpdateFlag.textConfig, .clientType, .uiExtensionTokenId, .uiExtensionHostWindowPid,
        .clientGroupId].Pairwise
        Apart
      decide
  | hideKeyboard => exact List.pairwise_singleton _ _
  | showKeyboard requestKeyboardReason =>
      show [UpdateFlag.isShowKeyboard, .requestKeyboardReason].Pairwise Apart
      decide
  | onHideSoftKeyBoardSelf => exact List.pairwise_singleton _ _
  | updateClientAfterRequestHide => exact List.pairwise_singleton _ _
  | deactivateClient => exact List.pairwise_singleton _ _
  | bindClientWithIme clientInfo imePid imeType =>
      show [UpdateFlag.isShowKeyboard, .state, .bindImeData].Pairwise Apart
      decide

/-- All callers but `ShowKeyboard` pass each value as what its field is read as. -/
theorem alternatives_iff (caller : Caller) (info : InputClientInfo) :
    (∀ updateInfo ∈ caller.updateInfos,
      (field info updateInfo.1).map Variant.index = some updateInfo.2.index) ↔
      ∀ requestKeyboardReason, caller ≠ .showKeyboard requestKeyboardReason := by
  cases caller with
  | showKeyboard requestKeyboardReason =>
      refine iff_of_false (fun fit => ?_) fun differs => differs requestKeyboardReason rfl
      have read : some 9 = some 6 :=
        fit (.requestKeyboardReason, .pid requestKeyboardReason) (.tail _ (.head _))
      cases read
  | addClientInfo clientInfo =>
      refine iff_of_true ?_ fun _ same => by cases same
      simp only [Caller.updateInfos, List.forall_mem_cons]
      exact ⟨rfl, rfl, rfl, rfl, rfl, List.forall_mem_nil _⟩
  | hideKeyboard => exact iff_of_true (List.forall_mem_singleton.2 rfl) fun _ same => by cases same
  | onHideSoftKeyBoardSelf =>
      exact iff_of_true (List.forall_mem_singleton.2 rfl) fun _ same => by cases same
  | updateClientAfterRequestHide =>
      exact iff_of_true (List.forall_mem_singleton.2 rfl) fun _ same => by cases same
  | deactivateClient => exact iff_of_true (List.forall_mem_singleton.2 rfl) fun _ same => by cases same
  | bindClientWithIme clientInfo imePid imeType =>
      refine iff_of_true ?_ fun _ same => by cases same
      simp only [Caller.updateInfos, List.forall_mem_cons]
      exact ⟨rfl, rfl, rfl, List.forall_mem_nil _⟩

section Group

variable (order : MapOrder) {group : ClientGroup} {client : Nat} {info : InputClientInfo}

/-- The order of the map makes no difference to the group. -/
theorem updateClientInfo_eq (group : ClientGroup) (client : Nat) (caller : Caller) :
    updateClientInfo order group (some client) caller.updateInfos =
      group.updateClientInfo client (caller.updateInfos.foldl updateField) := by
  have applied : (fun info => (order.arrange caller.updateInfos).foldl updateField info) =
      caller.updateInfos.foldl updateField := funext (apply_order order (updateInfos_apart caller))
  rw [updateClientInfo, Option.elim_some, applied]

/-- A registered client has all updates of the caller, and the others have none. -/
theorem getClientInfo_updateClientInfo (registered : group.getClientInfo client = some info)
    (caller : Caller) (other : Nat) :
    (updateClientInfo order group (some client) caller.updateInfos).getClientInfo other =
      if other = client then some (caller.updateInfos.foldl updateField info)
      else group.getClientInfo other := by
  rw [updateClientInfo_eq, ClientGroup.getClientInfo_updateClientInfo]
  split
  · rename_i same
    rw [same, registered, Option.map_some]
  · rfl

/-- Requests that fail report it, so a success has updated a registered client. -/
theorem requestKeyboard_succeeds {nullClient requestFailed : ErrorCode} {caller : Caller}
    {currentClient : Option Nat} {answers : Answers}
    (success : (requestKeyboard order group nullClient requestFailed caller currentClient
      answers).1 = .noError)
    (reports : nullClient ≠ .noError) (fails : requestFailed ≠ .noError) :
    ∃ client info, currentClient = some client ∧ group.getClientInfo client = some info ∧
      (requestKeyboard order group nullClient requestFailed caller currentClient
        answers).2.getClientInfo client =
        some (caller.updateInfos.foldl updateField info) := by
  unfold requestKeyboard at success ⊢
  cases currentClient with
  | none => exact absurd success reports
  | some client =>
      dsimp only at success ⊢
      cases found : group.getClientInfo client with
      | none =>
          rw [found] at success
          cases success
      | some info =>
          rw [found] at success
          refine ⟨client, info, rfl, found, ?_⟩
          cases data : answers.imeData with
          | false =>
              rw [data] at success
              cases success
          | true =>
              cases asked : answers.request with
              | false =>
                  rw [data, asked] at success
                  exact absurd success fails
              | true => exact (getClientInfo_updateClientInfo order found caller
                  client).trans (if_pos rfl)

/-- A successful `ShowKeyboard` does not change the reason. -/
theorem showKeyboard_shows {currentClient : Option Nat} {requestKeyboardReason : Int32}
    {answers : Answers}
    (success : (showKeyboard order group currentClient requestKeyboardReason answers).1 = .noError) :
    ∃ client info, currentClient = some client ∧ group.getClientInfo client = some info ∧
      (showKeyboard order group currentClient requestKeyboardReason answers).2.getClientInfo client =
        some { info with isShowKeyboard := true } :=
  requestKeyboard_succeeds order success (by decide) (by decide)

end Group

/-! ## The operations of the session -/

section Operations

variable (order : MapOrder) (group : ClientGroup) (client : Nat) (clientInfo : InputClientInfo)

theorem addClientInfo_updates (recipientAdded : Bool)
    (registered : (group.getClientInfo client).isSome) :
    group.addClientInfo client clientInfo recipientAdded =
      (.noError, updateClientInfo order group (some client)
        (Caller.addClientInfo clientInfo).updateInfos) := by
  rw [ClientGroup.addClientInfo, if_pos registered, updateClientInfo_eq]
  rfl

theorem deactivateClient_updates (registered : (group.getClientInfo client).isSome) :
    group.deactivateClient client =
      let group := updateClientInfo order group (some client) Caller.deactivateClient.updateInfos
      let group :=
        if Session.isSameClient (some client) group.currentClient then group.setCurrentClient none
        else group
      group.setInactiveClient (some client) := by
  rw [ClientGroup.deactivateClient, if_neg (by simpa using Option.isSome_iff_ne_none.1 registered),
    updateClientInfo_eq]
  rfl

theorem bindClient_updates (imeData : ImeData) :
    Session.PerUserSession.bindClient clientInfo imeData client group =
      (updateClientInfo order group (some client)
        (Caller.bindClientWithIme clientInfo imeData.pid
          imeData.type).updateInfos).replaceCurrentClient client := by
  rw [updateClientInfo_eq]
  rfl

theorem hideCurrent_updates {callerBundleName : Ipc.Str} (current : group.currentClient = some client)
    (own : ¬ (callerBundleName ≠ [] ∧ (group.getClientInfo client).any fun info =>
      callerBundleName != info.config.inputAttribute.bundleName)) :
    Session.PerUserSession.hideCurrent callerBundleName group =
      updateClientInfo order group (some client) Caller.updateClientAfterRequestHide.updateInfos := by
  rw [Session.PerUserSession.hideCurrent, current, Option.elim_some, if_neg own, updateClientInfo_eq]
  rfl

end Operations

/-- **An update of a registered client is delivered, with every field as it is passed and all others as
they were, exactly when it is not the one of `ShowKeyboard`.  After a successful `ShowKeyboard` the
keyboard shows, and the reason is the one asked for only if it has been before.** -/
theorem updates_delivered (order : MapOrder) (group : ClientGroup) :
    (∀ (caller : Caller) (client : Nat) (before : InputClientInfo),
      group.getClientInfo client = some before →
      ((∃ after,
          (updateClientInfo order group (some client) caller.updateInfos).getClientInfo client =
            some after ∧
            Delivered caller.updateInfos before after ∧
            ∀ other, other ≠ client →
              (updateClientInfo order group (some client) caller.updateInfos).getClientInfo other =
                group.getClientInfo other) ↔
        ∀ requestKeyboardReason, caller ≠ .showKeyboard requestKeyboardReason)) ∧
    ∀ (currentClient : Option Nat) (requestKeyboardReason : Int32) (answers : Answers),
      (showKeyboard order group currentClient requestKeyboardReason answers).1 = .noError →
        ∃ client before after, currentClient = some client ∧ group.getClientInfo client = some before ∧
          (showKeyboard order group currentClient requestKeyboardReason answers).2.getClientInfo
            client = some after ∧
          after.isShowKeyboard = true ∧
          (after.config.requestKeyboardReason = ⟨requestKeyboardReason⟩ ↔
            before.config.requestKeyboardReason = ⟨requestKeyboardReason⟩) := by
  refine ⟨fun caller client before registered => ?_,
    fun currentClient requestKeyboardReason answers success => ?_⟩
  · rw [← alternatives_iff caller before]
    constructor
    · rintro ⟨after, -, delivered, -⟩
      exact delivered.alternative
    · intro fit
      refine ⟨caller.updateInfos.foldl updateField before, ?_, ?_, fun other differs => ?_⟩
      · rw [getClientInfo_updateClientInfo order registered, if_pos rfl]
      · exact delivered_foldl (updateInfos_apart caller) fit
      · rw [getClientInfo_updateClientInfo order registered, if_neg differs]
  · obtain ⟨client, before, same, registered, shown⟩ := showKeyboard_shows order success
    exact ⟨client, before, { before with isShowKeyboard := true }, same, registered,
      shown, rfl, Iff.rfl⟩

/-! ## Poles -/

/-- The map is gone through as it is written. -/
def inOrder : MapOrder := ⟨id, List.Perm.refl⟩

/-- One client, with its default info. -/
def one : ClientGroup := { displayGroupId := 0, mapClients := [(1, {})] }

/-- The client is deactivated, and shows the keyboard for no reason as before. -/
theorem deactivated_delivered :
    one.getClientInfo 1 = some {} ∧
      (∃ after,
        (updateClientInfo inOrder one (some 1) Caller.deactivateClient.updateInfos).getClientInfo
          1 = some after ∧
          Delivered Caller.deactivateClient.updateInfos {} after ∧
          ∀ other, other ≠ 1 →
            (updateClientInfo inOrder one
              (some 1) Caller.deactivateClient.updateInfos).getClientInfo other =
              one.getClientInfo other) ∧
      ∃ client before after, some 1 = some client ∧ one.getClientInfo client = some before ∧
        (showKeyboard inOrder one (some 1) 0 {}).2.getClientInfo client = some after ∧
          after.isShowKeyboard = true ∧
        (after.config.requestKeyboardReason = ⟨0⟩ ↔ before.config.requestKeyboardReason = ⟨0⟩) :=
  ⟨by decide, ((updates_delivered inOrder one).1 .deactivateClient 1 {} (by decide)).2
    (fun _ same => Caller.noConfusion same),
    (updates_delivered inOrder one).2 (some 1) 0 {} (by decide)⟩

/-- The keyboard is shown because of a touch, and the client does not have the reason. -/
theorem touch_dropped :
    (showKeyboard inOrder one (some 1) RequestKeyboardReason.touch.value {}).1 = .noError ∧
      (showKeyboard inOrder one (some 1) RequestKeyboardReason.touch.value {}).2.getClientInfo 1 =
        some { isShowKeyboard := true } ∧
      ¬ ∃ after,
        (updateClientInfo inOrder one (some 1)
          (Caller.showKeyboard RequestKeyboardReason.touch.value).updateInfos).getClientInfo 1 =
            some after ∧
          Delivered (Caller.showKeyboard RequestKeyboardReason.touch.value).updateInfos {} after := by
  refine ⟨by decide, by decide, ?_⟩
  rintro ⟨after, -, delivered⟩
  have read := delivered.alternative (.requestKeyboardReason, .pid 2) (by decide)
  exact absurd read (by decide)

end Imf.ClientUpdate
