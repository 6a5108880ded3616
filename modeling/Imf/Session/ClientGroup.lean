/-
# Imf.Session.ClientGroup -- the input clients of one display group

A group keeps its registered clients in a map from the client's remote object and, in fields
of their own, the current and the inactive client.  A remote object is its address here, and
the map is listed in the order of the addresses, which is the order of its searches.

`ClientGroup.Sound` is what the three fields should mean together: current and inactive client
are registered and are not the same.  All changes but one keep it; making the inactive client
current again leaves it inactive as well (`sound_replaceCurrentClient_iff`).
-/
import Mathlib.Data.List.Sort
import Imf.Session.ImeData

namespace Imf.Session

set_option autoImplicit false

open Ipc (BindImeData InputClientInfo)

/-! ## Data -/

def IMF_INVALID_TOKENID : UInt32 := 0

structure ClientGroup where
  displayGroupId : UInt64
  mapClients : List (Nat × InputClientInfo) := []
  currentClient : Option Nat := none
  inactiveClient : Option Nat := none
  deriving DecidableEq, Repr

/-- Two clients that are not null and are one object. -/
def isSameClient (source dest : Option Nat) : Bool := source.isSome && source == dest

def isSameIme (oldIme : Option BindImeData) (newIme : ImeData) : Bool :=
  oldIme.any fun old => old.pid == newIme.pid

def isSameImeType (oldIme : Option BindImeData) (newIme : ImeData) : Bool :=
  oldIme.all fun old => old.type == newIme.type

/-! ## Operations of the group -/

namespace ClientGroup

variable (group : ClientGroup)

def findClient (p : InputClientInfo → Bool) : Option InputClientInfo :=
  (group.mapClients.find? fun entry => p entry.2).map Prod.snd

def getClientInfo (client : Nat) : Option InputClientInfo :=
  (group.mapClients.find? fun entry => entry.1 == client).map Prod.snd

def getClientInfoByPid (pid : Int32) : Option InputClientInfo :=
  group.findClient fun info => info.pid == pid

def getClientInfoByHostPid (hostPid : Int32) : Option InputClientInfo :=
  group.findClient fun info => info.uiExtensionHostPid == hostPid

def getClientInfoByBindIme (bindImePid : Int32) : Option InputClientInfo :=
  group.findClient fun info => info.bindImeData.any fun data => data.pid == bindImePid

def getClientInfoBoundRealIme : Option InputClientInfo :=
  group.findClient fun info => info.bindImeData.any fun data => data.isRealIme

def getCurrentClientInfo : Option InputClientInfo :=
  group.currentClient.bind group.getClientInfo

def isClientExist (client : Nat) : Bool :=
  group.mapClients.any fun entry => entry.1 == client

def setCurrentClient (client : Option Nat) : ClientGroup := { group with currentClient := client }

def setInactiveClient (client : Option Nat) : ClientGroup := { group with inactiveClient := client }

def removeClientInfo (client : Nat) : ClientGroup :=
  { group with mapClients := group.mapClients.filter fun entry => entry.1 != client }

def updateClientInfo (client : Nat) (update : InputClientInfo → InputClientInfo) : ClientGroup :=
  { group with
    mapClients := group.mapClients.map fun entry =>
      if entry.1 = client then (entry.1, update entry.2) else entry }

/-- A client that is registered keeps its entry and takes over what the call brings; a new one
is entered unless its death recipient cannot be added. -/
def addClientInfo (inputClient : Nat) (clientInfo : InputClientInfo) (recipientAdded : Bool) :
    ErrorCode × ClientGroup :=
  if (group.getClientInfo inputClient).isSome then
    (.noError, group.updateClientInfo inputClient fun info =>
      { info with
        config := clientInfo.config
        type := clientInfo.type
        uiExtensionTokenId := clientInfo.uiExtensionTokenId
        uiExtensionHostPid := clientInfo.uiExtensionHostPid
        clientGroupId := clientInfo.clientGroupId })
  else if clientInfo.client = none then (.errorClientNullPointer, group)
  else if !recipientAdded then (.errorClientAddFailed, group)
  else
    (.noError, { group with
      mapClients := group.mapClients.orderedInsert (fun a b => a.1 ≤ b.1) (inputClient, clientInfo) })

/-- `focusedUIExtension` is the answer of the identity checker for the current client. -/
def isCurClientFocused (pid uid : Int32) (focusedUIExtension : Bool) : Bool :=
  group.getCurrentClientInfo.any fun info =>
    (info.uiExtensionTokenId != IMF_INVALID_TOKENID && focusedUIExtension) ||
      (info.pid == pid && info.uid == uid)

def isCurClientUnFocused (pid uid : Int32) (focusedUIExtension : Bool) : Bool :=
  group.getCurrentClientInfo.any fun info =>
    (info.uiExtensionTokenId != IMF_INVALID_TOKENID && !focusedUIExtension) ||
      (info.pid == pid && info.uid == uid)

/-! ## Operations of the session on one group

Requests to the input method and notices to the client change no field of the group and are
left out. -/

def removeClient (client : Nat) : ClientGroup :=
  let detached :=
    if isSameClient (some client) group.currentClient then group.setCurrentClient none
    else if isSameClient (some client) group.inactiveClient then group.setInactiveClient none
    else group
  detached.removeClientInfo client

def deactivateClient (client : Nat) : ClientGroup :=
  if (group.getClientInfo client).isNone then group
  else
    let group := group.updateClientInfo client fun info => { info with state := .inactive }
    let group := if isSameClient (some client) group.currentClient then group.setCurrentClient none
      else group
    group.setInactiveClient (some client)

/-- The client leaves the group with both of its roles, as in `OnClientDied` and
`HandleInMultiGroup`. -/
def detachClient (client : Nat) : ClientGroup :=
  let group := if isSameClient (some client) group.currentClient then group.setCurrentClient none
    else group
  let group :=
    if isSameClient (some client) group.inactiveClient then group.setInactiveClient none else group
  group.removeClientInfo client

/-- An earlier client is removed when it is registered with another pid. -/
def removeReplaced (earlier : Option Nat) (pid : Int32) : ClientGroup :=
  if (earlier.bind group.getClientInfo).any fun info => info.pid != pid then
    earlier.elim group group.removeClient
  else group

def replaceCurrentClient (client : Nat) : ClientGroup :=
  (group.getClientInfo client).elim group fun clientInfo =>
    let replacedClient := group.currentClient
    let group := (group.setCurrentClient (some client)).removeReplaced replacedClient clientInfo.pid
    group.removeReplaced group.inactiveClient clientInfo.pid

/-- The client whose input method may have changed, and whether it is the inactive one. -/
def clientToCompare : Option (InputClientInfo × Bool) :=
  group.getCurrentClientInfo.elim
    ((group.inactiveClient.bind group.getClientInfo).map fun info => (info, true))
    fun info => some (info, false)

def handleBindImeChanged (newClientInfo : InputClientInfo) (newImeData : ImeData) :
    InputClientInfo × ClientGroup :=
  if newImeData.isImeMirror then (newClientInfo, group)
  else group.clientToCompare.elim (newClientInfo, group) fun (oldClientInfo, isClientInactive) =>
    if isSameIme oldClientInfo.bindImeData newImeData then (newClientInfo, group)
    else
      let same := isSameClient newClientInfo.client oldClientInfo.client
      let newClientInfo := if same then { newClientInfo with isNotifyInputStart := true }
        else newClientInfo
      if isSameImeType oldClientInfo.bindImeData newImeData && newImeData.isRealIme then
        (newClientInfo, group)
      else if !isClientInactive && !same then
        let group := group.setCurrentClient none
        (newClientInfo, oldClientInfo.client.elim group group.removeClientInfo)
      else (newClientInfo, group)

/-! ## Registered clients -/

section Registered

variable {group} {client other : Nat}

theorem isClientExist_iff : group.isClientExist client = true ↔ ∃ info,
    (client, info) ∈ group.mapClients := by
  simp [isClientExist]

theorem getClientInfo_mem {info : InputClientInfo} (found : group.getClientInfo client = some info) :
    (client, info) ∈ group.mapClients := by
  obtain ⟨entry, at_, rfl⟩ := Option.map_eq_some_iff.1 found
  have key : entry.1 = client := by simpa using List.find?_some at_
  exact key ▸ List.mem_of_find?_eq_some at_

theorem getClientInfo_isSome : (group.getClientInfo client).isSome = group.isClientExist client := by
  rw [getClientInfo, Option.isSome_map, List.isSome_find?, isClientExist]

theorem getClientInfo_exist {info : InputClientInfo} (found : group.getClientInfo client = some info) :
    group.isClientExist client = true := by
  rw [← getClientInfo_isSome, found, Option.isSome_some]

section Fields

variable (c : Option Nat) (update : InputClientInfo → InputClientInfo)

@[simp] theorem setCurrentClient_current : (group.setCurrentClient c).currentClient = c := rfl

@[simp] theorem setCurrentClient_inactive :
    (group.setCurrentClient c).inactiveClient = group.inactiveClient := rfl

@[simp] theorem setInactiveClient_current :
    (group.setInactiveClient c).currentClient = group.currentClient := rfl

@[simp] theorem setInactiveClient_inactive : (group.setInactiveClient c).inactiveClient = c := rfl

@[simp] theorem removeClientInfo_current :
    (group.removeClientInfo client).currentClient = group.currentClient := rfl

@[simp] theorem removeClientInfo_inactive :
    (group.removeClientInfo client).inactiveClient = group.inactiveClient := rfl

@[simp] theorem updateClientInfo_current :
    (group.updateClientInfo client update).currentClient = group.currentClient := rfl

@[simp] theorem updateClientInfo_inactive :
    (group.updateClientInfo client update).inactiveClient = group.inactiveClient := rfl

end Fields

@[simp] theorem isClientExist_setCurrentClient (c : Option Nat) :
    (group.setCurrentClient c).isClientExist client = group.isClientExist client := rfl

@[simp] theorem isClientExist_setInactiveClient (c : Option Nat) :
    (group.setInactiveClient c).isClientExist client = group.isClientExist client := rfl

@[simp] theorem isClientExist_removeClientInfo : (group.removeClientInfo other).isClientExist client =
    (group.isClientExist client && client != other) := by
  rw [Bool.eq_iff_iff, isClientExist_iff, Bool.and_eq_true, isClientExist_iff]
  simp [removeClientInfo]

/-- An update leaves an entry under its key. -/
theorem updated_key (update : InputClientInfo → InputClientInfo) (entry : Nat × InputClientInfo) :
    (if entry.1 = other then (entry.1, update entry.2) else entry).1 = entry.1 := by
  split <;> rfl

@[simp] theorem isClientExist_updateClientInfo (update : InputClientInfo → InputClientInfo) :
    (group.updateClientInfo other update).isClientExist client = group.isClientExist client := by
  simp only [isClientExist, updateClientInfo, List.any_map, Function.comp_def, updated_key]

/-- The client has the update, and the others stay as they are. -/
theorem getClientInfo_updateClientInfo (update : InputClientInfo → InputClientInfo) :
    (group.updateClientInfo other update).getClientInfo client =
      if client = other then (group.getClientInfo client).map update
      else group.getClientInfo client := by
  simp only [getClientInfo, updateClientInfo, List.find?_map, Function.comp_def, updated_key]
  cases found : group.mapClients.find? fun entry => entry.1 == client with
  | none => simp
  | some entry =>
      have key : entry.1 = client := by simpa using List.find?_some found
      simp only [Option.map_some, key]
      split <;> rfl

theorem getClientInfo_removeClientInfo (differs : client ≠ other) :
    (group.removeClientInfo other).getClientInfo client = group.getClientInfo client := by
  simp only [getClientInfo, removeClientInfo, List.find?_filter]
  congr 2
  funext entry
  by_cases key : entry.1 = client
  · simp [key, differs]
  · simp [key]

theorem isClientExist_addClientInfo {clientInfo : InputClientInfo} {added : Bool}
    (exist : group.isClientExist client = true) :
    (group.addClientInfo other clientInfo added).2.isClientExist client = true := by
  unfold addClientInfo
  split
  · rw [isClientExist_updateClientInfo, exist]
  · split
    · exact exist
    · split
      · exact exist
      · obtain ⟨info, member⟩ := isClientExist_iff.1 exist
        exact isClientExist_iff.2 ⟨info, (List.mem_orderedInsert _).2 (.inr member)⟩

theorem addClientInfo_id (group : ClientGroup) (inputClient : Nat) (clientInfo : InputClientInfo)
    (added : Bool) :
    (group.addClientInfo inputClient clientInfo added).2.displayGroupId = group.displayGroupId := by
  unfold addClientInfo
  split
  · rfl
  · split
    · rfl
    · split <;> rfl

theorem addClientInfo_roles (group : ClientGroup) (inputClient : Nat) (clientInfo : InputClientInfo)
    (added : Bool) :
    (group.addClientInfo inputClient clientInfo added).2.currentClient = group.currentClient ∧
      (group.addClientInfo inputClient clientInfo added).2.inactiveClient = group.inactiveClient := by
  unfold addClientInfo
  split
  · exact ⟨rfl, rfl⟩
  · split
    · exact ⟨rfl, rfl⟩
    · split <;> exact ⟨rfl, rfl⟩

end Registered

/-! ## The roles of registered clients -/

/-- Current and inactive client are registered and are different. -/
structure Sound : Prop where
  current : ∀ client ∈ group.currentClient, group.isClientExist client = true
  inactive : ∀ client ∈ group.inactiveClient, group.isClientExist client = true
  apart : ∀ client ∈ group.currentClient, client ∉ group.inactiveClient

section Sound

variable {group} {client : Nat}

theorem isSameClient_some {dest : Option Nat} : isSameClient (some client) dest = true ↔
    dest = some client := by
  rw [isSameClient, Option.isSome_some, Bool.true_and, beq_iff_eq, eq_comm]

theorem Sound.addClientInfo (sound : group.Sound) (inputClient : Nat) (clientInfo : InputClientInfo)
    (added : Bool) : (group.addClientInfo inputClient clientInfo added).2.Sound := by
  obtain ⟨current, inactive⟩ := addClientInfo_roles group inputClient clientInfo added
  refine ⟨?_, ?_, ?_⟩
  · rw [current]
    exact fun client member => isClientExist_addClientInfo (sound.current client member)
  · rw [inactive]
    exact fun client member => isClientExist_addClientInfo (sound.inactive client member)
  · rw [current, inactive]
    exact sound.apart

theorem Sound.updateClientInfo (sound : group.Sound) (update : InputClientInfo → InputClientInfo) :
    (group.updateClientInfo client update).Sound where
  current c member := by simpa using sound.current c member
  inactive c member := by simpa using sound.inactive c member
  apart := sound.apart

/-- A client without a role can be taken off the map. -/
theorem Sound.removeClientInfo (sound : group.Sound) (current : group.currentClient ≠ some client)
    (inactive : group.inactiveClient ≠ some client) : (group.removeClientInfo client).Sound where
  current c member := by
    rw [isClientExist_removeClientInfo, sound.current c member, Bool.true_and, bne_iff_ne]
    rintro rfl
    exact current member
  inactive c member := by
    rw [isClientExist_removeClientInfo, sound.inactive c member, Bool.true_and, bne_iff_ne]
    rintro rfl
    exact inactive member
  apart := sound.apart

theorem Sound.clearCurrent (sound : group.Sound) : (group.setCurrentClient none).Sound where
  current := by simp
  inactive := sound.inactive
  apart := by simp

theorem Sound.clearInactive (sound : group.Sound) : (group.setInactiveClient none).Sound where
  current := sound.current
  inactive := by simp
  apart := by simp

theorem Sound.removeClient (sound : group.Sound) (client : Nat) :
    (group.removeClient client).Sound := by
  simp only [ClientGroup.removeClient, isSameClient_some]
  split
  · rename_i current
    refine sound.clearCurrent.removeClientInfo (by simp) ?_
    exact sound.apart client current
  · rename_i current
    split
    · exact sound.clearInactive.removeClientInfo current (by simp)
    · rename_i inactive
      exact sound.removeClientInfo current inactive

theorem Sound.detachClient (sound : group.Sound) (client : Nat) :
    (group.detachClient client).Sound := by
  simp only [ClientGroup.detachClient, isSameClient_some]
  have cleared : (if group.currentClient = some client then group.setCurrentClient none
    else group).Sound ∧
      (if group.currentClient = some client then group.setCurrentClient none else group).currentClient
        ≠ some client := by
    split
    · exact ⟨sound.clearCurrent, by simp⟩
    · rename_i current
      exact ⟨sound, current⟩
  generalize (if group.currentClient = some client then group.setCurrentClient none else group) =
    group at cleared
  obtain ⟨sound, current⟩ := cleared
  split
  · exact sound.clearInactive.removeClientInfo current (by simp)
  · rename_i inactive
    exact sound.removeClientInfo current inactive

theorem Sound.deactivateClient (sound : group.Sound) (client : Nat) :
    (group.deactivateClient client).Sound := by
  unfold ClientGroup.deactivateClient
  split
  · exact sound
  · rename_i missing
    have exist : group.isClientExist client = true := by
      rw [← getClientInfo_isSome, Option.isSome_iff_ne_none]
      simpa using missing
    simp only [isSameClient_some]
    split
    · exact ⟨by simp, by simpa using exist, by simp⟩
    · rename_i current
      refine ⟨fun c member => ?_, by simpa using exist, fun c member same => ?_⟩
      · simpa using sound.current c member
      · obtain rfl : client = c := by simpa using same
        exact current member

theorem removeReplaced_cases (group : ClientGroup) (earlier : Option Nat) (pid : Int32) :
    (group.removeReplaced earlier pid = group ∧
      ∀ client ∈ earlier, ∀ info ∈ group.getClientInfo client, info.pid = pid) ∨
      ∃ client info, earlier = some client ∧ group.getClientInfo client = some info ∧ info.pid ≠ pid ∧
        group.removeReplaced earlier pid = group.removeClient client := by
  unfold removeReplaced
  cases earlier with
  | none => exact .inl ⟨rfl, by simp⟩
  | some client =>
      cases found : group.getClientInfo client with
      | none => exact .inl ⟨by simp [found], by simp [found]⟩
      | some info =>
          by_cases same : info.pid = pid
          · exact .inl ⟨by simp [found, same], by simp [found, same]⟩
          · exact .inr ⟨client, info, rfl, found, same, by simp [found, same]⟩

/-- The first half of `ReplaceCurrentClient`: the new client is current, and what else was
registered and inactive is so still. -/
theorem removeReplaced_current (sound : group.Sound) {clientInfo : InputClientInfo}
    (found : group.getClientInfo client = some clientInfo) {replaced : ClientGroup}
    (replacing : (group.setCurrentClient (some client)).removeReplaced group.currentClient
      clientInfo.pid =
      replaced) :
    replaced.currentClient = some client ∧ replaced.inactiveClient = group.inactiveClient ∧
      replaced.getClientInfo client = some clientInfo ∧
      ∀ other ∈ group.inactiveClient, replaced.isClientExist other = true := by
  rcases removeReplaced_cases
    (group.setCurrentClient (some client)) group.currentClient clientInfo.pid with
    ⟨same, -⟩ | ⟨earlier, info, current, registered, differs, removed⟩
  · rw [← replacing, same]
    exact ⟨rfl, rfl, found, sound.inactive⟩
  · have other : client ≠ earlier := by
      rintro rfl
      exact differs (congrArg InputClientInfo.pid (Option.some.inj (registered.symm.trans found)))
    -- The replaced client was current, so it is not the inactive one either.
    have idle : group.inactiveClient ≠ some earlier := sound.apart earlier current
    have plain : (group.setCurrentClient (some client)).removeClient earlier =
        (group.setCurrentClient (some client)).removeClientInfo earlier := by
      simp [ClientGroup.removeClient, isSameClient_some, other, idle]
    rw [← replacing, removed, plain]
    refine ⟨rfl, rfl, ?_, fun c member => ?_⟩
    · rw [getClientInfo_removeClientInfo other]
      exact found
    · rw [isClientExist_removeClientInfo, isClientExist_setCurrentClient, sound.inactive c member,
        Bool.true_and, bne_iff_ne]
      rintro rfl
      exact idle member

/-- `ReplaceCurrentClient` keeps the roles apart unless its client is the inactive one. -/
theorem sound_replaceCurrentClient_iff (sound : group.Sound) :
    (group.replaceCurrentClient client).Sound ↔
      (group.isClientExist client = true → group.inactiveClient ≠ some client) := by
  unfold replaceCurrentClient
  cases found : group.getClientInfo client with
  | none =>
      refine iff_of_true sound fun exist => ?_
      rw [← getClientInfo_isSome, found] at exist
      simp at exist
  | some clientInfo =>
      have exist := getClientInfo_exist found
      simp only [Option.elim_some, exist, forall_const]
      generalize replacing : (group.setCurrentClient (some client)).removeReplaced group.currentClient
        clientInfo.pid = replaced
      obtain ⟨current, inactive, registered, others⟩ := removeReplaced_current sound found replacing
      have roles : replaced.Sound ↔ group.inactiveClient ≠ some client := by
        rw [← inactive] at others ⊢
        refine ⟨fun sound => sound.apart client current, fun differs => ⟨?_, others, ?_⟩⟩
        · rw [current]
          rintro c ⟨⟩
          exact getClientInfo_exist registered
        · rw [current]
          rintro c ⟨⟩
          exact differs
      rcases removeReplaced_cases replaced replaced.inactiveClient clientInfo.pid with
        ⟨same, -⟩ | ⟨idle, info, isInactive, at_, differs, removed⟩
      · rw [same, roles]
      · have other : group.inactiveClient ≠ some client := by
          rw [← inactive, isInactive]
          rintro ⟨⟩
          exact differs (congrArg InputClientInfo.pid (Option.some.inj (at_.symm.trans registered)))
        rw [removed]
        exact iff_of_true ((roles.2 other).removeClient idle) other

end Sound

/-! ## Entries -/

/-- Every entry is under its client's object and of this group, and there is one of each. -/
structure Keyed : Prop where
  key : ∀ entry ∈ group.mapClients, entry.2.client = some entry.1
  home : ∀ entry ∈ group.mapClients, entry.2.clientGroupId = group.displayGroupId
  nodup : (group.mapClients.map Prod.fst).Nodup

/-- Entries go, and none is added or changed. -/
structure Shrinks (before after : ClientGroup) : Prop where
  id : after.displayGroupId = before.displayGroupId
  entries : after.mapClients.Sublist before.mapClients

section Entries

variable {group} {client : Nat}

theorem Shrinks.refl (group : ClientGroup) : group.Shrinks group := ⟨rfl, List.Sublist.refl _⟩

theorem Shrinks.trans {a b c : ClientGroup} (first : a.Shrinks b) (second : b.Shrinks c) :
    a.Shrinks c :=
  ⟨second.id.trans first.id, second.entries.trans first.entries⟩

theorem Keyed.shrinks {after : ClientGroup} (keyed : group.Keyed) (shrinks : group.Shrinks after) :
    after.Keyed where
  key entry member := keyed.key entry (shrinks.entries.subset member)
  home entry member := by
    rw [shrinks.id]
    exact keyed.home entry (shrinks.entries.subset member)
  nodup := keyed.nodup.sublist (shrinks.entries.map _)

theorem shrinks_setCurrentClient (c : Option Nat) : group.Shrinks (group.setCurrentClient c) :=
  ⟨rfl, List.Sublist.refl _⟩

theorem shrinks_setInactiveClient (c : Option Nat) : group.Shrinks (group.setInactiveClient c) :=
  ⟨rfl, List.Sublist.refl _⟩

theorem shrinks_removeClientInfo (client : Nat) : group.Shrinks (group.removeClientInfo client) :=
  ⟨rfl, List.filter_sublist⟩

theorem shrinks_removeClient (client : Nat) : group.Shrinks (group.removeClient client) := by
  unfold removeClient
  refine Shrinks.trans ?_ (shrinks_removeClientInfo client)
  split
  · exact shrinks_setCurrentClient none
  · split
    · exact shrinks_setInactiveClient none
    · exact Shrinks.refl group

theorem detachClient_entries (group : ClientGroup) (client : Nat) :
    (group.detachClient client).mapClients = (group.removeClientInfo client).mapClients ∧
      (group.detachClient client).displayGroupId = group.displayGroupId := by
  unfold detachClient
  constructor <;> (dsimp only; split <;> split <;> rfl)

theorem shrinks_detachClient (client : Nat) : group.Shrinks (group.detachClient client) := by
  obtain ⟨entries, id⟩ := detachClient_entries group client
  refine ⟨id, ?_⟩
  rw [entries]
  exact (shrinks_removeClientInfo client).entries

theorem shrinks_removeReplaced (earlier : Option Nat) (pid : Int32) :
    group.Shrinks (group.removeReplaced earlier pid) := by
  rcases removeReplaced_cases group earlier pid with ⟨same, -⟩ | ⟨client, info, -, -, -, removed⟩
  · rw [same]
    exact Shrinks.refl group
  · rw [removed]
    exact shrinks_removeClient client

theorem shrinks_replaceCurrentClient (client : Nat) :
    group.Shrinks (group.replaceCurrentClient client) := by
  unfold replaceCurrentClient
  cases group.getClientInfo client with
  | none => exact Shrinks.refl group
  | some info =>
      exact ((shrinks_setCurrentClient _).trans (shrinks_removeReplaced _ _)).trans
        (shrinks_removeReplaced _ _)

theorem getClientInfo_client {info : InputClientInfo} (keyed : group.Keyed)
    (found : group.getClientInfo client = some info) : info.client = some client :=
  keyed.key _ (getClientInfo_mem found)

/-- `HandleBindImeChanged` leaves the group alone, or removes its current client. -/
theorem handleBindImeChanged_cases (keyed : group.Keyed) (newClientInfo : InputClientInfo)
    (newImeData : ImeData) :
    (group.handleBindImeChanged newClientInfo newImeData).2 = group ∨
      ∃ client, group.currentClient = some client ∧ newClientInfo.client ≠ some client ∧
        (group.handleBindImeChanged newClientInfo newImeData).2 =
          (group.setCurrentClient none).removeClientInfo client := by
  unfold handleBindImeChanged
  split
  · exact .inl rfl
  · unfold clientToCompare getCurrentClientInfo
    cases current : group.currentClient.bind group.getClientInfo with
    | none =>
        -- The inactive client is compared, and it keeps its entry.
        left
        cases group.inactiveClient.bind group.getClientInfo with
        | none => rfl
        | some info =>
            simp only [Option.elim_none, Option.map_some, Option.elim_some,
              Bool.not_true, Bool.false_and]
            split
            · rfl
            · split <;> rfl
    | some info =>
        obtain ⟨client, isCurrent, found⟩ := Option.bind_eq_some_iff.1 current
        simp only [Option.elim_some, getClientInfo_client keyed found, Bool.not_false, Bool.true_and]
        split
        · exact .inl rfl
        · split
          · exact .inl rfl
          · split
            · rename_i differs
              refine .inr ⟨client, isCurrent, ?_, rfl⟩
              rintro same
              simp [isSameClient, same] at differs
            · exact .inl rfl

theorem handleBindImeChanged_info (newClientInfo : InputClientInfo) (newImeData : ImeData) :
    (group.handleBindImeChanged newClientInfo newImeData).1.client = newClientInfo.client ∧
      (group.handleBindImeChanged newClientInfo newImeData).1.clientGroupId =
        newClientInfo.clientGroupId := by
  unfold handleBindImeChanged
  split
  · exact ⟨rfl, rfl⟩
  · cases group.clientToCompare with
    | none => exact ⟨rfl, rfl⟩
    | some compared =>
        simp only [Option.elim_some]
        split
        · exact ⟨rfl, rfl⟩
        · cases isSameClient newClientInfo.client compared.1.client
          · split
            · exact ⟨rfl, rfl⟩
            · split <;> exact ⟨rfl, rfl⟩
          · split
            · exact ⟨rfl, rfl⟩
            · split <;> exact ⟨rfl, rfl⟩

theorem handleBindImeChanged_inactive (keyed : group.Keyed) (newClientInfo : InputClientInfo)
    (newImeData : ImeData) :
    (group.handleBindImeChanged newClientInfo newImeData).2.inactiveClient = group.inactiveClient := by
  rcases handleBindImeChanged_cases keyed newClientInfo newImeData with same | ⟨client, -, -, removed⟩
  · rw [same]
  · rw [removed]
    rfl

theorem shrinks_handleBindImeChanged (keyed : group.Keyed) (newClientInfo : InputClientInfo)
    (newImeData : ImeData) : group.Shrinks (group.handleBindImeChanged newClientInfo newImeData).2 := by
  rcases handleBindImeChanged_cases keyed newClientInfo newImeData with same | ⟨client, -, -, removed⟩
  · rw [same]
    exact Shrinks.refl group
  · rw [removed]
    exact (shrinks_setCurrentClient none).trans (shrinks_removeClientInfo client)

theorem Sound.handleBindImeChanged (sound : group.Sound) (keyed : group.Keyed)
    (newClientInfo : InputClientInfo) (newImeData : ImeData) :
    (group.handleBindImeChanged newClientInfo newImeData).2.Sound := by
  rcases handleBindImeChanged_cases keyed newClientInfo newImeData
    with same | ⟨client, current, -, removed⟩
  · rw [same]
    exact sound
  · rw [removed]
    exact sound.clearCurrent.removeClientInfo (by simp) (sound.apart client current)

theorem Keyed.updateClientInfo (keyed : group.Keyed) {update : InputClientInfo → InputClientInfo}
    (client : Nat) (same : ∀ info, (update info).client = info.client)
    (home : ∀ info, info.clientGroupId = group.displayGroupId →
      (update info).clientGroupId = group.displayGroupId) :
    (group.updateClientInfo client update).Keyed := by
  refine ⟨fun entry member => ?_, fun entry member => ?_, ?_⟩
  · obtain ⟨old, inside, rfl⟩ := List.mem_map.1 member
    split
    · exact (same old.2).trans (keyed.key old inside)
    · exact keyed.key old inside
  · obtain ⟨old, inside, rfl⟩ := List.mem_map.1 member
    split
    · exact home old.2 (keyed.home old inside)
    · exact keyed.home old inside
  · have keys : (group.updateClientInfo client update).mapClients.map Prod.fst =
        group.mapClients.map Prod.fst := by
      simp only [ClientGroup.updateClientInfo, List.map_map]
      refine List.map_congr_left fun entry _ => ?_
      simp only [Function.comp_apply]
      split <;> rfl
    rw [keys]
    exact keyed.nodup

theorem Keyed.addClientInfo (keyed : group.Keyed) {inputClient : Nat} {clientInfo : InputClientInfo}
    (own : clientInfo.client = some inputClient)
    (home : clientInfo.clientGroupId = group.displayGroupId)
    (added : Bool) : (group.addClientInfo inputClient clientInfo added).2.Keyed := by
  unfold ClientGroup.addClientInfo
  split
  · dsimp only
    refine keyed.updateClientInfo inputClient ?_ ?_
    · exact fun _ => rfl
    · exact fun _ _ => home
  · rename_i missing
    split
    · exact keyed
    · split
      · exact keyed
      · have inside : ∀ entry, entry ∈ group.mapClients.orderedInsert (fun a b => a.1 ≤ b.1)
            (inputClient, clientInfo) → entry = (inputClient, clientInfo) ∨ entry ∈ group.mapClients :=
          fun entry member => (List.mem_orderedInsert _).1 member
        refine ⟨fun entry member => ?_, fun entry member => ?_, ?_⟩
        · rcases inside entry member with rfl | old
          · exact own
          · exact keyed.key entry old
        · rcases inside entry member with rfl | old
          · exact home
          · exact keyed.home entry old
        · have keys := (List.perm_orderedInsert (fun a b : Nat × InputClientInfo => a.1 ≤ b.1)
            (inputClient, clientInfo) group.mapClients).map Prod.fst
          refine keys.nodup_iff.2 (List.nodup_cons.2 ⟨fun member => missing ?_, keyed.nodup⟩)
          obtain ⟨entry, old, same⟩ := List.mem_map.1 member
          rw [getClientInfo_isSome, isClientExist_iff]
          have key : entry.1 = inputClient := same
          exact ⟨entry.2, key ▸ old⟩

theorem Keyed.deactivateClient (keyed : group.Keyed) (client : Nat) :
    (group.deactivateClient client).Keyed := by
  unfold ClientGroup.deactivateClient
  split
  · exact keyed
  · have updated : (group.updateClientInfo client fun info => { info with state := .inactive }).Keyed :=
      keyed.updateClientInfo client (fun _ => rfl) fun _ home => home
    refine updated.shrinks ?_
    dsimp only
    split
    · exact (shrinks_setCurrentClient none).trans (shrinks_setInactiveClient _)
    · exact shrinks_setInactiveClient _

end Entries

end ClientGroup

end Imf.Session
