/-
# Imf.Session.Clients -- client groups of a session

The calls of clients, the focus events and the death of clients change the groups of a
session; requests to input methods and windows enter with their answers.  The groups stand in
an unordered map, so a new group comes to stand anywhere among the others (`Placement`).

`roles_kept` says which runs keep current and inactive client registered and apart in every
group: exactly those that never start input for the inactive client of a group.
-/
import Imf.Session.ClientGroup
import Imf.Lib.Run

namespace Imf.Session

set_option autoImplicit false

open Ipc (InputClientInfo Str)
open Lib (Meets run run_always prefixes_iff_meets)

/-- Where an unordered map puts a new group. -/
structure Placement where
  insert : ClientGroup → List ClientGroup → List ClientGroup
  perm : ∀ group groups, (insert group groups).Perm (group :: groups)

structure PerUserSession where
  clientGroupMap : List ClientGroup := []
  deriving DecidableEq, Repr

/-- What the input method and the client answer while they are bound. -/
structure BindAnswer where
  startInput : Bool := true
  inputReady : Bool := true
  deriving DecidableEq, Repr

/-- Who has the focus, as window manager and identity checker say. -/
structure FocusAnswer where
  pid : Int32
  uid : Int32
  focusedUIExtension : Bool
  deriving DecidableEq, Repr

namespace PerUserSession

/-! ## Lookups -/

section Lookups

variable (s : PerUserSession)

def getClientGroupByGroupId (clientGroupId : UInt64) : Option ClientGroup :=
  s.clientGroupMap.find? fun group => group.displayGroupId == clientGroupId

def getClientGroup (client : Nat) : Option ClientGroup :=
  s.clientGroupMap.find? fun group => group.isClientExist client

/-- The first group in which the search finds a client, and the client. -/
def findInGroups (search : ClientGroup → Option InputClientInfo) :
    Option (ClientGroup × InputClientInfo) :=
  s.clientGroupMap.findSome? fun group => (search group).map fun info => (group, info)

def getClientBoundRealIme : Option (ClientGroup × InputClientInfo) :=
  s.findInGroups ClientGroup.getClientInfoBoundRealIme

def getClientBoundImeByImePid (bindImePid : Int32) : Option (ClientGroup × InputClientInfo) :=
  s.findInGroups fun group => group.getClientInfoByBindIme bindImePid

def getClientBySelfPidOrHostPid (clientPid : Int32) : Option (ClientGroup × InputClientInfo) :=
  s.findInGroups fun group =>
    (group.getClientInfoByPid clientPid).or (group.getClientInfoByHostPid clientPid)

/-- A change of the group with this id, in place. -/
def updateGroup (clientGroupId : UInt64) (change : ClientGroup → ClientGroup) : PerUserSession :=
  { clientGroupMap := s.clientGroupMap.map fun group =>
      if group.displayGroupId = clientGroupId then change group else group }

end Lookups

/-! ## Operations -/

section Operations

variable (s : PerUserSession)

def addClientInfo (place : Placement) (inputClient : Nat) (clientInfo : InputClientInfo)
    (recipientAdded : Bool) : ErrorCode × PerUserSession :=
  match s.getClientGroupByGroupId clientInfo.clientGroupId with
  | some group =>
      ((group.addClientInfo inputClient clientInfo recipientAdded).1,
        s.updateGroup clientInfo.clientGroupId fun group =>
          (group.addClientInfo inputClient clientInfo recipientAdded).2)
  | none =>
      let added := ({ displayGroupId := clientInfo.clientGroupId } : ClientGroup).addClientInfo
        inputClient clientInfo recipientAdded
      if added.1 = .noError then (.noError, { clientGroupMap := place.insert added.2 s.clientGroupMap })
      else (added.1, s)

def handleInMultiGroup (newClientInfo : InputClientInfo)
    (old : Option (ClientGroup × InputClientInfo)) :
    PerUserSession :=
  old.elim s fun (oldClientGroup, oldClientInfo) =>
    if oldClientInfo.clientGroupId = newClientInfo.clientGroupId then s
    else oldClientInfo.client.elim s fun client =>
      s.updateGroup oldClientGroup.displayGroupId fun group => group.detachClient client

def handleSameImeInMultiGroup (newClientInfo : InputClientInfo) (newImeData : ImeData) :
    PerUserSession :=
  s.handleInMultiGroup newClientInfo (s.getClientBoundImeByImePid newImeData.pid)

def handleRealImeInMultiGroup (newClientInfo : InputClientInfo) (newImeData : ImeData) :
    PerUserSession :=
  if !newImeData.isRealIme then s else s.handleInMultiGroup newClientInfo s.getClientBoundRealIme

def handleSameClientInMultiGroup (newClientInfo : InputClientInfo) : PerUserSession :=
  s.handleInMultiGroup newClientInfo (s.getClientBySelfPidOrHostPid newClientInfo.pid)

def onPrepareInput (place : Placement) (clientInfo : InputClientInfo) (recipientAdded : Bool) :
    ErrorCode × PerUserSession :=
  clientInfo.client.elim (.errorClientNullPointer, s) fun client =>
    (s.handleSameClientInMultiGroup clientInfo).addClientInfo place client clientInfo recipientAdded

/-- The update of the bound client and its way to the current one. -/
def bindClient (clientInfo : InputClientInfo) (imeData : ImeData) (client : Nat) (group : ClientGroup) :
    ClientGroup :=
  (group.updateClientInfo client fun info =>
    { info with
      isShowKeyboard := clientInfo.isShowKeyboard
      state := .active
      bindImeData := some { pid := imeData.pid, type := imeData.type } }).replaceCurrentClient client

def bindClientWithIme (clientInfo : InputClientInfo) (imeData : Option ImeData)
    (isBindFromClient : Bool) (answer : BindAnswer) : ErrorCode × PerUserSession :=
  imeData.elim (.errorImeNotStarted, s) fun imeData =>
    if (s.getClientGroupByGroupId clientInfo.clientGroupId).isNone then (.errorImsaNullptr, s)
    else if !answer.startInput then (.errorImeStartInputFailed, s)
    else if !isBindFromClient && !answer.inputReady then (.errorImsaClientInputReadyFailed, s)
    else if imeData.isImeMirror then (.noError, s)
    else
      let s := s.handleSameImeInMultiGroup clientInfo imeData
      let s := s.handleRealImeInMultiGroup clientInfo imeData
      (.noError, clientInfo.client.elim s fun client =>
        s.updateGroup clientInfo.clientGroupId (bindClient clientInfo imeData client))

/-- `imeData` is the input method that is ready to be bound. -/
def onStartInput (inputClientInfo : InputClientInfo) (imeData : Option ImeData) (answer : BindAnswer) :
    ErrorCode × PerUserSession :=
  (imeData.filter fun data => data.agent.isSome).elim (.errorImeNotStarted, s) fun data =>
    (s.getClientGroupByGroupId inputClientInfo.clientGroupId).elim (.errorImsaNullptr, s) fun group =>
      let changed := group.handleBindImeChanged inputClientInfo data
      let s := s.updateGroup inputClientInfo.clientGroupId fun group =>
        (group.handleBindImeChanged inputClientInfo data).2
      s.bindClientWithIme changed.1 (some data) true answer

def onReleaseInput (client : Option Nat) : ErrorCode × PerUserSession :=
  client.elim (.errorClientNullPointer, s) fun client =>
    (.noError, (s.getClientGroup client).elim s fun group =>
      s.updateGroup group.displayGroupId fun group => group.removeClient client)

/-- `clientGroupId` is the group of the display, when the window manager knows it. -/
def onFocused (clientGroupId : Option UInt64) (focus : FocusAnswer) (sceneBoardEnabled : Bool) :
    PerUserSession :=
  (clientGroupId.bind s.getClientGroupByGroupId).elim s fun group =>
    group.currentClient.elim s fun client =>
      if focus.pid ≤ 0 || focus.uid ≤ 0 then s
      else if group.isCurClientFocused focus.pid focus.uid focus.focusedUIExtension then s
      else if !sceneBoardEnabled then
        s.updateGroup group.displayGroupId fun group => group.removeClient client
      else s.updateGroup group.displayGroupId fun group => group.deactivateClient client

def onUnfocused (clientGroupId : Option UInt64) (focus : FocusAnswer) : PerUserSession :=
  (clientGroupId.bind s.getClientGroupByGroupId).elim s fun group =>
    if group.currentClient.isNone then s
    else if group.isCurClientUnFocused focus.pid focus.uid focus.focusedUIExtension then s
    else ((group.getClientInfoByPid focus.pid).bind InputClientInfo.client).elim s fun client =>
      s.updateGroup group.displayGroupId fun group => group.removeClient client

/-- What `UpdateClientAfterRequestHide` does to the current client. -/
def hideCurrent (callerBundleName : Str) (group : ClientGroup) : ClientGroup :=
  group.currentClient.elim group fun client =>
    if callerBundleName ≠ [] ∧
        (group.getClientInfo client).any fun info =>
          callerBundleName != info.config.inputAttribute.bundleName then
      group.removeClient client
    else group.updateClientInfo client fun info => { info with isShowKeyboard := false }

def updateClientAfterRequestHide (displayGroupId : UInt64) (callerBundleName : Str) : PerUserSession :=
  s.updateGroup displayGroupId fun group =>
    let group := hideCurrent callerBundleName group
    group.inactiveClient.elim group group.removeClient

def onRequestHideInput (displayGroupId : Option UInt64) (callerBundleName : Str) :
    ErrorCode × PerUserSession :=
  displayGroupId.elim (.errorInvalidDisplayid, s) fun displayGroupId =>
    (.noError, s.updateClientAfterRequestHide displayGroupId callerBundleName)

def onClientDied (remote : Option Nat) : PerUserSession :=
  remote.elim s fun client => (s.getClientGroup client).elim s fun group =>
    s.updateGroup group.displayGroupId fun group => group.detachClient client

end Operations

end PerUserSession

/-- A call or notice that the session works off. -/
inductive Event where
  | prepareInput (clientInfo : InputClientInfo) (recipientAdded : Bool)
  | startInput (clientInfo : InputClientInfo) (imeData : Option ImeData) (answer : BindAnswer)
  | bindClientWithIme (clientInfo : InputClientInfo) (imeData : Option ImeData)
      (isBindFromClient : Bool)
      (answer : BindAnswer)
  | releaseInput (client : Option Nat)
  | focused (clientGroupId : Option UInt64) (focus : FocusAnswer) (sceneBoardEnabled : Bool)
  | unfocused (clientGroupId : Option UInt64) (focus : FocusAnswer)
  | requestHideInput (displayGroupId : Option UInt64) (callerBundleName : Str)
  | clientDied (remote : Option Nat)
  deriving DecidableEq, Repr

/-- The information on a client as it arrives: a call carries no input method that is bound. -/
def received (clientInfo : InputClientInfo) : InputClientInfo :=
  { clientInfo with bindImeData := none }

def PerUserSession.step (place : Placement) (s : PerUserSession) : Event → PerUserSession
  | .prepareInput clientInfo recipientAdded =>
      (s.onPrepareInput place (received clientInfo) recipientAdded).2
  | .startInput clientInfo imeData answer => (s.onStartInput clientInfo imeData answer).2
  | .bindClientWithIme clientInfo imeData isBindFromClient answer =>
      (s.bindClientWithIme clientInfo imeData isBindFromClient answer).2
  | .releaseInput client => (s.onReleaseInput client).2
  | .focused clientGroupId focus sceneBoardEnabled => s.onFocused clientGroupId focus sceneBoardEnabled
  | .unfocused clientGroupId focus => s.onUnfocused clientGroupId focus
  | .requestHideInput displayGroupId callerBundleName =>
      (s.onRequestHideInput displayGroupId callerBundleName).2
  | .clientDied remote => s.onClientDied remote

/-! ## Well-formed sessions -/

namespace PerUserSession

/-- One group of each id, and entries that are where they belong. -/
structure Wf (s : PerUserSession) : Prop where
  ids : (s.clientGroupMap.map ClientGroup.displayGroupId).Nodup
  keyed : ∀ group ∈ s.clientGroupMap, group.Keyed

/-- Every group is sound. -/
def Sound (s : PerUserSession) : Prop := ∀ group ∈ s.clientGroupMap, group.Sound

section Groups

variable {s : PerUserSession} {id : UInt64} {change : ClientGroup → ClientGroup} {group : ClientGroup}

theorem getClientGroupByGroupId_mem (found : s.getClientGroupByGroupId id = some group) :
    group ∈ s.clientGroupMap ∧ group.displayGroupId = id :=
  ⟨List.mem_of_find?_eq_some found, by simpa using List.find?_some found⟩

theorem findInGroups_mem {search : ClientGroup → Option InputClientInfo} {info : InputClientInfo}
    (found : s.findInGroups search = some (group, info)) :
    group ∈ s.clientGroupMap ∧ search group = some info := by
  obtain ⟨other, member, at_⟩ := List.exists_of_findSome?_eq_some found
  obtain ⟨found', searched, equal⟩ := Option.map_eq_some_iff.1 at_
  obtain ⟨rfl, rfl⟩ := Prod.mk.inj equal
  exact ⟨member, searched⟩

theorem forall_updateGroup {P : ClientGroup → Prop} (all : ∀ group ∈ s.clientGroupMap, P group)
    (keeps : ∀ group ∈ s.clientGroupMap, group.displayGroupId = id → P group → P (change group)) :
    ∀ group ∈ (s.updateGroup id change).clientGroupMap, P group := by
  intro group member
  obtain ⟨old, inside, rfl⟩ := List.mem_map.1 member
  split
  · rename_i same
    exact keeps old inside same (all old inside)
  · exact all old inside

theorem Wf.updateGroup (wf : s.Wf) (keeps : ∀ group : ClientGroup, group.Keyed →
    (change group).displayGroupId = group.displayGroupId ∧
      (group.displayGroupId = id → (change group).Keyed)) : (s.updateGroup id change).Wf := by
  refine ⟨?_, forall_updateGroup wf.keyed fun group _ same keyed => (keeps group keyed).2 same⟩
  have ids : (s.updateGroup id change).clientGroupMap.map ClientGroup.displayGroupId =
      s.clientGroupMap.map ClientGroup.displayGroupId := by
    simp only [PerUserSession.updateGroup, List.map_map]
    refine List.map_congr_left fun group member => ?_
    simp only [Function.comp_apply]
    split
    · exact (keeps group (wf.keyed group member)).1
    · rfl
  rw [ids]
  exact wf.ids

theorem Wf.shrinks (wf : s.Wf)
    (shrinks : ∀ group : ClientGroup, group.Keyed → group.Shrinks (change group)) :
    (s.updateGroup id change).Wf :=
  wf.updateGroup fun group keyed =>
    ⟨(shrinks group keyed).id, fun _ => keyed.shrinks (shrinks group keyed)⟩

/-- The groups of a well-formed session are told apart by their ids. -/
theorem Wf.unique (wf : s.Wf) {other : ClientGroup} (member : group ∈ s.clientGroupMap)
    (inside : other ∈ s.clientGroupMap) (same : group.displayGroupId = other.displayGroupId) :
    group = other :=
  List.inj_on_of_nodup_map wf.ids member inside same

theorem Wf.getClientGroupByGroupId (wf : s.Wf) (member : group ∈ s.clientGroupMap) :
    s.getClientGroupByGroupId group.displayGroupId = some group := by
  cases found : s.getClientGroupByGroupId group.displayGroupId with
  | none =>
      have missing := List.find?_eq_none.1 found group member
      simp at missing
  | some other =>
      obtain ⟨inside, same⟩ := getClientGroupByGroupId_mem found
      rw [wf.unique inside member same]

theorem mem_updateGroup_of_ne (member : group ∈ s.clientGroupMap)
    (differs : group.displayGroupId ≠ id) :
    group ∈ (s.updateGroup id change).clientGroupMap :=
  List.mem_map.2 ⟨group, member, if_neg differs⟩

theorem mem_updateGroup_self (member : group ∈ s.clientGroupMap) :
    change group ∈ (s.updateGroup group.displayGroupId change).clientGroupMap :=
  List.mem_map.2 ⟨group, member, if_pos rfl⟩

theorem Sound.updateGroup (sound : s.Sound)
    (keeps : ∀ group : ClientGroup, group.Sound → (change group).Sound) :
    (s.updateGroup id change).Sound :=
  forall_updateGroup sound fun group _ _ => keeps group

/-- A change of one group leaves a sound session exactly when it leaves that group sound. -/
theorem sound_updateGroup_iff (wf : s.Wf) (sound : s.Sound) (member : group ∈ s.clientGroupMap) :
    (s.updateGroup group.displayGroupId change).Sound ↔ (change group).Sound := by
  refine ⟨fun all => all _ (mem_updateGroup_self member), fun changed => ?_⟩
  refine forall_updateGroup sound fun other inside same _ => ?_
  rw [wf.unique inside member same]
  exact changed

end Groups

/-! ## Steps -/

/-- A change of a group that keeps its entries and roles in order and binds no client. -/
structure Mild (change : ClientGroup → ClientGroup) : Prop where
  id : ∀ group : ClientGroup, (change group).displayGroupId = group.displayGroupId
  keyed : ∀ group : ClientGroup, group.Keyed → (change group).Keyed
  sound : ∀ group : ClientGroup, group.Sound → (change group).Sound
  bound : ∀ group : ClientGroup, ∀ entry ∈ (change group).mapClients,
    ∃ old ∈ group.mapClients, old.2.bindImeData = entry.2.bindImeData

/-- One group is changed so, or nothing. -/
def Mildly (before after : PerUserSession) : Prop :=
  after = before ∨ ∃ id change, Mild change ∧ after = before.updateGroup id change

theorem Mild.of_shrinks {change : ClientGroup → ClientGroup}
    (shrinks : ∀ group : ClientGroup, group.Shrinks (change group))
    (sound : ∀ group : ClientGroup, group.Sound → (change group).Sound) : Mild change where
  id group := (shrinks group).id
  keyed group keyed := keyed.shrinks (shrinks group)
  sound := sound
  bound group entry member := ⟨entry, (shrinks group).entries.subset member, rfl⟩

theorem mild_removeClient (client : Nat) : Mild fun group => group.removeClient client :=
  .of_shrinks (fun _ => ClientGroup.shrinks_removeClient client) fun _ sound =>
    sound.removeClient client

theorem mild_detachClient (client : Nat) : Mild fun group => group.detachClient client :=
  .of_shrinks (fun _ => ClientGroup.shrinks_detachClient client) fun _ sound =>
    sound.detachClient client

theorem updateClientInfo_bound {group : ClientGroup} {client : Nat}
    {update : InputClientInfo → InputClientInfo}
    (same : ∀ info, (update info).bindImeData = info.bindImeData) :
    ∀ entry ∈ (group.updateClientInfo client update).mapClients,
      ∃ old ∈ group.mapClients, old.2.bindImeData = entry.2.bindImeData := by
  intro entry member
  obtain ⟨old, inside, rfl⟩ := List.mem_map.1 member
  refine ⟨old, inside, ?_⟩
  split
  · exact (same old.2).symm
  · rfl

theorem mild_deactivateClient (client : Nat) : Mild fun group => group.deactivateClient client where
  id group := by
    unfold ClientGroup.deactivateClient
    split
    · rfl
    · dsimp only
      split <;> rfl
  keyed group keyed := keyed.deactivateClient client
  sound group sound := sound.deactivateClient client
  bound group entry member := by
    unfold ClientGroup.deactivateClient at member
    split at member
    · exact ⟨entry, member, rfl⟩
    · have updated : entry ∈ (group.updateClientInfo client fun info =>
          { info with state := .inactive }).mapClients := by
        dsimp only at member
        split at member <;> exact member
      refine updateClientInfo_bound ?_ entry updated
      exact fun _ => rfl

theorem mild_hideCurrent (callerBundleName : Str) : Mild (hideCurrent callerBundleName) := by
  have cases : ∀ group, hideCurrent callerBundleName group = group ∨
      ∃ client, hideCurrent callerBundleName group = group.removeClient client ∨
        hideCurrent callerBundleName group =
          group.updateClientInfo client fun info => { info with isShowKeyboard := false } := by
    intro group
    unfold hideCurrent
    cases group.currentClient with
    | none => exact .inl rfl
    | some client =>
        simp only [Option.elim_some]
        split
        · exact .inr ⟨client, .inl rfl⟩
        · exact .inr ⟨client, .inr rfl⟩
  refine ⟨fun group => ?_, fun group keyed => ?_, fun group sound => ?_, fun group => ?_⟩
  · rcases cases group with same | ⟨client, removed | updated⟩
    · rw [same]
    · rw [removed, (mild_removeClient client).id]
    · rw [updated, ClientGroup.updateClientInfo]
  · rcases cases group with same | ⟨client, removed | updated⟩
    · rwa [same]
    · rw [removed]
      exact (mild_removeClient client).keyed group keyed
    · rw [updated]
      exact keyed.updateClientInfo client (fun _ => rfl) fun _ home => home
  · rcases cases group with same | ⟨client, removed | updated⟩
    · rwa [same]
    · rw [removed]
      exact (mild_removeClient client).sound group sound
    · rw [updated]
      exact sound.updateClientInfo _
  · rcases cases group with same | ⟨client, removed | updated⟩
    · rw [same]
      exact fun entry member => ⟨entry, member, rfl⟩
    · rw [removed]
      exact (mild_removeClient client).bound group
    · rw [updated]
      exact updateClientInfo_bound fun _ => rfl

theorem Mild.comp {first second : ClientGroup → ClientGroup} (mild : Mild first) (later : Mild second) :
    Mild fun group => second (first group) where
  id group := (later.id _).trans (mild.id group)
  keyed group keyed := later.keyed _ (mild.keyed group keyed)
  sound group sound := later.sound _ (mild.sound group sound)
  bound group entry member := by
    obtain ⟨middle, inside, same⟩ := later.bound _ entry member
    obtain ⟨old, member, equal⟩ := mild.bound group middle inside
    exact ⟨old, member, equal.trans same⟩

theorem mild_removeInactive : Mild fun group => group.inactiveClient.elim group group.removeClient := by
  refine .of_shrinks (fun group => ?_) fun group sound => ?_
  · cases group.inactiveClient with
    | none => exact ClientGroup.Shrinks.refl group
    | some client => exact ClientGroup.shrinks_removeClient client
  · cases group.inactiveClient with
    | none => exact sound
    | some client => exact sound.removeClient client

section Mildly

variable {s t : PerUserSession}

theorem Mildly.wf (mildly : s.Mildly t) (wf : s.Wf) : t.Wf := by
  rcases mildly with rfl | ⟨id, change, mild, rfl⟩
  · exact wf
  · exact wf.updateGroup fun group keyed => ⟨mild.id group, fun _ => mild.keyed group keyed⟩

theorem Mildly.sound (mildly : s.Mildly t) (sound : s.Sound) : t.Sound := by
  rcases mildly with rfl | ⟨id, change, mild, rfl⟩
  · exact sound
  · exact sound.updateGroup mild.sound

theorem onReleaseInput_mildly (client : Option Nat) : s.Mildly (s.onReleaseInput client).2 := by
  unfold onReleaseInput
  cases client with
  | none => exact .inl rfl
  | some client =>
      simp only [Option.elim_some]
      cases s.getClientGroup client with
      | none => exact .inl rfl
      | some group => exact .inr ⟨_, _, mild_removeClient client, rfl⟩

theorem onFocused_mildly (clientGroupId : Option UInt64) (focus : FocusAnswer)
    (sceneBoardEnabled : Bool) :
    s.Mildly (s.onFocused clientGroupId focus sceneBoardEnabled) := by
  unfold onFocused
  cases clientGroupId.bind s.getClientGroupByGroupId with
  | none => exact .inl rfl
  | some group =>
      simp only [Option.elim_some]
      cases group.currentClient with
      | none => exact .inl rfl
      | some client =>
          simp only [Option.elim_some]
          split
          · exact .inl rfl
          · split
            · exact .inl rfl
            · split
              · exact .inr ⟨_, _, mild_removeClient client, rfl⟩
              · exact .inr ⟨_, _, mild_deactivateClient client, rfl⟩

theorem onUnfocused_mildly (clientGroupId : Option UInt64) (focus : FocusAnswer) :
    s.Mildly (s.onUnfocused clientGroupId focus) := by
  unfold onUnfocused
  cases clientGroupId.bind s.getClientGroupByGroupId with
  | none => exact .inl rfl
  | some group =>
      simp only [Option.elim_some]
      split
      · exact .inl rfl
      · split
        · exact .inl rfl
        · cases (group.getClientInfoByPid focus.pid).bind InputClientInfo.client with
          | none => exact .inl rfl
          | some client => exact .inr ⟨_, _, mild_removeClient client, rfl⟩

theorem onClientDied_mildly (remote : Option Nat) : s.Mildly (s.onClientDied remote) := by
  unfold onClientDied
  cases remote with
  | none => exact .inl rfl
  | some client =>
      simp only [Option.elim_some]
      cases s.getClientGroup client with
      | none => exact .inl rfl
      | some group => exact .inr ⟨_, _, mild_detachClient client, rfl⟩

theorem onRequestHideInput_mildly (displayGroupId : Option UInt64) (callerBundleName : Str) :
    s.Mildly (s.onRequestHideInput displayGroupId callerBundleName).2 := by
  cases displayGroupId with
  | none => exact .inl rfl
  | some id => exact .inr ⟨id, _, (mild_hideCurrent callerBundleName).comp mild_removeInactive, rfl⟩

end Mildly

section Steps

variable {s : PerUserSession}

/-- A search that finds registered clients only. -/
def Finds (search : ClientGroup → Option InputClientInfo) : Prop :=
  ∀ group info, search group = some info → ∃ client, (client, info) ∈ group.mapClients

theorem finds_findClient (p : ClientGroup → InputClientInfo → Bool) :
    Finds fun group => group.findClient (p group) := by
  intro group info found
  obtain ⟨entry, at_, rfl⟩ := Option.map_eq_some_iff.1 found
  exact ⟨entry.1, List.mem_of_find?_eq_some at_⟩

theorem finds_or {first second : ClientGroup → Option InputClientInfo} (left : Finds first)
    (right : Finds second) : Finds fun group => (first group).or (second group) := by
  intro group info found
  rcases Option.or_eq_some_iff.1 found with early | ⟨-, late⟩
  · exact left group info early
  · exact right group info late

/-- `HandleInMultiGroup` does nothing, or takes one client off a group other than the new one's. -/
theorem handleInMultiGroup_cases (wf : s.Wf) {search : ClientGroup → Option InputClientInfo}
    (finds : Finds search) (newClientInfo : InputClientInfo) :
    s.handleInMultiGroup newClientInfo (s.findInGroups search) = s ∧
        (∀ group info, s.findInGroups search = some (group, info) →
          group.displayGroupId = newClientInfo.clientGroupId) ∨
      ∃ group ∈ s.clientGroupMap, ∃ client info, (client, info) ∈ group.mapClients ∧
        s.findInGroups search = some (group, info) ∧
          group.displayGroupId ≠ newClientInfo.clientGroupId ∧
        s.handleInMultiGroup newClientInfo (s.findInGroups search) =
          s.updateGroup group.displayGroupId fun group => group.detachClient client := by
  cases found : s.findInGroups search with
  | none => exact .inl ⟨rfl, by simp⟩
  | some old =>
      obtain ⟨group, info⟩ := old
      obtain ⟨member, searched⟩ := findInGroups_mem found
      obtain ⟨client, inside⟩ := finds group info searched
      have key : info.client = some client := (wf.keyed group member).key _ inside
      have home : info.clientGroupId = group.displayGroupId := (wf.keyed group member).home _ inside
      simp only [handleInMultiGroup, Option.elim_some, key, home]
      split
      · rename_i same
        refine .inl ⟨rfl, ?_⟩
        rintro _ _ ⟨⟩
        exact same
      · rename_i differs
        exact .inr ⟨group, member, client, info, inside, rfl, differs, rfl⟩

/-- What is kept while clients of other groups are taken off. -/
structure Keeps (id : UInt64) (before after : PerUserSession) : Prop where
  wf : before.Wf → after.Wf
  sound : before.Sound → after.Sound
  group : ∀ group ∈ before.clientGroupMap, group.displayGroupId = id → group ∈ after.clientGroupMap

theorem Keeps.refl (id : UInt64) (s : PerUserSession) : Keeps id s s :=
  ⟨fun wf => wf, fun sound => sound, fun _ member _ => member⟩

theorem Keeps.trans {id : UInt64} {a b c : PerUserSession} (first : Keeps id a b)
    (second : Keeps id b c) :
    Keeps id a c where
  wf wf := second.wf (first.wf wf)
  sound sound := second.sound (first.sound sound)
  group group member same := second.group group (first.group group member same) same

theorem handleInMultiGroup_mildly (wf : s.Wf) {search : ClientGroup → Option InputClientInfo}
    (finds : Finds search) (newClientInfo : InputClientInfo) :
    s.Mildly (s.handleInMultiGroup newClientInfo (s.findInGroups search)) := by
  rcases handleInMultiGroup_cases wf finds newClientInfo
    with ⟨same, -⟩ | ⟨group, -, client, -, -, -, -, detached⟩
  · exact .inl same
  · exact .inr ⟨_, _, mild_detachClient client, detached⟩

theorem keeps_handleInMultiGroup (wf : s.Wf) {search : ClientGroup → Option InputClientInfo}
    (finds : Finds search) (newClientInfo : InputClientInfo) :
    Keeps newClientInfo.clientGroupId s
      (s.handleInMultiGroup newClientInfo (s.findInGroups search)) := by
  have mildly := handleInMultiGroup_mildly wf finds newClientInfo
  refine ⟨mildly.wf, mildly.sound, fun other member same => ?_⟩
  rcases handleInMultiGroup_cases wf finds newClientInfo with
    ⟨same, -⟩ | ⟨group, -, client, -, -, -, differs, detached⟩
  · rwa [same]
  · rw [detached]
    exact mem_updateGroup_of_ne member fun equal => differs (equal.symm.trans same)

theorem keeps_handleSameIme (wf : s.Wf) (newClientInfo : InputClientInfo) (newImeData : ImeData) :
    Keeps newClientInfo.clientGroupId s (s.handleSameImeInMultiGroup newClientInfo newImeData) :=
  keeps_handleInMultiGroup wf (finds_findClient _) newClientInfo

theorem keeps_handleRealIme (wf : s.Wf) (newClientInfo : InputClientInfo) (newImeData : ImeData) :
    Keeps newClientInfo.clientGroupId s (s.handleRealImeInMultiGroup newClientInfo newImeData) := by
  unfold handleRealImeInMultiGroup
  split
  · exact Keeps.refl _ s
  · exact keeps_handleInMultiGroup wf (finds_findClient _) newClientInfo

theorem handleSameClient_mildly (wf : s.Wf) (newClientInfo : InputClientInfo) :
    s.Mildly (s.handleSameClientInMultiGroup newClientInfo) :=
  handleInMultiGroup_mildly wf (finds_or (finds_findClient _) (finds_findClient _)) newClientInfo

theorem addClientInfo_kept (place : Placement) {inputClient : Nat} {clientInfo : InputClientInfo}
    (own : clientInfo.client = some inputClient) (added : Bool) (wf : s.Wf) :
    (s.addClientInfo place inputClient clientInfo added).2.Wf ∧
      (s.Sound → (s.addClientInfo place inputClient clientInfo added).2.Sound) := by
  unfold addClientInfo
  split
  · refine ⟨wf.updateGroup fun group keyed => ⟨group.addClientInfo_id _ _ _, fun same => ?_⟩,
      fun sound => ?_⟩
    · exact keyed.addClientInfo own same.symm added
    · exact sound.updateGroup fun group sound => sound.addClientInfo _ _ _
  · rename_i missing
    dsimp only
    split
    · -- A new group with the new client in it is placed among the others.
      have empty : ({ displayGroupId := clientInfo.clientGroupId } : ClientGroup).Keyed :=
        ⟨by simp, by simp, by simp⟩
      have keyed := empty.addClientInfo own rfl added
      have id := ClientGroup.addClientInfo_id { displayGroupId := clientInfo.clientGroupId } inputClient
        clientInfo added
      have sound : ClientGroup.Sound { displayGroupId := clientInfo.clientGroupId } :=
        ⟨by simp, by simp, by simp⟩
      have sound := sound.addClientInfo inputClient clientInfo added
      generalize (ClientGroup.addClientInfo { displayGroupId := clientInfo.clientGroupId } inputClient
        clientInfo added).2 = fresh at keyed id sound
      have perm := place.perm fresh s.clientGroupMap
      refine ⟨⟨?_, fun group member => ?_⟩, fun all group member => ?_⟩
      · refine (perm.map _).nodup_iff.2 (List.nodup_cons.2 ⟨fun member => ?_, wf.ids⟩)
        obtain ⟨group, inside, same⟩ := List.mem_map.1 member
        have differs := List.find?_eq_none.1 missing group inside
        simp [same, id] at differs
      · rcases List.mem_cons.1 (perm.mem_iff.1 member) with rfl | old
        · exact keyed
        · exact wf.keyed group old
      · rcases List.mem_cons.1 (perm.mem_iff.1 member) with rfl | old
        · exact sound
        · exact all group old
    · exact ⟨wf, fun sound => sound⟩

theorem onPrepareInput_kept (place : Placement) (clientInfo : InputClientInfo)
    (added : Bool) (wf : s.Wf) :
    (s.onPrepareInput place clientInfo added).2.Wf ∧
      (s.Sound → (s.onPrepareInput place clientInfo added).2.Sound) := by
  unfold onPrepareInput
  cases own : clientInfo.client with
  | none => exact ⟨wf, fun sound => sound⟩
  | some client =>
      have mildly := handleSameClient_mildly wf clientInfo
      have added := addClientInfo_kept place own added (mildly.wf wf)
      exact ⟨added.1, fun sound => added.2 (mildly.sound sound)⟩

/-- The bind goes through: the input method and, unless it asked, the client take part. -/
def binds (imeData : Option ImeData) (isBindFromClient : Bool) (answer : BindAnswer) : Bool :=
  imeData.any fun data =>
    answer.startInput && (isBindFromClient || answer.inputReady) && !data.isImeMirror

/-- The client is not the inactive one of its group. -/
def Awake (s : PerUserSession) (clientInfo : InputClientInfo) : Prop :=
  ∀ group ∈ s.getClientGroupByGroupId clientInfo.clientGroupId, ∀ client ∈ clientInfo.client,
    group.inactiveClient ≠ some client

theorem shrinks_bindClient (clientInfo : InputClientInfo) (imeData : ImeData) (client : Nat)
    {group : ClientGroup}
    (keyed : group.Keyed) : (bindClient clientInfo imeData client group).Keyed ∧
      (bindClient clientInfo imeData client group).displayGroupId = group.displayGroupId := by
  unfold bindClient
  refine ⟨(keyed.updateClientInfo client ?_ ?_).shrinks
    (ClientGroup.shrinks_replaceCurrentClient client), ?_⟩
  · exact fun _ => rfl
  · exact fun _ home => home
  · rw [(ClientGroup.shrinks_replaceCurrentClient client).id]
    rfl

/-- The session after the clients of other groups have been taken off for a bind. -/
def preempted (s : PerUserSession) (clientInfo : InputClientInfo) (imeData : ImeData) :
    PerUserSession :=
  (s.handleSameImeInMultiGroup clientInfo imeData).handleRealImeInMultiGroup clientInfo imeData

theorem keeps_preempted (wf : s.Wf) (clientInfo : InputClientInfo) (imeData : ImeData) :
    Keeps clientInfo.clientGroupId s (s.preempted clientInfo imeData) := by
  have first := keeps_handleSameIme wf clientInfo imeData
  exact first.trans (keeps_handleRealIme (first.wf wf) clientInfo imeData)

section Bind

variable {clientInfo : InputClientInfo} {imeData : Option ImeData} {isBindFromClient : Bool}
  {answer : BindAnswer}

theorem bindClientWithIme_bound {data : ImeData} {group : ClientGroup}
    (found : s.getClientGroupByGroupId clientInfo.clientGroupId = some group)
    (bound : binds (some data) isBindFromClient answer = true) :
    s.bindClientWithIme clientInfo (some data) isBindFromClient answer =
      (.noError, clientInfo.client.elim (s.preempted clientInfo data) fun client =>
        (s.preempted clientInfo data).updateGroup clientInfo.clientGroupId
          (bindClient clientInfo data client)) := by
  simp only [binds, Option.any_some, Bool.and_eq_true, Bool.or_eq_true] at bound
  obtain ⟨⟨started, ready⟩, mirror⟩ := bound
  have ready : (!isBindFromClient && !answer.inputReady) = false := by
    rcases ready with ready | ready <;> simp [ready]
  have mirror : data.isImeMirror = false := by simpa using mirror
  simp only [bindClientWithIme, Option.elim_some, found, Option.isNone_some, Bool.false_eq_true,
    if_false, started,
    ready, mirror, Bool.not_true]
  rfl

theorem bindClientWithIme_unbound (unbound : binds imeData isBindFromClient answer = false) :
    (s.bindClientWithIme clientInfo imeData isBindFromClient answer).2 = s := by
  unfold bindClientWithIme
  cases imeData with
  | none => rfl
  | some data =>
      simp only [binds, Option.any_some, Bool.and_eq_false_iff, Bool.or_eq_false_iff] at unbound
      simp only [Option.elim_some]
      split
      · rfl
      · split
        · rfl
        · rename_i started
          split
          · rfl
          · rename_i ready
            split
            · rfl
            · rename_i mirror
              rcases unbound with (failed | ⟨fromClient, failed⟩) | failed
              · simp [failed] at started
              · simp [fromClient, failed] at ready
              · simp at failed
                exact absurd failed mirror

theorem bindClientWithIme_ungrouped
    (missing : s.getClientGroupByGroupId clientInfo.clientGroupId = none) :
    (s.bindClientWithIme clientInfo imeData isBindFromClient answer).2 = s := by
  unfold bindClientWithIme
  cases imeData with
  | none => rfl
  | some data => simp [missing]

theorem bindClientWithIme_wf (wf : s.Wf) :
    (s.bindClientWithIme clientInfo imeData isBindFromClient answer).2.Wf := by
  cases found : s.getClientGroupByGroupId clientInfo.clientGroupId with
  | none => rwa [bindClientWithIme_ungrouped found]
  | some group =>
      cases bound : binds imeData isBindFromClient answer with
      | false => rwa [bindClientWithIme_unbound bound]
      | true =>
          cases imeData with
          | none => simp [binds] at bound
          | some data =>
              rw [bindClientWithIme_bound found bound]
              have wf' := (keeps_preempted wf clientInfo data).wf wf
              cases clientInfo.client with
              | none => exact wf'
              | some client =>
                  refine wf'.updateGroup fun group keyed => ?_
                  obtain ⟨keyed, id⟩ := shrinks_bindClient clientInfo data client keyed
                  exact ⟨id, fun _ => keyed⟩

/-- A bind that goes through leaves the roles apart exactly for a client that is not inactive. -/
theorem sound_bindClientWithIme_iff (wf : s.Wf) (sound : s.Sound) :
    (s.bindClientWithIme clientInfo imeData isBindFromClient answer).2.Sound ↔
      (binds imeData isBindFromClient answer = true → s.Awake clientInfo) := by
  cases found : s.getClientGroupByGroupId clientInfo.clientGroupId with
  | none =>
      rw [bindClientWithIme_ungrouped found]
      refine iff_of_true sound fun _ => ?_
      simp [Awake, found]
  | some group =>
      cases bound : binds imeData isBindFromClient answer with
      | false =>
          rw [bindClientWithIme_unbound bound]
          exact iff_of_true sound (by simp)
      | true =>
          cases imeData with
          | none => simp [binds] at bound
          | some data =>
              have keeps := keeps_preempted wf clientInfo data
              have sound' := keeps.sound sound
              rw [bindClientWithIme_bound found bound]
              simp only [Awake, found, Option.mem_some_iff, forall_eq', forall_const]
              cases clientInfo.client with
              | none => exact iff_of_true sound' (by simp)
              | some client =>
                  obtain ⟨member, id⟩ := getClientGroupByGroupId_mem found
                  have inside := keeps.group group member id
                  rw [Option.elim_some, ← id, sound_updateGroup_iff (keeps.wf wf) sound' inside]
                  unfold bindClient
                  rw [ClientGroup.sound_replaceCurrentClient_iff
                    (sound' group inside |>.updateClientInfo _)]
                  simp only [ClientGroup.isClientExist_updateClientInfo,
                    ClientGroup.updateClientInfo_inactive,
                    Option.mem_some_iff, forall_eq']
                  refine ⟨fun apart inactive => ?_, fun apart _ => apart⟩
                  exact apart ((sound group member).inactive client inactive) inactive

end Bind

/-- The session in which `OnStartInput` binds. -/
def imeChanged (s : PerUserSession) (clientInfo : InputClientInfo) (data : ImeData) : PerUserSession :=
  s.updateGroup clientInfo.clientGroupId fun group => (group.handleBindImeChanged clientInfo data).2

theorem imeChanged_kept (wf : s.Wf) (clientInfo : InputClientInfo) (data : ImeData) :
    (s.imeChanged clientInfo data).Wf ∧ (s.Sound → (s.imeChanged clientInfo data).Sound) := by
  refine ⟨wf.shrinks fun group keyed => ClientGroup.shrinks_handleBindImeChanged keyed _ _,
    fun sound => ?_⟩
  refine forall_updateGroup sound fun group member _ sound => ?_
  exact sound.handleBindImeChanged (wf.keyed group member) _ _

theorem onStartInput_bind {clientInfo : InputClientInfo} {imeData : Option ImeData} {data : ImeData}
    {group : ClientGroup} (answer : BindAnswer)
    (ready : (imeData.filter fun data => data.agent.isSome) = some data)
    (found : s.getClientGroupByGroupId clientInfo.clientGroupId = some group) :
    s.onStartInput clientInfo imeData answer = (s.imeChanged clientInfo data).bindClientWithIme
      (group.handleBindImeChanged clientInfo data).1 (some data) true answer := by
  simp only [onStartInput, ready, found, Option.elim_some, imeChanged]

theorem onStartInput_unready {clientInfo : InputClientInfo} {imeData : Option ImeData}
    (answer : BindAnswer) (unready : (imeData.filter fun data => data.agent.isSome) = none) :
    (s.onStartInput clientInfo imeData answer).2 = s := by
  simp only [onStartInput, unready, Option.elim_none]

theorem onStartInput_ungrouped {clientInfo : InputClientInfo} (imeData : Option ImeData)
    (answer : BindAnswer) (missing : s.getClientGroupByGroupId clientInfo.clientGroupId = none) :
    (s.onStartInput clientInfo imeData answer).2 = s := by
  simp only [onStartInput, missing, Option.elim_none]
  cases imeData.filter fun data => data.agent.isSome <;> rfl

theorem awake_imeChanged_iff (wf : s.Wf) {clientInfo : InputClientInfo} {data : ImeData}
    {group : ClientGroup}
    (found : s.getClientGroupByGroupId clientInfo.clientGroupId = some group) :
    (s.imeChanged clientInfo data).Awake (group.handleBindImeChanged clientInfo data).1 ↔
      s.Awake clientInfo := by
  obtain ⟨member, id⟩ := getClientGroupByGroupId_mem found
  have keyed := wf.keyed group member
  obtain ⟨client, home⟩ := group.handleBindImeChanged_info clientInfo data
  have inside : (group.handleBindImeChanged clientInfo data).2 ∈ (s.imeChanged clientInfo
    data).clientGroupMap := by
    unfold imeChanged
    rw [← id]
    exact mem_updateGroup_self member
  have found' := (imeChanged_kept wf clientInfo data).1.getClientGroupByGroupId inside
  rw [(ClientGroup.shrinks_handleBindImeChanged keyed _ _).id, id] at found'
  simp only [Awake, client, home, found, found', Option.mem_some_iff, forall_eq',
    ClientGroup.handleBindImeChanged_inactive keyed]

theorem onStartInput_wf (wf : s.Wf) (clientInfo : InputClientInfo) (imeData : Option ImeData)
    (answer : BindAnswer) : (s.onStartInput clientInfo imeData answer).2.Wf := by
  cases ready : imeData.filter fun data => data.agent.isSome with
  | none => rwa [onStartInput_unready answer ready]
  | some data =>
      cases found : s.getClientGroupByGroupId clientInfo.clientGroupId with
      | none => rwa [onStartInput_ungrouped imeData answer found]
      | some group =>
          rw [onStartInput_bind answer ready found]
          exact bindClientWithIme_wf (imeChanged_kept wf clientInfo data).1

theorem sound_onStartInput_iff (wf : s.Wf) (sound : s.Sound) (clientInfo : InputClientInfo)
    (imeData : Option ImeData) (answer : BindAnswer) :
    (s.onStartInput clientInfo imeData answer).2.Sound ↔
      (binds (imeData.filter fun data => data.agent.isSome) true answer = true →
        s.Awake clientInfo) := by
  cases ready : imeData.filter fun data => data.agent.isSome with
  | none =>
      rw [onStartInput_unready answer ready]
      exact iff_of_true sound (by simp [binds])
  | some data =>
      cases found : s.getClientGroupByGroupId clientInfo.clientGroupId with
      | none =>
          rw [onStartInput_ungrouped imeData answer found]
          exact iff_of_true sound fun _ => by simp [Awake, found]
      | some group =>
          obtain ⟨wf', sound'⟩ := imeChanged_kept wf clientInfo data
          rw [onStartInput_bind answer ready found, sound_bindClientWithIme_iff wf' (sound' sound),
            awake_imeChanged_iff wf found]

theorem step_wf (place : Placement) (wf : s.Wf) (event : Event) : (s.step place event).Wf := by
  cases event with
  | prepareInput clientInfo added => exact (onPrepareInput_kept place (received clientInfo) added wf).1
  | startInput clientInfo imeData answer => exact onStartInput_wf wf clientInfo imeData answer
  | bindClientWithIme clientInfo imeData isBindFromClient answer => exact bindClientWithIme_wf wf
  | releaseInput client => exact (onReleaseInput_mildly client).wf wf
  | focused clientGroupId focus sceneBoardEnabled =>
      exact (onFocused_mildly clientGroupId focus _).wf wf
  | unfocused clientGroupId focus => exact (onUnfocused_mildly clientGroupId focus).wf wf
  | requestHideInput displayGroupId callerBundleName =>
      exact (onRequestHideInput_mildly displayGroupId callerBundleName).wf wf
  | clientDied remote => exact (onClientDied_mildly remote).wf wf

/-- Input that is started goes to a client that is not the inactive one of its group. -/
def Wakes (s : PerUserSession) : Event → Prop
  | .startInput clientInfo imeData answer =>
      binds (imeData.filter fun data => data.agent.isSome) true answer = true → s.Awake clientInfo
  | .bindClientWithIme clientInfo imeData isBindFromClient answer =>
      binds imeData isBindFromClient answer = true → s.Awake clientInfo
  | _ => True

theorem sound_step_iff (place : Placement) (wf : s.Wf) (sound : s.Sound) (event : Event) :
    (s.step place event).Sound ↔ s.Wakes event := by
  cases event with
  | startInput clientInfo imeData answer =>
      exact sound_onStartInput_iff wf sound clientInfo imeData answer
  | bindClientWithIme clientInfo imeData isBindFromClient answer =>
      exact sound_bindClientWithIme_iff wf sound
  | prepareInput clientInfo added =>
      exact iff_of_true ((onPrepareInput_kept place (received clientInfo) added wf).2 sound) trivial
  | releaseInput client => exact iff_of_true ((onReleaseInput_mildly client).sound sound) trivial
  | focused clientGroupId focus sceneBoardEnabled =>
      exact iff_of_true ((onFocused_mildly clientGroupId focus _).sound sound) trivial
  | unfocused clientGroupId focus =>
      exact iff_of_true ((onUnfocused_mildly clientGroupId focus).sound sound) trivial
  | requestHideInput displayGroupId callerBundleName =>
      exact iff_of_true ((onRequestHideInput_mildly displayGroupId callerBundleName).sound sound)
        trivial
  | clientDied remote => exact iff_of_true ((onClientDied_mildly remote).sound sound) trivial

theorem wf_empty : ({} : PerUserSession).Wf := ⟨by simp, by simp⟩

theorem sound_empty : ({} : PerUserSession).Sound := by simp [Sound]

end Steps

end PerUserSession

open PerUserSession

/-- **Current and inactive clients are registered and apart**, in every group of every state of
a run, if and only if the run never starts input for the inactive client of a group. -/
theorem roles_kept (place : Placement) (events : List Event) :
    (∀ done, done <+: events → (run (step place) {} done).Sound) ↔
      Meets (step place) Wakes {} events := by
  have exactly : ∀ s event, s.Wf ∧ s.Sound →
      ((step place s event).Wf ∧ (step place s event).Sound ↔ s.Wakes event) := by
    rintro s event ⟨wf, sound⟩
    rw [← sound_step_iff place wf sound event]
    exact and_iff_right (step_wf place wf event)
  rw [← prefixes_iff_meets exactly ⟨wf_empty, sound_empty⟩]
  have wf : ∀ done, (run (step place) {} done).Wf := fun done =>
    run_always (P := PerUserSession.Wf) (fun s event wf => step_wf place wf event) wf_empty done
  exact forall₂_congr fun done _ => (and_iff_right (wf done)).symm

/-! ## Poles -/

/-- New groups at the front. -/
def frontPlacement : Placement where
  insert := List.cons
  perm _ _ := List.Perm.refl _

/-- A text editor of pid 1 in the default group. -/
def editor : InputClientInfo := { pid := 1, uid := 1, client := some 10 }

def keyboard : ImeData := { agent := some 1, pid := 500 }

/-- The editor gets input, loses the focus and gets input again. -/
def refocus : List Event :=
  [.prepareInput editor true, .startInput editor (some keyboard) {},
    .focused (some 0) { pid := 2, uid := 2, focusedUIExtension := false } true,
    .prepareInput editor true, .startInput editor (some keyboard) {}]

/-- The refocused editor is current and inactive at once. -/
theorem refocused_client_inactive : ¬ ∀ place events, (run (step place) {} events).Sound := by
  intro all
  have sound := all frontPlacement refocus { displayGroupId := 0, mapClients := [(10, { editor with
    state := .active, bindImeData := some { pid := 500 } })], currentClient := some 10, inactiveClient := some 10 }
    (by decide)
  exact sound.apart 10 rfl rfl

end Imf.Session
