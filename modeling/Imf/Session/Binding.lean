/-
# Imf.Session.Binding -- one input method for one group

Binding a client to an input method takes the clients that it served in other groups off their
groups.  The session looks one of them up by the pid and, for the real input method, one more
that is bound to a real one; a group can hold several, as clients of one process do not replace
each other.

`served_alone` is about whole runs: every bind leaves the input method to its group exactly
when, at every bind, the clients of the other groups are few enough to be found (`Few`).
-/
import Imf.Session.Clients

namespace Imf.Session

set_option autoImplicit false

open Ipc (BindImeData InputClientInfo)
open Lib (Meets run meets_append meets_iff_meets)

def boundToPid (pid : Int32) (entry : Nat × InputClientInfo) : Bool :=
  entry.2.bindImeData.any fun data => data.pid == pid

def boundToReal (entry : Nat × InputClientInfo) : Bool :=
  entry.2.bindImeData.any fun data => data.isRealIme

namespace PerUserSession

/-- The entries of the other groups, in the order of a search. -/
def foreign (s : PerUserSession) (id : UInt64) : List (Nat × InputClientInfo) :=
  (s.clientGroupMap.filter fun group => group.displayGroupId != id).flatMap ClientGroup.mapClients

/-- No client of another group is bound to the input method, nor to a real one if it is real. -/
def Served (s : PerUserSession) (id : UInt64) (imeData : ImeData) : Prop :=
  ∀ entry ∈ s.foreign id, boundToPid imeData.pid entry = false ∧
    (imeData.isRealIme = true → boundToReal entry = false)

/-- The entries of other groups without the first that is bound to the pid and, for the real
input method, without the first of the rest that is bound to a real one. -/
def unfound (s : PerUserSession) (id : UInt64) (imeData : ImeData) : List (Nat × InputClientInfo) :=
  let rest := (s.foreign id).eraseP (boundToPid imeData.pid)
  if imeData.isRealIme then rest.eraseP boundToReal else rest

/-- The clients of other groups are few enough for the two searches. -/
def Few (s : PerUserSession) (id : UInt64) (imeData : ImeData) : Prop :=
  ∀ entry ∈ s.unfound id imeData, boundToPid imeData.pid entry = false ∧
    (imeData.isRealIme = true → boundToReal entry = false)

instance (s : PerUserSession) (id : UInt64) (imeData : ImeData) : Decidable (s.Served id imeData) :=
  inferInstanceAs (Decidable (∀ entry ∈ s.foreign id, _))

/-- All clients that a search accepts are of one group. -/
def OneGroup (s : PerUserSession) (accepts : Nat × InputClientInfo → Bool) : Prop :=
  ∀ group ∈ s.clientGroupMap,
    ∀ other ∈ s.clientGroupMap, ∀ entry ∈ group.mapClients, ∀ entry' ∈ other.mapClients,
    accepts entry = true → accepts entry' = true → group.displayGroupId = other.displayGroupId

/-- Every input method serves one group, and so do the real ones together. -/
structure Exclusive (s : PerUserSession) : Prop where
  pid : ∀ pid, s.OneGroup (boundToPid pid)
  real : s.OneGroup boundToReal

/-! ## What the searches take off -/

section Searches

variable {s : PerUserSession} {id : UInt64}

theorem mem_foreign {entry : Nat × InputClientInfo} : entry ∈ s.foreign id ↔
    ∃ group ∈ s.clientGroupMap, group.displayGroupId ≠ id ∧ entry ∈ group.mapClients := by
  simp [foreign, and_assoc]

/-- Changes of the group itself are not seen from the others. -/
theorem foreign_updateGroup {change : ClientGroup → ClientGroup}
    (ids : ∀ group ∈ s.clientGroupMap, (change group).displayGroupId = group.displayGroupId) :
    (s.updateGroup id change).foreign id = s.foreign id := by
  obtain ⟨groups⟩ := s
  simp only [foreign, updateGroup]
  congr 1
  induction groups with
  | nil => rfl
  | cons group groups ih =>
      obtain ⟨first, rest⟩ := List.forall_mem_cons.1 ids
      rw [List.map_cons]
      by_cases own : group.displayGroupId = id
      · rw [if_pos own, List.filter_cons_of_neg (by simp [first, own]),
          List.filter_cons_of_neg (by simp [own]), ih rest]
      · rw [if_neg own, List.filter_cons_of_pos (by simp [own]),
          List.filter_cons_of_pos (by simp [own]), ih rest]

theorem eraseP_at {α : Type} {accepts : α → Bool} {before after : List α} {a : α}
    (missed : ∀ b ∈ before, accepts b = false) (hit : accepts a = true) :
    (before ++ a :: after).eraseP accepts = before ++ after := by
  rw [List.eraseP_append_right _ (fun b member => by simp [missed b member]),
    List.eraseP_cons_of_pos hit]

/-- The one entry with a key is taken off. -/
theorem filter_key {before after : List (Nat × InputClientInfo)} {client : Nat} {info : InputClientInfo}
    (nodup : ((before ++ (client, info) :: after).map Prod.fst).Nodup) :
    ((before ++ (client, info) :: after).filter fun entry => entry.1 != client) = before ++ after := by
  rw [List.map_append, List.map_cons, List.nodup_middle] at nodup
  have others : ∀ entry ∈ before ++ after, entry.1 ≠ client := by
    intro entry member same
    refine (List.nodup_cons.1 nodup).1 ?_
    rw [← List.map_append]
    exact List.mem_map.2 ⟨entry, member, same⟩
  rw [List.filter_append, List.filter_cons_of_neg (by simp), ← List.filter_append, List.filter_eq_self]
  exact fun entry member => by simpa using others entry member

/-- The first client that a search accepts, wherever it is, with what stands around it. -/
theorem findInGroups_split {accepts : InputClientInfo → Bool} {group : ClientGroup}
    {info : InputClientInfo}
    (found : s.findInGroups (fun group => group.findClient accepts) = some (group, info)) :
    ∃ before after, s.clientGroupMap = before ++ group :: after ∧
      (∀ other ∈ before, ∀ entry ∈ other.mapClients, accepts entry.2 = false) ∧
      ∃ client front back, group.mapClients = front ++ (client, info) :: back ∧ accepts info = true ∧
        ∀ entry ∈ front, accepts entry.2 = false := by
  obtain ⟨before, other, after, split, at_, earlier⟩ := List.findSome?_eq_some_iff.1 found
  obtain ⟨info', searched, equal⟩ := Option.map_eq_some_iff.1 at_
  obtain ⟨rfl, rfl⟩ := Prod.mk.inj equal
  obtain ⟨entry, hit, rfl⟩ := Option.map_eq_some_iff.1 searched
  obtain ⟨accepted, front, back, entries, missed⟩ := List.find?_eq_some_iff_append.1 hit
  refine ⟨before, after, split,
    fun group member entry inside => ?_, entry.1, front, back, entries, accepted, ?_⟩
  · have none := Option.map_eq_none_iff.1 (Option.map_eq_none_iff.1 (earlier group member))
    simpa using List.find?_eq_none.1 none entry inside
  · exact fun entry member => by simpa using missed entry member

theorem updateGroup_split (wf : s.Wf) {before after : List ClientGroup} {group : ClientGroup}
    (split : s.clientGroupMap = before ++ group :: after) {change : ClientGroup → ClientGroup} :
    (s.updateGroup group.displayGroupId change).clientGroupMap = before ++ change group :: after := by
  have nodup := wf.ids
  rw [split, List.map_append, List.map_cons, List.nodup_middle, ← List.map_append] at nodup
  have others : ∀ other ∈ before ++ after, ¬ other.displayGroupId = group.displayGroupId :=
    fun other member same => (List.nodup_cons.1 nodup).1 (List.mem_map.2 ⟨other, member, same⟩)
  have same : ∀ groups : List ClientGroup, (∀ other ∈ groups, other ∈ before ++ after) →
      (groups.map fun other =>
        if other.displayGroupId = group.displayGroupId then change other else other) = groups := by
    intro groups inside
    refine (List.map_congr_left fun other member => ?_).trans (List.map_id groups)
    exact if_neg (others other (inside other member))
  simp only [updateGroup, split, List.map_append, List.map_cons, if_true]
  rw [same before fun other member => List.mem_append_left _ member,
    same after fun other member => List.mem_append_right _ member]

theorem foreign_of_split {before after : List ClientGroup} {group : ClientGroup}
    (split : s.clientGroupMap = before ++ group :: after) (differs : group.displayGroupId ≠ id) :
    s.foreign id = foreign ⟨before⟩ id ++ (group.mapClients ++ foreign ⟨after⟩ id) := by
  simp [foreign, split, differs]

/-- The clients of the other groups around one of them. -/
theorem foreign_around {before after : List ClientGroup} {group : ClientGroup}
    (split : s.clientGroupMap = before ++ group :: after) {front back : List (Nat × InputClientInfo)}
    {client : Nat} {info : InputClientInfo}
    (entries : group.mapClients = front ++ (client, info) :: back)
    (differs : group.displayGroupId ≠ id) :
    s.foreign id = (foreign ⟨before⟩ id ++ front) ++
      (client, info) :: (back ++ foreign ⟨after⟩ id) := by
  rw [foreign_of_split split differs, entries]
  simp only [List.append_assoc, List.cons_append]

/-- Detaching that one leaves the others. -/
theorem foreign_detachClient (wf : s.Wf) {before after : List ClientGroup} {group : ClientGroup}
    (split : s.clientGroupMap = before ++ group :: after) (keyed : group.Keyed)
    {front back : List (Nat × InputClientInfo)} {client : Nat} {info : InputClientInfo}
    (entries : group.mapClients = front ++ (client, info) :: back)
    (differs : group.displayGroupId ≠ id) :
    (s.updateGroup group.displayGroupId fun group => group.detachClient client).foreign id =
      (foreign ⟨before⟩ id ++ front) ++ (back ++ foreign ⟨after⟩ id) := by
  obtain ⟨entries', same⟩ := group.detachClient_entries client
  have taken : (group.detachClient client).mapClients = front ++ back := by
    have nodup := keyed.nodup
    rw [entries] at nodup
    rw [entries', ClientGroup.removeClientInfo, entries, filter_key nodup]
  have differs' : (group.detachClient client).displayGroupId ≠ id := by rwa [same]
  rw [foreign_of_split (updateGroup_split wf split) differs', taken]
  simp only [List.append_assoc]

/-- What one search finds in other groups is taken off them, where all that it accepts is in
one group. -/
theorem foreign_handleInMultiGroup (wf : s.Wf) (accepts : InputClientInfo → Bool)
    (one : s.OneGroup fun entry => accepts entry.2) (newClientInfo : InputClientInfo) :
    (s.handleInMultiGroup newClientInfo (s.findInGroups fun group => group.findClient accepts)).foreign
        newClientInfo.clientGroupId =
      (s.foreign newClientInfo.clientGroupId).eraseP fun entry => accepts entry.2 := by
  cases found : s.findInGroups fun group => group.findClient accepts with
  | none =>
      rw [handleInMultiGroup, Option.elim_none, List.eraseP_of_forall_not]
      intro entry member accepted
      obtain ⟨group, inside, -, at_⟩ := mem_foreign.1 member
      have missed := Option.map_eq_none_iff.1 (List.findSome?_eq_none_iff.1 found group inside)
      exact List.find?_eq_none.1 (Option.map_eq_none_iff.1 missed) entry at_ accepted
  | some old =>
      obtain ⟨group, info⟩ := old
      obtain ⟨before, after, split, earlier, client, front, back, entries, accepted, missed⟩ :=
        findInGroups_split found
      have member : group ∈ s.clientGroupMap := by simp [split]
      have inside : (client, info) ∈ group.mapClients := by simp [entries]
      have keyed := wf.keyed group member
      rw [← found]
      rcases handleInMultiGroup_cases wf (finds_findClient fun _ => accepts) newClientInfo with
        ⟨same, own⟩ | ⟨group', -, client', info', inside', found', differs, detached⟩
      · -- The client found is of the group itself, and so are all that the search accepts.
        rw [same, List.eraseP_of_forall_not]
        intro entry at_ hit
        obtain ⟨other, otherMember, foreign, otherInside⟩ := mem_foreign.1 at_
        have home := one group member other otherMember _ inside entry otherInside accepted hit
        exact foreign (home.symm.trans (own group info found))
      · obtain ⟨rfl, rfl⟩ := Prod.mk.inj (Option.some.inj (found'.symm.trans found))
        obtain rfl : client' = client := by
          have key := keyed.key _ inside
          rw [keyed.key _ inside'] at key
          exact Option.some.inj key
        rw [detached, foreign_detachClient wf split keyed entries differs,
          foreign_around split entries differs]
        symm
        apply eraseP_at
        · intro entry at_
          rcases List.mem_append.1 at_ with outside | close
          · obtain ⟨other, otherMember, -, otherInside⟩ := mem_foreign.1 outside
            exact earlier other otherMember entry otherInside
          · exact missed entry close
        · exact accepted

end Searches

/-! ## Bindings that are handed on -/

/-- Whoever is bound was bound so before, in a group of the same id. -/
def Inherits (before after : PerUserSession) : Prop :=
  ∀ group ∈ after.clientGroupMap, ∀ entry ∈ group.mapClients, entry.2.bindImeData = none ∨
    ∃ old ∈ before.clientGroupMap, old.displayGroupId = group.displayGroupId ∧
      ∃ entry' ∈ old.mapClients, entry'.2.bindImeData = entry.2.bindImeData

section Inherits

variable {s t u : PerUserSession}

theorem Inherits.refl (s : PerUserSession) : s.Inherits s :=
  fun group member entry inside => .inr ⟨group, member, rfl, entry, inside, rfl⟩

theorem Inherits.trans (first : s.Inherits t) (second : t.Inherits u) : s.Inherits u := by
  intro group member entry inside
  rcases second group member entry inside with unbound | ⟨middle, at_, id, entry', inside', same⟩
  · exact .inl unbound
  · rcases first middle at_ entry' inside' with unbound | ⟨old, found, id', entry'', inside'', same'⟩
    · exact .inl (same.symm.trans unbound)
    · exact .inr ⟨old, found, id'.trans id, entry'', inside'', same'.trans same⟩

theorem inherits_updateGroup {id : UInt64} {change : ClientGroup → ClientGroup}
    (ids : ∀ group ∈ s.clientGroupMap, (change group).displayGroupId = group.displayGroupId)
    (bound : ∀ group ∈ s.clientGroupMap,
      ∀ entry ∈ (change group).mapClients, entry.2.bindImeData = none ∨
      ∃ old ∈ group.mapClients, old.2.bindImeData = entry.2.bindImeData) :
    s.Inherits (s.updateGroup id change) := by
  intro group member entry inside
  obtain ⟨old, at_, rfl⟩ := List.mem_map.1 member
  split at inside
  · rename_i same
    rw [if_pos same, ids old at_]
    exact (bound old at_ entry inside).imp_right fun origin => ⟨old, at_, rfl, origin⟩
  · rename_i differs
    rw [if_neg differs]
    exact .inr ⟨old, at_, rfl, entry, inside, rfl⟩

theorem Mildly.inherits (mildly : s.Mildly t) : s.Inherits t := by
  rcases mildly with rfl | ⟨id, change, mild, rfl⟩
  · exact Inherits.refl _
  · refine inherits_updateGroup (fun group _ => mild.id group) fun group _ entry member => .inr ?_
    exact mild.bound group entry member

theorem boundToPid_congr {pid : Int32} {entry other : Nat × InputClientInfo}
    (same : entry.2.bindImeData = other.2.bindImeData) :
    boundToPid pid entry = boundToPid pid other := by
  rw [boundToPid, same, boundToPid]

theorem boundToReal_congr {entry other : Nat × InputClientInfo}
    (same : entry.2.bindImeData = other.2.bindImeData) : boundToReal entry = boundToReal other := by
  rw [boundToReal, same, boundToReal]

theorem OneGroup.inherits {accepts : Nat × InputClientInfo → Bool} (one : s.OneGroup accepts)
    (unbound : ∀ entry : Nat × InputClientInfo, entry.2.bindImeData = none → accepts entry = false)
    (congr : ∀ entry other : Nat × InputClientInfo, entry.2.bindImeData = other.2.bindImeData →
      accepts entry = accepts other) (inherits : s.Inherits t) : t.OneGroup accepts := by
  have origin : ∀ group ∈ t.clientGroupMap, ∀ entry ∈ group.mapClients, accepts entry = true →
      ∃ old ∈ s.clientGroupMap, old.displayGroupId = group.displayGroupId ∧
        ∃ entry' ∈ old.mapClients, accepts entry' = true := by
    intro group member entry inside accepted
    rcases inherits group member entry inside with none | ⟨old, at_, id, entry', inside', same⟩
    · rw [unbound entry none] at accepted
      simp at accepted
    · exact ⟨old, at_, id, entry', inside', (congr entry' entry same).trans accepted⟩
  intro group member other member' entry inside entry' inside' accepted accepted'
  obtain ⟨old, at_, id, first, firstInside, firstAccepted⟩ := origin group member entry inside accepted
  obtain ⟨old', at_', id', second, secondInside, secondAccepted⟩ :=
    origin other member' entry' inside' accepted'
  rw [← id, ← id']
  exact one old at_ old' at_' first firstInside second secondInside firstAccepted secondAccepted

theorem Exclusive.inherits (exclusive : s.Exclusive) (inherits : s.Inherits t) : t.Exclusive where
  pid pid := (exclusive.pid pid).inherits (fun entry none => by simp [boundToPid, none])
    (fun _ _ => boundToPid_congr) inherits
  real := exclusive.real.inherits (fun entry none => by simp [boundToReal, none])
    (fun _ _ => boundToReal_congr) inherits

/-- A client that is entered is not bound, and the entries that were there keep their binding. -/
theorem addClientInfo_bound {group : ClientGroup} {clientInfo : InputClientInfo}
    (unbound : clientInfo.bindImeData = none) (inputClient : Nat) (added : Bool) :
    ∀ entry ∈ (group.addClientInfo inputClient clientInfo added).2.mapClients,
      entry.2.bindImeData = none ∨
      ∃ old ∈ group.mapClients, old.2.bindImeData = entry.2.bindImeData := by
  intro entry member
  unfold ClientGroup.addClientInfo at member
  split at member
  · refine .inr (updateClientInfo_bound ?_ entry member)
    exact fun _ => rfl
  · split at member
    · exact .inr ⟨entry, member, rfl⟩
    · split at member
      · exact .inr ⟨entry, member, rfl⟩
      · rcases (List.mem_orderedInsert _).1 member with rfl | old
        · exact .inl unbound
        · exact .inr ⟨entry, old, rfl⟩

theorem addClientInfo_inherits (place : Placement) {clientInfo : InputClientInfo}
    (unbound : clientInfo.bindImeData = none) (inputClient : Nat) (added : Bool) :
    s.Inherits (s.addClientInfo place inputClient clientInfo added).2 := by
  unfold addClientInfo
  split
  · refine inherits_updateGroup (fun group _ => group.addClientInfo_id _ _ _) fun group _ => ?_
    exact addClientInfo_bound unbound inputClient added
  · dsimp only
    split
    · intro group member entry inside
      rcases List.mem_cons.1 ((place.perm _ _).mem_iff.1 member) with rfl | old
      · rcases addClientInfo_bound unbound inputClient added entry inside with none | ⟨old, nowhere, -⟩
        · exact .inl none
        · simp at nowhere
      · exact .inr ⟨group, old, rfl, entry, inside, rfl⟩
    · exact Inherits.refl s

theorem onPrepareInput_inherits (place : Placement) (wf : s.Wf) (clientInfo : InputClientInfo)
    (added : Bool) :
    s.Inherits (s.onPrepareInput place (received clientInfo) added).2 := by
  unfold onPrepareInput
  cases (received clientInfo).client with
  | none => exact Inherits.refl s
  | some client =>
      exact (handleSameClient_mildly wf (received clientInfo)).inherits.trans
        (addClientInfo_inherits place rfl client added)

theorem imeChanged_inherits (wf : s.Wf) (clientInfo : InputClientInfo) (data : ImeData) :
    s.Inherits (s.imeChanged clientInfo data) := by
  have shrinks : ∀ group ∈ s.clientGroupMap,
    group.Shrinks (group.handleBindImeChanged clientInfo data).2 :=
    fun group member => ClientGroup.shrinks_handleBindImeChanged (wf.keyed group member) _ _
  refine inherits_updateGroup (fun group member => (shrinks group member).id)
    fun group member entry inside => ?_
  exact .inr ⟨entry, (shrinks group member).entries.subset inside, rfl⟩

theorem foreign_imeChanged (wf : s.Wf) (clientInfo : InputClientInfo) (data : ImeData) :
    (s.imeChanged clientInfo data).foreign clientInfo.clientGroupId =
      s.foreign clientInfo.clientGroupId :=
  foreign_updateGroup fun group member =>
    (ClientGroup.shrinks_handleBindImeChanged (wf.keyed group member) _ _).id

/-! ## A bind -/

section Bind

variable {clientInfo : InputClientInfo} {data : ImeData}

theorem handleSameIme_mildly (wf : s.Wf) (clientInfo : InputClientInfo) (data : ImeData) :
    s.Mildly (s.handleSameImeInMultiGroup clientInfo data) :=
  handleInMultiGroup_mildly wf (finds_findClient _) clientInfo

theorem handleRealIme_mildly (wf : s.Wf) (clientInfo : InputClientInfo) (data : ImeData) :
    s.Mildly (s.handleRealImeInMultiGroup clientInfo data) := by
  unfold handleRealImeInMultiGroup
  split
  · exact .inl rfl
  · exact handleInMultiGroup_mildly wf (finds_findClient _) clientInfo

theorem preempted_inherits (wf : s.Wf) (clientInfo : InputClientInfo) (data : ImeData) :
    s.Inherits (s.preempted clientInfo data) := by
  have first := handleSameIme_mildly wf clientInfo data
  exact first.inherits.trans (handleRealIme_mildly (first.wf wf) clientInfo data).inherits

/-- The two searches take off exactly the entries that they find among the other groups. -/
theorem foreign_preempted (wf : s.Wf) (exclusive : s.Exclusive) :
    (s.preempted clientInfo data).foreign clientInfo.clientGroupId =
      s.unfound clientInfo.clientGroupId data := by
  have first := handleSameIme_mildly wf clientInfo data
  have rest : (s.handleSameImeInMultiGroup clientInfo data).foreign clientInfo.clientGroupId =
      (s.foreign clientInfo.clientGroupId).eraseP (boundToPid data.pid) :=
    foreign_handleInMultiGroup wf
      (fun info => info.bindImeData.any fun ime : BindImeData => ime.pid == data.pid)
      (exclusive.pid data.pid) clientInfo
  unfold preempted handleRealImeInMultiGroup unfound
  cases real : data.isRealIme with
  | false => exact rest
  | true =>
      have second := foreign_handleInMultiGroup (first.wf wf)
        (fun info => info.bindImeData.any fun ime : BindImeData => ime.isRealIme)
        (exclusive.inherits first.inherits).real clientInfo
      exact second.trans (congrArg (List.eraseP boundToReal) rest)

/-- The session after a bind that goes through. -/
def bound (s : PerUserSession) (clientInfo : InputClientInfo) (data : ImeData) : PerUserSession :=
  clientInfo.client.elim (s.preempted clientInfo data) fun client =>
    (s.preempted clientInfo data).updateGroup clientInfo.clientGroupId
      (bindClient clientInfo data client)

theorem foreign_bound (wf : s.Wf) :
    (s.bound clientInfo data).foreign clientInfo.clientGroupId =
      (s.preempted clientInfo data).foreign clientInfo.clientGroupId := by
  unfold bound
  cases clientInfo.client with
  | none => rfl
  | some client =>
      have wf' := (keeps_preempted wf clientInfo data).wf wf
      exact foreign_updateGroup fun group member =>
        (shrinks_bindClient clientInfo data client (wf'.keyed group member)).2

/-- A bind leaves the input method to its group exactly when few enough others were bound. -/
theorem served_bound_iff (wf : s.Wf) (exclusive : s.Exclusive) :
    (s.bound clientInfo data).Served clientInfo.clientGroupId data ↔
      s.Few clientInfo.clientGroupId data := by
  rw [Served, foreign_bound wf, foreign_preempted wf exclusive, Few]

/-- Every entry after a bind is of the group with the new binding, or was bound so before. -/
theorem bound_origin (wf : s.Wf) {group : ClientGroup}
    (member : group ∈ (s.bound clientInfo data).clientGroupMap)
    {entry : Nat × InputClientInfo} (inside : entry ∈ group.mapClients) :
    (group.displayGroupId = clientInfo.clientGroupId ∧
        entry.2.bindImeData = some { pid := data.pid, type := data.type }) ∨
      entry.2.bindImeData = none ∨ ∃ old ∈ s.clientGroupMap, old.displayGroupId = group.displayGroupId ∧
        ∃ entry' ∈ old.mapClients, entry'.2.bindImeData = entry.2.bindImeData := by
  have inherits := preempted_inherits wf clientInfo data
  unfold bound at member
  cases client : clientInfo.client with
  | none =>
      rw [client] at member
      exact .inr (inherits group member entry inside)
  | some client' =>
      rw [client] at member
      obtain ⟨middle, at_, rfl⟩ := List.mem_map.1 member
      split at inside
      · rename_i own
        rw [if_pos own]
        have keyed := ((keeps_preempted wf clientInfo data).wf wf).keyed middle at_
        rw [(shrinks_bindClient clientInfo data client' keyed).2]
        have updated := (ClientGroup.shrinks_replaceCurrentClient client').entries.subset inside
        obtain ⟨old, oldInside, rfl⟩ := List.mem_map.1 updated
        split
        · exact .inl ⟨own, rfl⟩
        · exact .inr (inherits middle at_ old oldInside)
      · rename_i differs
        rw [if_neg differs]
        exact .inr (inherits middle at_ entry inside)

theorem OneGroup.bound (wf : s.Wf) {accepts : Nat × InputClientInfo → Bool} (one : s.OneGroup accepts)
    (unbound : ∀ entry : Nat × InputClientInfo, entry.2.bindImeData = none → accepts entry = false)
    (congr : ∀ entry other : Nat × InputClientInfo, entry.2.bindImeData = other.2.bindImeData →
      accepts entry = accepts other)
    -- Where the new binding is accepted, no entry of another group is.
    (alone : ∀ client : Nat × InputClientInfo, accepts client = true →
      client.2.bindImeData = some { pid := data.pid, type := data.type } →
      ∀ entry ∈ (s.bound clientInfo data).foreign clientInfo.clientGroupId, accepts entry = false) :
    (s.bound clientInfo data).OneGroup accepts := by
  intro group member other member' entry inside entry' inside' accepted accepted'
  have home : ∀ group ∈ (s.bound clientInfo data).clientGroupMap, ∀ entry ∈ group.mapClients,
      accepts entry = true → (∃ client : Nat × InputClientInfo, accepts client = true ∧
        client.2.bindImeData = some { pid := data.pid, type := data.type }) →
      group.displayGroupId = clientInfo.clientGroupId := by
    rintro group member entry inside accepted ⟨client, hit, same⟩
    by_contra differs
    have missed := alone client hit same entry (mem_foreign.2 ⟨group, member, differs, inside⟩)
    rw [missed] at accepted
    simp at accepted
  rcases bound_origin wf member inside
    with ⟨own, same⟩ | none | ⟨old, at_, id, first, firstInside, same⟩
  · exact own.trans (home other member' entry' inside' accepted' ⟨entry, accepted, same⟩).symm
  · rw [unbound entry none] at accepted
    simp at accepted
  · rcases bound_origin wf member' inside'
      with ⟨own, same'⟩ | none | ⟨old', at_', id', second, secondInside, same'⟩
    · exact (home group member entry inside accepted ⟨entry', accepted', same'⟩).trans own.symm
    · rw [unbound entry' none] at accepted'
      simp at accepted'
    · rw [← id, ← id']
      exact one old at_ old' at_' first firstInside second secondInside
        ((congr _ _ same).trans accepted)
        ((congr _ _ same').trans accepted')

theorem Exclusive.bound (wf : s.Wf) (exclusive : s.Exclusive)
    (served : (s.bound clientInfo data).Served clientInfo.clientGroupId data) :
    (s.bound clientInfo data).Exclusive where
  pid pid := by
    refine (exclusive.pid pid).bound wf (fun entry none => by simp [boundToPid, none])
      (fun _ _ => boundToPid_congr) fun client hit same entry member => ?_
    obtain rfl : data.pid = pid := by simpa [boundToPid, same] using hit
    exact (served entry member).1
  real := by
    refine exclusive.real.bound wf (fun entry none => by simp [boundToReal, none])
      (fun _ _ => boundToReal_congr) fun client hit same entry member => ?_
    refine (served entry member).2 ?_
    simpa [boundToReal, same, BindImeData.isRealIme, ImeData.isRealIme] using hit

end Bind

end Inherits

/-! ## Runs -/

/-- A bind that succeeds leaves the input method to the group of the client. -/
def Alone (place : Placement) (s : PerUserSession) : Event → Prop
  | .startInput clientInfo imeData answer =>
      (s.onStartInput clientInfo imeData answer).1 = .noError → ∀ data ∈ imeData,
        data.isImeMirror = false →
        (s.step place (.startInput clientInfo imeData answer)).Served clientInfo.clientGroupId data
  | .bindClientWithIme clientInfo imeData isBindFromClient answer =>
      (s.bindClientWithIme clientInfo imeData isBindFromClient answer).1 = .noError → ∀ data ∈ imeData,
        data.isImeMirror = false →
        (s.step place (.bindClientWithIme clientInfo imeData isBindFromClient answer)).Served
          clientInfo.clientGroupId data
  | _ => True

/-- When a bind goes through, few enough clients of other groups are bound to be found. -/
def Sparse (s : PerUserSession) : Event → Prop
  | .startInput clientInfo imeData answer =>
      (s.getClientGroupByGroupId clientInfo.clientGroupId).isSome = true →
        ∀ data ∈ imeData.filter fun data => data.agent.isSome, binds (some data) true answer = true →
          s.Few clientInfo.clientGroupId data
  | .bindClientWithIme clientInfo imeData isBindFromClient answer =>
      (s.getClientGroupByGroupId clientInfo.clientGroupId).isSome = true →
        ∀ data ∈ imeData, binds (some data) isBindFromClient answer = true →
          s.Few clientInfo.clientGroupId data
  | _ => True

section Runs

variable {s : PerUserSession} {clientInfo : InputClientInfo} {data : ImeData} {isBindFromClient : Bool}
  {answer : BindAnswer}

theorem bindClientWithIme_noError_iff :
    ((s.bindClientWithIme clientInfo (some data) isBindFromClient answer).1 = .noError ∧
        data.isImeMirror = false) ↔
      (s.getClientGroupByGroupId clientInfo.clientGroupId).isSome = true ∧
        binds (some data) isBindFromClient answer = true := by
  unfold bindClientWithIme binds
  cases s.getClientGroupByGroupId clientInfo.clientGroupId with
  | none => simp
  | some group =>
      cases answer.startInput <;> cases isBindFromClient <;> cases answer.inputReady <;>
        cases mirror : data.isImeMirror <;> simp [mirror]

theorem bindClientWithIme_bound_eq
    (found : (s.getClientGroupByGroupId clientInfo.clientGroupId).isSome = true)
    (through : binds (some data) isBindFromClient answer = true) :
    (s.bindClientWithIme clientInfo (some data) isBindFromClient answer).2 =
      s.bound clientInfo data := by
  obtain ⟨group, found⟩ := Option.isSome_iff_exists.1 found
  rw [bindClientWithIme_bound found through]
  rfl

/-- The session after a bind, in terms of one that goes through. -/
theorem bindClientWithIme_cases (s : PerUserSession) (clientInfo : InputClientInfo)
    (imeData : Option ImeData) (isBindFromClient : Bool) (answer : BindAnswer) :
    (s.bindClientWithIme clientInfo imeData isBindFromClient answer).2 = s ∨
      ∃ data ∈ imeData, (s.getClientGroupByGroupId clientInfo.clientGroupId).isSome = true ∧
        binds (some data) isBindFromClient answer = true ∧
        (s.bindClientWithIme clientInfo imeData isBindFromClient answer).2 =
          s.bound clientInfo data := by
  cases found : s.getClientGroupByGroupId clientInfo.clientGroupId with
  | none => exact .inl (bindClientWithIme_ungrouped found)
  | some group =>
      cases through : binds imeData isBindFromClient answer with
      | false => exact .inl (bindClientWithIme_unbound through)
      | true =>
          cases imeData with
          | none => simp [binds] at through
          | some data =>
              refine .inr ⟨data, rfl, rfl, through, bindClientWithIme_bound_eq ?_ through⟩
              rw [found, Option.isSome_some]

theorem alone_bind_iff (place : Placement) (wf : s.Wf) (exclusive : s.Exclusive)
    (clientInfo : InputClientInfo)
    (imeData : Option ImeData) (isBindFromClient : Bool) (answer : BindAnswer) :
    s.Alone place (.bindClientWithIme clientInfo imeData isBindFromClient answer) ↔
      s.Sparse (.bindClientWithIme clientInfo imeData isBindFromClient answer) := by
  cases imeData with
  | none => simp [Alone, Sparse]
  | some data =>
      constructor
      · rintro alone found _ ⟨⟩ through
        obtain ⟨succeeds, mirror⟩ := bindClientWithIme_noError_iff.2 ⟨found, through⟩
        have served := alone succeeds data rfl mirror
        rw [step, bindClientWithIme_bound_eq found through] at served
        exact (served_bound_iff wf exclusive).1 served
      · rintro sparse succeeds _ ⟨⟩ mirror
        obtain ⟨found, through⟩ := bindClientWithIme_noError_iff.1 ⟨succeeds, mirror⟩
        rw [step, bindClientWithIme_bound_eq found through]
        exact (served_bound_iff wf exclusive).2 (sparse found data rfl through)

theorem few_imeChanged_iff (wf : s.Wf) (other : ImeData) :
    (s.imeChanged clientInfo data).Few clientInfo.clientGroupId other ↔
      s.Few clientInfo.clientGroupId other := by
  unfold Few unfound
  rw [foreign_imeChanged wf]

/-- `OnStartInput` succeeds and fails with its bind. -/
theorem alone_start_iff (place : Placement) (wf : s.Wf) (exclusive : s.Exclusive)
    (clientInfo : InputClientInfo) (imeData : Option ImeData) (answer : BindAnswer) :
    s.Alone place (.startInput clientInfo imeData answer) ↔
      s.Sparse (.startInput clientInfo imeData answer) := by
  cases ready : imeData.filter fun data => data.agent.isSome with
  | none =>
      refine iff_of_true (fun succeeds => ?_) fun _ => by simp [ready]
      simp [onStartInput, ready] at succeeds
  | some data =>
      obtain ⟨rfl, -⟩ := Option.filter_eq_some_iff.1 ready
      cases found : s.getClientGroupByGroupId clientInfo.clientGroupId with
      | none =>
          refine iff_of_true (fun succeeds => ?_) fun grouped => by simp [found] at grouped
          simp [onStartInput, ready, found] at succeeds
      | some group =>
          have wf' := (imeChanged_kept wf clientInfo data).1
          have exclusive' := exclusive.inherits (imeChanged_inherits wf clientInfo data)
          obtain ⟨-, home⟩ := group.handleBindImeChanged_info clientInfo data
          obtain ⟨member, id⟩ := getClientGroupByGroupId_mem found
          have grouped : ((s.imeChanged clientInfo data).getClientGroupByGroupId
              clientInfo.clientGroupId).isSome = true := by
            unfold imeChanged
            rw [getClientGroupByGroupId, List.isSome_find?, List.any_eq_true, ← id]
            refine ⟨_, mem_updateGroup_self member, ?_⟩
            rw [(ClientGroup.shrinks_handleBindImeChanged (wf.keyed group member) _ _).id,
              beq_self_eq_true]
          have bind := alone_bind_iff place wf' exclusive'
            (group.handleBindImeChanged clientInfo data).1
            (some data) true answer
          simp only [Alone, Sparse, step, home, grouped, forall_const, Option.mem_some_iff, forall_eq',
            few_imeChanged_iff wf] at bind
          simp only [Alone, Sparse, step, onStartInput_bind answer ready found, ready, found,
            Option.isSome_some,
            forall_const, Option.mem_some_iff, forall_eq']
          exact bind

theorem exclusive_bind (wf : s.Wf) (exclusive : s.Exclusive) {imeData : Option ImeData}
    (sparse : s.Sparse (.bindClientWithIme clientInfo imeData isBindFromClient answer)) :
    (s.bindClientWithIme clientInfo imeData isBindFromClient answer).2.Exclusive := by
  rcases bindClientWithIme_cases s clientInfo imeData isBindFromClient answer with
    same | ⟨data, here, grouped, through, equal⟩
  · rwa [same]
  · rw [equal]
    exact exclusive.bound wf ((served_bound_iff wf exclusive).2 (sparse grouped data here through))

theorem exclusive_start (wf : s.Wf) (exclusive : s.Exclusive) {imeData : Option ImeData}
    (sparse : s.Sparse (.startInput clientInfo imeData answer)) :
    (s.onStartInput clientInfo imeData answer).2.Exclusive := by
  cases ready : imeData.filter fun data => data.agent.isSome with
  | none => rwa [onStartInput_unready answer ready]
  | some data =>
      cases found : s.getClientGroupByGroupId clientInfo.clientGroupId with
      | none => rwa [onStartInput_ungrouped imeData answer found]
      | some group =>
          obtain ⟨-, home⟩ := group.handleBindImeChanged_info clientInfo data
          rw [onStartInput_bind answer ready found]
          refine exclusive_bind (imeChanged_kept wf clientInfo data).1
            (exclusive.inherits (imeChanged_inherits wf clientInfo data)) ?_
          rintro - _ ⟨⟩ through
          rw [home, few_imeChanged_iff wf]
          exact sparse (by rw [found, Option.isSome_some]) data ready through

theorem alone_iff_sparse (place : Placement) (wf : s.Wf) (exclusive : s.Exclusive) (event : Event) :
    s.Alone place event ↔ s.Sparse event := by
  cases event with
  | startInput clientInfo imeData answer =>
      exact alone_start_iff place wf exclusive clientInfo imeData answer
  | bindClientWithIme clientInfo imeData isBindFromClient answer =>
      exact alone_bind_iff place wf exclusive clientInfo imeData isBindFromClient answer
  | prepareInput => exact Iff.rfl
  | releaseInput => exact Iff.rfl
  | focused => exact Iff.rfl
  | unfocused => exact Iff.rfl
  | requestHideInput => exact Iff.rfl
  | clientDied => exact Iff.rfl

theorem exclusive_step (place : Placement) (wf : s.Wf) (exclusive : s.Exclusive) {event : Event}
    (sparse : s.Sparse event) : (s.step place event).Exclusive := by
  cases event with
  | startInput clientInfo imeData answer => exact exclusive_start wf exclusive sparse
  | bindClientWithIme clientInfo imeData isBindFromClient answer =>
      exact exclusive_bind wf exclusive sparse
  | prepareInput clientInfo added =>
      exact exclusive.inherits (onPrepareInput_inherits place wf clientInfo added)
  | releaseInput client => exact exclusive.inherits (onReleaseInput_mildly client).inherits
  | focused clientGroupId focus sceneBoardEnabled =>
      exact exclusive.inherits (onFocused_mildly clientGroupId focus sceneBoardEnabled).inherits
  | unfocused clientGroupId focus =>
      exact exclusive.inherits (onUnfocused_mildly clientGroupId focus).inherits
  | requestHideInput displayGroupId callerBundleName =>
      exact exclusive.inherits (onRequestHideInput_mildly displayGroupId callerBundleName).inherits
  | clientDied remote => exact exclusive.inherits (onClientDied_mildly remote).inherits

end Runs

end PerUserSession

open PerUserSession

/-- **One input method serves one group.**  In a run from an empty session every successful
bind leaves its input method to the group of the client, if and only if at every bind that
goes through the clients of other groups are few enough to be found. -/
theorem served_alone (place : Placement) (events : List Event) :
    Meets (step place) (Alone place) {} events ↔ Meets (step place) Sparse {} events := by
  have start : ({} : PerUserSession).Wf ∧ ({} : PerUserSession).Exclusive :=
    ⟨wf_empty, fun _ => by simp [OneGroup], by simp [OneGroup]⟩
  refine (meets_iff_meets (P := fun s => s.Wf ∧ s.Exclusive) ?_ ?_ start).symm
  · rintro s event ⟨wf, exclusive⟩ sparse
    exact ⟨step_wf place wf event, exclusive_step place wf exclusive sparse⟩
  · rintro s event ⟨wf, exclusive⟩
    exact (alone_iff_sparse place wf exclusive event).symm

/-! ## Poles -/

/-- A second text editor of the same process. -/
def secondEditor : InputClientInfo := { pid := 1, uid := 1, client := some 11 }

/-- A client of another process on another group of displays. -/
def distantEditor : InputClientInfo := { pid := 2, uid := 2, client := some 20, clientGroupId := 5 }

def proxyKeyboard : ImeData := { agent := some 2, pid := 600, type := .proxyIme }

/-- Two clients of one process are bound to an input method, then one of another group. -/
def sharedProcess : List Event :=
  [.prepareInput editor true, .startInput editor (some proxyKeyboard) {},
    .prepareInput secondEditor true, .startInput secondEditor (some proxyKeyboard) {},
    .prepareInput distantEditor true]

/-- Only one of the two is taken off, and the input method serves two groups. -/
theorem second_client_left_bound : ¬ ∀ place events, Meets (step place) (Alone place) {} events := by
  intro all
  have alone := all frontPlacement
    (sharedProcess ++ [.startInput distantEditor (some proxyKeyboard) {}])
  rw [meets_append] at alone
  have served := alone.2.1 (by decide) proxyKeyboard rfl rfl
  revert served
  decide

end Imf.Session
