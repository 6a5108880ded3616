/-
# Imf.Installed.FullImeInfoManager -- the cache of the installed input methods

`fullImeInfos_` maps a user to the input methods installed for it.  Whole lists come from
`QueryFullImeInfo`, for all active users or for one; the handlers of package events change one
bundle of one user.  `Init`, `AddUser` and the getters take a user's entry for the whole list.

`Complete` says that it is.  A package event of a user without an entry makes one that holds this
bundle alone, and nothing marks it as partial.  `cache_complete` says that this is all that goes
wrong: a run keeps the cache complete exactly when such an event only meets users with no other
input method (`Known`).  The pole `added_after_failed_refresh` is a run where a refresh that fails
has cleared the cache before the event.
-/
import Imf.Common.ErrorCode
import Imf.Enabled.Edits
import Mathlib.Data.List.AList
import Mathlib.Data.List.Sort

namespace Imf.Installed

set_option autoImplicit false

open Lib (Meets eraseP_key lookup lookup_append lookup_none prefixes_iff_meets run)

/-! ## What is installed -/

/-- What the table of enabled input methods uses of a `FullImeInfo`, the name among it, and what
stands for the rest: an update is seen by it. -/
structure FullImeInfo where
  ime : Enabled.FullImeInfo
  versionCode : UInt32
  deriving DecidableEq, Repr

def FullImeInfo.name (info : FullImeInfo) : String := info.ime.name

/-- The input methods of a list but those of a bundle. -/
def without (bundleName : String) (infos : List FullImeInfo) : List FullImeInfo :=
  infos.filter fun info => decide (info.name ≠ bundleName)

theorem mem_without {bundleName : String} {infos : List FullImeInfo} {info : FullImeInfo} :
    info ∈ without bundleName infos ↔ info ∈ infos ∧ info.name ≠ bundleName := by
  simp [without]

theorem without_distinct {infos : List FullImeInfo} (distinct : (infos.map FullImeInfo.name).Nodup)
    (bundleName : String) : ((without bundleName infos).map FullImeInfo.name).Nodup :=
  distinct.sublist (List.filter_sublist.map _)

theorem without_append_distinct {infos : List FullImeInfo}
    (distinct : (infos.map FullImeInfo.name).Nodup) (info : FullImeInfo) :
    ((without info.name infos ++ [info]).map FullImeInfo.name).Nodup := by
  rw [List.map_append, List.nodup_append]
  refine ⟨without_distinct distinct _, by simp, ?_⟩
  intro name inside other last
  obtain ⟨kept, member, rfl⟩ := List.mem_map.1 inside
  rw [List.mem_singleton.1 last]
  exact (mem_without.1 member).2

/-- The input methods installed for each user, none twice. -/
structure Installation where
  infos : Int32 → List FullImeInfo
  distinct : ∀ userId, ((infos userId).map FullImeInfo.name).Nodup

theorem update_distinct (installed : Installation) (userId : Int32) {infos : List FullImeInfo}
    (fresh : (infos.map FullImeInfo.name).Nodup) (other : Int32) :
    ((Function.update installed.infos userId infos other).map FullImeInfo.name).Nodup := by
  by_cases here : other = userId
  · subst here
    rw [Function.update_self]
    exact fresh
  · rw [Function.update_of_ne here]
    exact installed.distinct other

namespace Installation

variable (installed : Installation) (userId : Int32)

/-- A bundle is installed, or takes the place of its former version. -/
def put (info : FullImeInfo) : Installation where
  infos := Function.update installed.infos userId (without info.name (installed.infos userId) ++ [info])
  distinct := update_distinct installed userId
    (without_append_distinct (installed.distinct userId) info)

def remove (bundleName : String) : Installation where
  infos := Function.update installed.infos userId (without bundleName (installed.infos userId))
  distinct := update_distinct installed userId (without_distinct (installed.distinct userId) bundleName)

/-! ## ImeInfoInquirer -/

/-- `GetFullImeInfo` of one bundle. -/
def getFullImeInfo (bundleName : String) : Except ErrorCode FullImeInfo :=
  match lookup FullImeInfo.name bundleName (installed.infos userId) with
  | none => .error .errorPackageManager
  | some info => .ok info

/-- `QueryFullImeInfo` of one user, in the order of a map of bundle names.  It fails by itself when
nothing is installed, and with `fault` in the bundle manager. -/
def queryFullImeInfo (fault : Option ErrorCode) : Except ErrorCode (List FullImeInfo) :=
  match fault with
  | some code => .error code
  | none =>
      if (installed.infos userId).isEmpty then .error .errorPackageManager
      else .ok ((installed.infos userId).insertionSort fun one other => one.name ≤ other.name)

/-- `QueryFullImeInfo` of the active users: those whose query fails are left out. -/
def queryFullImeInfos (active : List (Int32 × Option ErrorCode)) :
    Except ErrorCode (List (Int32 × List FullImeInfo)) :=
  if active.isEmpty then .error .errorOsAccount
  else
    let fullImeInfos := active.filterMap fun (userId, fault) =>
      (installed.queryFullImeInfo userId fault).toOption.map (userId, ·)
    if fullImeInfos.isEmpty then .error .errorPackageManager else .ok fullImeInfos

end Installation

/-! ## FullImeInfoManager -/

abbrev FullImeInfos := AList fun _ : Int32 => List FullImeInfo

namespace FullImeInfos

variable (fullImeInfos : FullImeInfos)

/-- `insert_or_assign` of everything that was found. -/
def fill (found : List (Int32 × List FullImeInfo)) : FullImeInfos :=
  found.foldl (fun filled infos => filled.insert infos.1 infos.2) fullImeInfos

/-- `RegularInit`. -/
def regularInit (query : Except ErrorCode (List (Int32 × List FullImeInfo))) :
    Except ErrorCode Unit × FullImeInfos :=
  match query with
  | .error code => (.error code, fullImeInfos)
  | .ok found => (.ok (), fill ∅ found)

/-- `Init`: whatever the map holds is taken for all there is. -/
def init (query : Except ErrorCode (List (Int32 × List FullImeInfo))) :
    Except ErrorCode Unit × FullImeInfos :=
  if !fullImeInfos.entries.isEmpty then (.ok (), fullImeInfos)
  else
    match query with
    | .error code => (.error code, fullImeInfos)
    | .ok found => (.ok (), fill ∅ found)

/-- `Update()`: the map is cleared before the query, and nothing of it is used. -/
def update (query : Except ErrorCode (List (Int32 × List FullImeInfo))) :
    Except ErrorCode Unit × FullImeInfos :=
  match query with
  | .error code => (.error code, ∅)
  | .ok found => (.ok (), fill ∅ found)

/-- `AddUser`. -/
def addUser (userId : Int32) (query : Except ErrorCode (List FullImeInfo)) :
    Except ErrorCode (List FullImeInfo) × FullImeInfos :=
  match fullImeInfos.lookup userId with
  | some infos => (.ok infos, fullImeInfos)
  | none =>
      match query with
      | .error code => (.error code, fullImeInfos)
      | .ok infos => (.ok infos, fullImeInfos.insert userId infos)

/-- `Delete` of a user. -/
def deleteUser (userId : Int32) : FullImeInfos := fullImeInfos.erase userId

/-- What `AddPackage` and `Update` of a bundle do alike: the bundle goes to the end of the user's
list, and to a list of its own when the user has none. -/
def putPackage (userId : Int32) (bundleName : String) (query : Except ErrorCode FullImeInfo) :
    Except ErrorCode Unit × FullImeInfos :=
  match query with
  | .error _ => (.error .errorPackageManager, fullImeInfos)
  | .ok info =>
      match fullImeInfos.lookup userId with
      | none => (.ok (), fullImeInfos.insert userId [info])
      | some infos =>
          (.ok (), fullImeInfos.insert userId
            (infos.eraseP (fun info => decide (info.name = bundleName)) ++ [info]))

/-- `AddPackage`. -/
def addPackage (userId : Int32) (bundleName : String) (query : Except ErrorCode FullImeInfo) :
    Except ErrorCode Unit × FullImeInfos :=
  fullImeInfos.putPackage userId bundleName query

/-- `Update` of a bundle. -/
def updatePackage (userId : Int32) (bundleName : String) (query : Except ErrorCode FullImeInfo) :
    Except ErrorCode Unit × FullImeInfos :=
  fullImeInfos.putPackage userId bundleName query

/-- `DeletePackage`: with its last input method the user goes too. -/
def deletePackage (userId : Int32) (bundleName : String) : FullImeInfos :=
  match fullImeInfos.lookup userId with
  | none => fullImeInfos
  | some infos =>
      if infos.any fun info => decide (info.name = bundleName) then
        let rest := infos.eraseP fun info => decide (info.name = bundleName)
        if rest.isEmpty then fullImeInfos.erase userId else fullImeInfos.insert userId rest
      else fullImeInfos

end FullImeInfos

/-! ## Runs -/

structure State where
  installed : Installation
  fullImeInfos : FullImeInfos := ∅

/-- A package event is the change of what is installed with its handler; the other events are a
call with the answers to its queries. -/
inductive Event where
  | packageAdded (userId : Int32) (info : FullImeInfo)
  | packageChanged (userId : Int32) (info : FullImeInfo)
  | packageRemoved (userId : Int32) (bundleName : String)
  | init (active : List (Int32 × Option ErrorCode))
  | regularInit (active : List (Int32 × Option ErrorCode))
  | update (active : List (Int32 × Option ErrorCode))
  | switch (userId : Int32) (fault : Option ErrorCode)
  | deleteUser (userId : Int32)
  deriving DecidableEq, Repr

def step (s : State) : Event → State
  | .packageAdded userId info =>
      let installed := s.installed.put userId info
      let query := installed.getFullImeInfo userId info.name
      { installed, fullImeInfos := (s.fullImeInfos.addPackage userId info.name query).2 }
  | .packageChanged userId info =>
      let installed := s.installed.put userId info
      let query := installed.getFullImeInfo userId info.name
      { installed, fullImeInfos := (s.fullImeInfos.updatePackage userId info.name query).2 }
  | .packageRemoved userId bundleName =>
      { installed := s.installed.remove userId bundleName
        fullImeInfos := s.fullImeInfos.deletePackage userId bundleName }
  | .init active =>
      { s with fullImeInfos := (s.fullImeInfos.init (s.installed.queryFullImeInfos active)).2 }
  | .regularInit active =>
      { s with fullImeInfos := (s.fullImeInfos.regularInit (s.installed.queryFullImeInfos active)).2 }
  | .update active =>
      { s with fullImeInfos := (FullImeInfos.update (s.installed.queryFullImeInfos active)).2 }
  | .switch userId fault =>
      { s with fullImeInfos :=
          (s.fullImeInfos.addUser userId (s.installed.queryFullImeInfo userId fault)).2 }
  | .deleteUser userId => { s with fullImeInfos := s.fullImeInfos.deleteUser userId }

/-- The bundle names are distinct and the input methods are those installed. -/
structure Lists (installed infos : List FullImeInfo) : Prop where
  distinct : (infos.map FullImeInfo.name).Nodup
  same : ∀ info, info ∈ infos ↔ info ∈ installed

def Complete (s : State) : Prop :=
  ∀ userId infos, s.fullImeInfos.lookup userId = some infos → Lists (s.installed.infos userId) infos

/-- A bundle is added or changed for a user with an entry, or with no other input method. -/
def Known (s : State) : Event → Prop
  | .packageAdded userId info | .packageChanged userId info =>
      s.fullImeInfos.lookup userId ≠ none ∨
        ∀ other ∈ s.installed.infos userId, other.name = info.name
  | _ => True

/-! ## One step -/

section Queries

variable (installed : Installation) (userId : Int32)

theorem put_infos (info : FullImeInfo) :
    (installed.put userId info).infos userId = without info.name (installed.infos userId) ++ [info] :=
  Function.update_self ..

theorem put_elsewhere (info : FullImeInfo) {other : Int32} (differs : other ≠ userId) :
    (installed.put userId info).infos other = installed.infos other :=
  Function.update_of_ne differs ..

theorem remove_infos (bundleName : String) :
    (installed.remove userId bundleName).infos userId = without bundleName (installed.infos userId) :=
  Function.update_self ..

theorem remove_elsewhere (bundleName : String) {other : Int32} (differs : other ≠ userId) :
    (installed.remove userId bundleName).infos other = installed.infos other :=
  Function.update_of_ne differs ..

theorem getFullImeInfo_put (info : FullImeInfo) :
    (installed.put userId info).getFullImeInfo userId info.name = .ok info := by
  have absent : lookup FullImeInfo.name info.name (without info.name (installed.infos userId)) =
    none := by
    rw [lookup_none]
    intro inside
    obtain ⟨other, member, same⟩ := List.mem_map.1 inside
    exact (mem_without.1 member).2 same
  have found : lookup FullImeInfo.name info.name ((installed.put userId info).infos userId) =
    some info := by
    rw [put_infos, lookup_append, absent]
    simp [lookup]
  rw [Installation.getFullImeInfo, found]

/-- A query of one user that succeeds finds what is installed. -/
theorem queryFullImeInfo_lists {fault : Option ErrorCode} {infos : List FullImeInfo}
    (answered : installed.queryFullImeInfo userId fault = .ok infos) :
    Lists (installed.infos userId) infos := by
  cases fault with
  | some code => cases answered
  | none =>
      rw [Installation.queryFullImeInfo] at answered
      split at answered
      · cases answered
      · cases answered
        have sorted := List.perm_insertionSort (fun one other : FullImeInfo => one.name ≤ other.name)
          (installed.infos userId)
        exact ⟨(sorted.map _).nodup_iff.2 (installed.distinct userId), fun info => sorted.mem_iff⟩

/-- So does, for every user it answers for, the query of the active users. -/
theorem queryFullImeInfos_lists {active : List (Int32 × Option ErrorCode)}
    {found : List (Int32 × List FullImeInfo)}
    (answered : installed.queryFullImeInfos active = .ok found) :
    ∀ entry ∈ found, Lists (installed.infos entry.1) entry.2 := by
  simp only [Installation.queryFullImeInfos] at answered
  split at answered
  · cases answered
  split at answered
  · cases answered
  cases answered
  rintro ⟨userId, infos⟩ member
  obtain ⟨⟨asked, fault⟩, -, made⟩ := List.mem_filterMap.1 member
  obtain ⟨listed, ok, same⟩ := Option.map_eq_some_iff.1 made
  cases same
  cases result : installed.queryFullImeInfo asked fault with
  | error code =>
      rw [result] at ok
      cases ok
  | ok answer =>
      rw [result] at ok
      cases ok
      exact queryFullImeInfo_lists installed asked result

end Queries

namespace Lists

variable {installed infos : List FullImeInfo}

theorem without (lists : Lists installed infos) (bundleName : String) :
    Lists (without bundleName installed)
      (infos.eraseP fun info => decide (info.name = bundleName)) := by
  rw [eraseP_key lists.distinct]
  refine ⟨without_distinct lists.distinct bundleName, fun info => ?_⟩
  show info ∈ Installed.without bundleName infos ↔ _
  rw [mem_without, mem_without, lists.same]

theorem put (lists : Lists installed infos) (info : FullImeInfo) :
    Lists (Installed.without info.name installed ++ [info])
      (infos.eraseP (fun other => decide (other.name = info.name)) ++ [info]) := by
  have rest := lists.without info.name
  rw [eraseP_key lists.distinct] at rest ⊢
  refine ⟨without_append_distinct lists.distinct info, fun other => ?_⟩
  rw [List.mem_append, List.mem_append, rest.same]

/-- A bundle alone is all that is installed when there is no other. -/
theorem alone_iff (info : FullImeInfo) :
    Lists (Installed.without info.name installed ++ [info]) [info] ↔
      ∀ other ∈ installed, other.name = info.name := by
  constructor
  · intro lists other inside
    by_contra differs
    have kept : other ∈ Installed.without info.name installed ++ [info] :=
      List.mem_append_left _ (mem_without.2 ⟨inside, differs⟩)
    have same := List.mem_singleton.1 ((lists.same other).2 kept)
    exact differs (congrArg FullImeInfo.name same)
  · intro all
    have nothing : Installed.without info.name installed = [] := by
      rw [List.eq_nil_iff_forall_not_mem]
      intro other member
      exact (mem_without.1 member).2 (all other (mem_without.1 member).1)
    rw [nothing]
    exact ⟨by simp, fun other => Iff.rfl⟩

end Lists

/-! ## The map -/

section Entries

variable {s : State} (complete : Complete s) {installed : Installation} {userId : Int32}
  (elsewhere : ∀ other, other ≠ userId → installed.infos other = s.installed.infos other)

include complete elsewhere

/-- Where two states differ for one user at most, the entry of that user decides. -/
theorem complete_of_entry {fullImeInfos : FullImeInfos}
    (kept : ∀ other, other ≠ userId → fullImeInfos.lookup other = s.fullImeInfos.lookup other)
    (entry : ∀ infos, fullImeInfos.lookup userId = some infos → Lists (installed.infos userId) infos) :
    Complete { installed, fullImeInfos } := by
  intro other infos there
  by_cases asked : other = userId
  · subst asked
    exact entry infos there
  · show Lists (installed.infos other) infos
    rw [elsewhere other asked]
    exact complete other infos ((kept other asked).symm.trans there)

theorem complete_insert (infos : List FullImeInfo) :
    Complete { installed, fullImeInfos := s.fullImeInfos.insert userId infos } ↔
      Lists (installed.infos userId) infos := by
  constructor
  · intro whole
    exact whole userId infos (AList.lookup_insert _)
  · intro lists
    refine complete_of_entry complete elsewhere (fun _ other => AList.lookup_insert_ne other) ?_
    intro found there
    rw [AList.lookup_insert] at there
    cases there
    exact lists

theorem complete_erase : Complete { installed, fullImeInfos := s.fullImeInfos.erase userId } := by
  refine complete_of_entry complete elsewhere (fun _ other => AList.lookup_erase_ne other) ?_
  intro found there
  rw [AList.lookup_erase] at there
  cases there

end Entries

theorem complete_empty (installed : Installation) : Complete { installed, fullImeInfos := ∅ } := by
  intro userId infos there
  rw [AList.lookup_empty] at there
  cases there

theorem complete_fill (installed : Installation) {found : List (Int32 × List FullImeInfo)}
    (lists : ∀ entry ∈ found, Lists (installed.infos entry.1) entry.2) :
    Complete { installed, fullImeInfos := FullImeInfos.fill ∅ found } := by
  refine List.foldlRecOn found _
    (motive := fun filled => Complete { installed, fullImeInfos := filled })
    (complete_empty installed) ?_
  intro filled complete entry member
  exact (complete_insert complete (fun _ _ => rfl) entry.2).2 (lists entry member)

/-- A package event is handled well exactly when it is known. -/
theorem put_exactly {s : State} (complete : Complete s) (userId : Int32) (info : FullImeInfo) :
    Complete
        { installed := s.installed.put userId info
          fullImeInfos := (s.fullImeInfos.putPackage userId info.name
            ((s.installed.put userId info).getFullImeInfo userId info.name)).2 } ↔
      s.fullImeInfos.lookup userId ≠ none ∨
        ∀ other ∈ s.installed.infos userId, other.name = info.name := by
  have elsewhere : ∀ other, other ≠ userId →
      (s.installed.put userId info).infos other = s.installed.infos other :=
    fun other differs => put_elsewhere s.installed userId info differs
  rw [getFullImeInfo_put, FullImeInfos.putPackage]
  cases entry : s.fullImeInfos.lookup userId with
  | none =>
      show Complete { installed := _, fullImeInfos := s.fullImeInfos.insert userId [info] } ↔ _
      rw [complete_insert complete elsewhere, put_infos, Lists.alone_iff]
      simp
  | some infos =>
      show Complete { installed := _, fullImeInfos := s.fullImeInfos.insert userId (_ ++ [info]) } ↔ _
      rw [complete_insert complete elsewhere, put_infos]
      simpa using (complete userId infos entry).put info

theorem remove_complete {s : State} (complete : Complete s) (userId : Int32) (bundleName : String) :
    Complete
      { installed := s.installed.remove userId bundleName
        fullImeInfos := s.fullImeInfos.deletePackage userId bundleName } := by
  have elsewhere : ∀ other, other ≠ userId →
      (s.installed.remove userId bundleName).infos other = s.installed.infos other :=
    fun other differs => remove_elsewhere s.installed userId bundleName differs
  rw [FullImeInfos.deletePackage]
  cases entry : s.fullImeInfos.lookup userId with
  | none =>
      refine complete_of_entry complete elsewhere (fun _ _ => rfl) ?_
      intro infos there
      rw [entry] at there
      cases there
  | some infos =>
      have rest := (complete userId infos entry).without bundleName
      rw [← remove_infos] at rest
      simp only
      split
      · split
        · exact complete_erase complete elsewhere
        · exact (complete_insert complete elsewhere _).2 rest
      · -- Nothing is erased, and nothing was installed under the name.
        rename_i absent
        refine complete_of_entry complete elsewhere (fun _ _ => rfl) ?_
        intro found there
        rw [entry] at there
        cases there
        rwa [List.eraseP_of_forall_not] at rest
        intro info member named
        exact absent (List.any_eq_true.2 ⟨info, member, named⟩)

/-- The queries of the active users, in the three calls that make them. -/
theorem refresh_complete {s : State} (complete : Complete s)
    (active : List (Int32 × Option ErrorCode)) :
    Complete (step s (.init active)) ∧ Complete (step s (.regularInit active)) ∧
      Complete (step s (.update active)) := by
  simp only [step, FullImeInfos.init, FullImeInfos.regularInit, FullImeInfos.update]
  cases answer : s.installed.queryFullImeInfos active with
  | error code =>
      refine ⟨?_, complete, complete_empty s.installed⟩
      split
      · exact complete
      · exact complete
  | ok found =>
      have filled := complete_fill s.installed (queryFullImeInfos_lists s.installed answer)
      refine ⟨?_, filled, filled⟩
      split
      · exact complete
      · exact filled

theorem switch_complete {s : State} (complete : Complete s) (userId : Int32)
    (fault : Option ErrorCode) :
    Complete (step s (.switch userId fault)) := by
  simp only [step, FullImeInfos.addUser]
  cases entry : s.fullImeInfos.lookup userId with
  | some infos => exact complete
  | none =>
      cases answer : s.installed.queryFullImeInfo userId fault with
      | error code => exact complete
      | ok infos =>
          refine (complete_insert complete (fun _ _ => rfl) infos).2 ?_
          exact queryFullImeInfo_lists s.installed userId answer

theorem step_exactly (s : State) (e : Event) (complete : Complete s) :
    Complete (step s e) ↔ Known s e := by
  cases e with
  | packageAdded userId info => exact put_exactly complete userId info
  | packageChanged userId info => exact put_exactly complete userId info
  | packageRemoved userId bundleName =>
      exact iff_of_true (remove_complete complete userId bundleName) trivial
  | init active => exact iff_of_true (refresh_complete complete active).1 trivial
  | regularInit active => exact iff_of_true (refresh_complete complete active).2.1 trivial
  | update active => exact iff_of_true (refresh_complete complete active).2.2 trivial
  | switch userId fault => exact iff_of_true (switch_complete complete userId fault) trivial
  | deleteUser userId => exact iff_of_true (complete_erase complete fun _ _ => rfl) trivial

/-- **In a run from an empty cache every entry is complete all along, exactly when a bundle is added
or changed only for users that have an entry or no other input method.** -/
theorem cache_complete (installed : Installation) (es : List Event) :
    (∀ fs, fs <+: es → Complete (run step { installed } fs)) ↔ Meets step Known { installed } es :=
  prefixes_iff_meets step_exactly (complete_empty installed)

/-! ## Poles -/

def nothing : Installation where
  infos _ := []
  distinct _ := List.nodup_nil

theorem nulFree_handwriting : Json.NulFree "com.example.handwriting" := by decide

def handwriting : Enabled.FullImeInfo where
  name := "com.example.handwriting"
  id := "KeyboardExt"
  plainName := nulFree_handwriting
  plainId := Enabled.nulFree_keyboardExt

/-- A keyboard is installed, a refresh fails, a second keyboard is installed. -/
def afterFailedRefresh : List Event :=
  [.packageAdded 100 ⟨Enabled.keyboard, 1⟩, .update [(100, some .errorPackageManager)],
    .packageAdded 100 ⟨handwriting, 1⟩]

/-- The entry of the user has the second keyboard alone. -/
theorem added_after_failed_refresh :
    ¬ ∀ es, Complete (run step { installed := nothing } es) := by
  intro always
  have there : (run step { installed := nothing } afterFailedRefresh).fullImeInfos.lookup 100 =
      some [⟨handwriting, 1⟩] := by decide
  have installed : ⟨Enabled.keyboard, 1⟩ ∈
      (run step { installed := nothing } afterFailedRefresh).installed.infos 100 := by decide
  have listed := ((always afterFailedRefresh 100 _ there).same _).2 installed
  exact absurd listed (by decide)

end Imf.Installed
