/-
# Imf.Installed.Loading -- the list that the table of enabled input methods is loaded by

`FullImeInfoManager` hands the list of a user down to `ImeEnabledInfoManager`, which loads the
user's table and corrects it by that list: a current input method that is not on it loses its
place.  `Init` hands down the entries of its map.  `Switch` hands down the user's entry, or else
what the query of the whole list has put out, also when that query has failed half way.

`Service` is the two managers over what is installed.  `current_kept` says that a run keeps an
installed current input method exactly when every load of the user's table finds it on the list
handed down, or finds an empty list (`Shown`).  The poles are a load by the entry that a package
event has made (`partial_entry_loses`) and one by a query that failed half way.
-/
import Imf.Enabled.Survival
import Imf.Installed.FullImeInfoManager

namespace Imf.Installed

set_option autoImplicit false

open Lib (Meets prefixes_iff_meets run run_append)
open Json (compact compact_lawful)
open Enabled (Config Manager ReloadIo OpIo Survives)

/-! ## The two managers -/

/-- The bundles of a user in the order in which `QueryFullImeInfo` puts them out. -/
def Installation.ordered (installed : Installation) (userId : Int32) : List FullImeInfo :=
  (installed.infos userId).insertionSort fun one other => one.name ≤ other.name

/-- The brief query of `CorrectByBundleMgr`, which takes no part of a list. -/
def Installation.brief (installed : Installation) (userId : Int32) (fault : Option ErrorCode) :
    Except ErrorCode (List Enabled.FullImeInfo) :=
  match fault with
  | some code => .error code
  | none =>
      if (installed.infos userId).isEmpty then .error .errorPackageManager
      else .ok ((installed.ordered userId).map FullImeInfo.ime)

/-- What loading a table asks, where the settings work: the brief query, and all that the
migration of a user without a table of the new format asks. -/
structure Answers where
  brief : Option ErrorCode := none
  upgrade : Enabled.UpgradeIo := {}
  second : Enabled.Fault := none

def Answers.reload (answers : Answers) (installed : Installation) (userId : Int32) : ReloadIo where
  cfg :=
    { query := installed.brief userId answers.brief
      upgrade := answers.upgrade
      second := answers.second }

def Answers.op (answers : Answers) (installed : Installation) (userId : Int32) : OpIo where
  reload := answers.reload installed userId

structure Service where
  catalog : State
  enabled : Manager

/-- A package event whose query of the bundle is answered or not; a call with the answers to its
queries.  A query that fails in `switch` has put out `count` bundles before. -/
inductive Call where
  | packageAdded (userId : Int32) (info : FullImeInfo) (answered : Bool) (answers : Answers)
  | packageChanged (userId : Int32) (info : FullImeInfo) (answered : Bool)
  | packageRemoved (userId : Int32) (bundleName : String) (answers : Answers)
  | regularInit (active : List (Int32 × Option ErrorCode))
  | update (active : List (Int32 × Option ErrorCode))
  | init (active : List (Int32 × Option ErrorCode)) (ready : Bool) (answers : Int32 → Answers)
  | switch (userId : Int32) (fault : Option (Nat × ErrorCode)) (isDefaultDisplay ready handler : Bool)
      (answers : Answers)

/-- The list that `AddUser` leaves in its argument. -/
def State.handed (s : State) (userId : Int32) (fault : Option (Nat × ErrorCode)) : List FullImeInfo :=
  match s.fullImeInfos.lookup userId with
  | some infos => infos
  | none =>
      match fault with
      | none => s.installed.ordered userId
      | some (count, _) => (s.installed.ordered userId).take count

/-- What `Init` hands down of an entry. -/
def Installation.handDown (installed : Installation) (answers : Int32 → Answers)
    (entry : Sigma fun _ : Int32 => List FullImeInfo) : Int32 × List Enabled.FullImeInfo × ReloadIo :=
  (entry.1, entry.2.map FullImeInfo.ime, (answers entry.1).reload installed entry.1)

def Service.step (cjson : Json.CJson) (s : Service) : Config × Call → Service
  | (config, .packageAdded userId info answered answers) =>
      let installed := s.catalog.installed.put userId info
      if answered then
        { catalog := Installed.step s.catalog (.packageAdded userId info)
          enabled := (Enabled.add cjson config
            (answers.op installed userId) userId info.ime s.enabled).2 }
      else { s with catalog := { s.catalog with installed } }
  | (_, .packageChanged userId info answered) =>
      if answered then { s with catalog := Installed.step s.catalog (.packageChanged userId info) }
      else { s with catalog := { s.catalog with installed := s.catalog.installed.put userId info } }
  | (config, .packageRemoved userId bundleName answers) =>
      let catalog := Installed.step s.catalog (.packageRemoved userId bundleName)
      { catalog
        enabled :=
          (Enabled.delete cjson config
            (answers.op catalog.installed userId) userId bundleName s.enabled).2 }
  | (_, .regularInit active) => { s with catalog := Installed.step s.catalog (.regularInit active) }
  | (_, .update active) => { s with catalog := Installed.step s.catalog (.update active) }
  | (config, .init active ready answers) =>
      let catalog := Installed.step s.catalog (.init active)
      match (s.catalog.fullImeInfos.init (s.catalog.installed.queryFullImeInfos active)).1 with
      | .error _ => { s with catalog }
      | .ok () =>
          { catalog
            enabled := (Enabled.init cjson config ready
              (catalog.fullImeInfos.entries.map (catalog.installed.handDown answers)) s.enabled).2 }
  | (config, .switch userId fault isDefaultDisplay ready handler answers) =>
      let catalog := Installed.step s.catalog (.switch userId (fault.map Prod.snd))
      if isDefaultDisplay then
        { catalog
          enabled := (Enabled.switch cjson config ready handler
            (answers.reload s.catalog.installed userId)
            userId ((s.catalog.handed userId fault).map FullImeInfo.ime) s.enabled).2 }
      else { s with catalog }

/-- `b` is installed for the user, and current in the user's tables. -/
structure Kept (cjson : Json.CJson) (userId : Int32) (b : String) (s : Service) : Prop where
  installed : b ∈ (s.catalog.installed.infos userId).map FullImeInfo.name
  survives : Survives cjson userId b s.enabled

/-- The list has `b`, or nothing: then the loader asks for itself. -/
def Has (b : String) (infos : List FullImeInfo) : Prop := infos = [] ∨ b ∈ infos.map FullImeInfo.name

def Unloaded (userId : Int32) (m : Manager) : Prop := (m.getEnabledCache userId).enabledInfos = []

/-- Where the user's table is loaded, the user's entry has `b`; without an entry, so does what a
query that fails has put out.  `b` is not uninstalled. -/
def Shown (userId : Int32) (b : String) (s : Service) : Config × Call → Prop
  | (_, .packageRemoved other bundleName _) => other = userId → bundleName ≠ b
  | (_, .init _ ready _) =>
      ready = true → Unloaded userId s.enabled →
        ∀ infos, s.catalog.fullImeInfos.lookup userId = some infos → Has b infos
  | (_, .switch other fault isDefaultDisplay ready _ _) =>
      other = userId → isDefaultDisplay = true → ready = true → Unloaded userId s.enabled →
        Has b (s.catalog.handed userId fault)
  | _ => True

/-- There is a list to correct a table by: the one handed down, or the answer of the brief query. -/
def Answers.Lists (answers : Answers) (infos : List FullImeInfo) :
    Prop := infos ≠ [] ∨ answers.brief = none

/-- The call loads the user's table, unless it is loaded. -/
def Loads (userId : Int32) (s : Service) : Config × Call → Prop
  | (_, .init active ready answers) =>
      ready = true ∧ ∃ infos,
        (Installed.step s.catalog (.init active)).fullImeInfos.lookup userId = some infos ∧
        (answers userId).Lists infos
  | (_, .switch other fault isDefaultDisplay ready _ answers) =>
      other = userId ∧ isDefaultDisplay = true ∧ ready = true ∧
        answers.Lists (s.catalog.handed userId fault)
  | _ => False

/-- The cached table of the user has `b` current. -/
def Cached (userId : Int32) (b : String) (m : Manager) : Prop :=
  ∃ cfg, m.imeEnabledCfg userId = some cfg ∧ Enabled.Current b cfg.enabledInfos

/-! ## Lists -/

section Lists

variable {installed : Installation} {userId other : Int32} {b : String}

theorem names_ime (infos : List FullImeInfo) :
    (infos.map FullImeInfo.ime).map Enabled.FullImeInfo.name = infos.map FullImeInfo.name :=
  List.map_map

theorem mem_names {infos : List FullImeInfo} : b ∈ infos.map FullImeInfo.name ↔ ∃ info ∈ infos,
    info.name = b :=
  List.mem_map

/-- What the brief query answers is all that is installed. -/
theorem brief_complete (there : b ∈ (installed.infos userId).map FullImeInfo.name)
    {fault : Option ErrorCode} {found : List Enabled.FullImeInfo}
    (answered : installed.brief userId fault = .ok found) : b ∈ found.map Enabled.FullImeInfo.name := by
  unfold Installation.brief at answered
  split at answered
  · cases answered
  · split at answered
    · cases answered
    · cases answered
      rw [names_ime]
      have sorted := List.perm_insertionSort (fun one other : FullImeInfo => one.name ≤ other.name)
        (installed.infos userId)
      exact (sorted.map FullImeInfo.name).mem_iff.2 there

/-- A list that is handed down serves the loader when it has `b` or is empty. -/
theorem handed_serves_iff (there : b ∈ (installed.infos userId).map FullImeInfo.name)
    (answers : Answers) (infos : List FullImeInfo) :
    (∀ found, Enabled.finalImeInfos (answers.reload installed userId).cfg.query
      (infos.map FullImeInfo.ime) =
        .ok found → b ∈ found.map Enabled.FullImeInfo.name) ↔ Has b infos := by
  cases infos with
  | nil =>
      refine iff_of_true (fun found answered => ?_) (.inl rfl)
      exact brief_complete there answered
  | cons info infos =>
      constructor
      · intro serves
        refine .inr ?_
        rw [← names_ime]
        exact serves _ rfl
      · rintro (impossible | has) found answered
        · cases impossible
        · cases answered
          rw [names_ime]
          exact has

/-- Where `b` is installed the brief query does not fail by itself. -/
theorem Answers.Lists.found (there : b ∈ (installed.infos userId).map FullImeInfo.name)
    {answers : Answers} {infos : List FullImeInfo} (lists : answers.Lists infos) :
    ∃ found, Enabled.finalImeInfos (answers.reload installed userId).cfg.query
      (infos.map FullImeInfo.ime) =
      .ok found := by
  cases infos with
  | cons info infos => exact ⟨_, rfl⟩
  | nil =>
      have answered : answers.brief = none := lists.resolve_left fun filled => filled rfl
      have some : (installed.infos userId).isEmpty = false := by
        obtain ⟨info, member, -⟩ := mem_names.1 there
        exact List.isEmpty_eq_false_iff_exists_mem.2 ⟨info, member⟩
      refine ⟨(installed.ordered userId).map FullImeInfo.ime, ?_⟩
      show installed.brief userId answers.brief = _
      rw [answered]
      unfold Installation.brief
      dsimp only
      rw [some]
      rfl

theorem put_installs (there : b ∈ (installed.infos userId).map FullImeInfo.name) (other : Int32)
    (info : FullImeInfo) : b ∈ ((installed.put other info).infos userId).map FullImeInfo.name := by
  by_cases here : userId = other
  · subst here
    rw [put_infos, List.map_append, List.mem_append]
    obtain ⟨old, member, rfl⟩ := mem_names.1 there
    by_cases same : old.name = info.name
    · exact .inr (by simp [same])
    · exact .inl (mem_names.2 ⟨old, mem_without.2 ⟨member, same⟩, rfl⟩)
  · rw [put_elsewhere installed other info here]
    exact there

theorem remove_installs_iff (there : b ∈ (installed.infos userId).map FullImeInfo.name) (other : Int32)
    (bundleName : String) :
    b ∈ ((installed.remove other bundleName).infos userId).map FullImeInfo.name ↔
      (other = userId → bundleName ≠ b) := by
  by_cases here : userId = other
  · subst here
    rw [remove_infos, mem_names]
    constructor
    · rintro ⟨info, member, named⟩ - rfl
      exact (mem_without.1 member).2 named
    · intro differs
      obtain ⟨old, member, rfl⟩ := mem_names.1 there
      exact ⟨old, mem_without.2 ⟨member, fun same => differs rfl same.symm⟩, rfl⟩
  · rw [remove_elsewhere installed other bundleName here]
    exact iff_of_true there fun same => absurd same.symm here

end Lists

/-! ## The loads -/

section Loads

variable {cjson : Json.CJson} {userId : Int32} {b : String} {m : Manager} {installed : Installation}

theorem Answers.works (answers : Answers) (installed : Installation) (userId : Int32) :
    (answers.reload installed userId).Works := ⟨rfl, rfl⟩

theorem unloaded_iff_isEmpty : (m.getEnabledCache userId).enabledInfos.isEmpty = true ↔
    Unloaded userId m :=
  List.isEmpty_iff

theorem Spared.unloaded_iff {m' : Manager} (spared : Enabled.Spared userId m m') :
    Unloaded userId m' ↔ Unloaded userId m := by
  unfold Unloaded Manager.getEnabledCache
  rw [spared.cache]

theorem initUser_spared (cjson : Json.CJson) (config : Config) (m : Manager)
    (user : Int32 × List Enabled.FullImeInfo × ReloadIo) (differ : userId ≠ user.1) :
    Enabled.Spared userId m (Enabled.initUser cjson config m user) := by
  unfold Enabled.initUser
  split
  · exact Enabled.reload_spared cjson differ config _ _ m
  · exact .refl m

theorem initUsers_spared (cjson : Json.CJson) (config : Config)
    {users : List (Int32 × List Enabled.FullImeInfo × ReloadIo)} (m : Manager)
    (differ : ∀ user ∈ users, userId ≠ user.1) :
    Enabled.Spared userId m (users.foldl (Enabled.initUser cjson config) m) := by
  induction users generalizing m with
  | nil => exact .refl m
  | cons user users ih =>
      have first := initUser_spared cjson config m user (differ user List.mem_cons_self)
      exact first.trans (ih _ fun user member => differ user (List.mem_cons_of_mem _ member))

theorem switch_spared (cjson : Json.CJson) {other : Int32} (differ : userId ≠ other) (config : Config)
    (ready handler : Bool) (io : ReloadIo) (infos : List Enabled.FullImeInfo) (m : Manager) :
    Enabled.Spared userId m (Enabled.switch cjson config ready handler io other infos m).2 := by
  unfold Enabled.switch
  dsimp only
  split
  · split
    · exact ⟨rfl, rfl⟩
    · exact .refl m
  split
  · exact .refl m
  · exact Enabled.reload_spared cjson differ config io infos m

/-! ## Loaded -/

theorem reload_loads (survives : Survives cjson userId b m)
    (there : b ∈ (installed.infos userId).map FullImeInfo.name) (config : Config) {answers : Answers}
    {infos : List FullImeInfo} (lists : answers.Lists infos) :
    ¬ Unloaded userId (Enabled.reload cjson config (answers.reload installed userId) userId
      (infos.map FullImeInfo.ime) m).2 := by
  obtain ⟨found, answered⟩ := lists.found there
  exact Enabled.reload_fills survives config (answers.works installed userId) answered

theorem switch_loads (survives : Survives cjson userId b m)
    (there : b ∈ (installed.infos userId).map FullImeInfo.name) (config : Config) (handler : Bool)
    {answers : Answers} {infos : List FullImeInfo} (lists : answers.Lists infos) :
    ¬ Unloaded userId (Enabled.switch cjson config true handler (answers.reload installed userId) userId
      (infos.map FullImeInfo.ime) m).2 := by
  unfold Enabled.switch
  dsimp only
  split
  · rename_i filled
    have loaded : ¬ Unloaded userId m := by simpa [Unloaded] using filled
    split
    · exact loaded
    · exact loaded
  · exact reload_loads survives there config lists

theorem initUser_loads (survives : Survives cjson userId b m)
    (there : b ∈ (installed.infos userId).map FullImeInfo.name) (config : Config)
    {answers : Int32 → Answers} {infos : List FullImeInfo} (lists : (answers userId).Lists infos) :
    ¬ Unloaded userId (Enabled.initUser cjson config m
      (installed.handDown answers ⟨userId, infos⟩)) := by
  unfold Enabled.initUser
  split
  · exact reload_loads survives there config lists
  · rename_i filled
    exact fun unloaded => filled (unloaded_iff_isEmpty.2 unloaded)

theorem initUsers_loads (survives : Survives cjson userId b m)
    (there : b ∈ (installed.infos userId).map FullImeInfo.name) (config : Config)
    {answers : Int32 → Answers}
    {entries : List (Sigma fun _ : Int32 => List FullImeInfo)} (once : entries.NodupKeys)
    {infos : List FullImeInfo} (entry : ⟨userId, infos⟩ ∈ entries)
    (lists : (answers userId).Lists infos) :
    ¬ Unloaded userId ((entries.map (installed.handDown answers)).foldl
      (Enabled.initUser cjson config) m) := by
  -- The user's own turn comes between those of others.
  obtain ⟨before, after, rfl⟩ := List.append_of_mem entry
  obtain ⟨alone, -⟩ := List.nodupKeys_cons.1 (List.nodupKeys_middle.1 once)
  have others : ∀ user ∈ (before ++ after).map (installed.handDown answers), userId ≠ user.1 := by
    rintro user member rfl
    obtain ⟨entry, inside, rfl⟩ := List.mem_map.1 member
    have again := List.mem_keys_of_mem inside
    exact alone again
  rw [List.map_append, List.forall_mem_append] at others
  rw [List.map_append, List.map_cons, List.foldl_append, List.foldl_cons]
  have earlier := initUsers_spared cjson config m others.1
  rw [Spared.unloaded_iff (initUsers_spared cjson config _ others.2)]
  exact initUser_loads (earlier.survives_iff.2 survives) there config lists

/-! ## Kept -/

variable (lawful : cjson.Lawful) (verbatim : cjson.Verbatim "version")

include lawful verbatim

/-- A load by a list that is handed down. -/
theorem reload_kept_iff (survives : Survives cjson userId b m)
    (there : b ∈ (installed.infos userId).map FullImeInfo.name) (config : Config) (answers : Answers)
    (infos : List FullImeInfo) :
    Survives cjson userId b (Enabled.reload cjson config (answers.reload installed userId) userId
      (infos.map FullImeInfo.ime) m).2 ↔ Has b infos := by
  rw [Enabled.reload_survives_iff lawful verbatim survives config (answers.works installed userId),
    handed_serves_iff there]

theorem switch_kept_iff (survives : Survives cjson userId b m)
    (there : b ∈ (installed.infos userId).map FullImeInfo.name) (config : Config) (ready handler : Bool)
    (answers : Answers) (infos : List FullImeInfo) :
    Survives cjson userId b (Enabled.switch cjson config ready handler (answers.reload installed userId)
        userId (infos.map FullImeInfo.ime) m).2 ↔
      (ready = true → Unloaded userId m → Has b infos) := by
  unfold Enabled.switch
  dsimp only
  split
  · rename_i filled
    have loaded : ¬ Unloaded userId m := by simpa [Unloaded] using filled
    refine iff_of_true ?_ fun _ unloaded => absurd unloaded loaded
    split
    · exact ⟨survives.table, survives.cached⟩
    · exact survives
  · rename_i empty
    have unloaded : Unloaded userId m := by simpa [Unloaded] using empty
    cases ready with
    | false => exact iff_of_true survives nofun
    | true =>
        show Survives cjson userId b (Enabled.reload cjson config _ userId _ m).2 ↔ _
        rw [reload_kept_iff lawful verbatim survives there config answers infos]
        exact ⟨fun has _ _ => has, fun has => has rfl unloaded⟩

theorem initUser_kept_iff (survives : Survives cjson userId b m)
    (there : b ∈ (installed.infos userId).map FullImeInfo.name) (config : Config)
    (answers : Int32 → Answers) (infos : List FullImeInfo) :
    Survives cjson userId b
      (Enabled.initUser cjson config m (installed.handDown answers ⟨userId, infos⟩)) ↔
      (Unloaded userId m → Has b infos) := by
  unfold Enabled.initUser
  split
  · rename_i empty
    have unloaded := unloaded_iff_isEmpty.1 empty
    refine (reload_kept_iff lawful verbatim survives there config (answers userId) infos).trans ?_
    exact ⟨fun has _ => has, fun has => has unloaded⟩
  · rename_i filled
    exact iff_of_true survives fun unloaded => absurd (unloaded_iff_isEmpty.2 unloaded) filled

/-- The users of `Init` one after the other, each at most once. -/
theorem initUsers_kept_iff (survives : Survives cjson userId b m)
    (there : b ∈ (installed.infos userId).map FullImeInfo.name) (config : Config)
    (answers : Int32 → Answers) {entries : List (Sigma fun _ : Int32 => List FullImeInfo)}
    (once : entries.NodupKeys) :
    Survives cjson userId b
      ((entries.map (installed.handDown answers)).foldl (Enabled.initUser cjson config) m) ↔
      (Unloaded userId m → ∀ infos, ⟨userId, infos⟩ ∈ entries → Has b infos) := by
  induction entries generalizing m with
  | nil => exact iff_of_true survives fun _ _ => nofun
  | cons entry entries ih =>
      obtain ⟨first, rest⟩ := List.nodupKeys_cons.1 once
      obtain ⟨other, infos⟩ := entry
      rw [List.map_cons, List.foldl_cons]
      by_cases here : userId = other
      · -- The user's own entry; the others leave the user alone.
        subst here
        have absent : ∀ user ∈ entries.map (installed.handDown answers), userId ≠ user.1 := by
          rintro user member rfl
          obtain ⟨entry, inside, rfl⟩ := List.mem_map.1 member
          have again := List.mem_keys_of_mem inside
          exact first again
        rw [(initUsers_spared cjson config _ absent).survives_iff,
          initUser_kept_iff lawful verbatim survives there config answers infos]
        constructor
        · intro has unloaded found member
          rcases List.mem_cons.1 member with same | inside
          · cases same
            exact has unloaded
          · exact absurd (List.mem_keys_of_mem inside) first
        · intro has unloaded
          exact has unloaded infos List.mem_cons_self
      · have spared := initUser_spared cjson config m (installed.handDown answers ⟨other, infos⟩) here
        rw [ih (spared.survives_iff.2 survives) rest, Spared.unloaded_iff spared]
        constructor
        · intro has unloaded found member
          rcases List.mem_cons.1 member with same | inside
          · cases same
            exact absurd rfl here
          · exact has unloaded found inside
        · intro has unloaded found inside
          exact has unloaded found (List.mem_cons_of_mem _ inside)

end Loads

/-! ## One call -/

section Calls

variable {cjson : Json.CJson} {userId : Int32} {b : String} {s : Service}
  (lawful : cjson.Lawful) (verbatim : cjson.Verbatim "version")

theorem kept_iff_survives {catalog : State} {enabled : Manager}
    (there : b ∈ (catalog.installed.infos userId).map FullImeInfo.name) :
    Kept cjson userId b ⟨catalog, enabled⟩ ↔ Survives cjson userId b enabled :=
  ⟨Kept.survives, fun survives => ⟨there, survives⟩⟩

theorem step_loads (s : Service) (e : Config × Call) (kept : Kept cjson userId b s)
    (loads : Loads userId s e) :
    ¬ Unloaded userId (s.step cjson e).enabled := by
  obtain ⟨config, call⟩ := e
  cases call with
  | init active ready answers =>
      obtain ⟨rfl, infos, entry, lists⟩ := loads
      simp only [Service.step, Installed.step] at entry ⊢
      cases result : s.catalog.fullImeInfos.init (s.catalog.installed.queryFullImeInfos active) with
      | mk outcome after =>
          rw [result] at entry
          cases outcome with
          | ok =>
              have member := AList.mem_lookup_iff.1 entry
              exact initUsers_loads kept.survives kept.installed config after.nodupKeys member lists
          | error code =>
              -- `Init` fails with an empty map only.
              exfalso
              unfold FullImeInfos.init at result
              split at result
              · cases result
              · rename_i filled
                cases answer : s.catalog.installed.queryFullImeInfos active with
                | ok found =>
                    rw [answer] at result
                    cases result
                | error code =>
                    rw [answer] at result
                    cases result
                    have empty : s.catalog.fullImeInfos.entries = [] := by simpa using filled
                    rw [AList.lookup, empty] at entry
                    cases entry
  | switch other fault isDefaultDisplay ready handler answers =>
      obtain ⟨rfl, rfl, rfl, lists⟩ := loads
      exact switch_loads kept.survives kept.installed config handler lists
  | _ => exact loads.elim

theorem Kept.cached (kept : Kept cjson userId b s) (loaded : ¬ Unloaded userId s.enabled) :
    Cached userId b s.enabled := by
  unfold Unloaded Manager.getEnabledCache at loaded
  cases found : s.enabled.imeEnabledCfg userId with
  | none =>
      rw [found] at loaded
      exact absurd rfl loaded
  | some cfg =>
      rw [found] at loaded
      exact ⟨cfg, found, (kept.survives.cached cfg found loaded).1⟩

/-- What a query of all active users finds has `b`. -/
theorem filled_has {installed : Installation}
    (there : b ∈ (installed.infos userId).map FullImeInfo.name)
    {active : List (Int32 × Option ErrorCode)} {found : List (Int32 × List FullImeInfo)}
    (answered : installed.queryFullImeInfos active = .ok found) {infos : List FullImeInfo}
    (entry : (FullImeInfos.fill ∅ found).lookup userId = some infos) : Has b infos := by
  have lists := complete_fill installed (queryFullImeInfos_lists installed answered) userId infos entry
  obtain ⟨info, member, named⟩ := mem_names.1 there
  exact .inr (mem_names.2 ⟨info, (lists.same info).2 member, named⟩)

include lawful verbatim

theorem packageAdded_kept (kept : Kept cjson userId b s) (config : Config) (other : Int32)
    (info : FullImeInfo) (answered : Bool) (answers : Answers) :
    Kept cjson userId b (s.step cjson (config, .packageAdded other info answered answers)) := by
  have there := put_installs kept.installed other info
  cases answered with
  | false => exact ⟨there, kept.survives⟩
  | true =>
      refine ⟨there, ?_⟩
      show Survives cjson userId b (Enabled.add cjson config _ other info.ime s.enabled).2
      by_cases here : userId = other
      · subst here
        exact Enabled.add_survives lawful verbatim kept.survives config (answers.works _ userId) rfl
          (fun _ found => brief_complete there found) info.ime
      · exact (Enabled.add_spared cjson here config _ _ _).survives_iff.2 kept.survives

theorem packageRemoved_kept_iff (kept : Kept cjson userId b s) (config : Config) (other : Int32)
    (bundleName : String) (answers : Answers) :
    Kept cjson userId b (s.step cjson (config, .packageRemoved other bundleName answers)) ↔
      (other = userId → bundleName ≠ b) := by
  have left := remove_installs_iff kept.installed other bundleName
  refine ⟨fun kept => left.1 kept.installed, fun differs => ⟨left.2 differs, ?_⟩⟩
  show Survives cjson userId b (Enabled.delete cjson config _ other bundleName s.enabled).2
  by_cases here : userId = other
  · subst here
    exact Enabled.delete_survives lawful verbatim kept.survives config (answers.works _ userId)
      (fun _ found => brief_complete (left.2 differs) found) (differs rfl)
  · exact (Enabled.delete_spared cjson here config _ _ _).survives_iff.2 kept.survives

/-- `Init` over a map of which nothing is asked but that the user's entry has `b`. -/
theorem loadAll_kept_iff (survives : Survives cjson userId b s.enabled) (catalog : State)
    (there : b ∈ (catalog.installed.infos userId).map FullImeInfo.name) (config : Config) (ready : Bool)
    (answers : Int32 → Answers) :
    Survives cjson userId b (Enabled.init cjson config ready
        (catalog.fullImeInfos.entries.map (catalog.installed.handDown answers)) s.enabled).2 ↔
      (ready = true → Unloaded userId s.enabled →
        ∀ infos, catalog.fullImeInfos.lookup userId = some infos → Has b infos) := by
  cases ready with
  | false => exact iff_of_true survives nofun
  | true =>
      refine (initUsers_kept_iff lawful verbatim survives there config answers
        catalog.fullImeInfos.nodupKeys).trans ?_
      refine Iff.trans ?_ ⟨fun has _ => has, fun has => has rfl⟩
      refine imp_congr_right fun _ => forall_congr' fun infos => ?_
      rw [← AList.mem_lookup_iff, Option.mem_def]

theorem init_kept_iff (kept : Kept cjson userId b s) (config : Config)
    (active : List (Int32 × Option ErrorCode)) (ready : Bool) (answers : Int32 → Answers) :
    Kept cjson userId b (s.step cjson (config, .init active ready answers)) ↔
      (ready = true → Unloaded userId s.enabled →
        ∀ infos, s.catalog.fullImeInfos.lookup userId = some infos → Has b infos) := by
  have loaded := fun catalog there =>
    loadAll_kept_iff lawful verbatim kept.survives catalog there config ready answers
  simp only [Service.step, Installed.step, FullImeInfos.init]
  cases filled : s.catalog.fullImeInfos.entries.isEmpty with
  | false => exact (kept_iff_survives kept.installed).trans (loaded s.catalog kept.installed)
  | true =>
      -- Nothing is cached, so that nothing but the query can be handed down.
      have nobody : s.catalog.fullImeInfos.lookup userId = none := by
        rw [AList.lookup, List.isEmpty_iff.1 filled]
        rfl
      have vacuous : ready = true → Unloaded userId s.enabled →
          ∀ infos, s.catalog.fullImeInfos.lookup userId = some infos → Has b infos := by
        intro _ _ infos there
        rw [nobody] at there
        cases there
      refine iff_of_true ?_ vacuous
      cases answer : s.catalog.installed.queryFullImeInfos active with
      | error code => exact kept
      | ok found =>
          refine ⟨kept.installed,
            (loaded { s.catalog with fullImeInfos := .fill ∅ found } kept.installed).2 ?_⟩
          intro _ _ infos entry
          exact filled_has kept.installed answer entry

theorem step_kept_iff (s : Service) (e : Config × Call) (kept : Kept cjson userId b s) :
    Kept cjson userId b (s.step cjson e) ↔ Shown userId b s e := by
  obtain ⟨config, call⟩ := e
  cases call with
  | packageAdded other info answered answers =>
      exact iff_of_true (packageAdded_kept lawful verbatim kept config other info answered answers)
        trivial
  | packageChanged other info answered =>
      have there := put_installs kept.installed other info
      refine iff_of_true ?_ trivial
      cases answered <;> exact ⟨there, kept.survives⟩
  | packageRemoved other bundleName answers =>
      exact packageRemoved_kept_iff lawful verbatim kept config other bundleName answers
  | regularInit active => exact iff_of_true ⟨kept.installed, kept.survives⟩ trivial
  | update active => exact iff_of_true ⟨kept.installed, kept.survives⟩ trivial
  | init active ready answers => exact init_kept_iff lawful verbatim kept config active ready answers
  | switch other fault isDefaultDisplay ready handler answers =>
      have there : b ∈ ((Installed.step s.catalog (.switch other (fault.map Prod.snd))).installed.infos
          userId).map FullImeInfo.name := kept.installed
      cases isDefaultDisplay with
      | false => exact iff_of_true ⟨there, kept.survives⟩ nofun
      | true =>
          refine (kept_iff_survives there).trans ?_
          by_cases here : userId = other
          · subst here
            rw [switch_kept_iff lawful verbatim kept.survives kept.installed config ready
              handler answers]
            exact ⟨fun has _ _ => has, fun has => has rfl rfl⟩
          · have spared := switch_spared cjson here config ready handler
              (answers.reload s.catalog.installed other)
                ((s.catalog.handed other fault).map FullImeInfo.ime) s.enabled
            exact iff_of_true (spared.survives_iff.2 kept.survives) fun same => absurd same.symm here

end Calls

/-- **A run keeps an installed current input method current, persisted and cached, exactly when every
load of the user's table is given a list that has it, or an empty one.** -/
theorem current_kept (cjson : Json.CJson) (lawful : cjson.Lawful) (verbatim : cjson.Verbatim "version")
    (userId : Int32) (b : String) (s : Service) (start : Kept cjson userId b s)
    (es : List (Config × Call)) :
    (∀ fs e, fs ++ [e] <+: es →
        Kept cjson userId b (run (Service.step cjson) s (fs ++ [e])) ∧
          (Loads userId (run (Service.step cjson) s fs) e →
            Cached userId b (run (Service.step cjson) s (fs ++ [e])).enabled)) ↔
      Meets (Service.step cjson) (Shown userId b) s es := by
  rw [← prefixes_iff_meets (step_kept_iff lawful verbatim) start]
  constructor
  · intro all fs before
    rcases List.eq_nil_or_concat fs with rfl | ⟨fs, e, rfl⟩
    · exact start
    · rw [List.concat_eq_append] at before ⊢
      exact (all fs e before).1
  · intro all fs e before
    have kept := all _ before
    refine ⟨kept, fun loads => kept.cached ?_⟩
    have earlier := all fs ((List.prefix_append fs [e]).trans before)
    rw [run_append]
    exact step_loads _ e earlier loads

/-! ## Poles -/

theorem distinct_keyboards (userId : Int32) :
    (((if userId = 100 then [⟨Enabled.keyboard, 1⟩, ⟨handwriting, 1⟩] else [] : List FullImeInfo)).map
      FullImeInfo.name).Nodup := by
  split
  · decide
  · exact List.nodup_nil

def bothKeyboards : Installation where
  infos userId := if userId = 100 then [⟨Enabled.keyboard, 1⟩, ⟨handwriting, 1⟩] else []
  distinct := distinct_keyboards

/-- The keyboard is current. -/
def currentCfg : Enabled.ImeEnabledCfg where
  enabledInfos :=
    [{ bundleName := "com.example.keyboard", extensionName := "KeyboardExt",
       enabledStatus := .basicMode,
       extraInfo := { isDefaultIme := true } }]

def atRest : Service where
  catalog := { installed := bothKeyboards }
  enabled := { settings := { userTable _ := some (currentCfg.text compact) } }

def restConfig : Config where
  defaultIme := "com.example.system"

theorem atRest_kept : Kept compact 100 "com.example.keyboard" atRest where
  installed := by decide
  survives := by
    refine ⟨⟨_, rfl, Enabled.mentionsVersion_text Enabled.compact_verbatim_version _, ?_⟩, nofun⟩
    rw [Enabled.readCfg_text compact_lawful]
    exact ⟨by decide, Lib.atMostOne_cons nofun, by decide, by decide⟩

/-- All is loaded by a query of the whole list. -/
theorem whole_list_keeps :
    let es := [(restConfig, Call.init [(100, none)] true fun _ => {})]
    (Kept compact 100 "com.example.keyboard" atRest ∧ ∀ e ∈ es, Loads 100 atRest e) ∧
      ∀ fs e, fs ++ [e] <+: es →
        Kept compact 100 "com.example.keyboard" (run (Service.step compact) atRest (fs ++ [e])) ∧
          (Loads 100 (run (Service.step compact) atRest fs) e →
            Cached 100 "com.example.keyboard"
              (run (Service.step compact) atRest (fs ++ [e])).enabled) := by
  intro es
  have listed : (Installed.step atRest.catalog (.init [(100, none)])).fullImeInfos.lookup 100 =
      some [⟨handwriting, 1⟩, ⟨Enabled.keyboard, 1⟩] := by decide
  refine ⟨⟨atRest_kept, fun e member => ?_⟩, ?_⟩
  · rw [List.mem_singleton.1 member]
    exact ⟨rfl, _, listed, .inl nofun⟩
  · refine (current_kept compact compact_lawful Enabled.compact_verbatim_version 100 _ atRest
      atRest_kept es).2
      ⟨?_, trivial⟩
    intro _ _ infos there
    cases there

/-- An update of the other keyboard makes an entry with it alone, and `Init` loads by that. -/
theorem partial_entry_loses :
    let before := [(restConfig, Call.packageChanged 100 ⟨handwriting, 2⟩ true)]
    let load := (restConfig, Call.init [(100, none)] true fun _ => {})
    Kept compact 100 "com.example.keyboard" atRest ∧
      Loads 100 (run (Service.step compact) atRest before) load ∧
      ¬ Survives compact 100 "com.example.keyboard"
        (run (Service.step compact) atRest (before ++ [load])).enabled := by
  intro before load
  have exactly : ∀ s e, Kept compact 100 "com.example.keyboard" s →
      (Kept compact 100 "com.example.keyboard" (s.step compact e) ↔
        Shown 100 "com.example.keyboard" s e) :=
    step_kept_iff compact_lawful Enabled.compact_verbatim_version
  have earlier : Kept compact 100 "com.example.keyboard" (run (Service.step compact) atRest before) :=
    (exactly atRest (restConfig, .packageChanged 100 ⟨handwriting, 2⟩ true) atRest_kept).2 trivial
  have entry : (run (Service.step compact) atRest before).catalog.fullImeInfos.lookup 100 =
      some [⟨handwriting, 2⟩] := by decide
  have there : "com.example.keyboard" ∈ ((run (Service.step compact) atRest
    (before ++ [load])).catalog.installed.infos
      100).map FullImeInfo.name := by decide
  refine ⟨atRest_kept, ⟨rfl, _, entry, .inl nofun⟩, fun survives => ?_⟩
  have shown := (exactly _ load earlier).1 ⟨there, survives⟩
  rcases shown rfl rfl _ entry with none | listed
  · cases none
  · exact absurd listed (by decide)

/-- The query of the whole list has put out the other keyboard when it fails, and `Switch` loads by
that. -/
example :
    let switch := (restConfig, Call.switch 100 (some (1, .errorPackageManager)) true true true {})
    Kept compact 100 "com.example.keyboard" atRest ∧ Loads 100 atRest switch ∧
      ¬ Survives compact 100 "com.example.keyboard" (Service.step compact atRest switch).enabled := by
  intro switch
  have handed : atRest.catalog.handed 100 (some (1, .errorPackageManager)) =
    [⟨handwriting, 1⟩] := by decide
  refine ⟨atRest_kept, ⟨rfl, rfl, rfl, .inl ?_⟩, fun survives => ?_⟩
  · rw [handed]
    exact nofun
  have shown := (step_kept_iff compact_lawful Enabled.compact_verbatim_version atRest
    switch atRest_kept).1
    ⟨atRest_kept.installed, survives⟩
  have has := shown rfl rfl rfl rfl
  rw [handed] at has
  rcases has with none | listed
  · cases none
  · exact absurd listed (by decide)

end Imf.Installed
