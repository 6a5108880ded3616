/-
# Imf.Enabled.Queries -- the enabled state, asked for one and for many, and the system input method

`GetEnabledState` asks for one input method and `GetEnabledStates` fills in a list of them.  The first
loads the table when the one it is asked for is not cached, the second only when nothing is; an entry
it does not find keeps the status the caller came with.  `states_agree_iff` says when the two agree.

`OnFullExperienceTableChanged` passes the change on to `Update`, for the system input method and no
other; `Update` takes every input method but that one (`full_experience_reaches_iff`).
-/
import Imf.Enabled.GlobalTable
import Imf.Enabled.Removal

namespace Imf.Enabled

set_option autoImplicit false

open Lib (AtMostOne Json modifyFirst lookup)
open Imf.Json

/-- What is used of a `Property`. -/
structure Property where
  name : String
  status : EnabledStatus := .disabled
  deriving DecidableEq

section Queries

variable (cjson : CJson) (config : Config)

/-- `GetEnabledStateInner`. -/
def getEnabledStateInner (io : OpIo) (userId : Int32) (bundleName : String) (m : Manager) :
    Except ErrorCode EnabledStatus × Manager :=
  match getEnabledCacheWithCorrectFor cjson config io userId bundleName m with
  | (.error _, m) => (.error .errorEnableIme, m)
  | (.ok cfg, m) =>
      match cfg.enabledInfos.find? (isNamed bundleName) with
      | none => (.error .errorEnableIme, m)
      | some info => (.ok info.enabledStatus, m)

/-- `GetEnabledState`: its result and what it leaves in `status`. -/
def getEnabledState (io : OpIo) (userId : Int32) (bundleName : String)
    (status : EnabledStatus) (m : Manager) :
    (Except ErrorCode Unit × EnabledStatus) × Manager :=
  if bundleName = "" then ((.error .errorBadParameters, status), m)
  else
    match getEnabledStateInner cjson config io userId bundleName m with
    | (.error _, m) => ((.error .errorEnableIme,
        if bundleName = config.defaultIme then .basicMode else status), m)
    | (.ok found, m) =>
        ((.ok (), if bundleName = config.defaultIme ∧ found = .disabled then .basicMode else found), m)

/-- The loop of `GetEnabledStatesInner`. -/
def fillStates (infos : List ImeEnabledInfo) (props : List Property) : List Property :=
  props.map fun prop =>
    match infos.find? (isNamed prop.name) with
    | none => prop
    | some info => { prop with status := info.enabledStatus }

/-- `GetEnabledStatesInner`. -/
def getEnabledStatesInner (io : ReloadIo) (userId : Int32) (props : List Property) (m : Manager) :
    Except ErrorCode Unit × List Property × Manager :=
  let cfg := m.getEnabledCache userId
  if cfg.enabledInfos.isEmpty then
    match reload cjson config io userId [] m with
    | (.error code, m) => (.error code, props, m)
    | (.ok (), m) => (.ok (), fillStates (m.getEnabledCache userId).enabledInfos props, m)
  else (.ok (), fillStates cfg.enabledInfos props, m)

/-- The system input method, found disabled. -/
def sysDisabled (prop : Property) :
    Bool := decide (prop.name = config.defaultIme ∧ prop.status = .disabled)

/-- `GetEnabledStates`; the first property that is the disabled system input method is corrected. -/
def getEnabledStates (io : ReloadIo) (userId : Int32) (props : List Property) (m : Manager) :
    Except ErrorCode Unit × List Property × Manager :=
  if props.isEmpty then (.error .errorBadParameters, props, m)
  else
    let (ret, props, m) := getEnabledStatesInner cjson config io userId props m
    let props := modifyFirst (sysDisabled config) (fun prop => { prop with status := .basicMode }) props
    (ret.mapError fun _ => .errorEnableIme, props, m)

end Queries

/-- Whenever the batch succeeds, every property of it whose own query succeeds has its status from it.
Both start in the same state with the same answers, and the properties are those of installed input
methods. -/
def Agree (cjson : CJson) (config : Config) (io : ReloadIo) (userId : Int32) (m : Manager)
    (props : List Property) : Prop :=
  (getEnabledStates cjson config io userId props m).1 = .ok () →
    ∀ prop ∈ (getEnabledStates cjson config io userId props m).2.1, ∀ status,
      (getEnabledState cjson config { reload := io } userId prop.name status m).1.1 = .ok () →
        (getEnabledState cjson config { reload := io } userId prop.name status m).1.2 = prop.status

section Agreement

variable {cjson : CJson} {config : Config} {io : ReloadIo} {userId : Int32} {m : Manager}

/-- The status the table gives an input method, the system one never being disabled. -/
def reported (config : Config) (infos : List ImeEnabledInfo) (name : String) : Option EnabledStatus :=
  (infos.find? (isNamed name)).map fun info =>
    if name = config.defaultIme ∧ info.enabledStatus = .disabled then .basicMode else info.enabledStatus

/-- The table a single query reads. -/
theorem getEnabledState_ok {name : String} {status : EnabledStatus}
    (done : (getEnabledState cjson config { reload := io } userId name status m).1.1 = .ok ()) :
    name ≠ "" ∧ ∃ cfg, (getEnabledCacheWithCorrectFor cjson config
      { reload := io } userId name m).1 = .ok cfg ∧
      reported config cfg.enabledInfos name =
        some (getEnabledState cjson config { reload := io } userId name status m).1.2 := by
  unfold getEnabledState getEnabledStateInner at done ⊢
  split at done
  · cases done
  rename_i given
  refine ⟨given, ?_⟩
  rw [if_neg given]
  generalize getEnabledCacheWithCorrectFor cjson config { reload := io } userId name m = found at done ⊢
  obtain ⟨result, after⟩ := found
  cases result with
  | error code => cases done
  | ok cfg =>
      refine ⟨cfg, rfl, ?_⟩
      unfold reported
      dsimp only at done ⊢
      cases there : cfg.enabledInfos.find? (isNamed name) with
      | none =>
          rw [there] at done
          cases done
      | some info => rfl

/-- A single query finds what its table has. -/
theorem getEnabledState_of_reported {name : String} (given : name ≠ "") {cfg : ImeEnabledCfg}
    (loaded : (getEnabledCacheWithCorrectFor cjson config { reload := io } userId name m).1 = .ok cfg)
    {found : EnabledStatus} (there : reported config cfg.enabledInfos name = some found)
      (status : EnabledStatus) :
    (getEnabledState cjson config { reload := io } userId name status m).1 = (.ok (), found) := by
  unfold getEnabledState getEnabledStateInner
  rw [if_neg given]
  generalize getEnabledCacheWithCorrectFor cjson config { reload := io } userId name m =
    fetched at loaded ⊢
  obtain ⟨result, after⟩ := fetched
  cases loaded
  obtain ⟨info, inside, rfl⟩ := Option.map_eq_some_iff.1 there
  dsimp only
  rw [inside]

theorem fillStates_names (infos : List ImeEnabledInfo) (props : List Property) :
    (fillStates infos props).map Property.name = props.map Property.name := by
  refine Lib.map_map_same fun prop => ?_
  split <;> rfl

/-- What the batch makes of one property. -/
def answered (config : Config) (infos : List ImeEnabledInfo) (prop : Property) : Property :=
  match infos.find? (isNamed prop.name) with
  | none => if sysDisabled config prop then { prop with status := .basicMode } else prop
  | some info =>
      { prop with status :=
          if prop.name = config.defaultIme ∧ info.enabledStatus = .disabled then .basicMode
          else info.enabledStatus }

/-- With distinct names the correction of the first is the correction of all. -/
theorem corrected_fillStates (config : Config) (infos : List ImeEnabledInfo) {props : List Property}
    (distinct : (props.map Property.name).Nodup) :
    modifyFirst (sysDisabled config) (fun prop => { prop with status := .basicMode })
      (fillStates infos props) =
      props.map (answered config infos) := by
  have one : AtMostOne (sysDisabled config) (fillStates infos props) := by
    rw [← fillStates_names infos] at distinct
    refine (Lib.atMostOne_key distinct config.defaultIme).imp fun prop found => ?_
    exact decide_eq_true (of_decide_eq_true found).1
  rw [one.modifyFirst_eq_map, fillStates, List.map_map]
  refine List.map_congr_left fun prop _ => ?_
  unfold answered
  dsimp only [Function.comp_apply]
  cases infos.find? (isNamed prop.name) with
  | none => rfl
  | some info =>
      unfold sysDisabled
      dsimp only
      by_cases corrects : prop.name = config.defaultIme ∧ info.enabledStatus = .disabled
      · rw [if_pos (decide_eq_true corrects), if_pos corrects]
      · rw [if_neg (fun decided => corrects (of_decide_eq_true decided)), if_neg corrects]

/-- The batch reads one table: the cached one, or the one it loads when nothing is cached. -/
theorem getEnabledStates_ok {props : List Property} (distinct : (props.map Property.name).Nodup)
    (done : (getEnabledStates cjson config io userId props m).1 = .ok ()) :
    ∃ infos, (getEnabledStates cjson config io userId props m).2.1 = props.map (answered config infos) ∧
      ((m.getEnabledCache userId).enabledInfos ≠ [] ∧ infos = (m.getEnabledCache userId).enabledInfos ∨
        (m.getEnabledCache userId).enabledInfos = [] ∧
          infos = ((reload cjson config io userId [] m).2.getEnabledCache userId).enabledInfos) := by
  unfold getEnabledStates getEnabledStatesInner at done ⊢
  split at done
  · cases done
  rename_i given
  rw [if_neg given]
  dsimp only at done ⊢
  split
  · rename_i empty
    rw [if_pos empty] at done
    generalize reload cjson config io userId [] m = reloaded at done ⊢
    obtain ⟨result, after⟩ := reloaded
    cases result with
    | error code => cases done
    | ok => exact ⟨_, corrected_fillStates config _ distinct, .inr ⟨by simpa using empty, rfl⟩⟩
  · rename_i filled
    exact ⟨_, corrected_fillStates config _ distinct, .inl ⟨by simpa using filled, rfl⟩⟩

/-- The table can be loaded and has the input method. -/
def Loadable (cjson : CJson) (config : Config) (io : ReloadIo) (userId : Int32) (m : Manager)
    (name : String) : Prop :=
  ∃ cfg, (reloadedCache cjson config io userId m).1 = .ok cfg ∧
    cfg.enabledInfos.any (isNamed name) = true

theorem reported_isSome {infos : List ImeEnabledInfo} {name : String} :
    (reported config infos name).isSome ↔ infos.any (isNamed name) = true := by
  rw [reported, Option.isSome_map, List.find?_isSome, List.any_eq_true]

/-- A property the table has is answered as a single query of the same table. -/
theorem answered_status {infos : List ImeEnabledInfo} {prop : Property} {status : EnabledStatus}
    (there : reported config infos prop.name = some status) :
    (answered config infos prop).status = status := by
  obtain ⟨info, found, rfl⟩ := Option.map_eq_some_iff.1 there
  unfold answered
  rw [found]

theorem answered_name (config : Config) (infos : List ImeEnabledInfo) (prop : Property) :
    (answered config infos prop).name = prop.name := by
  unfold answered
  split
  · split <;> rfl
  · rfl

/-- The table of a single query of an installed input method. -/
theorem fetchedFor_cases {name : String} {cfg : ImeEnabledCfg}
    (loaded : (getEnabledCacheWithCorrectFor cjson config { reload := io } userId name m).1 = .ok cfg) :
    (m.getEnabledCache userId).enabledInfos.any (isNamed name) = true ∧ m.getEnabledCache userId = cfg ∨
      (m.getEnabledCache userId).enabledInfos.any (isNamed name) = false ∧
        (reloadedCache cjson config io userId m).1 = .ok cfg := by
  unfold getEnabledCacheWithCorrectFor at loaded
  dsimp only at loaded
  split at loaded
  · rename_i known
    cases loaded
    exact .inl ⟨known, rfl⟩
  · rename_i unknown
    exact .inr ⟨by simpa using unknown, loaded⟩

theorem fetchedFor_missing {name : String} {cfg : ImeEnabledCfg}
    (unknown : ¬ (m.getEnabledCache userId).enabledInfos.any (isNamed name) = true)
    (reloaded : (reloadedCache cjson config io userId m).1 = .ok cfg) :
    (getEnabledCacheWithCorrectFor cjson config { reload := io } userId name m).1 = .ok cfg := by
  unfold getEnabledCacheWithCorrectFor
  dsimp only
  rw [if_neg unknown]
  exact reloaded

theorem reloadedCache_cached {cfg : ImeEnabledCfg}
    (loaded : (reloadedCache cjson config io userId m).1 = .ok cfg) :
    (reload cjson config io userId [] m).2.getEnabledCache userId = cfg := by
  unfold reloadedCache at loaded
  generalize reload cjson config io userId [] m = reloaded at loaded ⊢
  obtain ⟨result, after⟩ := reloaded
  cases result with
  | error code => cases loaded
  | ok =>
      dsimp only at loaded
      split at loaded
      · cases loaded
      · cases loaded
        rfl

/-- Where nothing is cached, or nothing that could be loaded is missing from the cache, the two read
the same table. -/
theorem agree_of_known {props : List Property} (distinct : (props.map Property.name).Nodup)
    (known : (m.getEnabledCache userId).enabledInfos = [] ∨
      ∀ name ∈ props.map Property.name, name ≠ "" →
        (m.getEnabledCache userId).enabledInfos.any (isNamed name) = true ∨
          ¬ Loadable cjson config io userId m name) :
    Agree cjson config io userId m props := by
  intro done prop' member status single
  obtain ⟨infos, result, table⟩ := getEnabledStates_ok distinct done
  rw [result] at member
  obtain ⟨prop, inside, rfl⟩ := List.mem_map.1 member
  rw [answered_name] at single ⊢
  obtain ⟨given, cfg, loaded, found⟩ := getEnabledState_ok single
  have same : cfg.enabledInfos = infos := by
    rcases table with ⟨filled, rfl⟩ | ⟨empty, rfl⟩
    · rcases fetchedFor_cases loaded with ⟨-, rfl⟩ | ⟨unknown, reloaded⟩
      · rfl
      · have loadable : Loadable cjson config io userId m prop.name :=
          ⟨cfg, reloaded, reported_isSome.1 (by rw [found]; rfl)⟩
        rcases known.resolve_left filled prop.name (List.mem_map_of_mem inside) given
          with there | notLoadable
        · rw [there] at unknown
          cases unknown
        · exact absurd loadable notLoadable
    · rcases fetchedFor_cases loaded with ⟨there, -⟩ | ⟨-, reloaded⟩
      · rw [empty] at there
        cases there
      · rw [reloadedCache_cached reloaded]
  rw [same] at found
  exact (answered_status found).symm

/-- Where something is cached, the batch reads the cache and succeeds. -/
theorem getEnabledStates_cached (cjson : CJson) (config : Config) (io : ReloadIo)
    {props : List Property} (distinct : (props.map Property.name).Nodup) (given : props ≠ [])
    (filled : (m.getEnabledCache userId).enabledInfos ≠ []) :
    (getEnabledStates cjson config io userId props m).1 = .ok () ∧
      (getEnabledStates cjson config io userId props m).2.1 =
        props.map (answered config (m.getEnabledCache userId).enabledInfos) := by
  have some : props.isEmpty = false := by simpa using given
  have cached : (m.getEnabledCache userId).enabledInfos.isEmpty = false := by simpa using filled
  unfold getEnabledStates getEnabledStatesInner
  rw [some]
  dsimp only
  rw [cached]
  exact ⟨rfl, corrected_fillStates config _ distinct⟩

/-- A property that is not in the table keeps a status that is not corrected. -/
theorem answered_missing {infos : List ImeEnabledInfo} {prop : Property}
    (unknown : ¬ infos.any (isNamed prop.name) = true) (enabled : prop.status ≠ .disabled) :
    answered config infos prop = prop := by
  have absent : infos.find? (isNamed prop.name) = none := by
    rw [List.find?_eq_none]
    intro info inside picked
    exact unknown (List.any_eq_true.2 ⟨info, inside, picked⟩)
  unfold answered
  rw [absent]
  exact if_neg fun disabled => enabled (of_decide_eq_true disabled).2

theorem not_agree_of_status {props : List Property} {prop : Property} {status found : EnabledStatus}
    (done : (getEnabledStates cjson config io userId props m).1 = .ok ())
    (inBatch : prop ∈ (getEnabledStates cjson config io userId props m).2.1)
    (single : (getEnabledState cjson config { reload := io } userId prop.name status m).1 =
      (.ok (), found))
    (differs : found ≠ prop.status) : ¬ Agree cjson config io userId m props := by
  intro agree
  have equal := agree done prop inBatch status (by rw [single])
  rw [single] at equal
  exact differs equal

/-- Something is cached, but not one that could be loaded: the caller's status is left in its place. -/
theorem not_agree_of_missing {names : List String} (distinct : names.Nodup) {name : String}
    (listed : name ∈ names)
    (given : name ≠ "") (filled : (m.getEnabledCache userId).enabledInfos ≠ [])
    (unknown : ¬ (m.getEnabledCache userId).enabledInfos.any (isNamed name) = true)
    (loadable : Loadable cjson config io userId m name) :
    ∃ props : List Property,
      props.map Property.name = names ∧ ¬ Agree cjson config io userId m props := by
  obtain ⟨cfg, reloaded, inTable⟩ := loadable
  obtain ⟨found, there⟩ := Option.isSome_iff_exists.1 (reported_isSome.2 inTable)
  -- A status that is neither the one found nor one that would be corrected.
  obtain ⟨came, differs, enabled⟩ : ∃ came : EnabledStatus, found ≠ came ∧ came ≠ .disabled := by
    by_cases basic : found = .basicMode
    · exact ⟨.fullExperienceMode, by rw [basic]; decide, by decide⟩
    · exact ⟨.basicMode, basic, by decide⟩
  have named : (names.map fun name => ({ name := name, status := came } : Property)).map
    Property.name = names := by
    rw [List.map_map]
    exact List.map_id names
  refine ⟨names.map fun name => { name := name, status := came }, named, fun agree => ?_⟩
  obtain ⟨done, result⟩ := getEnabledStates_cached cjson config io (named.symm ▸ distinct)
    (List.ne_nil_of_mem (List.mem_map_of_mem listed)) filled
  have inBatch : ({ name := name, status := came } : Property) ∈
      (getEnabledStates cjson config io userId
        (names.map fun name => { name := name, status := came }) m).2.1 := by
    rw [result]
    exact List.mem_map.2 ⟨_, List.mem_map_of_mem listed, answered_missing unknown enabled⟩
  have single := getEnabledState_of_reported given (fetchedFor_missing unknown reloaded) there came
  exact not_agree_of_status done inBatch single differs agree

/-- **When batch and single queries agree.**  For every state, every answer of the settings and every
list of distinct names: whatever statuses the caller comes with, the batch and the single queries agree
if and only if nothing is cached, or every name that is missing from the cached table cannot be loaded
either. -/
theorem states_agree_iff (cjson : CJson) (config : Config) (io : ReloadIo)
    (userId : Int32) (m : Manager) {names : List String} (distinct : names.Nodup) :
    (∀ props : List Property, props.map Property.name = names → Agree cjson config io userId m props) ↔
      (m.getEnabledCache userId).enabledInfos = [] ∨
        ∀ name ∈ names, name ≠ "" →
          (m.getEnabledCache userId).enabledInfos.any (isNamed name) = true ∨
            ¬ Loadable cjson config io userId m name := by
  constructor
  · intro agree
    refine or_iff_not_imp_left.2 fun filled name listed given =>
      or_iff_not_imp_left.2 fun unknown loadable => ?_
    obtain ⟨props, named, differs⟩ := not_agree_of_missing distinct listed given filled unknown loadable
    exact differs (agree props named)
  · rintro known props rfl
    exact agree_of_known distinct known

end Agreement

/-! ## OnFullExperienceTableChanged -/

/-- The status the list gives the system input method. -/
def listedStatus (config : Config) (bundleNames : List String) : EnabledStatus :=
  if bundleNames.any fun bundleName => decide (bundleName = config.defaultIme) then .fullExperienceMode
  else .basicMode

/-- `OnFullExperienceTableChanged`; `extName` is that of `GetDefaultIme`, `read` answers the read of the
list and `now` is the clock. -/
def onFullExperienceTableChanged (cjson : CJson) (config : Config) (read : UpgradeIo) (io : OpIo)
    (now extName : String) (userId : Int32) (m : Manager) : Manager :=
  if config.defaultIme = "" then m
  else
    match getFullExperienceTable cjson read m.settings userId with
    | .error _ => m
    | .ok bundleNames =>
        (update cjson config io now userId config.defaultIme extName
          (listedStatus config bundleNames) m).2

/-- The change has reached the table: the system input method has the status of the list, and no other
entry has changed. -/
structure Reached (config : Config) (bundleNames : List String)
    (before after : List ImeEnabledInfo) : Prop where
  system : ∀ info ∈ after,
    info.bundleName = config.defaultIme → info.enabledStatus = listedStatus config bundleNames
  names : after.map ImeEnabledInfo.bundleName = before.map ImeEnabledInfo.bundleName
  others : ∀ name, name ≠ config.defaultIme →
    lookup ImeEnabledInfo.bundleName name after = lookup ImeEnabledInfo.bundleName name before

section FullExperience

variable {config : Config}

/-- `CheckUpdate` lets no change of the system input method through. -/
theorem checkUpdate_system (config : Config) (io : OpIo) (ext : String) (status : EnabledStatus) :
    ∃ code, checkUpdate config io config.defaultIme ext status = .error code := by
  cases checked : checkUpdate config io config.defaultIme ext status with
  | error code => exact ⟨code, rfl⟩
  | ok => exact absurd rfl (checkUpdate_notSystem checked)

theorem onFullExperienceTableChanged_eq (cjson : CJson) (config : Config) (read : UpgradeIo) (io : OpIo)
    (now extName : String) (userId : Int32) (m : Manager) :
    onFullExperienceTableChanged cjson config read io now extName userId m = m := by
  unfold onFullExperienceTableChanged
  split
  · rfl
  split
  · rfl
  · rename_i bundleNames _
    obtain ⟨code, refused⟩ := checkUpdate_system config io extName (listedStatus config bundleNames)
    rw [update, refused]

/-- The entries of the persisted table. -/
def Manager.persistedInfos (cjson : CJson) (m : Manager) (userId : Int32) : List ImeEnabledInfo :=
  match m.settings.userTable userId with
  | some content => (readCfg cjson content).enabledInfos
  | none => []

/-- The table has the status of the list already. -/
def HasListed (config : Config) (bundleNames : List String) (infos : List ImeEnabledInfo) : Prop :=
  ∀ info ∈ infos, info.bundleName = config.defaultIme →
    info.enabledStatus = listedStatus config bundleNames

theorem reached_self_iff {bundleNames : List String} {infos : List ImeEnabledInfo} :
    Reached config bundleNames infos infos ↔ HasListed config bundleNames infos :=
  ⟨fun reached => reached.system, fun already => ⟨already, rfl, fun _ _ => rfl⟩⟩

/-- **When a changed list reaches the system input method.**  For every state and all answers of the
settings: after the change is handled, the cached and the persisted table have the status of the
list that was read for the system input method and are otherwise the same, if and only if they had
that status before. -/
theorem full_experience_reaches_iff (cjson : CJson) (config : Config) (read : UpgradeIo) (io : OpIo)
    (now extName : String) (userId : Int32) (m : Manager) :
    (∀ bundleNames, getFullExperienceTable cjson read m.settings userId = .ok bundleNames →
        Reached config bundleNames (m.getEnabledCache userId).enabledInfos
          ((onFullExperienceTableChanged cjson config read io now extName userId m).getEnabledCache
            userId).enabledInfos ∧
        Reached config bundleNames (m.persistedInfos cjson userId)
          ((onFullExperienceTableChanged cjson config read io now extName userId m).persistedInfos
            cjson userId)) ↔
      ∀ bundleNames, getFullExperienceTable cjson read m.settings userId = .ok bundleNames →
        HasListed config bundleNames (m.getEnabledCache userId).enabledInfos ∧
          HasListed config bundleNames (m.persistedInfos cjson userId) := by
  rw [onFullExperienceTableChanged_eq]
  refine forall_congr' fun bundleNames => forall_congr' fun _ => ?_
  rw [reached_self_iff, reached_self_iff]

end FullExperience

/-! ## Poles -/

/-- The bundle manager knows both input methods. -/
def bothInstalled : ReloadIo where
  cfg := { query := .ok [systemIme, keyboard] }

/-- Asked for one that is cached, the two agree. -/
theorem cached_states_agree :
    Agree compact systemConfig bothInstalled 100 systemLoaded [{ name := "com.example.keyboard" }] := by
  have known : ∀ name ∈ ["com.example.keyboard"], name ≠ "" →
      (systemLoaded.getEnabledCache 100).enabledInfos.any (isNamed name) = true ∨
        ¬ Loadable compact systemConfig bothInstalled 100 systemLoaded name :=
    List.forall_mem_singleton.2 fun _ => .inl (by decide)
  exact (states_agree_iff compact systemConfig bothInstalled 100 systemLoaded
    (List.nodup_singleton _)).2 (.inr known)
    [{ name := "com.example.keyboard" }] rfl

/-- The keyboard is persisted but not cached. -/
def systemOnly : Manager where
  settings := systemSettings
  imeEnabledCfg _ := some { systemCurrent with enabledInfos := systemCurrent.enabledInfos.take 1 }

/-- A table that is loaded and written is the one that the cache is asked for. -/
theorem reloadedCache_of_loaded {cjson : CJson} {config : Config} {io : ReloadIo}
    {userId : Int32} {m : Manager} {cfg : ImeEnabledCfg} {s : Settings}
    (loaded : getEnabledCfg cjson config io.cfg userId [] m.settings = (.ok cfg, s))
    (written : io.write.reported = true) (filled : cfg.enabledInfos.isEmpty = false) :
    (reloadedCache cjson config io userId m).1 = .ok cfg := by
  have cached (n : Manager) : (n.setEnabledCache userId cfg).getEnabledCache userId = cfg := by
    simp [Manager.getEnabledCache, Manager.setEnabledCache]
  simp [reloadedCache, reload, loaded, storeCfg, written, cached, filled]

/-- Asked for the keyboard alone, the code loads it and finds it enabled; asked for a list with it, the
code leaves it disabled as it came. -/
theorem missing_states_disagree :
    ¬ Agree compact systemConfig bothInstalled 100 systemOnly [{ name := "com.example.keyboard" }] := by
  have reloaded : (reloadedCache compact systemConfig bothInstalled 100 systemOnly).1 =
    .ok systemCurrent :=
    reloadedCache_of_loaded (m := systemOnly) (systemCurrent_decoded rfl rfl) rfl rfl
  have there : reported systemConfig systemCurrent.enabledInfos "com.example.keyboard" =
    some .basicMode := by decide
  have single := getEnabledState_of_reported (by decide)
    (fetchedFor_missing (by decide) reloaded) there .disabled
  exact not_agree_of_status rfl (List.mem_singleton.2 rfl) single (by decide)

/-- The list of full experience, with the system input method on it. -/
def fullExperienceList : Json :=
  .obj [("fullExperienceList", .obj [(userKey 100, ofStrings ["com.example.system"])])]

theorem fullExperienceList_read :
    readSecurityModeCfg compact 100 (compact.print fullExperienceList) =
      some ["com.example.system"] := by
  refine (readList_print compact_lawful (by decide) (by decide)
    [(100, ["com.example.system"])] 100).trans ?_
  exact congrArg (fun name => some [name]) (cStr_eq nulFree_systemIme)

theorem getFullExperienceTable_of_read {cjson : CJson} {s : Settings} {userId : Int32}
    {content : String} {names : List String} (stored : s.securityMode = some content)
    (read : readSecurityModeCfg cjson userId content = some names) :
    getFullExperienceTable cjson {} s userId = .ok (nameSet names) := by
  have found : getStringValue (UpgradeIo.fullExperience {}) s.securityMode = .ok content := by
    rw [stored]
    rfl
  rw [getFullExperienceTable, found]
  dsimp only
  rw [read]

/-- The system input method is in basic mode, cached and persisted. -/
def basicSystem : Manager where
  settings := { systemSettings with securityMode := some (compact.print fullExperienceList) }
  imeEnabledCfg _ := some systemCurrent

/-- The system input method is on the list and stays in basic mode. -/
theorem listed_system_stays_basic :
    getFullExperienceTable compact {} basicSystem.settings 100 = .ok (nameSet ["com.example.system"]) ∧
      ¬ Reached systemConfig (nameSet ["com.example.system"])
        (basicSystem.getEnabledCache 100).enabledInfos
        ((onFullExperienceTableChanged compact systemConfig {}
          {} "1" "SystemExt" 100 basicSystem).getEnabledCache
          100).enabledInfos := by
  refine ⟨getFullExperienceTable_of_read rfl fullExperienceList_read, ?_⟩
  rw [onFullExperienceTableChanged_eq]
  intro reached
  have status := reached.system _ List.mem_cons_self rfl
  exact absurd status (by decide)

end Imf.Enabled
