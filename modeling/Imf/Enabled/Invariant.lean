/-
# Imf.Enabled.Invariant -- every table is well-formed

The cached and the persisted table of every user, along every run of the operations with
whatever the settings store answers.  A persisted text is either in an old format, in which
the reader of tables finds nothing, or the text of a well-formed table (`TableText`).

`tables_wellFormed` is the run theorem.  Writing comes down to one lemma (`Good.storeCfg`),
loading to another (`getEnabledCfg_good`); every operation is an edit between the two.
-/
import Imf.Enabled.Manager

namespace Imf.Enabled

set_option autoImplicit false

open Lib (bind_eq_ok Json AtMostOne modifyFirst)
open Imf.Json

section Invariant

variable {cjson : CJson} {config : Config}

/-! ## Migrated tables -/

theorem getStrings_nulFree {node : Json} {name : String} {names : List String}
    (read : getStrings node name = some names) : ∀ name ∈ names, NulFree name := by
  unfold getStrings at read
  split at read
  · exact stringItems_nulFree read
  · cases read

theorem readList_nulFree {listName : String} {userId : Int32} {content : String} {names : List String}
    (read : readList cjson listName userId content = some names) : ∀ name ∈ names, NulFree name := by
  obtain ⟨node, -, object⟩ := Option.bind_eq_some_iff.1 read
  unfold getObject at object
  split at object
  · exact getStrings_nulFree object
  · cases object

/-- A list of names as `MergeTwoTable` gets it. -/
def NameList (names : List String) : Prop := names.Nodup ∧ ∀ name ∈ names, NulFree name

theorem nameList_nil : NameList [] := ⟨List.nodup_nil, by simp⟩

theorem nameList_nameSet {names : List String} (plain : ∀ name ∈ names, NulFree name) :
    NameList (nameSet names) :=
  ⟨nameSet_nodup names, fun name member => plain name (mem_nameSet.1 member)⟩

theorem getTableNames_nameList {fault : Fault} {stored : Option String} {userId : Int32}
    {names : List String} (read : getTableNames cjson fault stored userId = .ok names) :
    NameList names := by
  unfold getTableNames parseEnabledTable at read
  split at read
  · split at read
    · rename_i identities list
      cases read
      exact nameList_nameSet (readList_nulFree list)
    · cases read
  · cases read

theorem getEnabledTable_nameList {io : UpgradeIo} {s : Settings} {userId : Int32} {names : List String}
    (read : getEnabledTable cjson io s userId = .ok names) : NameList names := by
  unfold getEnabledTable at read
  split at read
  · exact getTableNames_nameList read
  · exact getTableNames_nameList read

theorem getFullExperienceTable_nameList {io : UpgradeIo} {s : Settings} {userId : Int32}
    {names : List String} (read : getFullExperienceTable cjson io s userId = .ok names) :
    NameList names := by
  unfold getFullExperienceTable at read
  split at read
  · split at read
    · rename_i identities list
      cases read
      exact nameList_nameSet (readList_nulFree list)
    · cases read
  · cases read

theorem orNoNames_nameList {read : Except ErrorCode (List String)} {names : List String}
    (list : ∀ names, read = .ok names → NameList names) (result : orNoNames read = .ok names) :
    NameList names := by
  unfold orNoNames at result
  split at result
  · cases result
    exact nameList_nil
  · cases result
    exact nameList_nil
  · exact list names result

/-- The lists of a migration. -/
theorem gather_nameLists {io : UpgradeIo} {userId : Int32} {imeInfos : List FullImeInfo} {s : Settings}
    {src : Sources} (gathered : gather cjson io userId imeInfos s = .ok src) :
    NameList src.enabled ∧ NameList src.full := by
  obtain ⟨enabledNames, enabled, gathered⟩ := bind_eq_ok.1 gathered
  obtain ⟨fullNames, full, gathered⟩ := bind_eq_ok.1 gathered
  obtain ⟨installed, -, gathered⟩ := bind_eq_ok.1 gathered
  obtain ⟨persist, -, gathered⟩ := bind_eq_ok.1 gathered
  cases gathered
  exact ⟨orNoNames_nameList (fun _ => getEnabledTable_nameList) enabled,
    orNoNames_nameList (fun _ => getFullExperienceTable_nameList) full⟩

theorem table_wellFormed {src : Sources} (enabled : NameList src.enabled) (full : NameList src.full) :
    WellFormed (src.table config) := by
  obtain ⟨good, unmarked⟩ := mergeTwo_wellFormed enabled.1 enabled.2 full.2
  obtain ⟨good, unmarked⟩ := padded_wellFormed config good unmarked src.installed
  obtain ⟨good, noTmp⟩ := padCurrent_wellFormed config good unmarked src.persist
  exact padTmp_wellFormed good noTmp src.persist

/-- What a migration writes is well-formed. -/
theorem migratedCfg_wellFormed {io : UpgradeIo} {userId : Int32} {imeInfos : List FullImeInfo}
    {s : Settings} {cfg : ImeEnabledCfg}
    (made : migratedCfg cjson config io userId imeInfos s = .ok cfg) : WellFormed cfg.enabledInfos := by
  rw [migratedCfg_eq] at made
  cases gathered : gather cjson io userId imeInfos s with
  | error code =>
      rw [gathered] at made
      cases made
  | ok src =>
      rw [gathered] at made
      cases made
      obtain ⟨enabled, full⟩ := gather_nameLists gathered
      exact table_wellFormed enabled full

/-! ## Persisted texts -/

/-- A text of an earlier version: lists of names per user. -/
def LegacyText (cjson : CJson) (content : String) : Prop :=
  ∃ lists, content = cjson.print (enableImeList lists)

/-- What a user table can hold. -/
def TableText (cjson : CJson) (content : String) : Prop :=
  LegacyText cjson content ∨ ∃ cfg : ImeEnabledCfg,
    content = cfg.text cjson ∧ WellFormed cfg.enabledInfos

theorem userKey_nulFree (userId : Int32) : NulFree (userKey userId) := by
  intro c member zero
  rw [userKey, String.toList_ofList] at member
  have printable := Json.writeInt_printable _ c member
  rw [zero] at printable
  exact absurd printable (by decide)

theorem plain_ofStrings (values : List String) : Plain (ofStrings values) := by
  show PlainItems (values.map ofString)
  rw [plainItems_iff]
  intro item member
  obtain ⟨value, -, rfl⟩ := List.mem_map.1 member
  exact plain_ofString value

theorem plain_lists {listName : String} (nulFree : NulFree listName)
    (lists : List (Int32 × List String)) :
    Plain (.obj [(listName, .obj (lists.map fun list => (userKey list.1, ofStrings list.2)))]) := by
  have fields : PlainFields (lists.map fun list => (userKey list.1, ofStrings list.2)) := by
    rw [plainFields_iff]
    intro field member
    obtain ⟨list, -, rfl⟩ := List.mem_map.1 member
    exact ⟨userKey_nulFree list.1, plain_ofStrings list.2⟩
  exact ⟨nulFree, fields, trivial⟩

theorem plain_enableImeList (lists : List (Int32 × List String)) : Plain (enableImeList lists) :=
  plain_lists (by decide) lists

/-- The reader of tables finds nothing in a text of an earlier version. -/
theorem readCfg_legacy (lawful : cjson.Lawful) {content : String} (legacy : LegacyText cjson content) :
    readCfg cjson content = {} := by
  obtain ⟨lists, rfl⟩ := legacy
  rw [readCfg, lawful.cStr_print, lawful.parse_print _ (plain_enableImeList lists)]
  have version : getSubNode (enableImeList lists) "version" = none :=
    getSubNode_of_missing (by decide) (by simp [sameKey])
  have inputmethods : getSubNode (enableImeList lists) "inputmethods" = none :=
    getSubNode_of_missing (by decide) (by simp [sameKey])
  show unmarshalCfg (enableImeList lists) = {}
  rw [unmarshalCfg, getString, version, inputmethods]
  rfl

theorem readCfg_empty (lawful : cjson.Lawful) : readCfg cjson "" = {} := by
  have empty : cStr "" = "" := rfl
  rw [readCfg, empty, lawful.parse_empty]

/-- Names that are C strings survive, and so do the marks. -/
theorem wellFormed_cText {infos : List ImeEnabledInfo} (good : WellFormed infos) :
    WellFormed (infos.map ImeEnabledInfo.cText) := by
  refine good.of_names ?_ (good.oneDefault.map fun _ marked => marked)
    (good.oneTmp.map fun _ marked => marked)
  rw [List.map_map]
  exact List.map_congr_left fun info member => cStr_eq (good.plain _ (List.mem_map_of_mem member))

theorem TableText.wellFormed (lawful : cjson.Lawful) {content : String}
    (text : TableText cjson content) :
    WellFormed (readCfg cjson content).enabledInfos := by
  rcases text with legacy | ⟨cfg, rfl, good⟩
  · rw [readCfg_legacy lawful legacy]
    exact wellFormed_nil
  · rw [readCfg_text lawful]
    exact wellFormed_cText good

/-! ## States -/

/-- Every user table holds such a text. -/
def GoodSettings (cjson : CJson) (s : Settings) : Prop :=
  ∀ userId content, s.userTable userId = some content → TableText cjson content

/-- And every cached table is well-formed. -/
structure Good (cjson : CJson) (m : Manager) : Prop where
  settings : GoodSettings cjson m.settings
  cache : ∀ userId cfg, m.imeEnabledCfg userId = some cfg → WellFormed cfg.enabledInfos

theorem GoodSettings.setUserTable {s : Settings} (good : GoodSettings cjson s) (write : Write)
    (userId : Int32) {content : String} (text : TableText cjson content) :
    GoodSettings cjson (s.setUserTable write userId content) := by
  intro other found there
  by_cases same : other = userId
  · subst same
    rw [Settings.setUserTable_self, Write.put] at there
    split at there
    · cases there
      exact text
    · exact good other found there
  · rw [Settings.setUserTable_other _ _ _ same] at there
    exact good other found there

/-- `Upgrade` writes a well-formed table or nothing. -/
theorem upgrade_good {s : Settings} (good : GoodSettings cjson s) (config : Config) (io : UpgradeIo)
    (userId : Int32) (imeInfos : List FullImeInfo) :
    GoodSettings cjson (upgrade cjson config io userId imeInfos s).2 := by
  unfold upgrade
  split
  · exact good
  · split
    · exact good
    · split
      · exact good
      · unfold migrate
        split
        · exact good
        · rename_i cfg made
          have written := good.setUserTable io.write userId
            (.inr ⟨cfg, rfl, migratedCfg_wellFormed made⟩)
          dsimp only
          split
          · exact written
          · exact written

/-- What a tolerant read finds is well-formed. -/
theorem GoodSettings.readCfg (lawful : cjson.Lawful) {s : Settings} (good : GoodSettings cjson s)
    {fault : Fault} {userId : Int32} {content : String}
    (read : orEmpty (getStringValue fault (s.userTable userId)) = .ok content) :
    WellFormed (readCfg cjson content).enabledInfos := by
  rcases orEmpty_ok read with found | ⟨-, rfl⟩
  · exact (good userId content (getStringValue_ok found).2).wellFormed lawful
  · rw [readCfg_empty lawful]
    exact wellFormed_nil

/-- What `GetEnabledCfg` finds is well-formed, whichever of its reads it comes from. -/
theorem getEnabledCfg_good (lawful : cjson.Lawful) {s : Settings} (good : GoodSettings cjson s)
    (config : Config) (io : CfgIo) (userId : Int32) (imeInfos : List FullImeInfo) :
    GoodSettings cjson (getEnabledCfg cjson config io userId imeInfos s).2 ∧
      ∀ cfg, (getEnabledCfg cjson config io userId imeInfos s).1 = .ok cfg →
        WellFormed cfg.enabledInfos := by
  unfold getEnabledCfg
  split
  · exact ⟨good, nofun⟩
  · rename_i userContent first
    have firstGood := good.readCfg lawful first
    split
    · -- The table is there; it is corrected by what is installed.
      dsimp only
      split
      · exact ⟨good, nofun⟩
      · rename_i installed _
        refine ⟨good, ?_⟩
        rintro cfg ⟨⟩
        exact firstGood.correctBy installed
    · -- It is migrated first, and read again.
      have upgraded := upgrade_good good config io.upgrade userId imeInfos
      split
      · rename_i code after ran
        rw [ran] at upgraded
        exact ⟨upgraded, nofun⟩
      · rename_i after ran
        rw [ran] at upgraded
        split
        · refine ⟨upgraded, ?_⟩
          rintro cfg ⟨⟩
          exact firstGood
        · exact ⟨upgraded, nofun⟩
        · rename_i content second
          refine ⟨upgraded, ?_⟩
          rintro cfg ⟨⟩
          exact (upgraded userId content (getStringValue_ok second).2).wellFormed lawful

/-! ## Operations -/

theorem Good.withSettings {m : Manager} (good : Good cjson m) {s : Settings}
    (settings : GoodSettings cjson s) : Good cjson (m.withSettings s) :=
  ⟨settings, good.cache⟩

/-- Writing and caching a well-formed table. -/
theorem Good.storeCfg {m : Manager} (good : Good cjson m) (write : Write) (userId : Int32)
    {cfg : ImeEnabledCfg} (table : WellFormed cfg.enabledInfos) :
    Good cjson (storeCfg cjson write userId cfg m).2 := by
  have written : GoodSettings cjson (m.settings.setUserTable write userId (cfg.text cjson)) :=
    good.settings.setUserTable write userId (.inr ⟨cfg, rfl, table⟩)
  unfold Enabled.storeCfg
  dsimp only
  split
  · refine ⟨written, ?_⟩
    intro other found (there : Function.update m.imeEnabledCfg userId (some cfg) other = some found)
    by_cases same : other = userId
    · rw [same, Function.update_self] at there
      cases there
      exact table
    · rw [Function.update_of_ne same] at there
      exact good.cache other found there
  · exact good.withSettings written

/-- A good state together with a well-formed table, if there is one. -/
def Loaded (cjson : CJson) (result : Except ErrorCode ImeEnabledCfg × Manager) : Prop :=
  Good cjson result.2 ∧ ∀ cfg, result.1 = .ok cfg → WellFormed cfg.enabledInfos

section Operation

variable (lawful : cjson.Lawful) {m : Manager} (good : Good cjson m) (config : Config)
include lawful good

theorem reload_good (io : ReloadIo) (userId : Int32) (imeInfos : List FullImeInfo) :
    Good cjson (reload cjson config io userId imeInfos m).2 := by
  obtain ⟨settings, table⟩ := getEnabledCfg_good lawful good.settings config io.cfg userId imeInfos
  unfold Enabled.reload
  split
  · rename_i code s ran
    rw [ran] at settings
    exact good.withSettings settings
  · rename_i cfg s ran
    rw [ran] at settings table
    exact (good.withSettings settings).storeCfg io.write userId (table cfg rfl)

omit lawful in
theorem getEnabledCache_wellFormed (userId : Int32) :
    WellFormed (m.getEnabledCache userId).enabledInfos := by
  unfold Manager.getEnabledCache
  cases there : m.imeEnabledCfg userId with
  | none => exact wellFormed_nil
  | some cfg => exact good.cache userId cfg there

theorem reloadedCache_good (io : ReloadIo) (userId : Int32) :
    Loaded cjson (reloadedCache cjson config io userId m) := by
  have reloaded := reload_good lawful good config io userId []
  unfold reloadedCache
  split
  · rename_i code after ran
    rw [ran] at reloaded
    exact ⟨reloaded, nofun⟩
  · rename_i after ran
    rw [ran] at reloaded
    refine ⟨reloaded, ?_⟩
    intro cfg found
    dsimp only at found
    split at found
    · cases found
    · cases found
      exact getEnabledCache_wellFormed reloaded userId

theorem getEnabledCacheWithCorrect_good (io : ReloadIo) (userId : Int32) :
    Loaded cjson (getEnabledCacheWithCorrect cjson config io userId m) := by
  unfold getEnabledCacheWithCorrect
  dsimp only
  split
  · refine ⟨good, ?_⟩
    rintro cfg ⟨⟩
    exact getEnabledCache_wellFormed good userId
  · exact reloadedCache_good lawful good config io userId

theorem getEnabledCacheWithCorrectFor_good (io : OpIo) (userId : Int32) (bundleName : String) :
    Loaded cjson (getEnabledCacheWithCorrectFor cjson config io userId bundleName m) := by
  unfold getEnabledCacheWithCorrectFor
  dsimp only
  split
  · refine ⟨good, ?_⟩
    rintro cfg ⟨⟩
    exact getEnabledCache_wellFormed good userId
  · split
    · exact ⟨good, nofun⟩
    · exact reloadedCache_good lawful good config io.reload userId

theorem init_good (ready : Bool) (users : List (Int32 × List FullImeInfo × ReloadIo)) :
    Good cjson (init cjson config ready users m).2 := by
  unfold Enabled.init
  split
  · exact good
  · refine Lib.run_always (P := Good cjson) ?_ good users
    intro m user good
    unfold initUser
    split
    · exact reload_good lawful good config user.2.2 user.1 user.2.1
    · exact good

theorem switch_good (ready handler : Bool) (io : ReloadIo) (userId : Int32)
    (imeInfos : List FullImeInfo) :
    Good cjson (switch cjson config ready handler io userId imeInfos m).2 := by
  unfold Enabled.switch
  dsimp only
  split
  · show Good cjson (if handler then _ else m)
    split
    · exact ⟨good.settings, good.cache⟩
    · exact good
  · split
    · exact good
    · exact reload_good lawful good config io userId imeInfos

theorem add_good (io : OpIo) (userId : Int32) (imeInfo : FullImeInfo) :
    Good cjson (add cjson config io userId imeInfo m).2 := by
  have loaded := getEnabledCacheWithCorrect_good lawful good config io.reload userId
  unfold Enabled.add
  split
  · exact good
  · split
    · rename_i code after ran
      rw [ran] at loaded
      exact loaded.1
    · rename_i cfg after ran
      rw [ran] at loaded
      dsimp only
      split
      · exact loaded.1
      · exact loaded.1.storeCfg io.write userId ((loaded.2 cfg rfl).install imeInfo)

theorem delete_good (io : OpIo) (userId : Int32) (bundleName : String) :
    Good cjson (delete cjson config io userId bundleName m).2 := by
  have loaded := getEnabledCacheWithCorrect_good lawful good config io.reload userId
  unfold Enabled.delete
  split
  · rename_i code after ran
    rw [ran] at loaded
    exact loaded.1
  · rename_i cfg after ran
    rw [ran] at loaded
    split
    · exact loaded.1
    · exact loaded.1.storeCfg io.write userId (loaded.2 cfg rfl).modCurrentIme

omit lawful good in
theorem updated_wellFormed {infos : List ImeEnabledInfo} (table : WellFormed infos)
    (bundleName : String) (status : EnabledStatus) (now : String) :
    WellFormed (updated config bundleName status now infos) := by
  have changed : WellFormed (modifyFirst (isNamed bundleName) (setStatus status now) infos) :=
    table.modify _ (fun _ => rfl) fun _ => rfl
  unfold updated
  dsimp only
  split
  · exact changed.modCurrentIme
  · exact changed

theorem update_good (io : OpIo) (now : String) (userId : Int32) (bundleName extensionName : String)
    (status : EnabledStatus) :
    Good cjson (update cjson config io now userId bundleName extensionName status m).2 := by
  have loaded := getEnabledCacheWithCorrectFor_good lawful good config io userId bundleName
  unfold Enabled.update
  split
  · exact good
  · split
    · rename_i code after ran
      rw [ran] at loaded
      exact loaded.1
    · rename_i cfg after ran
      rw [ran] at loaded
      split
      · exact loaded.1
      · split
        · exact loaded.1
        · exact loaded.1.storeCfg io.write userId
            (updated_wellFormed config (loaded.2 cfg rfl) bundleName status now)

theorem setCurrentIme_good (io : OpIo) (userId : Int32) (imeId subName : String) (isSetByUser : Bool) :
    Good cjson (setCurrentIme cjson config io userId imeId subName isSetByUser m).2 := by
  have loaded := getEnabledCacheWithCorrectFor_good lawful good config io userId (splitImeId imeId).1
  unfold Enabled.setCurrentIme
  dsimp only
  split
  · exact good
  · split
    · rename_i code after ran
      rw [ran] at loaded
      exact loaded.1
    · rename_i cfg after ran
      rw [ran] at loaded
      split
      · exact loaded.1
      · exact loaded.1.storeCfg io.write userId ((loaded.2 cfg rfl).setCurrent _ _ subName isSetByUser)

theorem setTmpIme_good (io : OpIo) (userId : Int32) (imeId : String) :
    Good cjson (setTmpIme cjson config io userId imeId m).2 := by
  unfold Enabled.setTmpIme
  split
  · have loaded := getEnabledCacheWithCorrect_good lawful good config io.reload userId
    split
    · rename_i code after ran
      rw [ran] at loaded
      exact loaded.1
    · rename_i cfg after ran
      rw [ran] at loaded
      split
      · exact loaded.1
      · exact loaded.1.storeCfg io.write userId (loaded.2 cfg rfl).clearTmp
  · have loaded := getEnabledCacheWithCorrectFor_good lawful good config io userId (splitImeId imeId).1
    dsimp only
    split
    · rename_i code after ran
      rw [ran] at loaded
      exact loaded.1
    · rename_i cfg after ran
      rw [ran] at loaded
      split
      · exact loaded.1
      · exact loaded.1.storeCfg io.write userId ((loaded.2 cfg rfl).setTmp _)

omit lawful in
/-- The task writes user tables through `Upgrade` only. -/
theorem runTask_good (io : GlobalIo) : Good cjson (runTask cjson config io m) := by
  have update : ∀ userId cfg, GoodSettings cjson
      (updateGlobalEnabledTable cjson config io userId cfg m.settings) := by
    intro userId cfg
    have upgraded := fun owner => upgrade_good good.settings config io.upgrade owner []
    have spec := updateGlobalEnabledTable_spec cjson config io userId cfg m.settings
    generalize updateGlobalEnabledTable cjson config io userId cfg m.settings = after at spec ⊢
    cases spec with
    | unchanged => exact good.settings
    | replaced => exact good.settings
    | stopped old => exact upgraded (getGlobalTableUserId cjson old)
    | upgraded old => exact upgraded (getGlobalTableUserId cjson old)
  unfold runTask
  split
  · exact good
  · exact ⟨update _ _, good.cache⟩

/-- Every operation keeps the tables well-formed. -/
theorem step_good (e : Config × Op) : Good cjson (m.step cjson e) := by
  obtain ⟨config, op⟩ := e
  cases op with
  | init ready users => exact init_good lawful good config ready users
  | switch ready handler io userId imeInfos =>
      exact switch_good lawful good config ready handler io userId imeInfos
  | add io userId imeInfo => exact add_good lawful good config io userId imeInfo
  | deleteUser userId =>
      refine ⟨good.settings, ?_⟩
      intro other cfg (there : Function.update m.imeEnabledCfg userId none other = some cfg)
      by_cases same : other = userId
      · rw [same, Function.update_self] at there
        cases there
      · rw [Function.update_of_ne same] at there
        exact good.cache other cfg there
  | delete io userId bundleName => exact delete_good lawful good config io userId bundleName
  | update io now userId bundleName extensionName status =>
      exact update_good lawful good config io now userId bundleName extensionName status
  | setCurrentIme io userId imeId subName isSetByUser =>
      exact setCurrentIme_good lawful good config io userId imeId subName isSetByUser
  | setTmpIme io userId imeId => exact setTmpIme_good lawful good config io userId imeId
  | reload io userId imeInfos => exact reload_good lawful good config io userId imeInfos
  | task io => exact runTask_good good config io
  | restart => exact ⟨good.settings, nofun⟩

end Operation

/-- **Every table stays well-formed.**  Start with empty caches and user tables that hold
nothing, a text of an earlier version or the text of a well-formed table.  After every
sequence of operations, for every user and whatever the reads and writes of the settings
did, the cached table and the persisted table have distinct bundle names, at most one
current and at most one temporary input method. -/
theorem tables_wellFormed (lawful : cjson.Lawful) {settings : Settings}
    (start : ∀ userId content, settings.userTable userId = some content → TableText cjson content)
    (ops : List (Config × Op)) (userId : Int32) :
    let m := Lib.run (Manager.step cjson) { settings := settings } ops
    (∀ cfg, m.imeEnabledCfg userId = some cfg → WellFormed cfg.enabledInfos) ∧
      ∀ content, m.settings.userTable userId = some content →
        WellFormed (readCfg cjson content).enabledInfos := by
  intro m
  have empty : Good cjson { settings := settings } := ⟨start, nofun⟩
  have good : Good cjson m :=
    Lib.run_always (P := Good cjson) (fun _ e good => step_good lawful good e) empty ops
  exact ⟨good.cache userId, fun content there => (good.settings userId content there).wellFormed lawful⟩

end Invariant

/-! ## Poles -/

/-- One user has a list of an earlier version. -/
def listedSettings : Settings where
  userTable userId :=
    if userId = 100 then some (compact.print (enableImeList [(100, ["com.example.listed"])])) else none

/-- The table is migrated, an input method is added, becomes current though the write is
reported as failed, and is uninstalled. -/
def eventfulOps : List (Config × Op) :=
  let config : Config := { defaultIme := "com.example.system" }
  [(config, .init true [(100, [keyboard], {})]),
   (config, .add {} 100 keyboard),
   (config, .setCurrentIme { write := ⟨true, false⟩ } 100 "com.example.keyboard/KeyboardExt" "" true),
   (config, .restart),
   (config, .reload {} 100 [keyboard]),
   (config, .delete {} 100 "com.example.keyboard")]

theorem listedSettings_tableText : ∀ userId content, listedSettings.userTable userId = some content →
    TableText compact content := by
  intro userId content (there : (if userId = 100 then _ else none) = some content)
  split at there
  · cases there
    exact .inl ⟨_, rfl⟩
  · cases there

theorem eventful_run_wellFormed :
    let m := Lib.run (Manager.step compact) { settings := listedSettings } eventfulOps
    (∀ cfg, m.imeEnabledCfg 100 = some cfg → WellFormed cfg.enabledInfos) ∧
      ∀ content, m.settings.userTable 100 = some content →
        WellFormed (readCfg compact content).enabledInfos :=
  tables_wellFormed compact_lawful listedSettings_tableText eventfulOps 100

end Imf.Enabled
