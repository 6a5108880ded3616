/-
# Imf.Enabled.Coherence -- the cached and the persisted table

A table is written and then cached, so that the two agree.  Every operation either leaves
both as they were (`Same`) or replaces both by one table (`Replaced`): `Settles` is the two
together, and what an operation with an error leaves is what a reload made of them.

`cache_coherent` is the run theorem.  It needs writes that are reported as they went, strings
that end where C strings end, and a migration whose table is also loaded: `Upgrade` writes on
its own, and what fails after it leaves the table ahead of the cache.
-/
import Imf.Enabled.Format
import Imf.Lib.Run

namespace Imf.Enabled

set_option autoImplicit false

open Lib (Json Meets run run_keeps modifyFirst upsert mem_modify mem_upsert)
open Imf.Json

/-! ## Tables that are read back as they were -/

/-- Every string of the entry is a C string. -/
def ImeEnabledInfo.CStrings (info : ImeEnabledInfo) : Prop := info.cText = info

structure ImeEnabledCfg.CStrings (cfg : ImeEnabledCfg) : Prop where
  version : cStr cfg.version = cfg.version
  infos : ∀ info ∈ cfg.enabledInfos, info.CStrings

theorem ImeEnabledCfg.CStrings.readCfg_text {cjson : CJson} {cfg : ImeEnabledCfg} (plain : cfg.CStrings)
    (lawful : cjson.Lawful) : readCfg cjson (cfg.text cjson) = cfg := by
  have infos : cfg.enabledInfos.map ImeEnabledInfo.cText = cfg.enabledInfos :=
    (List.map_congr_left plain.infos).trans (List.map_id _)
  rw [Enabled.readCfg_text lawful, ImeEnabledCfg.cText, plain.version, infos]

section Strings

variable {infos : List ImeEnabledInfo} {f : ImeEnabledInfo → ImeEnabledInfo}

theorem cStr_getString (node : Json) (name : String) {default : String}
    (plain : cStr default = default) :
    cStr ((getString node name).getD default) = (getString node name).getD default := by
  unfold getString
  split
  · exact cStr_eq (cStr_nulFree _)
  · exact plain

theorem unmarshalInfo_cStrings (node : Json) : (unmarshalInfo node).CStrings := by
  have empty : cStr "" = "" := rfl
  have fields : ∀ node name, cStr ((getString node name).getD "") = (getString node name).getD "" :=
    fun node name => cStr_getString node name empty
  have extra : ∀ node, cStr (((getObject (fun node => some (unmarshalExtraInfo node)) node
      "extraInfo").getD {}).currentSubName) =
        ((getObject (fun node => some (unmarshalExtraInfo node)) node "extraInfo").getD
          {}).currentSubName := by
    intro node
    unfold getObject
    split
    · exact fields _ _
    · exact empty
  cases node with
  | obj entries =>
      rw [ImeEnabledInfo.CStrings, ImeEnabledInfo.cText, unmarshalInfo]
      simp only [fields, extra]
  | null => rfl
  | bool => rfl
  | num => rfl
  | str => rfl
  | arr => rfl

/-- Whatever is read has C strings. -/
theorem readCfg_cStrings (cjson : CJson) (content : String) : (readCfg cjson content).CStrings := by
  unfold readCfg
  split
  · rename_i node _
    refine ⟨cStr_getString node "version" (by decide), ?_⟩
    unfold unmarshalCfg
    dsimp only
    split
    · intro info member
      obtain ⟨item, -, rfl⟩ := List.mem_map.1 member
      exact unmarshalInfo_cStrings item
    · simp
  · exact ⟨by decide, by simp⟩

theorem cStrings_modify (plain : ∀ info ∈ infos, info.CStrings)
    (keeps : ∀ info : ImeEnabledInfo, info.CStrings → (f info).CStrings) (i : Nat) :
    ∀ info ∈ infos.modify i f, info.CStrings := by
  intro info member
  rcases mem_modify member with old | ⟨before, old, rfl⟩
  · exact plain info old
  · exact keeps before (plain before old)

theorem cStrings_map (plain : ∀ info ∈ infos, info.CStrings)
    (keeps : ∀ info : ImeEnabledInfo, info.CStrings → (f info).CStrings) :
    ∀ info ∈ infos.map f, info.CStrings := by
  intro info member
  obtain ⟨before, old, rfl⟩ := List.mem_map.1 member
  exact keeps before (plain before old)

theorem cStrings_upsert (plain : ∀ info ∈ infos, info.CStrings)
    (keeps : ∀ info : ImeEnabledInfo, info.CStrings → (f info).CStrings) (p : ImeEnabledInfo → Bool)
    {fresh : ImeEnabledInfo} (new : fresh.CStrings) :
    ∀ info ∈ upsert p f fresh infos, info.CStrings := by
  intro info member
  rcases mem_upsert member with old | ⟨before, old, rfl⟩ | rfl
  · exact plain info old
  · exact keeps before (plain before old)
  · exact new

theorem cStrings_iff {info : ImeEnabledInfo} : info.CStrings ↔
    cStr info.bundleName = info.bundleName ∧ cStr info.extensionName = info.extensionName ∧
      cStr info.stateUpdateTime = info.stateUpdateTime ∧
        cStr info.extraInfo.currentSubName = info.extraInfo.currentSubName := by
  obtain ⟨bundleName, extensionName, enabledStatus, stateUpdateTime, extraInfo⟩ := info
  obtain ⟨isDefaultIme, isDefaultImeSet, isTmpIme, currentSubName⟩ := extraInfo
  simp [ImeEnabledInfo.CStrings, ImeEnabledInfo.cText]

/-! ## Edits keep C strings -/

theorem cStrings_modCurrentIme (config : Config) (plain : ∀ info ∈ infos, info.CStrings) :
    ∀ info ∈ modCurrentIme config infos, info.CStrings := by
  unfold modCurrentIme
  dsimp only
  split
  · exact plain
  · refine cStrings_modify (cStrings_modify plain ?_ _) ?_ _
    · intro info strings
      have parts := cStrings_iff.1 strings
      exact cStrings_iff.2 parts
    · intro info strings
      obtain ⟨bundle, extension, time, -⟩ := cStrings_iff.1 strings
      exact cStrings_iff.2 ⟨bundle, extension, time, rfl⟩

theorem cStrings_install (config : Config) (plain : ∀ info ∈ infos, info.CStrings)
    (imeInfo : FullImeInfo) : ∀ info ∈ install config infos imeInfo, info.CStrings := by
  refine cStrings_upsert plain ?_ _ ?_
  · intro info strings
    obtain ⟨bundle, extension, time, sub⟩ := cStrings_iff.1 strings
    unfold fillExtension
    split
    · exact cStrings_iff.2 ⟨bundle, cStr_eq imeInfo.plainId, time, sub⟩
    · exact strings
  · exact cStrings_iff.2 ⟨cStr_eq imeInfo.plainName, cStr_eq imeInfo.plainId, rfl, rfl⟩

theorem cStrings_correctBy (config : Config) (plain : ∀ info ∈ infos, info.CStrings)
    (installed : List FullImeInfo) : ∀ info ∈ correctBy config installed infos, info.CStrings := by
  unfold correctBy
  dsimp only
  refine Lib.run_always (P := fun infos => ∀ info ∈ infos, ImeEnabledInfo.CStrings info) ?_ ?_ installed
  · intro infos imeInfo plain
    exact cStrings_install config plain imeInfo
  · split
    · exact cStrings_modCurrentIme config plain
    · exact plain

theorem cStrings_setCurrent {extName subName : String} (extension : NulFree extName)
    (sub : NulFree subName) (plain : ∀ info ∈ infos, info.CStrings) (bundleName : String)
    (isSetByUser : Bool) :
    ∀ info ∈ setCurrent bundleName extName subName isSetByUser infos, info.CStrings := by
  refine cStrings_map plain ?_
  intro info strings
  obtain ⟨bundle, oldExtension, time, -⟩ := cStrings_iff.1 strings
  split
  · exact cStrings_iff.2 ⟨bundle, cStr_eq extension, time, cStr_eq sub⟩
  · exact cStrings_iff.2 ⟨bundle, oldExtension, time, rfl⟩

theorem cStrings_markTmp (mark : ImeEnabledInfo → Bool) (plain : ∀ info ∈ infos, info.CStrings) :
    ∀ info ∈ infos.map fun info => markTmp (mark info) info, info.CStrings := by
  refine cStrings_map plain ?_
  intro info strings
  have parts := cStrings_iff.1 strings
  exact cStrings_iff.2 parts

theorem cStrings_updated (config : Config) {now : String} (clock : NulFree now)
    (plain : ∀ info ∈ infos, info.CStrings) (bundleName : String) (status : EnabledStatus) :
    ∀ info ∈ updated config bundleName status now infos, info.CStrings := by
  have changed : ∀ info ∈ modifyFirst (isNamed bundleName) (setStatus status now) infos,
      info.CStrings := by
    refine cStrings_modify plain ?_ _
    intro info strings
    obtain ⟨bundle, extension, -, sub⟩ := cStrings_iff.1 strings
    exact cStrings_iff.2 ⟨bundle, extension, cStr_eq clock, sub⟩
  unfold updated
  dsimp only
  split
  · exact cStrings_modCurrentIme config changed
  · exact changed

end Strings

/-! ## What an operation leaves -/

/-- Every cached and every persisted table is as it was. -/
structure Same (m m' : Manager) : Prop where
  cache : m'.imeEnabledCfg = m.imeEnabledCfg
  tables : m'.settings.userTable = m.settings.userTable

/-- The cached and the persisted table of the user are `cfg` now; the others are as they were. -/
structure Replaced (cjson : CJson) (userId : Int32) (cfg : ImeEnabledCfg) (m m' : Manager) : Prop where
  cache : m'.imeEnabledCfg = Function.update m.imeEnabledCfg userId (some cfg)
  tables : m'.settings.userTable =
    Function.update m.settings.userTable userId (some (cfg.text cjson))
  strings : cfg.CStrings

/-- One of the two, the table being one of `tables`. -/
def Settles (cjson : CJson) (userId : Int32) (tables : ImeEnabledCfg → Prop) (m m' : Manager) : Prop :=
  Same m m' ∨ ∃ cfg, tables cfg ∧ Replaced cjson userId cfg m m'

section Settles

variable {cjson : CJson} {userId : Int32} {tables : ImeEnabledCfg → Prop} {cfg : ImeEnabledCfg}
  {m m' m'' : Manager}

theorem Same.refl (m : Manager) : Same m m := ⟨rfl, rfl⟩

theorem Same.replaced (same : Same m m') (replaced : Replaced cjson userId cfg m' m'') :
    Replaced cjson userId cfg m m'' :=
  ⟨same.cache ▸ replaced.cache, same.tables ▸ replaced.tables, replaced.strings⟩

theorem Settles.replaced (settles : Settles cjson userId tables m m')
    (replaced : Replaced cjson userId cfg m' m'') : Replaced cjson userId cfg m m'' := by
  rcases settles with same | ⟨before, -, first⟩
  · exact same.replaced replaced
  · refine ⟨?_, ?_, replaced.strings⟩
    · rw [replaced.cache, first.cache, Function.update_idem]
    · rw [replaced.tables, first.tables, Function.update_idem]

theorem Settles.same (settles : Settles cjson userId tables m m') (same : Same m' m'') :
    Settles cjson userId tables m m'' := by
  rcases settles with first | ⟨cfg, wanted, first⟩
  · exact .inl ⟨same.cache.trans first.cache, same.tables.trans first.tables⟩
  · exact .inr ⟨cfg, wanted, same.cache.trans first.cache,
      same.tables.trans first.tables, first.strings⟩

theorem Settles.weaken (settles : Settles cjson userId tables m m') :
    Settles cjson userId (fun _ => True) m m' := by
  rcases settles with same | ⟨cfg, -, replaced⟩
  · exact .inl same
  · exact .inr ⟨cfg, trivial, replaced⟩

end Settles

/-! ## Conditions -/

/-- The write is reported as it went. -/
def Write.Honest (write : Write) : Prop := write.stored = write.reported

/-- The reload migrates the table of the user: he is not recorded, neither read of his table
finds one, and the sources are there. -/
structure ReloadIo.Migrates (cjson : CJson) (io : ReloadIo) (userId : Int32)
    (imeInfos : List FullImeInfo) (s : Settings) : Prop where
  new : userId ∉ s.upgradedUserId
  first : ∃ content, orEmpty (getStringValue io.cfg.first (s.userTable userId)) = .ok content ∧
    mentionsVersion content = false
  upgrade : ∃ content, orEmpty (getStringValue io.cfg.upgrade.userTable (s.userTable userId)) =
    .ok content ∧ mentionsVersion content = false
  sources : ∃ src, gather cjson io.cfg.upgrade userId imeInfos s = .ok src

/-- What a reload needs: its writes are reported as they went, and when it writes a migrated
table, the read and the write that follow work too. -/
structure ReloadIo.Faithful (cjson : CJson) (io : ReloadIo) (userId : Int32)
    (imeInfos : List FullImeInfo) (s : Settings) : Prop where
  write : io.write.Honest
  migration : io.cfg.upgrade.write.Honest
  completes : io.Migrates cjson userId imeInfos s → io.cfg.upgrade.write.stored = true →
    io.write.stored = true ∧ ∀ code, io.cfg.second = some code → code = .errorKeywordNotFound

/-- What an operation needs: a reload that does, and an honest write. -/
def OpIo.Faithful (cjson : CJson) (io : OpIo) (userId : Int32) (s : Settings) : Prop :=
  io.reload.Faithful cjson userId [] s ∧ io.write.Honest

/-- What every operation needs in the state it meets.  Strings from callers are C strings, and
the task does not take the table of a cached user for missing. -/
def Faithful (cjson : CJson) (m : Manager) : Config × Op → Prop
  | (config, .init ready users) =>
      ready = true → Meets (initUser cjson config)
        (fun m user => user.2.2.Faithful cjson user.1 user.2.1 m.settings) m users
  | (_, .switch _ _ io userId imeInfos) => io.Faithful cjson userId imeInfos m.settings
  | (_, .add io userId _) => io.Faithful cjson userId m.settings
  | (_, .deleteUser _) => True
  | (_, .delete io userId _) => io.Faithful cjson userId m.settings
  | (_, .update io now userId _ _ _) => io.Faithful cjson userId m.settings ∧ NulFree now
  | (_, .setCurrentIme io userId imeId subName _) =>
      io.Faithful cjson userId m.settings ∧ NulFree (splitImeId imeId).2 ∧ NulFree subName
  | (_, .setTmpIme io userId _) => io.Faithful cjson userId m.settings
  | (_, .reload io userId imeInfos) => io.Faithful cjson userId imeInfos m.settings
  | (config, .task io) =>
      ∀ userId cfg, m.tasks.head? = some (userId, cfg) →
        ∀ old, Replaces cjson config io userId cfg m.settings old →
          (m.getEnabledCache (getGlobalTableUserId cjson old)).enabledInfos ≠ [] →
            io.upgrade.userTable ≠ some .errorKeywordNotFound
  | (_, .restart) => True

/-! ## Loading -/

section Load

variable {cjson : CJson} {config : Config} {userId : Int32} {imeInfos : List FullImeInfo}

/-- `Upgrade` leaves the tables as they were, or writes a migrated one. -/
theorem upgrade_tables (cjson : CJson) (config : Config) (io : UpgradeIo) (userId : Int32)
    (imeInfos : List FullImeInfo) (s : Settings) :
    (upgrade cjson config io userId imeInfos s).2.userTable = s.userTable ∨
      userId ∉ s.upgradedUserId ∧
        (∃ content, orEmpty (getStringValue io.userTable (s.userTable userId)) = .ok content ∧
          mentionsVersion content = false) ∧
        ∃ src, gather cjson io userId imeInfos s = .ok src ∧ io.write.stored = true ∧
          (upgrade cjson config io userId imeInfos s).1 =
            (if io.write.reported then .ok () else .error .errorEnableIme) ∧
          (upgrade cjson config io userId imeInfos s).2.userTable =
            Function.update s.userTable userId (some ((src.cfg config).text cjson)) := by
  by_cases recorded : userId ∈ s.upgradedUserId
  · rw [upgrade_recorded cjson config io imeInfos recorded]
    exact .inl rfl
  cases read : orEmpty (getStringValue io.userTable (s.userTable userId)) with
  | error code =>
      rw [upgrade_unreadable cjson config imeInfos recorded read]
      exact .inl rfl
  | ok content =>
      cases mentions : mentionsVersion content with
      | true =>
          rw [upgrade_recognised cjson config imeInfos recorded read mentions]
          exact .inl rfl
      | false =>
          rw [upgrade_migrate cjson config imeInfos recorded read mentions]
          cases gathered : gather cjson io userId imeInfos s with
          | error code =>
              rw [migrate_refused config gathered]
              exact .inl rfl
          | ok src =>
              rw [migrate_written config gathered]
              dsimp only
              cases stored : io.write.stored with
              | false =>
                  rw [setUserTable_unstored s userId stored]
                  left
                  split <;> rfl
              | true =>
                  refine .inr ⟨recorded, ⟨content, rfl, mentions⟩, src, rfl, rfl, ?_, ?_⟩
                  · split <;> rfl
                  · have table := setUserTable_put s userId stored ((src.cfg config).text cjson)
                    split
                    · exact table
                    · exact table

/-- What `GetEnabledCfg` returns was read from a text, or corrected from what was. -/
theorem getEnabledCfg_cStrings {io : CfgIo} {s : Settings} {cfg : ImeEnabledCfg}
    (loaded : (getEnabledCfg cjson config io userId imeInfos s).1 = .ok cfg) : cfg.CStrings := by
  unfold getEnabledCfg at loaded
  split at loaded
  · cases loaded
  rename_i userContent _
  split at loaded
  · dsimp only at loaded
    split at loaded
    · cases loaded
    · rename_i installed _
      cases loaded
      have plain := readCfg_cStrings cjson userContent
      exact ⟨plain.version, cStrings_correctBy config plain.infos installed⟩
  · split at loaded
    · cases loaded
    · split at loaded
      · cases loaded
        exact readCfg_cStrings cjson _
      · cases loaded
      · cases loaded
        exact readCfg_cStrings cjson _

/-- The settings after `GetEnabledCfg` are those before it, or those after the migration it comes to. -/
theorem getEnabledCfg_settings (cjson : CJson) (config : Config) (io : CfgIo) (userId : Int32)
    (imeInfos : List FullImeInfo) (s : Settings) :
    (getEnabledCfg cjson config io userId imeInfos s).2 = s ∨
      (∃ userContent, orEmpty (getStringValue io.first (s.userTable userId)) = .ok userContent ∧
        mentionsVersion userContent = false) ∧
      (getEnabledCfg cjson config io userId imeInfos s).2 =
        (upgrade cjson config io.upgrade userId imeInfos s).2 := by
  unfold getEnabledCfg
  split
  · exact .inl rfl
  rename_i userContent first
  split
  · dsimp only
    split <;> exact .inl rfl
  rename_i unmentioned
  refine .inr ⟨⟨userContent, first, by simpa using unmentioned⟩, ?_⟩
  generalize upgrade cjson config io.upgrade userId imeInfos s = upgraded
  obtain ⟨result, after⟩ := upgraded
  cases result with
  | error code => rfl
  | ok =>
      dsimp only
      split <;> rfl

/-- `GetEnabledCfg` leaves the tables as they were; or it has migrated the table of its user, and
then it succeeds and the write that follows works. -/
theorem getEnabledCfg_tables {io : ReloadIo} {s : Settings}
    (faithful : io.Faithful cjson userId imeInfos s) (config : Config) :
    (getEnabledCfg cjson config io.cfg userId imeInfos s).2.userTable = s.userTable ∨
      io.write.stored = true ∧
        (∃ cfg, (getEnabledCfg cjson config io.cfg userId imeInfos s).1 = .ok cfg) ∧
        ∃ text, (getEnabledCfg cjson config io.cfg userId imeInfos s).2.userTable =
          Function.update s.userTable userId (some text) := by
  unfold getEnabledCfg
  split
  · exact .inl rfl
  rename_i userContent first
  split
  · dsimp only
    split <;> exact .inl rfl
  rename_i unmentioned
  have tables := upgrade_tables cjson config io.cfg.upgrade userId imeInfos s
  generalize upgrade cjson config io.cfg.upgrade userId imeInfos s = upgraded at tables
  obtain ⟨result, after⟩ := upgraded
  cases result with
  | error code =>
      rcases tables with same | ⟨-, -, src, -, stored, failed, -⟩
      · exact .inl same
      · -- An honest write that was stored does not fail.
        rw [← faithful.migration, stored] at failed
        cases failed
  | ok =>
      rcases tables with same | ⟨new, upgrade, src, gathered, stored, -, table⟩
      · left
        dsimp only
        split <;> exact same
      · right
        have unmentioned : mentionsVersion userContent = false := by simpa using unmentioned
        obtain ⟨write, second⟩ := faithful.completes
          ⟨new, ⟨userContent, first, unmentioned⟩, upgrade, ⟨src, gathered⟩⟩ stored
        refine ⟨write, ?_⟩
        dsimp only at table ⊢
        split
        · exact ⟨⟨_, rfl⟩, _, table⟩
        · rename_i code other failed
          rw [table, Function.update_self] at failed
          cases fault : io.cfg.second with
          | none =>
              rw [fault] at failed
              cases failed
          | some code' =>
              rw [fault] at failed
              cases failed
              exact absurd (second code fault) other
        · exact ⟨⟨_, rfl⟩, _, table⟩

/-- Writing and caching goes through, or nothing happens. -/
theorem storeCfg_settles (cjson : CJson) {write : Write} (honest : write.Honest) {cfg : ImeEnabledCfg}
    (strings : cfg.CStrings) (userId : Int32) (m : Manager) :
    ((storeCfg cjson write userId cfg m).1 = .ok () ∧ write.stored = true ∧
        Replaced cjson userId cfg m (storeCfg cjson write userId cfg m).2) ∨
      (storeCfg cjson write userId cfg m).1 = .error .errorEnableIme ∧ write.stored = false ∧
        Same m (storeCfg cjson write userId cfg m).2 := by
  unfold storeCfg
  dsimp only
  cases stored : write.stored with
  | true =>
      rw [← honest, stored]
      refine .inl ⟨rfl, rfl, rfl, ?_, strings⟩
      show Function.update m.settings.userTable userId (write.put _ _) = _
      rw [Write.put, stored]
      rfl
  | false =>
      rw [← honest, stored]
      refine .inr ⟨rfl, rfl, rfl, ?_⟩
      show (m.settings.setUserTable write userId (cfg.text cjson)).userTable = _
      rw [setUserTable_unstored m.settings userId stored]

/-- The table that a reload loads. -/
def Loads (cjson : CJson) (config : Config) (io : ReloadIo) (userId : Int32)
    (imeInfos : List FullImeInfo) (m : Manager) (cfg : ImeEnabledCfg) : Prop :=
  (getEnabledCfg cjson config io.cfg userId imeInfos m.settings).1 = .ok cfg

/-- A reload replaces both tables by what it loads, or fails and leaves both. -/
theorem reload_settles {io : ReloadIo} {m : Manager}
    (faithful : io.Faithful cjson userId imeInfos m.settings) (config : Config) :
    ((reload cjson config io userId imeInfos m).1 = .ok () ∧
        ∃ cfg, Loads cjson config io userId imeInfos m cfg ∧
          Replaced cjson userId cfg m (reload cjson config io userId imeInfos m).2) ∨
      (∃ code, (reload cjson config io userId imeInfos m).1 = .error code) ∧
        Same m (reload cjson config io userId imeInfos m).2 := by
  have strings : ∀ cfg, (getEnabledCfg cjson config io.cfg userId imeInfos m.settings).1 = .ok cfg →
      cfg.CStrings := fun _ loaded => getEnabledCfg_cStrings loaded
  have tables := getEnabledCfg_tables faithful config
  unfold reload Loads
  generalize getEnabledCfg cjson config io.cfg userId imeInfos m.settings = loaded at strings tables
  obtain ⟨result, after⟩ := loaded
  cases result with
  | error code =>
      right
      rcases tables with same | ⟨-, ⟨cfg, impossible⟩, -⟩
      · exact ⟨⟨code, rfl⟩, rfl, same⟩
      · cases impossible
  | ok cfg =>
      have stores := storeCfg_settles cjson faithful.write (strings cfg rfl) userId
        (m.withSettings after)
      rcases stores with ⟨done, -, replaced⟩ | ⟨failed, unstored, same⟩
      · refine .inl ⟨done, cfg, rfl, replaced.cache, ?_, replaced.strings⟩
        refine replaced.tables.trans ?_
        rcases tables with same | ⟨-, -, text, migrated⟩
        · exact congrArg (fun table => Function.update table userId _) same
        · show Function.update after.userTable userId _ = _
          rw [migrated, Function.update_idem]
      · refine .inr ⟨⟨_, failed⟩, same.cache, ?_⟩
        rcases tables with sameTables | ⟨stored, -⟩
        · exact same.tables.trans sameTables
        · rw [unstored] at stored
          cases stored

end Load

/-! ## Coherence -/

/-- Whenever a table with entries is cached, the persisted table is its text and is read back
as it. -/
def Coherent (cjson : CJson) (m : Manager) : Prop :=
  ∀ userId cfg, m.imeEnabledCfg userId = some cfg → cfg.enabledInfos ≠ [] →
    m.settings.userTable userId = some (cfg.text cjson) ∧ readCfg cjson (cfg.text cjson) = cfg

/-- What an operation of the user leaves: on an error, both tables as they were or both
replaced by a loaded one; in any case, both as they were or both replaced. -/
def Outcome (cjson : CJson) (userId : Int32) (loads : ImeEnabledCfg → Prop) (m : Manager)
    (done : Except ErrorCode Unit × Manager) : Prop :=
  (∀ code, done.1 = .error code → Settles cjson userId loads m done.2) ∧
    Settles cjson userId (fun _ => True) m done.2

section Operations

variable {cjson : CJson} {userId : Int32} {loads : ImeEnabledCfg → Prop} {m m' : Manager}

theorem Settles.coherent {tables : ImeEnabledCfg → Prop} (settles : Settles cjson userId tables m m')
    (lawful : cjson.Lawful) (coherent : Coherent cjson m) : Coherent cjson m' := by
  intro other cfg cached entries
  rcases settles with same | ⟨new, -, replaced⟩
  · rw [same.cache] at cached
    rw [same.tables]
    exact coherent other cfg cached entries
  · rw [replaced.cache] at cached
    rw [replaced.tables]
    by_cases own : other = userId
    · rw [own, Function.update_self] at cached
      cases cached
      rw [own, Function.update_self]
      exact ⟨rfl, replaced.strings.readCfg_text lawful⟩
    · rw [Function.update_of_ne own] at cached
      rw [Function.update_of_ne own]
      exact coherent other cfg cached entries

/-- A cached table with entries has C strings. -/
theorem Coherent.strings (coherent : Coherent cjson m) {userId : Int32}
    (entries : (m.getEnabledCache userId).enabledInfos ≠ []) : (m.getEnabledCache userId).CStrings := by
  cases cached : m.imeEnabledCfg userId with
  | none =>
      rw [Manager.getEnabledCache, cached] at entries
      exact absurd rfl entries
  | some cfg =>
      have same : m.getEnabledCache userId = cfg := by rw [Manager.getEnabledCache, cached]; rfl
      rw [same] at entries ⊢
      rw [← (coherent userId cfg cached entries).2]
      exact readCfg_cStrings cjson _

theorem Settles.outcome (settles : Settles cjson userId loads m m') (result : Except ErrorCode Unit) :
    Outcome cjson userId loads m (result, m') :=
  ⟨fun _ _ => settles, settles.weaken⟩

/-- Loading, then writing an edited table. -/
theorem Settles.store (settles : Settles cjson userId loads m m') {write : Write}
    (honest : write.Honest) {cfg : ImeEnabledCfg} (strings : cfg.CStrings) :
    Outcome cjson userId loads m (storeCfg cjson write userId cfg m') := by
  rcases storeCfg_settles cjson honest strings userId m' with ⟨done, -, replaced⟩ | ⟨-, -, same⟩
  · refine ⟨?_, .inr ⟨cfg, trivial, settles.replaced replaced⟩⟩
    intro code failed
    rw [done] at failed
    cases failed
  · exact ⟨fun _ _ => settles.same same, (settles.same same).weaken⟩

/-- What the loading functions leave, and the strings of what they find. -/
def LoadedWith (cjson : CJson) (userId : Int32) (loads : ImeEnabledCfg → Prop) (m : Manager)
    (done : Except ErrorCode ImeEnabledCfg × Manager) : Prop :=
  Settles cjson userId loads m done.2 ∧ ∀ cfg, done.1 = .ok cfg → cfg.CStrings

section Load

variable (config : Config)

theorem reloadedCache_settles {io : ReloadIo} (faithful : io.Faithful cjson userId [] m.settings) :
    LoadedWith cjson userId (Loads cjson config io userId [] m) m
      (reloadedCache cjson config io userId m) := by
  have reloads := reload_settles faithful config
  unfold reloadedCache
  generalize reload cjson config io userId [] m = reloaded at reloads
  obtain ⟨result, after⟩ := reloaded
  rcases reloads with ⟨done, cfg, loaded, replaced⟩ | ⟨⟨code, failed⟩, same⟩
  · cases done
    refine ⟨.inr ⟨cfg, loaded, replaced⟩, ?_⟩
    intro found present
    have cached : after.getEnabledCache userId = cfg := by
      rw [Manager.getEnabledCache, replaced.cache, Function.update_self]
      rfl
    dsimp only at present
    split at present
    · cases present
    · cases present
      rw [cached]
      exact replaced.strings
  · cases failed
    exact ⟨.inl same, nofun⟩

theorem getEnabledCacheWithCorrect_settles (coherent : Coherent cjson m) {io : ReloadIo}
    (faithful : io.Faithful cjson userId [] m.settings) :
    LoadedWith cjson userId (Loads cjson config io userId [] m) m
      (getEnabledCacheWithCorrect cjson config io userId m) := by
  unfold getEnabledCacheWithCorrect
  dsimp only
  split
  · rename_i entries
    refine ⟨.inl (.refl m), ?_⟩
    rintro cfg ⟨⟩
    exact coherent.strings (by simpa using entries)
  · exact reloadedCache_settles config faithful

theorem getEnabledCacheWithCorrectFor_settles (coherent : Coherent cjson m) {io : OpIo}
    (faithful : io.reload.Faithful cjson userId [] m.settings) (bundleName : String) :
    LoadedWith cjson userId (Loads cjson config io.reload userId [] m) m
      (getEnabledCacheWithCorrectFor cjson config io userId bundleName m) := by
  unfold getEnabledCacheWithCorrectFor
  dsimp only
  split
  · rename_i named
    refine ⟨.inl (.refl m), ?_⟩
    rintro cfg ⟨⟩
    refine coherent.strings fun empty => ?_
    rw [empty] at named
    cases named
  · split
    · exact ⟨.inl (.refl m), nofun⟩
    · exact reloadedCache_settles config faithful

end Load

/-- Same strings, other entries. -/
theorem ImeEnabledCfg.CStrings.edit {cfg : ImeEnabledCfg} (strings : cfg.CStrings)
    {infos : List ImeEnabledInfo} (plain : ∀ info ∈ infos, info.CStrings) :
    ImeEnabledCfg.CStrings { cfg with enabledInfos := infos } :=
  ⟨strings.version, plain⟩

section Operation

variable (config : Config) (coherent : Coherent cjson m) {io : OpIo}
  (faithful : io.Faithful cjson userId m.settings)
include coherent faithful

theorem add_outcome (imeInfo : FullImeInfo) :
    Outcome cjson userId (Loads cjson config io.reload userId [] m) m
      (add cjson config io userId imeInfo m) := by
  have loaded := getEnabledCacheWithCorrect_settles config coherent faithful.1
  unfold add
  split
  · exact Settles.outcome (.inl (.refl m)) _
  · generalize getEnabledCacheWithCorrect cjson config io.reload userId m = found at loaded
    obtain ⟨result, after⟩ := found
    obtain ⟨settles, strings⟩ := loaded
    cases result with
    | error code => exact settles.outcome _
    | ok cfg =>
        have plain := strings cfg rfl
        dsimp only
        split
        · exact settles.outcome _
        · exact settles.store faithful.2 (plain.edit (cStrings_install config plain.infos imeInfo))

theorem delete_outcome (bundleName : String) :
    Outcome cjson userId (Loads cjson config io.reload userId [] m) m
      (delete cjson config io userId bundleName m) := by
  have loaded := getEnabledCacheWithCorrect_settles config coherent faithful.1
  unfold delete
  generalize getEnabledCacheWithCorrect cjson config io.reload userId m = found at loaded
  obtain ⟨result, after⟩ := found
  obtain ⟨settles, strings⟩ := loaded
  cases result with
  | error code => exact settles.outcome _
  | ok cfg =>
      have plain := strings cfg rfl
      dsimp only
      split
      · exact settles.outcome _
      · -- The result of the write is dropped: there is no error.
        have stored := settles.store faithful.2
          (plain.edit (cStrings_modCurrentIme config plain.infos))
        exact ⟨nofun, stored.2⟩

theorem update_outcome {now : String} (clock : NulFree now) (bundleName extensionName : String)
    (status : EnabledStatus) :
    Outcome cjson userId (Loads cjson config io.reload userId [] m) m
      (update cjson config io now userId bundleName extensionName status m) := by
  have loaded := getEnabledCacheWithCorrectFor_settles config coherent faithful.1 bundleName
  unfold update
  split
  · exact Settles.outcome (.inl (.refl m)) _
  · generalize getEnabledCacheWithCorrectFor cjson config io userId bundleName m = found at loaded
    obtain ⟨result, after⟩ := found
    obtain ⟨settles, strings⟩ := loaded
    cases result with
    | error code => exact settles.outcome _
    | ok cfg =>
        have plain := strings cfg rfl
        dsimp only
        split
        · exact settles.outcome _
        · split
          · exact settles.outcome _
          · exact settles.store faithful.2
              (plain.edit (cStrings_updated config clock plain.infos bundleName status))

theorem setCurrentIme_outcome {imeId subName : String} (extension : NulFree (splitImeId imeId).2)
    (sub : NulFree subName) (isSetByUser : Bool) :
    Outcome cjson userId (Loads cjson config io.reload userId [] m) m
      (setCurrentIme cjson config io userId imeId subName isSetByUser m) := by
  have loaded := getEnabledCacheWithCorrectFor_settles config coherent faithful.1 (splitImeId imeId).1
  unfold setCurrentIme
  dsimp only
  split
  · exact Settles.outcome (.inl (.refl m)) _
  · generalize getEnabledCacheWithCorrectFor cjson config io userId
      (splitImeId imeId).1 m = found at loaded
    obtain ⟨result, after⟩ := found
    obtain ⟨settles, strings⟩ := loaded
    cases result with
    | error code => exact settles.outcome _
    | ok cfg =>
        have plain := strings cfg rfl
        dsimp only
        split
        · exact settles.outcome _
        · exact settles.store faithful.2
            (plain.edit (cStrings_setCurrent extension sub plain.infos _ isSetByUser))

theorem setTmpIme_outcome (imeId : String) :
    Outcome cjson userId (Loads cjson config io.reload userId [] m) m
      (setTmpIme cjson config io userId imeId m) := by
  unfold setTmpIme
  split
  · have loaded := getEnabledCacheWithCorrect_settles config coherent faithful.1
    generalize getEnabledCacheWithCorrect cjson config io.reload userId m = found at loaded
    obtain ⟨result, after⟩ := found
    obtain ⟨settles, strings⟩ := loaded
    cases result with
    | error code => exact settles.outcome _
    | ok cfg =>
        have plain := strings cfg rfl
        dsimp only
        split
        · exact settles.outcome _
        · exact settles.store faithful.2 (plain.edit (cStrings_markTmp (fun _ => false) plain.infos))
  · have loaded := getEnabledCacheWithCorrectFor_settles config coherent faithful.1 (splitImeId imeId).1
    dsimp only
    generalize getEnabledCacheWithCorrectFor cjson config io userId
      (splitImeId imeId).1 m = found at loaded
    obtain ⟨result, after⟩ := found
    obtain ⟨settles, strings⟩ := loaded
    cases result with
    | error code => exact settles.outcome _
    | ok cfg =>
        have plain := strings cfg rfl
        dsimp only
        split
        · exact settles.outcome _
        · exact settles.store faithful.2
            (plain.edit (cStrings_markTmp (isNamed (splitImeId imeId).1) plain.infos))

end Operation

theorem reload_outcome (config : Config) {io : ReloadIo} {imeInfos : List FullImeInfo}
    (faithful : io.Faithful cjson userId imeInfos m.settings) :
    Outcome cjson userId (Loads cjson config io userId imeInfos m) m
      (reload cjson config io userId imeInfos m) := by
  rcases reload_settles faithful config with ⟨-, cfg, loaded, replaced⟩ | ⟨-, same⟩
  · exact Settles.outcome (.inr ⟨cfg, loaded, replaced⟩) _
  · exact Settles.outcome (.inl same) _

theorem switch_outcome (config : Config) {io : ReloadIo} {imeInfos : List FullImeInfo}
    (faithful : io.Faithful cjson userId imeInfos m.settings) (ready handler : Bool) :
    Outcome cjson userId (Loads cjson config io userId imeInfos m) m
      (switch cjson config ready handler io userId imeInfos m) := by
  unfold switch
  dsimp only
  split
  · refine Settles.outcome (.inl ?_) _
    split
    · exact ⟨rfl, rfl⟩
    · exact .refl m
  · split
    · exact Settles.outcome (.inl (.refl m)) _
    · exact reload_outcome config faithful

theorem initUser_coherent (lawful : cjson.Lawful) (config : Config) (coherent : Coherent cjson m)
    {user : Int32 × List FullImeInfo × ReloadIo}
    (faithful : user.2.2.Faithful cjson user.1 user.2.1 m.settings) :
    Coherent cjson (initUser cjson config m user) := by
  unfold initUser
  split
  · exact (reload_outcome config faithful).2.coherent lawful coherent
  · exact coherent

/-- The task upgrades one user at most, and not one whose table is cached. -/
theorem runTask_coherent (verbatim : cjson.Verbatim "version") (config : Config)
    (coherent : Coherent cjson m) {io : GlobalIo} (faithful : Faithful cjson m (config, .task io)) :
    Coherent cjson (runTask cjson config io m) := by
  unfold runTask
  cases queue : m.tasks with
  | nil => exact coherent
  | cons task tasks =>
      obtain ⟨userId, cfg⟩ := task
      have truthful := faithful userId cfg (by rw [queue]; rfl)
      have spec := updateGlobalEnabledTable_spec cjson config io userId cfg m.settings
      intro other found cached entries
      have before := coherent other found cached entries
      refine ⟨?_, before.2⟩
      refine Eq.trans ?_ before.1
      show (updateGlobalEnabledTable cjson config io userId cfg m.settings).userTable other = _
      generalize updateGlobalEnabledTable cjson config io userId cfg m.settings = after at spec
      have upgraded : ∀ old, Replaces cjson config io userId cfg m.settings old →
          (upgrade cjson config io.upgrade (getGlobalTableUserId cjson old)
            [] m.settings).2.userTable other =
            m.settings.userTable other := by
        intro old replaces
        rcases upgrade_tables cjson config io.upgrade (getGlobalTableUserId cjson old)
          [] m.settings with
          same | ⟨-, ⟨content, read, unmentioned⟩, src, -, -, -, tables⟩
        · rw [same]
        · rw [tables]
          by_cases own : other = getGlobalTableUserId cjson old
          · -- His table is recognised.
            have entries : (m.getEnabledCache (getGlobalTableUserId cjson old)).enabledInfos ≠ [] := by
              rw [← own, Manager.getEnabledCache, cached]
              exact entries
            rw [← own, before.1] at read
            have mentions := mentionsVersion_read verbatim (truthful old replaces entries) read
            rw [unmentioned] at mentions
            cases mentions
          · rw [Function.update_of_ne own]
      cases spec with
      | unchanged => rfl
      | replaced => rfl
      | stopped old replaces => exact upgraded old replaces
      | upgraded old replaces => exact upgraded old replaces

end Operations

/-! ## Runs -/

/-- What an operation returns. -/
def Manager.result (cjson : CJson) (m : Manager) : Config × Op → Except ErrorCode Unit
  | (config, .init ready users) => (Enabled.init cjson config ready users m).1
  | (config, .switch ready handler io userId imeInfos) =>
      (Enabled.switch cjson config ready handler io userId imeInfos m).1
  | (config, .add io userId imeInfo) => (Enabled.add cjson config io userId imeInfo m).1
  | (_, .deleteUser userId) => (Enabled.deleteUser userId m).1
  | (config, .delete io userId bundleName) => (Enabled.delete cjson config io userId bundleName m).1
  | (config, .update io now userId bundleName extensionName status) =>
      (Enabled.update cjson config io now userId bundleName extensionName status m).1
  | (config, .setCurrentIme io userId imeId subName isSetByUser) =>
      (Enabled.setCurrentIme cjson config io userId imeId subName isSetByUser m).1
  | (config, .setTmpIme io userId imeId) => (Enabled.setTmpIme cjson config io userId imeId m).1
  | (config, .reload io userId imeInfos) => (Enabled.reload cjson config io userId imeInfos m).1
  | (_, .task _) => .ok ()
  | (_, .restart) => .ok ()

/-- The user of an operation and the table that a reload in it loads. -/
def Reloads (cjson : CJson) (m : Manager) (userId : Int32) (cfg : ImeEnabledCfg) : Config × Op → Prop
  | (config, .switch _ _ io user imeInfos) => user = userId ∧ Loads cjson config io user imeInfos m cfg
  | (config, .add io user _) => user = userId ∧ Loads cjson config io.reload user [] m cfg
  | (config, .delete io user _) => user = userId ∧ Loads cjson config io.reload user [] m cfg
  | (config, .update io _ user _ _ _) => user = userId ∧ Loads cjson config io.reload user [] m cfg
  | (config, .setCurrentIme io user _ _ _) => user = userId ∧ Loads cjson config io.reload user [] m cfg
  | (config, .setTmpIme io user _) => user = userId ∧ Loads cjson config io.reload user [] m cfg
  | (config, .reload io user imeInfos) => user = userId ∧ Loads cjson config io user imeInfos m cfg
  | (_, .init _ _) => False
  | (_, .deleteUser _) => False
  | (_, .task _) => False
  | (_, .restart) => False

/-- After an error every user's cached and persisted table are as they were, or both are the
table that the operation loaded. -/
def NotHalf (cjson : CJson) (m : Manager) (e : Config × Op) : Prop :=
  ∀ code, m.result cjson e = .error code →
    Same m (m.step cjson e) ∨
      ∃ userId cfg, Reloads cjson m userId cfg e ∧ Replaced cjson userId cfg m (m.step cjson e)

section Runs

variable {cjson : CJson} {m : Manager}

theorem Outcome.notHalf {userId : Int32} {loads : ImeEnabledCfg → Prop} {e : Config × Op}
    (outcome : Outcome cjson userId loads m (m.result cjson e, m.step cjson e))
    (reloads : ∀ cfg, loads cfg → Reloads cjson m userId cfg e) : NotHalf cjson m e := by
  intro code failed
  rcases outcome.1 code failed with same | ⟨cfg, loaded, replaced⟩
  · exact .inl same
  · exact .inr ⟨userId, cfg, reloads cfg loaded, replaced⟩

/-- One operation keeps the tables coherent and leaves nothing half changed. -/
theorem step_coherent (lawful : cjson.Lawful) (verbatim : cjson.Verbatim "version")
    (coherent : Coherent cjson m) {e : Config × Op} (faithful : Faithful cjson m e) :
    Coherent cjson (m.step cjson e) ∧ NotHalf cjson m e := by
  -- Every operation of one user is given by what it leaves.
  have settled : ∀ {userId : Int32} {loads : ImeEnabledCfg → Prop},
      Outcome cjson userId loads m (m.result cjson e, m.step cjson e) →
      (∀ cfg, loads cfg → Reloads cjson m userId cfg e) →
      Coherent cjson (m.step cjson e) ∧ NotHalf cjson m e :=
    fun outcome reloads => ⟨outcome.2.coherent lawful coherent, outcome.notHalf reloads⟩
  obtain ⟨config, op⟩ := e
  cases op with
  | init ready users =>
      cases ready with
      | false => exact ⟨coherent, fun _ _ => .inl (.refl m)⟩
      | true =>
          refine ⟨?_, nofun⟩
          refine run_keeps ?_ coherent (faithful rfl)
          intro m user coherent faithful
          exact initUser_coherent lawful config coherent faithful
  | switch ready handler io userId imeInfos =>
      exact settled (switch_outcome config faithful ready handler) fun _ loaded => ⟨rfl, loaded⟩
  | add io userId imeInfo =>
      exact settled (add_outcome config coherent faithful imeInfo) fun _ loaded => ⟨rfl, loaded⟩
  | deleteUser userId =>
      refine ⟨?_, nofun⟩
      intro other cfg (cached : Function.update m.imeEnabledCfg userId none other = some cfg) entries
      by_cases own : other = userId
      · rw [own, Function.update_self] at cached
        cases cached
      · rw [Function.update_of_ne own] at cached
        exact coherent other cfg cached entries
  | delete io userId bundleName =>
      exact settled (delete_outcome config coherent faithful bundleName) fun _ loaded => ⟨rfl, loaded⟩
  | update io now userId bundleName extensionName status =>
      exact settled (update_outcome config coherent faithful.1 faithful.2 bundleName
        extensionName status)
        fun _ loaded => ⟨rfl, loaded⟩
  | setCurrentIme io userId imeId subName isSetByUser =>
      exact settled (setCurrentIme_outcome config coherent faithful.1 faithful.2.1
        faithful.2.2 isSetByUser)
        fun _ loaded => ⟨rfl, loaded⟩
  | setTmpIme io userId imeId =>
      exact settled (setTmpIme_outcome config coherent faithful imeId) fun _ loaded => ⟨rfl, loaded⟩
  | reload io userId imeInfos =>
      exact settled (reload_outcome config faithful) fun _ loaded => ⟨rfl, loaded⟩
  | task io => exact ⟨runTask_coherent verbatim config coherent faithful, nofun⟩
  | restart => exact ⟨nofun, nofun⟩

/-- **The cache is coherent.**  Start with empty caches and any settings.  Along every run of
operations whose answers are faithful, a cached table with entries is what the persisted text
says, text and table both ways; and an operation of the run that returns an error leaves the
cached and the persisted tables as they were, or both replaced by the table it loaded. -/
theorem cache_coherent (lawful : cjson.Lawful) (verbatim : cjson.Verbatim "version")
    {settings : Settings} {ops : List (Config × Op)}
    (faithful : Meets (Manager.step cjson) (Faithful cjson) { settings := settings } ops) :
    Coherent cjson (run (Manager.step cjson) { settings := settings } ops) ∧
      ∀ before e after, ops = before ++ e :: after →
        NotHalf cjson (run (Manager.step cjson) { settings := settings } before) e := by
  have empty : Coherent cjson { settings := settings } := nofun
  have keeps : ∀ m e, Coherent cjson m → Faithful cjson m e → Coherent cjson (m.step cjson e) := by
    intro m e coherent faithful
    exact (step_coherent lawful verbatim coherent faithful).1
  refine ⟨run_keeps keeps empty faithful, ?_⟩
  rintro before e after rfl
  obtain ⟨first, next, -⟩ := Lib.meets_append.1 faithful
  exact (step_coherent lawful verbatim (run_keeps keeps empty first) next).2

end Runs

/-! ## Poles -/

/-- Answers without any failure. -/
theorem default_faithful (cjson : CJson) (userId : Int32) (imeInfos : List FullImeInfo) (s : Settings) :
    ReloadIo.Faithful cjson {} userId imeInfos s :=
  ⟨rfl, rfl, fun _ _ => ⟨rfl, nofun⟩⟩

/-- A table is made, an input method becomes current, and a write fails. -/
theorem failed_write_coherent :
    let config : Config := { defaultIme := "com.example.system" }
    let ops := [(config, .reload {} 100 [keyboard]),
      (config, .setCurrentIme {} 100 "com.example.keyboard/KeyboardExt" "" true),
      (config, .setTmpIme { write := ⟨false, false⟩ } 100 "com.example.keyboard/KeyboardExt")]
    Coherent compact (run (Manager.step compact) { settings := {} } ops) := by
  intro config ops
  have faithful : Meets (Manager.step compact) (Faithful compact) { settings := {} } ops :=
    ⟨default_faithful _ _ _ _, ⟨⟨default_faithful _ _ _ _, rfl⟩, by decide, by decide⟩,
      ⟨default_faithful _ _ _ _, rfl⟩, trivial⟩
  exact (cache_coherent compact_lawful compact_verbatim_version faithful).1

/-- One entry, of an input method that is not installed any more. -/
def leftCfg : ImeEnabledCfg where
  enabledInfos := [{ bundleName := "com.example.left", enabledStatus := .basicMode }]

theorem storeCfg_unstored (cjson : CJson) (cfg : ImeEnabledCfg) (userId : Int32) (m : Manager) :
    (storeCfg cjson ⟨false, true⟩ userId cfg m).2.imeEnabledCfg userId = some cfg ∧
      (storeCfg cjson ⟨false, true⟩ userId cfg m).2.settings.userTable = m.settings.userTable :=
  ⟨Function.update_self .., congrArg Settings.userTable (setUserTable_unstored m.settings userId rfl _)⟩

theorem step_reload {cjson : CJson} {config : Config} (io : ReloadIo) {userId : Int32}
    {imeInfos : List FullImeInfo} (m : Manager) {cfg : ImeEnabledCfg} {s : Settings}
    (loaded : getEnabledCfg cjson config io.cfg userId imeInfos m.settings = (.ok cfg, s)) :
    Manager.step cjson m (config, .reload io userId imeInfos) =
      (storeCfg cjson io.write userId cfg (m.withSettings s)).2 := by
  show (reload cjson config io userId imeInfos m).2 = _
  rw [reload, loaded]

def leftSettings : Settings where
  userTable _ := some (leftCfg.text compact)

def leftConfig : Config where
  defaultIme := "com.example.system"

theorem leftCfg_loaded :
    getEnabledCfg compact leftConfig {} 100 [keyboard] leftSettings =
      (.ok { leftCfg.cText with
        enabledInfos := correctBy leftConfig [keyboard] leftCfg.cText.enabledInfos },
          leftSettings) := by
  have table : TakenAsTable compact (readCfg compact (leftCfg.text compact)) (leftCfg.text compact) :=
    takenAsTable (mentionsVersion_text compact_verbatim_version leftCfg)
  rw [readCfg_text compact_lawful] at table
  exact table.decoded leftConfig {} 100 [keyboard] leftSettings rfl rfl

/-- A table that is cached is the one the stored text was made of. -/
theorem Coherent.cached_eq {cjson : CJson} {m : Manager} (coherent : Coherent cjson m)
    (lawful : cjson.Lawful)
    {userId : Int32} {cfg old : ImeEnabledCfg} (cached : m.imeEnabledCfg userId = some cfg)
    (filled : cfg.enabledInfos ≠ []) (table : m.settings.userTable userId = some (old.text cjson)) :
    old.cText = cfg := by
  obtain ⟨stored, back⟩ := coherent userId cfg cached filled
  rw [table] at stored
  rw [← Option.some.inj stored, readCfg_text lawful] at back
  exact back

/-- `Insert` fails and the helper is released: the loaded table is cached with an entry that
was never written. -/
theorem reported_write_incoherent :
    ¬ Coherent compact (run (Manager.step compact) { settings := leftSettings }
      [(leftConfig, .reload { write := ⟨false, true⟩ } 100 [keyboard])]) := by
  have entries : (correctBy leftConfig [keyboard] leftCfg.cText.enabledInfos).length = 2 := by decide
  rw [Lib.run_cons, Lib.run_nil,
    step_reload { write := ⟨false, true⟩ } { settings := leftSettings } leftCfg_loaded]
  intro coherent
  obtain ⟨cached, tables⟩ := storeCfg_unstored compact
    { leftCfg.cText with
      enabledInfos := correctBy leftConfig [keyboard] leftCfg.cText.enabledInfos } 100
    (Manager.withSettings { settings := leftSettings } leftSettings)
  have filled := List.ne_nil_of_length_pos (by rw [entries]; decide)
  have same := coherent.cached_eq compact_lawful cached filled (congrFun tables 100)
  have lengths := congrArg (fun cfg => cfg.enabledInfos.length) same
  rw [entries] at lengths
  cases lengths

end Imf.Enabled
