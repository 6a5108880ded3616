/-
# Imf.Enabled.Manager -- the cache of tables and the operations on it

`ime_enabled_info_manager.cpp`.  Every user has a cached table; an operation takes it from
the cache, or loads it first, changes a copy, writes the copy and then caches it.  Operations
hold one lock; the update of the global table after a user switch is a task that runs on its
own later.

Each operation gets the answers of everything it may ask (`OpIo`): the reads and writes of
the settings, the installed input methods, the clock.
-/
import Imf.Enabled.Upgrade

namespace Imf.Enabled

set_option autoImplicit false

open Lib (modifyFirst)
open Imf.Json

/-- `ImeEnabledInfoManager`, with the settings it works on and the posted tasks. -/
structure Manager where
  settings : Settings
  imeEnabledCfg : Int32 → Option ImeEnabledCfg := fun _ => none
  tasks : List (Int32 × ImeEnabledCfg) := []

namespace Manager

/-- `GetEnabledCache`. -/
def getEnabledCache (m : Manager) (userId : Int32) : ImeEnabledCfg := (m.imeEnabledCfg userId).getD {}

/-- `SetEnabledCache`. -/
def setEnabledCache (m : Manager) (userId : Int32) (cfg : ImeEnabledCfg) : Manager :=
  { m with imeEnabledCfg := Function.update m.imeEnabledCfg userId (some cfg) }

/-- `ClearEnabledCache`. -/
def clearEnabledCache (m : Manager) (userId : Int32) : Manager :=
  { m with imeEnabledCfg := Function.update m.imeEnabledCfg userId none }

def withSettings (m : Manager) (s : Settings) : Manager := { m with settings := s }

/-- The service starts anew. -/
def restart (m : Manager) : Manager := { settings := { m.settings with upgradedUserId := [] } }

end Manager

/-- What the calls of `GetEnabledCfg` return: the first read of the user table, the query of
`CorrectByBundleMgr`, those of `Upgrade`, the read after it. -/
structure CfgIo where
  first : Fault := none
  query : Except ErrorCode (List FullImeInfo) := .ok []
  upgrade : UpgradeIo := {}
  second : Fault := none

/-- `CfgIo`, and the write that follows. -/
structure ReloadIo where
  cfg : CfgIo := {}
  write : Write := ⟨true, true⟩

/-- What the calls of an operation return: those of a reload if there is one, the write,
`IsInputMethod`, `IsImeInstalled`. -/
structure OpIo where
  reload : ReloadIo := {}
  write : Write := ⟨true, true⟩
  isInputMethod : Bool := true
  isImeInstalled : Bool := true

section Operations

variable (cjson : CJson) (config : Config)

/-! ## Loading -/

/-- `GetEnabledCfg`.  When the second read finds no content, the variable still holds what
the first one found. -/
def getEnabledCfg (io : CfgIo) (userId : Int32) (imeInfos : List FullImeInfo) (s : Settings) :
    Except ErrorCode ImeEnabledCfg × Settings :=
  match orEmpty (getStringValue io.first (s.userTable userId)) with
  | .error code => (.error code, s)
  | .ok userContent =>
      if mentionsVersion userContent then
        let cfg := readCfg cjson userContent
        match finalImeInfos io.query imeInfos with
        | .error code => (.error code, s)
        | .ok installed =>
            (.ok { cfg with enabledInfos := correctBy config installed cfg.enabledInfos }, s)
      else
        match upgrade cjson config io.upgrade userId imeInfos s with
        | (.error code, s) => (.error code, s)
        | (.ok (), s) =>
            match getStringValue io.second (s.userTable userId) with
            | .error .errorKeywordNotFound => (.ok (readCfg cjson userContent), s)
            | .error code => (.error code, s)
            | .ok content => (.ok (readCfg cjson content), s)

/-- `UpdateEnabledCfgCache` with a table: write it, then cache it. -/
def storeCfg (write : Write) (userId : Int32) (cfg : ImeEnabledCfg) (m : Manager) :
    Except ErrorCode Unit × Manager :=
  let m := m.withSettings (m.settings.setUserTable write userId (cfg.text cjson))
  if write.reported then (.ok (), m.setEnabledCache userId cfg) else (.error .errorEnableIme, m)

/-- `UpdateEnabledCfgCache` without a table: load it first. -/
def reload (io : ReloadIo) (userId : Int32) (imeInfos : List FullImeInfo) (m : Manager) :
    Except ErrorCode Unit × Manager :=
  match getEnabledCfg cjson config io.cfg userId imeInfos m.settings with
  | (.error code, s) => (.error code, m.withSettings s)
  | (.ok cfg, s) => storeCfg cjson io.write userId cfg (m.withSettings s)

/-- The end of both `GetEnabledCacheWithCorrect`. -/
def reloadedCache (io : ReloadIo) (userId : Int32) (m : Manager) :
    Except ErrorCode ImeEnabledCfg × Manager :=
  match reload cjson config io userId [] m with
  | (.error code, m) => (.error code, m)
  | (.ok (), m) =>
      let cfg := m.getEnabledCache userId
      (if cfg.enabledInfos.isEmpty then .error .errorEnableIme else .ok cfg, m)

/-- `GetEnabledCacheWithCorrect(userId)`. -/
def getEnabledCacheWithCorrect (io : ReloadIo) (userId : Int32) (m : Manager) :
    Except ErrorCode ImeEnabledCfg × Manager :=
  let cfg := m.getEnabledCache userId
  if !cfg.enabledInfos.isEmpty then (.ok cfg, m) else reloadedCache cjson config io userId m

/-- `GetEnabledCacheWithCorrect(userId, bundleName, extensionName)`. -/
def getEnabledCacheWithCorrectFor (io : OpIo) (userId : Int32) (bundleName : String) (m : Manager) :
    Except ErrorCode ImeEnabledCfg × Manager :=
  let cfg := m.getEnabledCache userId
  if cfg.enabledInfos.any (isNamed bundleName) then (.ok cfg, m)
  else if !io.isInputMethod then (.error .errorImeNotFound, m)
  else reloadedCache cjson config io.reload userId m

/-! ## Operations -/

/-- One user of `Init`. -/
def initUser (m : Manager) (user : Int32 × List FullImeInfo × ReloadIo) : Manager :=
  if (m.getEnabledCache user.1).enabledInfos.isEmpty then
    (reload cjson config user.2.2 user.1 user.2.1 m).2
  else m

/-- `Init`. -/
def init (ready : Bool) (users : List (Int32 × List FullImeInfo × ReloadIo)) (m : Manager) :
    Except ErrorCode Unit × Manager :=
  if !ready then (.error .errorEnableIme, m) else (.ok (), users.foldl (initUser cjson config) m)

/-- `Switch`; `handler` says whether there is one to post the task to. -/
def switch (ready handler : Bool) (io : ReloadIo) (userId : Int32) (imeInfos : List FullImeInfo)
    (m : Manager) : Except ErrorCode Unit × Manager :=
  let cfg := m.getEnabledCache userId
  if !cfg.enabledInfos.isEmpty then
    (.ok (), if handler then { m with tasks := m.tasks ++ [(userId, cfg)] } else m)
  else if !ready then (.error .errorEnableIme, m)
  else reload cjson config io userId imeInfos m

/-- `Add`. -/
def add (io : OpIo) (userId : Int32) (imeInfo : FullImeInfo) (m : Manager) :
    Except ErrorCode Unit × Manager :=
  if imeInfo.name = config.defaultIme ∨ imeInfo.isSystemSpecialIme then (.ok (), m)
  else
    match getEnabledCacheWithCorrect cjson config io.reload userId m with
    | (.error code, m) => (.error code, m)
    | (.ok cfg, m) =>
        let known := cfg.enabledInfos.find? (isNamed imeInfo.name)
        if known.any fun info => decide (info.extensionName ≠ "") then (.ok (), m)
        else storeCfg cjson io.write userId
          { cfg with enabledInfos := install config cfg.enabledInfos imeInfo } m

/-- `Delete(userId)`. -/
def deleteUser (userId : Int32) (m : Manager) : Except ErrorCode Unit × Manager :=
  (.ok (), m.clearEnabledCache userId)

/-- `Delete(userId, bundleName)`: the entry stays, the current input method moves on.  The
result of the write is only logged. -/
def delete (io : OpIo) (userId : Int32) (bundleName : String) (m : Manager) :
    Except ErrorCode Unit × Manager :=
  match getEnabledCacheWithCorrect cjson config io.reload userId m with
  | (.error code, m) => (.error code, m)
  | (.ok cfg, m) =>
      if !isCurrentIme bundleName cfg.enabledInfos then (.ok (), m)
      else
        let moved := { cfg with enabledInfos := modCurrentIme config cfg.enabledInfos }
        (.ok (), (storeCfg cjson io.write userId moved m).2)

/-- `CheckUpdate`. -/
def checkUpdate (io : OpIo) (bundleName extensionName : String) (status : EnabledStatus) :
    Except ErrorCode Unit :=
  if bundleName = "" ∨ status.code < EnabledStatus.disabled.code ∨
      EnabledStatus.fullExperienceMode.code < status.code then .error .errorBadParameters
  else if extensionName = "" ∧ io.isInputMethod = false then .error .errorImeNotFound
  else if extensionName ≠ "" ∧ io.isImeInstalled = false then .error .errorImeNotFound
  else if config.defaultIme = bundleName then .error .errorOperateSystemIme
  else .ok ()

/-- The change that `Update` makes to a table. -/
def updated (bundleName : String) (status : EnabledStatus) (now : String)
    (infos : List ImeEnabledInfo) :
    List ImeEnabledInfo :=
  let infos := modifyFirst (isNamed bundleName) (setStatus status now) infos
  if isCurrentIme bundleName infos ∧ status = .disabled then modCurrentIme config infos else infos

/-- `Update`. -/
def update (io : OpIo) (now : String) (userId : Int32) (bundleName extensionName : String)
    (status : EnabledStatus) (m : Manager) : Except ErrorCode Unit × Manager :=
  match checkUpdate config io bundleName extensionName status with
  | .error code => (.error code, m)
  | .ok () =>
      match getEnabledCacheWithCorrectFor cjson config io userId bundleName m with
      | (.error _, m) => (.error .errorEnableIme, m)
      | (.ok cfg, m) =>
          match cfg.enabledInfos.find? (isNamed bundleName) with
          | none => (.error .errorImeNotFound, m)
          | some info =>
              if info.enabledStatus = status then (.ok (), m)
              else storeCfg cjson io.write userId
                { cfg with enabledInfos := updated config bundleName status now cfg.enabledInfos } m

/-- `SetCurrentIme`. -/
def setCurrentIme (io : OpIo) (userId : Int32) (imeId subName : String) (isSetByUser : Bool)
    (m : Manager) : Except ErrorCode Unit × Manager :=
  let (bundleName, extName) := splitImeId imeId
  if bundleName = "" then (.error .errorBadParameters, m)
  else
    match getEnabledCacheWithCorrectFor cjson config io userId bundleName m with
    | (.error _, m) => (.error .errorEnableIme, m)
    | (.ok cfg, m) =>
        if !cfg.enabledInfos.any (isNamed bundleName) then (.error .errorBadParameters, m)
        else storeCfg cjson io.write userId
          { cfg with enabledInfos := setCurrent bundleName extName subName isSetByUser cfg.enabledInfos } m

/-- `SetTmpIme`. -/
def setTmpIme (io : OpIo) (userId : Int32) (imeId : String) (m : Manager) :
    Except ErrorCode Unit × Manager :=
  if imeId = "" then
    match getEnabledCacheWithCorrect cjson config io.reload userId m with
    | (.error code, m) => (.error code, m)
    | (.ok cfg, m) =>
        if !cfg.enabledInfos.any ImeEnabledInfo.isTmp then (.ok (), m)
        else storeCfg cjson io.write userId { cfg with enabledInfos := clearTmp cfg.enabledInfos } m
  else
    let bundleName := (splitImeId imeId).1
    match getEnabledCacheWithCorrectFor cjson config io userId bundleName m with
    | (.error code, m) => (.error code, m)
    | (.ok cfg, m) =>
        if cfg.enabledInfos.any fun info => info.isTmp && isNamed bundleName info then (.ok (), m)
        else storeCfg cjson io.write userId
          { cfg with enabledInfos := setTmp bundleName cfg.enabledInfos } m

/-- A posted task runs. -/
def runTask (io : GlobalIo) (m : Manager) : Manager :=
  match m.tasks with
  | [] => m
  | (userId, cfg) :: tasks =>
      { m with settings := updateGlobalEnabledTable cjson config io userId cfg m.settings, tasks := tasks }

end Operations

/-! ## Runs -/

/-- Everything that happens to the tables. -/
inductive Op where
  | init (ready : Bool) (users : List (Int32 × List FullImeInfo × ReloadIo))
  | switch (ready handler : Bool) (io : ReloadIo) (userId : Int32) (imeInfos : List FullImeInfo)
  | add (io : OpIo) (userId : Int32) (imeInfo : FullImeInfo)
  | deleteUser (userId : Int32)
  | delete (io : OpIo) (userId : Int32) (bundleName : String)
  | update (io : OpIo) (now : String) (userId : Int32) (bundleName extensionName : String)
      (status : EnabledStatus)
  | setCurrentIme (io : OpIo) (userId : Int32) (imeId subName : String) (isSetByUser : Bool)
  | setTmpIme (io : OpIo) (userId : Int32) (imeId : String)
  | reload (io : ReloadIo) (userId : Int32) (imeInfos : List FullImeInfo)
  | task (io : GlobalIo)
  | restart

/-- One operation, under the configuration of its time. -/
def Manager.step (cjson : CJson) (m : Manager) : Config × Op → Manager
  | (config, .init ready users) => (Enabled.init cjson config ready users m).2
  | (config, .switch ready handler io userId imeInfos) =>
      (Enabled.switch cjson config ready handler io userId imeInfos m).2
  | (config, .add io userId imeInfo) => (Enabled.add cjson config io userId imeInfo m).2
  | (_, .deleteUser userId) => (Enabled.deleteUser userId m).2
  | (config, .delete io userId bundleName) => (Enabled.delete cjson config io userId bundleName m).2
  | (config, .update io now userId bundleName extensionName status) =>
      (Enabled.update cjson config io now userId bundleName extensionName status m).2
  | (config, .setCurrentIme io userId imeId subName isSetByUser) =>
      (Enabled.setCurrentIme cjson config io userId imeId subName isSetByUser m).2
  | (config, .setTmpIme io userId imeId) => (Enabled.setTmpIme cjson config io userId imeId m).2
  | (config, .reload io userId imeInfos) => (Enabled.reload cjson config io userId imeInfos m).2
  | (config, .task io) => runTask cjson config io m
  | (_, .restart) => m.restart

end Imf.Enabled
