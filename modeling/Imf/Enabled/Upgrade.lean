/-
# Imf.Enabled.Upgrade -- the settings store and the migration to it

`enable_upgrade_manager.cpp`: the lists of earlier versions (in the global table or in the
table of the user), the full experience list and the persisted current input method become
one table per user, once.

What the store does is given with every call.  A read can fail with any code; when it works
it returns what is stored, and `ERROR_KEYWORD_NOT_FOUND` when nothing is.  A write has two
answers that do not depend on each other: `SetStringValue` ignores what `Insert` returns and
reports whether the helper could be released (`Write`).
-/
import Imf.Common.ErrorCode
import Imf.Enabled.Edits
import Mathlib.Logic.Function.Basic

namespace Imf.Enabled

set_option autoImplicit false

open Lib (Json)
open Imf.Json

/-! ## SettingsDataUtils -/

/-- How a read of the settings fails, if it does. -/
abbrev Fault := Option ErrorCode

/-- `GetStringValue`. -/
def getStringValue (fault : Fault) (stored : Option String) : Except ErrorCode String :=
  match fault, stored with
  | some code, _ => .error code
  | none, none => .error .errorKeywordNotFound
  | none, some content => .ok content

theorem getStringValue_ok {fault : Fault} {stored : Option String} {content : String}
    (read : getStringValue fault stored = .ok content) : fault = none ∧ stored = some content := by
  unfold getStringValue at read
  split at read
  · cases read
  · cases read
  · cases read
    exact ⟨rfl, rfl⟩

/-- How `SetStringValue` goes: whether the value was stored, and what it returns. -/
structure Write where
  stored : Bool
  reported : Bool
  deriving DecidableEq

def Write.put (write : Write) (content : String) (before : Option String) : Option String :=
  if write.stored then some content else before

/-- Missing content is read as empty content. -/
def orEmpty : Except ErrorCode String → Except ErrorCode String
  | .error .errorKeywordNotFound => .ok ""
  | result => result

theorem orEmpty_ok {result : Except ErrorCode String} {content : String}
    (read : orEmpty result = .ok content) :
    result = .ok content ∨ (result = .error .errorKeywordNotFound ∧ content = "") := by
  unfold orEmpty at read
  split at read
  · cases read
    exact .inr ⟨rfl, rfl⟩
  · exact .inl read

/-- `std::to_string`. -/
def userKey (userId : Int32) : String := String.ofList (Json.writeInt userId.toInt)

/-- `ENABLE_IME` in the global and in the user tables, `SECURITY_MODE`, the file
`ime_cfg.json`, and the users upgraded since the service started. -/
structure Settings where
  globalTable : Option String := none
  securityMode : Option String := none
  userTable : Int32 → Option String := fun _ => none
  imeCfg : Option String := none
  upgradedUserId : List Int32 := []

namespace Settings

/-- `SetUserEnabledTable`. -/
def setUserTable (s : Settings) (write : Write) (userId : Int32) (content : String) : Settings :=
  { s with userTable := Function.update s.userTable userId (write.put content (s.userTable userId)) }

/-- `SetGlobalEnabledTable`. -/
def setGlobalTable (s : Settings) (write : Write) (content : String) : Settings :=
  { s with globalTable := write.put content s.globalTable }

def markUpgraded (s : Settings) (userId : Int32) : Settings :=
  { s with upgradedUserId := userId :: s.upgradedUserId }

@[simp] theorem setUserTable_self (s : Settings) (write : Write) (userId : Int32) (content : String) :
    (s.setUserTable write userId content).userTable userId = write.put content (s.userTable userId) :=
  Function.update_self ..

theorem setUserTable_other (s : Settings) (write : Write) {userId other : Int32} (content : String)
    (differ : other ≠ userId) :
    (s.setUserTable write userId content).userTable other = s.userTable other :=
  Function.update_of_ne differ ..

end Settings

/-! ## The formats of earlier versions -/

/-- The lists of some users, in the format of `EnabledImeCfg`. -/
def enableImeList (lists : List (Int32 × List String)) : Json :=
  .obj [("enableImeList", .obj (lists.map fun list => (userKey list.1, ofStrings list.2)))]

/-- `EnabledImeCfg::Marshal`: one user and his list. -/
def enabledImeCfg (userId : Int32) (identities : List String) :
    Json := enableImeList [(userId, identities)]

section Formats

variable (cjson : CJson)

/-- The list of a user in an object of lists: `EnabledImeCfg` and `SecurityModeCfg`. -/
def readList (listName : String) (userId : Int32) (content : String) : Option (List String) :=
  (cjson.parse (cStr content)).bind fun node =>
    getObject (fun lists => getStrings lists (userKey userId)) node listName

/-- `EnabledImeCfg::Unmarshall`. -/
def readEnabledImeCfg : Int32 → String → Option (List String) := readList cjson "enableImeList"

/-- `SecurityModeCfg::Unmarshall`. -/
def readSecurityModeCfg : Int32 → String → Option (List String) := readList cjson "fullExperienceList"

/-- `ImePersistInfo::Unmarshal`. -/
def unmarshalPersistInfo (node : Json) : Option ImePersistInfo := do
  let userId ← getInt32 node "userId"
  let currentIme ← getString node "currentIme"
  let currentSubName ← getString node "currentSubName"
  let isDefaultImeSet ← getBool node "isDefaultImeSet"
  some { userId := userId, currentIme := currentIme, currentSubName := currentSubName,
         tempScreenLockIme := (getString node "tempScreenLockIme").getD "",
         isDefaultImeSet := isDefaultImeSet }

def persistItems : List Json → Option (List ImePersistInfo)
  | [] => some []
  | .obj fields :: items => do
      let info ← unmarshalPersistInfo (.obj fields)
      let infos ← persistItems items
      some (info :: infos)
  | _ :: _ => none

/-- `ImePersistCfg::Unmarshall`. -/
def readImePersistCfg (content : String) : Option (List ImePersistInfo) :=
  (cjson.parse (cStr content)).bind fun node =>
    match getSubNode node "imeCfgList" with
    | some (.arr items) => persistItems items
    | _ => none

/-! ## Upgrade -/

/-- What the calls that `Upgrade` makes return: the reads of the user table, of the global
table, of the user table as a list, of the full experience list, `QueryFullImeInfo`, whether
the file can be read, and the write of the table. -/
structure UpgradeIo where
  userTable : Fault := none
  globalTable : Fault := none
  userList : Fault := none
  fullExperience : Fault := none
  query : Except ErrorCode (List FullImeInfo) := .ok []
  fileReadable : Bool := true
  write : Write := ⟨true, true⟩

/-- `ParseEnabledTable`. -/
def parseEnabledTable (userId : Int32) (content : String) : Except ErrorCode (List String) :=
  match readEnabledImeCfg cjson userId content with
  | some identities => .ok (nameSet identities)
  | none => .error .errorExParcelable

def getTableNames (fault : Fault) (stored : Option String) (userId : Int32) :
    Except ErrorCode (List String) :=
  match getStringValue fault stored with
  | .ok content => parseEnabledTable cjson userId content
  | .error code => .error code

/-- `GetEnabledTable`: the user table only when the global one cannot be decoded. -/
def getEnabledTable (io : UpgradeIo) (s : Settings) (userId : Int32) : Except ErrorCode (List String) :=
  match getTableNames cjson io.globalTable s.globalTable userId with
  | .error .errorExParcelable => getTableNames cjson io.userList (s.userTable userId) userId
  | result => result

/-- `GetFullExperienceTable`. -/
def getFullExperienceTable (io : UpgradeIo) (s : Settings) (userId : Int32) :
    Except ErrorCode (List String) :=
  match getStringValue io.fullExperience s.securityMode with
  | .ok content =>
      match readSecurityModeCfg cjson userId content with
      | some identities => .ok (nameSet identities)
      | none => .error .errorExParcelable
  | .error code => .error code

/-- No list and a list that cannot be decoded count as empty in `MergeTwoTable`. -/
def orNoNames : Except ErrorCode (List String) → Except ErrorCode (List String)
  | .error .errorKeywordNotFound => .ok []
  | .error .errorExParcelable => .ok []
  | result => result

/-- `MergeTwoTable`. -/
def mergeTwoTable (io : UpgradeIo) (s : Settings) (userId : Int32) :
    Except ErrorCode (List ImeEnabledInfo) := do
  let enabledBundleNames ← orNoNames (getEnabledTable cjson io s userId)
  let fullModeBundleNames ← orNoNames (getFullExperienceTable cjson io s userId)
  return mergeTwo enabledBundleNames fullModeBundleNames

/-- The installed input methods, asked for when the caller gave none. -/
def finalImeInfos (query : Except ErrorCode (List FullImeInfo)) (imeInfos : List FullImeInfo) :
    Except ErrorCode (List FullImeInfo) :=
  if imeInfos.isEmpty then query else .ok imeInfos

/-- `PaddedByBundleMgr`. -/
def paddedByBundleMgr (config : Config) (io : UpgradeIo) (imeInfos : List FullImeInfo)
    (enabledInfos : List ImeEnabledInfo) : Except ErrorCode (List ImeEnabledInfo) := do
  let installed ← finalImeInfos io.query imeInfos
  return installed.foldl (pad config) enabledInfos

/-- `GetImePersistCfg`. -/
def getImePersistCfg (io : UpgradeIo) (s : Settings) (userId : Int32) :
    Except ErrorCode ImePersistInfo :=
  match s.imeCfg with
  | none => .ok {}
  | some content =>
      if io.fileReadable then
        match readImePersistCfg cjson (readFile content) with
        | some infos => .ok ((infos.find? fun info => decide (info.userId = userId)).getD {})
        | none => .ok {}
      else .error .errorPersistConfig

/-- `PaddedByImePersistCfg`. -/
def paddedByImePersistCfg (config : Config) (io : UpgradeIo) (s : Settings) (userId : Int32)
    (enabledInfos : List ImeEnabledInfo) : Except ErrorCode (List ImeEnabledInfo) := do
  let persist ← getImePersistCfg cjson io s userId
  return padTmp persist (padCurrent config persist enabledInfos)

/-- The middle of `Upgrade`: the migrated table. -/
def migratedCfg (config : Config) (io : UpgradeIo) (userId : Int32) (imeInfos : List FullImeInfo)
    (s : Settings) : Except ErrorCode ImeEnabledCfg := do
  let merged ← mergeTwoTable cjson io s userId
  let padded ← paddedByBundleMgr config io imeInfos merged
  let enabledInfos ← paddedByImePersistCfg cjson config io s userId padded
  return { version := config.displayVersion, enabledInfos := enabledInfos }

/-- What a migration is made of: the lists as they were read, what is installed, and the
persisted input methods of the user. -/
structure Sources where
  enabled : List String
  full : List String
  installed : List FullImeInfo
  persist : ImePersistInfo

/-- The table made of them. -/
def Sources.table (config : Config) (src : Sources) : List ImeEnabledInfo :=
  padTmp src.persist (padCurrent config src.persist
    (src.installed.foldl (pad config) (mergeTwo src.enabled src.full)))

/-- With the version of the system. -/
def Sources.cfg (config : Config) (src : Sources) : ImeEnabledCfg where
  version := config.displayVersion
  enabledInfos := src.table config

/-- The four sources of `Upgrade`, in its order; the first that cannot be had ends it. -/
def gather (io : UpgradeIo) (userId : Int32) (imeInfos : List FullImeInfo) (s : Settings) :
    Except ErrorCode Sources := do
  let enabled ← orNoNames (getEnabledTable cjson io s userId)
  let full ← orNoNames (getFullExperienceTable cjson io s userId)
  let installed ← finalImeInfos io.query imeInfos
  let persist ← getImePersistCfg cjson io s userId
  return { enabled := enabled, full := full, installed := installed, persist := persist }

theorem migratedCfg_eq (config : Config) (io : UpgradeIo) (userId : Int32) (imeInfos : List FullImeInfo)
    (s : Settings) :
    migratedCfg cjson config io userId imeInfos s =
      (gather cjson io userId imeInfos s).map (Sources.cfg config) := by
  unfold migratedCfg mergeTwoTable paddedByBundleMgr paddedByImePersistCfg gather
  cases orNoNames (getEnabledTable cjson io s userId) with
  | error code => rfl
  | ok enabled =>
      cases orNoNames (getFullExperienceTable cjson io s userId) with
      | error code => rfl
      | ok full =>
          cases finalImeInfos io.query imeInfos with
          | error code => rfl
          | ok installed =>
              cases getImePersistCfg cjson io s userId with
              | error code => rfl
              | ok persist => rfl

/-- `content.find("version") != npos`: how a table of this version is recognised. -/
def mentionsVersion (content : String) : Bool := decide ("version".toList <:+: content.toList)

theorem version_word : Json.Word 'v' ['e', 'r', 's', 'i', 'o', 'n'] :=
  .of_letters (Json.checked (by decide)) (by decide) (by decide)

theorem compact_verbatim_version : compact.Verbatim "version" :=
  compact_verbatim (by decide) version_word

/-- The end of `Upgrade`, for a user who needs it. -/
def migrate (config : Config) (io : UpgradeIo) (userId : Int32) (imeInfos : List FullImeInfo)
    (s : Settings) : Except ErrorCode Unit × Settings :=
  match migratedCfg cjson config io userId imeInfos s with
  | .error code => (.error code, s)
  | .ok cfg =>
      let s := s.setUserTable io.write userId (cfg.text cjson)
      if io.write.reported then (.ok (), s.markUpgraded userId) else (.error .errorEnableIme, s)

/-- `EnableUpgradeManager::Upgrade`. -/
def upgrade (config : Config) (io : UpgradeIo) (userId : Int32) (imeInfos : List FullImeInfo)
    (s : Settings) : Except ErrorCode Unit × Settings :=
  if userId ∈ s.upgradedUserId then (.ok (), s)
  else
    match orEmpty (getStringValue io.userTable (s.userTable userId)) with
    | .error code => (.error code, s)
    | .ok userContent =>
        if mentionsVersion userContent then (.ok (), s.markUpgraded userId)
        else migrate cjson config io userId imeInfos s

/-! ## UpdateGlobalEnabledTable -/

/-- `isspace`. -/
def isSpace (c : Char) : Bool := c == ' ' || (9 ≤ c.toNat && c.toNat ≤ 13)

/-- `atoi`. -/
def atoi (s : String) : Int32 :=
  let value (digits : List Char) : Nat :=
    (digits.takeWhile Char.isDigit).foldl (fun n c => 10 * n + (c.toNat - 48)) 0
  match s.toList.dropWhile isSpace with
  | '-' :: digits => Int32.ofInt (-(value digits : Int))
  | '+' :: digits => Int32.ofInt (value digits)
  | digits => Int32.ofInt (value digits)

/-- `GetGlobalTableUserId`: the first child of `enableImeList`, or `-1`. -/
def getGlobalTableUserId (content : String) : Int32 :=
  match cjson.parse (cStr content) with
  | none => -1
  | some root =>
      match getSubNode root "enableImeList" with
      | some (.obj ((userId, _) :: _)) => atoi userId
      | _ => -1

/-- `GenerateGlobalContent`. -/
def generateGlobalContent (userId : Int32) (bundleNames : List String) : String :=
  cjson.print (enabledImeCfg userId bundleNames)

/-- What the calls that `UpdateGlobalEnabledTable` makes return: the foreground user, which
input methods are installed, the read of the global table, those of `Upgrade`, the write. -/
structure GlobalIo where
  foreground : Int32
  isImeInstalled : String → String → Bool
  globalTable : Fault := none
  upgrade : UpgradeIo := {}
  write : Write := ⟨true, true⟩

/-- The names that go into the global table. -/
def newBundleNames (io : GlobalIo) (cfg : ImeEnabledCfg) : List String :=
  (cfg.enabledInfos.filter fun info =>
    info.enabled && io.isImeInstalled info.bundleName info.extensionName).map
      ImeEnabledInfo.bundleName

/-- `EnableUpgradeManager::UpdateGlobalEnabledTable`. -/
def updateGlobalEnabledTable (config : Config) (io : GlobalIo) (userId : Int32) (cfg : ImeEnabledCfg)
    (s : Settings) : Settings :=
  if !config.enableInputMethodFeature then s
  else if userId ≠ io.foreground then s
  else
    match orEmpty (getStringValue io.globalTable s.globalTable) with
    | .error _ => s
    | .ok oldGlobalContent =>
        let newGlobalContent := generateGlobalContent cjson userId (newBundleNames io cfg)
        if newGlobalContent = "" then s
        else if newGlobalContent = oldGlobalContent then s
        else
          let globalTableUserId := getGlobalTableUserId cjson oldGlobalContent
          if globalTableUserId = -1 ∨ userId = globalTableUserId then
            s.setGlobalTable io.write newGlobalContent
          else
            match upgrade cjson config io.upgrade globalTableUserId [] s with
            | (.error _, s) => s
            | (.ok (), s) => s.setGlobalTable io.write newGlobalContent

end Formats

/-- The update goes on to replace the global table, read as `old`. -/
structure Replaces (cjson : CJson) (config : Config) (io : GlobalIo) (userId : Int32)
    (cfg : ImeEnabledCfg) (s : Settings) (old : String) : Prop where
  feature : config.enableInputMethodFeature = true
  foreground : userId = io.foreground
  read : orEmpty (getStringValue io.globalTable s.globalTable) = .ok old
  changed : generateGlobalContent cjson userId (newBundleNames io cfg) ≠ old

/-- Everything that an update of the global table can do: nothing; replace a table that is
nobody's or the user's own; upgrade the user it belongs to and stop; or upgrade him and
replace it. -/
inductive GlobalUpdate (cjson : CJson) (config : Config) (io : GlobalIo) (userId : Int32)
    (cfg : ImeEnabledCfg) (s : Settings) : Settings → Prop where
  | unchanged : GlobalUpdate cjson config io userId cfg s s
  | replaced (old : String) (replaces : Replaces cjson config io userId cfg s old)
      (own : getGlobalTableUserId cjson old = -1 ∨ userId = getGlobalTableUserId cjson old) :
      GlobalUpdate cjson config io userId cfg s
        (s.setGlobalTable io.write (generateGlobalContent cjson userId (newBundleNames io cfg)))
  | stopped (old : String) (replaces : Replaces cjson config io userId cfg s old) :
      GlobalUpdate cjson config io userId cfg s
        (upgrade cjson config io.upgrade (getGlobalTableUserId cjson old) [] s).2
  | upgraded (old : String) (replaces : Replaces cjson config io userId cfg s old)
      (done : (upgrade cjson config io.upgrade (getGlobalTableUserId cjson old) [] s).1 = .ok ()) :
      GlobalUpdate cjson config io userId cfg s
        ((upgrade cjson config io.upgrade (getGlobalTableUserId cjson old) [] s).2.setGlobalTable
          io.write
          (generateGlobalContent cjson userId (newBundleNames io cfg)))

theorem updateGlobalEnabledTable_spec (cjson : CJson) (config : Config) (io : GlobalIo) (userId : Int32)
    (cfg : ImeEnabledCfg) (s : Settings) :
    GlobalUpdate cjson config io userId cfg s
      (updateGlobalEnabledTable cjson config io userId cfg s) := by
  unfold updateGlobalEnabledTable
  split
  · exact .unchanged
  rename_i on
  split
  · exact .unchanged
  rename_i foreground
  split
  · exact .unchanged
  rename_i old read
  dsimp only
  split
  · exact .unchanged
  split
  · exact .unchanged
  rename_i changed
  have replaces : Replaces cjson config io userId cfg s old :=
    ⟨by simpa using on, not_not.1 foreground, read, changed⟩
  split
  · rename_i own
    exact .replaced old replaces own
  split
  · rename_i code after ran
    have stopped : (upgrade cjson config io.upgrade (getGlobalTableUserId cjson old) [] s).2 =
      after := by
      rw [ran]
    rw [← stopped]
    exact .stopped old replaces
  · rename_i after ran
    have upgraded : (upgrade cjson config io.upgrade (getGlobalTableUserId cjson old) [] s).2 =
      after := by
      rw [ran]
    rw [← upgraded]
    exact .upgraded old replaces (by rw [ran])

end Imf.Enabled
