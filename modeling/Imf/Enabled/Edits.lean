/-
# Imf.Enabled.Edits -- how the table is changed

The loops of `ime_enabled_info_manager.cpp` and `enable_upgrade_manager.cpp` over one table,
without the settings store around them.  An iterator of the source is an index; `find_if`
followed by a change is `modifyFirst`, followed by a change or `push_back` it is `upsert`.

`WellFormed` is what every edit keeps: distinct bundle names, at most one current and at
most one temporary input method.
-/
import Imf.Lib.Run
import Imf.Lib.Keyed
import Imf.Enabled.Table
import Mathlib.Data.List.Dedup
import Mathlib.Data.List.Sort
import Mathlib.Data.String.Basic

namespace Imf.Enabled

set_option autoImplicit false

open Lib (modifyFirst upsert lookup AtMostOne atMostOne_of_none atMostOne_move atMostOne_key
  map_modify map_map_same nodup_upsert mem_map_upsert mem_modify mem_upsert)
open Imf.Json

/-- What is used of a `FullImeInfo`.  Bundle and ability names are C strings. -/
structure FullImeInfo where
  name : String
  id : String
  isSystemSpecialIme : Bool := false
  plainName : NulFree name
  plainId : NulFree id
  deriving DecidableEq, Repr

theorem nulFree_keyboard : NulFree "com.example.keyboard" := by decide

theorem nulFree_keyboardExt : NulFree "KeyboardExt" := by decide

/-- An input method for the concrete runs below. -/
def keyboard : FullImeInfo where
  name := "com.example.keyboard"
  id := "KeyboardExt"
  plainName := nulFree_keyboard
  plainId := nulFree_keyboardExt

/-- What the code asks the rest of the system for: the bundle of `GetDefaultIme`, the system
configuration (and whether it has the field `initEnabledState`), the display version. -/
structure Config where
  defaultIme : String
  enableInputMethodFeature : Bool := false
  enableFullExperienceFeature : Bool := false
  containsInitEnabledState : Bool := false
  initEnabledState : EnabledStatus := .disabled
  displayVersion : String := ""

/-! ## Status of a new entry -/

/-- `SettingsDataUtils::ComputeSysCfgEnabledStatus`. -/
def computeSysCfgEnabledStatus (config : Config) (initStatus : EnabledStatus) : EnabledStatus :=
  if config.containsInitEnabledState then initStatus
  else if !config.enableFullExperienceFeature then
    if config.enableInputMethodFeature then .disabled else .fullExperienceMode
  else if !config.enableInputMethodFeature then .basicMode
  else .disabled

/-- `SettingsDataUtils::ComputeEnabledStatus`. -/
def computeEnabledStatus (config : Config) (bundleName : String) (isSystemSpecialIme : Bool)
    (initStatus : EnabledStatus) : EnabledStatus :=
  if bundleName = "" then .disabled
  else if isSystemSpecialIme then .fullExperienceMode
  else
    let status := computeSysCfgEnabledStatus config initStatus
    if config.defaultIme = "" then status
    else if status = .disabled ∧ bundleName = config.defaultIme then .basicMode
    else status

/-! ## Current and temporary input method -/

def isNamed (bundleName : String) (info : ImeEnabledInfo) :
    Bool := decide (info.bundleName = bundleName)

def setDefault (info : ImeEnabledInfo) : ImeEnabledInfo :=
  { info with extraInfo := { info.extraInfo with isDefaultIme := true } }

/-- What `ModCurrentIme` leaves of the old current input method. -/
def clearCurrent (info : ImeEnabledInfo) : ImeEnabledInfo :=
  { info with extraInfo :=
      { isDefaultIme := false, isDefaultImeSet := false, isTmpIme := false, currentSubName := "" } }

/-- Where `ModCurrentIme` puts the mark: the system input method, else the first enabled one. -/
def successor (config : Config) (infos : List ImeEnabledInfo) : Nat :=
  let sysIme := infos.findIdx (isNamed config.defaultIme)
  if sysIme = infos.length then infos.findIdx ImeEnabledInfo.enabled else sysIme

/-- `ModCurrentIme`.  The new mark is set before the old one is cleared. -/
def modCurrentIme (config : Config) (infos : List ImeEnabledInfo) : List ImeEnabledInfo :=
  let old := infos.findIdx ImeEnabledInfo.isDefault
  let new := successor config infos
  if new = infos.length then infos
  else (infos.modify new setDefault).modify old clearCurrent

/-- `IsCurrentIme`. -/
def isCurrentIme (bundleName : String) (infos : List ImeEnabledInfo) : Bool :=
  match infos.find? ImeEnabledInfo.isDefault with
  | some info => decide (info.bundleName = bundleName)
  | none => false

/-- `SplitImeId`. -/
def splitImeId (imeId : String) : String × String :=
  match imeId.toList.dropWhile (fun c => c != '/') with
  | '/' :: c :: rest =>
      (String.ofList (imeId.toList.takeWhile fun c => c != '/'), String.ofList (c :: rest))
  | _ => ("", "")

/-- The loop of `SetCurrentIme`. -/
def setCurrent (bundleName extName subName : String) (isSetByUser : Bool)
    (infos : List ImeEnabledInfo) :
    List ImeEnabledInfo :=
  infos.map fun info =>
    if info.bundleName = bundleName then
      { info with
        extensionName := extName
        extraInfo := { info.extraInfo with
          currentSubName := subName, isDefaultImeSet := isSetByUser, isDefaultIme := true } }
    else
      { info with extraInfo := { info.extraInfo with
          currentSubName := "", isDefaultImeSet := false, isDefaultIme := false } }

def markTmp (mark : Bool) (info : ImeEnabledInfo) : ImeEnabledInfo :=
  { info with extraInfo := { info.extraInfo with isTmpIme := mark } }

/-- The loops of `SetTmpIme`: with a name and without. -/
def setTmp (bundleName : String) (infos : List ImeEnabledInfo) : List ImeEnabledInfo :=
  infos.map fun info => markTmp (isNamed bundleName info) info

def clearTmp (infos : List ImeEnabledInfo) : List ImeEnabledInfo := infos.map (markTmp false)

def setStatus (status : EnabledStatus) (now : String) (info : ImeEnabledInfo) : ImeEnabledInfo :=
  { info with enabledStatus := status, stateUpdateTime := now }

/-! ## Installed input methods -/

/-- A new entry. -/
def freshInfo (imeInfo : FullImeInfo) (status : EnabledStatus) : ImeEnabledInfo :=
  { bundleName := imeInfo.name, extensionName := imeInfo.id, enabledStatus := status }

/-- An entry without extension was left by an uninstalled input method. -/
def fillExtension (imeInfo : FullImeInfo) (info : ImeEnabledInfo) : ImeEnabledInfo :=
  if info.extensionName = "" then { info with extensionName := imeInfo.id } else info

/-- One installed input method, in `Add` and in the second loop of `CorrectByBundleMgr`. -/
def install (config : Config) (infos : List ImeEnabledInfo) (imeInfo : FullImeInfo) :
    List ImeEnabledInfo :=
  upsert (isNamed imeInfo.name) (fillExtension imeInfo)
    (freshInfo imeInfo
      (computeEnabledStatus config imeInfo.name imeInfo.isSystemSpecialIme config.initEnabledState))
    infos

/-- `CorrectByBundleMgr`, once the installed input methods are known. -/
def correctBy (config : Config) (installed : List FullImeInfo) (infos : List ImeEnabledInfo) :
    List ImeEnabledInfo :=
  let uninstalled (info : ImeEnabledInfo) : Bool :=
    info.isDefault && !installed.any fun imeInfo => decide (info.bundleName = imeInfo.name)
  installed.foldl (install config) (if infos.any uninstalled then modCurrentIme config infos else infos)

/-! ## Migration -/

/-- `std::set<std::string>`. -/
def nameSet (names : List String) : List String := names.dedup.insertionSort (· ≤ ·)

/-- One name of the full experience list. -/
def mergeFull (infos : List ImeEnabledInfo) (name : String) : List ImeEnabledInfo :=
  upsert (isNamed name) (fun info => { info with enabledStatus := .fullExperienceMode })
    { bundleName := name, enabledStatus := .fullExperienceMode } infos

/-- `MergeTwoTable`, once the two lists are known. -/
def mergeTwo (enabledBundleNames fullModeBundleNames : List String) : List ImeEnabledInfo :=
  fullModeBundleNames.foldl mergeFull
    (enabledBundleNames.map fun name => { bundleName := name, enabledStatus := .basicMode })

/-- One installed input method in `PaddedByBundleMgr`. -/
def pad (config : Config) (infos : List ImeEnabledInfo) (imeInfo : FullImeInfo) : List ImeEnabledInfo :=
  upsert (isNamed imeInfo.name) (fun info => { info with extensionName := imeInfo.id })
    (freshInfo imeInfo (computeEnabledStatus config imeInfo.name imeInfo.isSystemSpecialIme .disabled))
    infos

/-- The part of `ImePersistInfo` that is used. -/
structure ImePersistInfo where
  userId : Int32 := -1
  currentIme : String := ""
  currentSubName : String := ""
  tempScreenLockIme : String := ""
  isDefaultImeSet : Bool := false

def isIme (ime : String × String) (info : ImeEnabledInfo) : Bool :=
  decide (info.bundleName = ime.1 ∧ info.extensionName = ime.2)

def isEnabledIme (ime : String × String) (info : ImeEnabledInfo) :
    Bool := isIme ime info && info.enabled

/-- The first half of `PaddedByImePersistCfg`: the current input method. -/
def padCurrent (config : Config) (persist : ImePersistInfo) (infos : List ImeEnabledInfo) :
    List ImeEnabledInfo :=
  let current := splitImeId persist.currentIme
  if infos.any (isEnabledIme current) then
    modifyFirst (isEnabledIme current)
      (fun info => { info with extraInfo := { info.extraInfo with
        isDefaultIme := true, isDefaultImeSet := persist.isDefaultImeSet,
        currentSubName := persist.currentSubName } })
      infos
  else modifyFirst (isNamed config.defaultIme) setDefault infos

/-- The second half: the temporary one. -/
def padTmp (persist : ImePersistInfo) (infos : List ImeEnabledInfo) : List ImeEnabledInfo :=
  modifyFirst (isIme (splitImeId persist.tempScreenLockIme)) (markTmp true) infos

/-! ## Well-formed tables -/

/-- Distinct bundle names, at most one current and at most one temporary input method.  The
names are C strings, so that writing the table cannot make two of them equal. -/
structure WellFormed (infos : List ImeEnabledInfo) : Prop where
  plain : ∀ name ∈ infos.map ImeEnabledInfo.bundleName, NulFree name
  distinct : (infos.map ImeEnabledInfo.bundleName).Nodup
  oneDefault : AtMostOne ImeEnabledInfo.isDefault infos
  oneTmp : AtMostOne ImeEnabledInfo.isTmp infos

section Keeps

variable {config : Config} {infos : List ImeEnabledInfo}

theorem wellFormed_nil : WellFormed [] :=
  ⟨by simp, List.nodup_nil, atMostOne_of_none (by simp), atMostOne_of_none (by simp)⟩

/-- What keeps the names and marks nothing new. -/
theorem WellFormed.of_names {infos' : List ImeEnabledInfo} (good : WellFormed infos)
    (names : infos'.map ImeEnabledInfo.bundleName = infos.map ImeEnabledInfo.bundleName)
    (oneDefault : AtMostOne ImeEnabledInfo.isDefault infos')
    (oneTmp : AtMostOne ImeEnabledInfo.isTmp infos') : WellFormed infos' :=
  ⟨names ▸ good.plain, names ▸ good.distinct, oneDefault, oneTmp⟩

/-- Changing one entry, without its name and without new marks. -/
theorem WellFormed.modify (good : WellFormed infos) (i : Nat) {f : ImeEnabledInfo → ImeEnabledInfo}
    (name : ∀ info, (f info).bundleName = info.bundleName)
    (extra : ∀ info, (f info).extraInfo = info.extraInfo) : WellFormed (infos.modify i f) :=
  good.of_names (map_modify name infos i)
    (good.oneDefault.modify i fun info marked => by rwa [ImeEnabledInfo.isDefault, extra] at marked)
    (good.oneTmp.modify i fun info marked => by rwa [ImeEnabledInfo.isTmp, extra] at marked)

/-- Changing an entry or appending an unmarked one. -/
theorem WellFormed.upsert (good : WellFormed infos) {f : ImeEnabledInfo → ImeEnabledInfo}
    {fresh : ImeEnabledInfo} {name : String} (plain : NulFree name) (named : fresh.bundleName = name)
    (unmarked : fresh.extraInfo = {}) (keeps : ∀ info, (f info).bundleName = info.bundleName)
    (extra : ∀ info, (f info).extraInfo = info.extraInfo) :
    WellFormed (upsert (isNamed name) f fresh infos) where
  plain n member := by
    rcases mem_map_upsert keeps named member with old | rfl
    · exact good.plain n old
    · exact plain
  distinct := nodup_upsert keeps named good.distinct
  oneDefault := good.oneDefault.upsert
    (fun info marked => by rwa [ImeEnabledInfo.isDefault, extra] at marked)
    (by rw [ImeEnabledInfo.isDefault, unmarked])
  oneTmp := good.oneTmp.upsert
    (fun info marked => by rwa [ImeEnabledInfo.isTmp, extra] at marked)
    (by rw [ImeEnabledInfo.isTmp, unmarked])

theorem fillExtension_name (imeInfo : FullImeInfo) (info : ImeEnabledInfo) :
    (fillExtension imeInfo info).bundleName = info.bundleName := by
  unfold fillExtension
  split <;> rfl

theorem fillExtension_extra (imeInfo : FullImeInfo) (info : ImeEnabledInfo) :
    (fillExtension imeInfo info).extraInfo = info.extraInfo := by
  unfold fillExtension
  split <;> rfl

theorem WellFormed.install (good : WellFormed infos) (imeInfo : FullImeInfo) :
    WellFormed (install config infos imeInfo) :=
  good.upsert imeInfo.plainName rfl rfl (fillExtension_name imeInfo) (fillExtension_extra imeInfo)

theorem WellFormed.pad (good : WellFormed infos) (imeInfo : FullImeInfo) :
    WellFormed (pad config infos imeInfo) :=
  good.upsert imeInfo.plainName rfl rfl (fun _ => rfl) (fun _ => rfl)

theorem WellFormed.mergeFull (good : WellFormed infos) {name : String} (plain : NulFree name) :
    WellFormed (mergeFull infos name) :=
  good.upsert plain rfl rfl (fun _ => rfl) (fun _ => rfl)

/-- The mark moves, even when its old and its new place are the same. -/
theorem WellFormed.modCurrentIme (good : WellFormed infos) :
    WellFormed (modCurrentIme config infos) := by
  unfold Enabled.modCurrentIme
  dsimp only
  split
  · exact good
  · refine good.of_names ?_ (atMostOne_move good.oneDefault _ fun _ => rfl) ?_
    · rw [map_modify (f := clearCurrent) fun _ => rfl, map_modify (f := setDefault) fun _ => rfl]
    · have kept : AtMostOne ImeEnabledInfo.isTmp (infos.modify (successor config infos) setDefault) :=
        good.oneTmp.modify _ fun _ marked => marked
      exact kept.modify _ fun _ marked => by cases marked

theorem WellFormed.setCurrent (good : WellFormed infos) (bundleName extName subName : String)
    (isSetByUser : Bool) : WellFormed (setCurrent bundleName extName subName isSetByUser infos) := by
  refine good.of_names (map_map_same fun info => ?_)
    ((atMostOne_key good.distinct bundleName).map fun info marked => ?_)
    (good.oneTmp.map fun info marked => ?_)
  · split <;> rfl
  · by_cases named : info.bundleName = bundleName
    · exact decide_eq_true named
    · rw [if_neg named] at marked
      cases marked
  · split at marked <;> exact marked

theorem WellFormed.setTmp (good : WellFormed infos) (bundleName : String) :
    WellFormed (setTmp bundleName infos) :=
  good.of_names (map_map_same fun _ => rfl) (good.oneDefault.map fun _ marked => marked)
    ((atMostOne_key good.distinct bundleName).map fun _ marked => marked)

theorem WellFormed.clearTmp (good : WellFormed infos) : WellFormed (clearTmp infos) :=
  good.of_names (map_map_same fun _ => rfl) (good.oneDefault.map fun _ marked => marked)
    (good.oneTmp.map fun _ marked => by cases marked)

theorem WellFormed.correctBy (good : WellFormed infos) (installed : List FullImeInfo) :
    WellFormed (correctBy config installed infos) := by
  show WellFormed (Lib.run (Enabled.install config) _ installed)
  refine Lib.run_always (fun _ imeInfo good => good.install imeInfo) ?_ installed
  split
  · exact good.modCurrentIme
  · exact good

end Keeps

/-! ## The migrated table is well-formed -/

/-- A table without marks. -/
def Unmarked (infos : List ImeEnabledInfo) : Prop := ∀ info ∈ infos, info.extraInfo = {}

section Migrated

variable {infos : List ImeEnabledInfo}

theorem Unmarked.upsert (unmarked : Unmarked infos) {p : ImeEnabledInfo → Bool}
    {f : ImeEnabledInfo → ImeEnabledInfo} {fresh : ImeEnabledInfo} (new : fresh.extraInfo = {})
    (extra : ∀ info, (f info).extraInfo = info.extraInfo) : Unmarked (upsert p f fresh infos) := by
  intro info member
  rcases mem_upsert member with old | ⟨before, old, rfl⟩ | rfl
  · exact unmarked info old
  · rw [extra]
    exact unmarked before old
  · exact new

/-- The names of a set, each once. -/
theorem mem_nameSet {names : List String} {name : String} : name ∈ nameSet names ↔ name ∈ names := by
  rw [nameSet, List.mem_insertionSort, List.mem_dedup]

theorem nameSet_nodup (names : List String) : (nameSet names).Nodup :=
  (List.perm_insertionSort _ _).nodup_iff.2 (List.nodup_dedup names)

/-- The two lists give a well-formed table without marks. -/
theorem mergeTwo_wellFormed {enabled full : List String} (distinct : enabled.Nodup)
    (plainEnabled : ∀ name ∈ enabled, NulFree name) (plainFull : ∀ name ∈ full, NulFree name) :
    WellFormed (mergeTwo enabled full) ∧ Unmarked (mergeTwo enabled full) := by
  refine Lib.run_members (P := fun infos => WellFormed infos ∧ Unmarked infos) ?_ ?_
  · rintro infos name member ⟨good, unmarked⟩
    exact ⟨good.mergeFull (plainFull name member), unmarked.upsert rfl fun _ => rfl⟩
  · have names : (enabled.map fun name => ({ bundleName := name, enabledStatus := .basicMode } :
        ImeEnabledInfo)).map ImeEnabledInfo.bundleName = enabled := by
      rw [List.map_map]
      exact List.map_id enabled
    have unmarked : Unmarked (enabled.map fun name =>
        { bundleName := name, enabledStatus := .basicMode }) := by
      intro info member
      obtain ⟨name, -, rfl⟩ := List.mem_map.1 member
      rfl
    refine ⟨⟨?_, ?_, atMostOne_of_none fun info member => ?_, atMostOne_of_none fun info member => ?_⟩,
      unmarked⟩
    · rw [names]
      exact plainEnabled
    · rw [names]
      exact distinct
    · rw [ImeEnabledInfo.isDefault, unmarked info member]
    · rw [ImeEnabledInfo.isTmp, unmarked info member]

theorem padded_wellFormed (config : Config) (good : WellFormed infos) (unmarked : Unmarked infos)
    (installed : List FullImeInfo) :
    WellFormed (installed.foldl (pad config) infos) ∧
      Unmarked (installed.foldl (pad config) infos) := by
  refine Lib.run_always (P := fun infos => WellFormed infos ∧ Unmarked infos) ?_ ?_ installed
  · rintro infos imeInfo ⟨good, unmarked⟩
    exact ⟨good.pad imeInfo, unmarked.upsert rfl fun _ => rfl⟩
  · exact ⟨good, unmarked⟩

/-- One mark for the current input method. -/
theorem padCurrent_wellFormed (config : Config) (good : WellFormed infos) (unmarked : Unmarked infos)
    (persist : ImePersistInfo) :
    WellFormed (padCurrent config persist infos) ∧
      ∀ info ∈ padCurrent config persist infos, info.isTmp = false := by
  -- Both branches change one entry of a table without marks.
  have once : ∀ (f : ImeEnabledInfo → ImeEnabledInfo) (i : Nat),
      (∀ info, (f info).bundleName = info.bundleName) →
      (∀ info, (f info).extraInfo.isTmpIme = info.extraInfo.isTmpIme) →
      WellFormed (infos.modify i f) ∧ ∀ info ∈ infos.modify i f, info.isTmp = false := by
    intro f i name tmp
    have noTmp : ∀ info ∈ infos, info.isTmp = false := by
      intro info member
      rw [ImeEnabledInfo.isTmp, unmarked info member]
    refine ⟨good.of_names (map_modify name infos i) (Lib.atMostOne_modify_of_none ?_ i)
      (good.oneTmp.modify i ?_), ?_⟩
    · intro info member
      rw [ImeEnabledInfo.isDefault, unmarked info member]
    · intro info marked
      rwa [ImeEnabledInfo.isTmp, tmp] at marked
    · intro info member
      rcases mem_modify member with old | ⟨before, old, rfl⟩
      · exact noTmp info old
      · rw [ImeEnabledInfo.isTmp, tmp]
        exact noTmp before old
  unfold padCurrent
  dsimp only
  split
  · exact once _ _ (fun _ => rfl) fun _ => rfl
  · exact once _ _ (fun _ => rfl) fun _ => rfl

theorem padTmp_wellFormed (good : WellFormed infos) (noTmp : ∀ info ∈ infos, info.isTmp = false)
    (persist : ImePersistInfo) : WellFormed (padTmp persist infos) :=
  good.of_names (map_modify (f := markTmp true) (fun _ => rfl) infos _)
    (good.oneDefault.modify _ fun _ marked => marked) (Lib.atMostOne_modify_of_none noTmp _)

end Migrated

end Imf.Enabled
