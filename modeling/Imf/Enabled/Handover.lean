/-
# Imf.Enabled.Handover -- who becomes current when the current one goes

`ModCurrentIme` looks for a successor and does not exclude the entry that is going.  When it
picks that entry, the mark is set and then cleared, and nobody is current.  `PicksOther` is
when it does not: the system input method is in the table and is not the one that goes, or
it is not in the table and the first enabled entry is another one.

`current_handed_over` settles the three ways to go: uninstalled now (`Delete`), found
uninstalled (`CorrectByBundleMgr`), disabled (`Update`).  `Update` disables the entry before
it searches and refuses the system input method, so it always finds another one; but it does
nothing to an entry that is disabled already.
-/
import Imf.Enabled.Manager

namespace Imf.Enabled

set_option autoImplicit false

open Lib (AtMostOne atMostOne_move mem_upsert mem_upsert_of_mem mem_modify getElem?_findIdx modifyFirst
  map_modify lookup)
open Imf.Json

/-- `b` is the one current input method of a table that has another enabled one. -/
structure CurrentAmong (b : String) (infos : List ImeEnabledInfo) : Prop where
  distinct : (infos.map ImeEnabledInfo.bundleName).Nodup
  one : AtMostOne ImeEnabledInfo.isDefault infos
  current : ∃ info ∈ infos, info.isDefault = true ∧ info.bundleName = b
  other : ∃ info ∈ infos, info.bundleName ≠ b ∧ info.enabledStatus ≠ .disabled

/-- Exactly one entry is current, and it is not `b`. -/
def HandedOver (b : String) (infos : List ImeEnabledInfo) : Prop :=
  AtMostOne ImeEnabledInfo.isDefault infos ∧
    ∃ info ∈ infos, info.isDefault = true ∧ info.bundleName ≠ b

/-- The system input method is in the table and is not `b`; or it is not there and the first
enabled entry is not `b`. -/
def PicksOther (config : Config) (b : String) (infos : List ImeEnabledInfo) : Prop :=
  if config.defaultIme ∈ infos.map ImeEnabledInfo.bundleName then config.defaultIme ≠ b
  else ∀ info, infos.find? ImeEnabledInfo.enabled = some info → info.bundleName ≠ b

section Handover

variable {config : Config} {b : String} {infos : List ImeEnabledInfo}

theorem isNamed_iff {name : String} {info : ImeEnabledInfo} :
    isNamed name info = true ↔ info.bundleName = name := decide_eq_true_iff

theorem enabled_iff {info : ImeEnabledInfo} : info.enabled = true ↔ info.enabledStatus ≠ .disabled :=
  decide_eq_true_iff

/-- The entry that `ModCurrentIme` picks. -/
theorem successor_spec (config : Config) (among : CurrentAmong b infos) :
    ∃ info, infos[successor config infos]? = some info ∧
      (PicksOther config b infos ↔ info.bundleName ≠ b) := by
  unfold successor PicksOther
  dsimp only
  by_cases inTable : config.defaultIme ∈ infos.map ImeEnabledInfo.bundleName
  · obtain ⟨info, inside, named⟩ := List.mem_map.1 inTable
    have found : infos.findIdx (isNamed config.defaultIme) < infos.length :=
      List.findIdx_lt_length.2 ⟨info, inside, isNamed_iff.2 named⟩
    have there := List.getElem?_eq_getElem found
    refine ⟨_, by rw [if_neg (Nat.ne_of_lt found)]; exact there, ?_⟩
    have name := isNamed_iff.1 (List.findIdx_of_getElem?_eq_some there)
    rw [if_pos inTable, name]
  · have absent : infos.findIdx (isNamed config.defaultIme) = infos.length :=
      List.findIdx_eq_length_of_false fun info inside => by
        refine decide_eq_false fun named => inTable ?_
        exact List.mem_map.2 ⟨info, inside, named⟩
    obtain ⟨other, inside, -, enabled⟩ := among.other
    have found : infos.findIdx ImeEnabledInfo.enabled < infos.length :=
      List.findIdx_lt_length.2 ⟨other, inside, enabled_iff.2 enabled⟩
    have there := List.getElem?_eq_getElem found
    rw [if_pos absent, if_neg inTable]
    refine ⟨_, there, ?_⟩
    rw [← getElem?_findIdx, there]
    constructor
    · intro others
      exact others _ rfl
    · rintro differs info ⟨⟩
      exact differs

/-- The current entry is where `ModCurrentIme` looks for it. -/
theorem CurrentAmong.at_findIdx (among : CurrentAmong b infos) :
    ∃ info, infos[infos.findIdx ImeEnabledInfo.isDefault]? = some info ∧ info.bundleName = b := by
  obtain ⟨info, inside, isDefault, named⟩ := among.current
  obtain ⟨n, there⟩ := List.getElem?_of_mem inside
  rw [among.one.eq_findIdx there isDefault] at there
  exact ⟨info, there, named⟩

theorem isCurrentIme_eq (among : CurrentAmong b infos) : isCurrentIme b infos = true := by
  obtain ⟨info, there, named⟩ := among.at_findIdx
  rw [getElem?_findIdx] at there
  rw [isCurrentIme, there]
  exact decide_eq_true named

theorem oneDefault_modCurrentIme (one : AtMostOne ImeEnabledInfo.isDefault infos) :
    AtMostOne ImeEnabledInfo.isDefault (modCurrentIme config infos) := by
  unfold modCurrentIme
  dsimp only
  split
  · exact one
  · exact atMostOne_move one _ fun _ => rfl

/-- `ModCurrentIme` hands over exactly when it picks another entry. -/
theorem handedOver_modCurrentIme (among : CurrentAmong b infos) :
    HandedOver b (modCurrentIme config infos) ↔ PicksOther config b infos := by
  obtain ⟨picked, atPicked, picks⟩ := successor_spec config among
  obtain ⟨current, atCurrent, named⟩ := among.at_findIdx
  have inside : successor config infos ≠ infos.length :=
    Nat.ne_of_lt (List.getElem?_eq_some_iff.1 atPicked).1
  have moved : modCurrentIme config infos = (infos.modify (successor config infos) setDefault).modify
      (infos.findIdx ImeEnabledInfo.isDefault) clearCurrent := by
    unfold modCurrentIme
    exact if_neg inside
  rw [picks]
  constructor
  · rintro ⟨-, info, member, isDefault, differs⟩
    rw [moved] at member
    obtain ⟨n, there⟩ := List.getElem?_of_mem member
    obtain ⟨rfl, kept⟩ := among.one.only_moved _ (fun _ => rfl) there isDefault
    rw [List.getElem?_modify_ne _ _ kept.symm, List.getElem?_modify_eq, atPicked] at there
    cases there
    exact differs
  · intro differs
    refine ⟨oneDefault_modCurrentIme among.one, setDefault picked, ?_, rfl, differs⟩
    have apart : infos.findIdx ImeEnabledInfo.isDefault ≠ successor config infos := by
      intro same
      rw [same, atPicked] at atCurrent
      cases atCurrent
      exact differs named
    rw [moved]
    apply List.mem_of_getElem? (i := successor config infos)
    rw [List.getElem?_modify_ne _ _ apart, List.getElem?_modify_eq, atPicked]
    rfl

/-! ## Found uninstalled -/

/-- Installing marks nothing and renames nothing. -/
theorem marked_install (imeInfo : FullImeInfo) (p : String → Prop) :
    (∃ info ∈ install config infos imeInfo, info.isDefault = true ∧ p info.bundleName) ↔
      ∃ info ∈ infos, info.isDefault = true ∧ p info.bundleName := by
  have same : ∀ info, (fillExtension imeInfo info).isDefault = info.isDefault ∧
      (fillExtension imeInfo info).bundleName = info.bundleName := by
    intro info
    unfold ImeEnabledInfo.isDefault
    rw [fillExtension_extra, fillExtension_name]
    exact ⟨rfl, rfl⟩
  constructor
  · rintro ⟨info, member, isDefault, named⟩
    rcases mem_upsert member with old | ⟨before, old, rfl⟩ | rfl
    · exact ⟨info, old, isDefault, named⟩
    · rw [(same before).1] at isDefault
      rw [(same before).2] at named
      exact ⟨before, old, isDefault, named⟩
    · cases isDefault
  · rintro ⟨info, inside, isDefault, named⟩
    rcases mem_upsert_of_mem inside with kept | changed
    · exact ⟨info, kept, isDefault, named⟩
    · refine ⟨_, changed, ?_, ?_⟩
      · rw [(same info).1]
        exact isDefault
      · rw [(same info).2]
        exact named

theorem oneDefault_install (one : AtMostOne ImeEnabledInfo.isDefault infos) (imeInfo : FullImeInfo) :
    AtMostOne ImeEnabledInfo.isDefault (install config infos imeInfo) := by
  refine one.upsert ?_ rfl
  intro info marked
  rwa [ImeEnabledInfo.isDefault, fillExtension_extra] at marked

theorem handedOver_installed (one : AtMostOne ImeEnabledInfo.isDefault infos)
    (installed : List FullImeInfo) :
    HandedOver b (installed.foldl (install config) infos) ↔ HandedOver b infos := by
  induction installed generalizing infos with
  | nil => rfl
  | cons imeInfo installed ih =>
      have next : AtMostOne ImeEnabledInfo.isDefault (install config infos imeInfo) :=
        oneDefault_install one imeInfo
      rw [List.foldl_cons, ih next]
      exact and_congr (iff_of_true next one) (marked_install imeInfo (· ≠ b))

theorem handedOver_correctBy (among : CurrentAmong b infos) {installed : List FullImeInfo}
    (uninstalled : ∀ imeInfo ∈ installed, imeInfo.name ≠ b) :
    HandedOver b (correctBy config installed infos) ↔ PicksOther config b infos := by
  obtain ⟨current, inside, isDefault, named⟩ := among.current
  have gone : (infos.any fun info => info.isDefault &&
      !installed.any fun imeInfo => decide (info.bundleName = imeInfo.name)) = true := by
    refine List.any_eq_true.2 ⟨current, inside, ?_⟩
    have missing : (installed.any fun imeInfo => decide (current.bundleName = imeInfo.name)) = false :=
      List.any_eq_false.2 fun imeInfo member same =>
        uninstalled imeInfo member ((of_decide_eq_true same).symm.trans named)
    rw [isDefault, missing]
    rfl
  unfold correctBy
  dsimp only
  rw [if_pos gone, handedOver_installed (oneDefault_modCurrentIme among.one),
    handedOver_modCurrentIme among]

/-! ## Disabled -/

/-- The table in which only `b` has changed its status. -/
theorem lookup_setStatus (b : String) (infos : List ImeEnabledInfo) (status : EnabledStatus)
    (now name : String) :
    lookup ImeEnabledInfo.bundleName name (modifyFirst (isNamed b) (setStatus status now) infos) =
      if name = b then (lookup ImeEnabledInfo.bundleName b infos).map (setStatus status now)
      else lookup ImeEnabledInfo.bundleName name infos := by
  have same : ∀ info, (setStatus status now info).bundleName = info.bundleName := fun _ => rfl
  exact Lib.lookup_modifyFirst same b name infos

theorem CurrentAmong.setStatus (among : CurrentAmong b infos) (status : EnabledStatus) (now : String) :
    CurrentAmong b (modifyFirst (isNamed b) (setStatus status now) infos) where
  distinct := by
    rw [modifyFirst, map_modify (f := Enabled.setStatus status now) fun _ => rfl]
    exact among.distinct
  one := among.one.modify _ fun _ marked => marked
  current := by
    obtain ⟨current, inside, isDefault, named⟩ := among.current
    rcases Lib.mem_modify_of_mem (f := Enabled.setStatus status now)
      (infos.findIdx (isNamed b)) inside with kept | changed
    · exact ⟨current, kept, isDefault, named⟩
    · exact ⟨_, changed, isDefault, named⟩
  other := by
    obtain ⟨other, inside, differs, enabled⟩ := among.other
    have found := lookup_setStatus b infos status now other.bundleName
    rw [if_neg differs, Lib.lookup_of_mem among.distinct inside] at found
    exact ⟨other, (Lib.lookup_mem found).1, differs, enabled⟩

/-- Once the entry is disabled, another one is picked, unless it is the system one. -/
theorem handedOver_updated (among : CurrentAmong b infos) (now : String)
    (notSystem : config.defaultIme ≠ b) :
    HandedOver b (updated config b .disabled now infos) := by
  have disabled := among.setStatus .disabled now
  have picks : PicksOther config b (modifyFirst (isNamed b) (setStatus .disabled now) infos) := by
    unfold PicksOther
    split
    · exact notSystem
    · rintro info found rfl
      have inside := List.mem_of_find?_eq_some found
      have enabled := enabled_iff.1 (List.find?_some found)
      have same := lookup_setStatus info.bundleName infos .disabled now info.bundleName
      rw [if_pos rfl, Lib.lookup_of_mem disabled.distinct inside] at same
      obtain ⟨before, -, rfl⟩ := Option.map_eq_some_iff.1 same.symm
      exact enabled rfl
  unfold updated
  dsimp only
  rw [if_pos ⟨isCurrentIme_eq disabled, rfl⟩]
  exact (handedOver_modCurrentIme disabled).2 picks

/-! ## The operations -/

section Cached

variable {cjson : CJson} {m : Manager} {userId : Int32} {cfg : ImeEnabledCfg}

theorem getEnabledCache_eq (cached : m.imeEnabledCfg userId = some cfg) :
    m.getEnabledCache userId = cfg := by
  rw [Manager.getEnabledCache, cached]
  rfl

/-- A write that is reported is cached. -/
theorem storeCfg_cached {write : Write} (reported : write.reported = true) (m : Manager) :
    (storeCfg cjson write userId cfg m).1 = .ok () ∧
      (storeCfg cjson write userId cfg m).2.getEnabledCache userId = cfg := by
  unfold storeCfg
  dsimp only
  rw [if_pos reported]
  exact ⟨rfl, getEnabledCache_eq (Function.update_self ..)⟩

theorem storeCfg_reported {write : Write} (done : (storeCfg cjson write userId cfg m).1 = .ok ()) :
    write.reported = true := by
  unfold storeCfg at done
  dsimp only at done
  split at done
  · assumption
  · cases done

theorem checkUpdate_notSystem {io : OpIo} {ext : String} {status : EnabledStatus}
    (checked : checkUpdate config io b ext status = .ok ()) : config.defaultIme ≠ b := by
  unfold checkUpdate at checked
  split at checked
  · cases checked
  split at checked
  · cases checked
  split at checked
  · cases checked
  split at checked
  · cases checked
  · assumption

theorem delete_cached (cached : m.imeEnabledCfg userId = some cfg)
    (among : CurrentAmong b cfg.enabledInfos) {io : OpIo} (reported : io.write.reported = true) :
    ((delete cjson config io userId b m).2.getEnabledCache userId).enabledInfos =
      modCurrentIme config cfg.enabledInfos := by
  obtain ⟨current, inside, -⟩ := among.current
  have nonempty : cfg.enabledInfos.isEmpty = false := by
    cases same : cfg.enabledInfos with
    | nil => rw [same] at inside; cases inside
    | cons => rfl
  have loaded : getEnabledCacheWithCorrect cjson config io.reload userId m = (.ok cfg, m) := by
    unfold getEnabledCacheWithCorrect
    dsimp only
    rw [getEnabledCache_eq cached, nonempty]
    rfl
  unfold delete
  rw [loaded]
  dsimp only
  rw [isCurrentIme_eq among]
  show ((storeCfg cjson io.write userId _ m).2.getEnabledCache userId).enabledInfos = _
  rw [(storeCfg_cached reported m).2]

/-- A successful `Update` of the current input method changed it, or had nothing to do. -/
theorem update_cached (cached : m.imeEnabledCfg userId = some cfg)
    (among : CurrentAmong b cfg.enabledInfos)
    {io : OpIo} {now ext : String} {status : EnabledStatus}
    (done : (update cjson config io now userId b ext status m).1 = .ok ()) :
    config.defaultIme ≠ b ∧
      ((update cjson config io now userId b ext status m).2.getEnabledCache userId).enabledInfos =
        if ∃ info ∈ cfg.enabledInfos, info.bundleName = b ∧ info.enabledStatus ≠ status then
          updated config b status now cfg.enabledInfos
        else cfg.enabledInfos := by
  obtain ⟨current, inside, -, named⟩ := among.current
  have found : cfg.enabledInfos.find? (isNamed b) = some current := by
    subst named
    exact Lib.lookup_of_mem among.distinct inside
  have loaded : getEnabledCacheWithCorrectFor cjson config io userId b m = (.ok cfg, m) := by
    unfold getEnabledCacheWithCorrectFor
    dsimp only
    rw [getEnabledCache_eq cached, if_pos (List.any_eq_true.2 ⟨current, inside, isNamed_iff.2 named⟩)]
  have only : (∃ info ∈ cfg.enabledInfos, info.bundleName = b ∧ info.enabledStatus ≠ status) ↔
      current.enabledStatus ≠ status := by
    constructor
    · rintro ⟨info, member, sameName, differs⟩
      rwa [List.inj_on_of_nodup_map among.distinct inside member (named.trans sameName.symm)]
    · intro differs
      exact ⟨current, inside, named, differs⟩
  unfold update at done ⊢
  split at done
  · cases done
  · rename_i checked
    refine ⟨checkUpdate_notSystem checked, ?_⟩
    rw [loaded] at done ⊢
    dsimp only at done ⊢
    rw [found] at done ⊢
    dsimp only at done ⊢
    rw [if_congr only rfl rfl]
    by_cases same : current.enabledStatus = status
    · rw [if_pos same, if_neg (not_not.2 same)]
      exact congrArg ImeEnabledCfg.enabledInfos (getEnabledCache_eq cached)
    · rw [if_neg same] at done
      rw [if_neg same, if_pos same]
      have reported : io.write.reported = true := storeCfg_reported done
      rw [(storeCfg_cached reported m).2]

theorem not_handedOver (among : CurrentAmong b infos) : ¬ HandedOver b infos := by
  rintro ⟨one, info, member, isDefault, differs⟩
  obtain ⟨current, inside, currentDefault, named⟩ := among.current
  obtain ⟨n, atN⟩ := List.getElem?_of_mem member
  obtain ⟨k, atK⟩ := List.getElem?_of_mem inside
  obtain rfl := one n k info current atN atK isDefault currentDefault
  rw [atN] at atK
  cases atK
  exact differs named

/-- **When the current input method is handed over.**  For every cached table with distinct
bundles in which `b` is the one current input method and another one is enabled: after a
successful `Delete` of `b`, and after `CorrectByBundleMgr` finds it uninstalled, exactly one
entry is current and it is not `b` if and only if `ModCurrentIme` picks another entry; after
a successful `Update` to disabled, if and only if `b` was not disabled before. -/
theorem current_handed_over (cjson : CJson) (config : Config)
    (cached : m.imeEnabledCfg userId = some cfg) (among : CurrentAmong b cfg.enabledInfos) :
    (∀ io : OpIo, io.write.reported = true →
      (HandedOver b ((delete cjson config io userId b m).2.getEnabledCache userId).enabledInfos ↔
        PicksOther config b cfg.enabledInfos)) ∧
    (∀ installed : List FullImeInfo, (∀ imeInfo ∈ installed, imeInfo.name ≠ b) →
      (HandedOver b (correctBy config installed cfg.enabledInfos) ↔
        PicksOther config b cfg.enabledInfos)) ∧
    ∀ (io : OpIo) (now ext : String),
      (update cjson config io now userId b ext .disabled m).1 = .ok () →
      (HandedOver b
          ((update cjson config io now userId b ext .disabled m).2.getEnabledCache
            userId).enabledInfos ↔
        ∃ info ∈ cfg.enabledInfos, info.bundleName = b ∧ info.enabledStatus ≠ .disabled) := by
  refine ⟨?_, fun installed uninstalled => handedOver_correctBy among uninstalled, ?_⟩
  · intro io reported
    rw [delete_cached cached among reported]
    exact handedOver_modCurrentIme among
  · intro io now ext done
    obtain ⟨notSystem, table⟩ := update_cached cached among done
    rw [table]
    split
    · rename_i wasEnabled
      exact iff_of_true (handedOver_updated among now notSystem) wasEnabled
    · rename_i wasDisabled
      exact iff_of_false (not_handedOver among) wasDisabled

end Cached

end Handover

/-! ## Poles -/

/-- Two enabled input methods, the first one current. -/
def twoEnabled : ImeEnabledCfg where
  enabledInfos :=
    [{ bundleName := "com.example.first", enabledStatus := .basicMode,
       extraInfo := { isDefaultIme := true } },
     { bundleName := "com.example.second", enabledStatus := .basicMode }]

def twoEnabledManager : Manager where
  settings := {}
  imeEnabledCfg userId := if userId = 100 then some twoEnabled else none

theorem twoEnabled_among : CurrentAmong "com.example.first" twoEnabled.enabledInfos where
  distinct := by decide
  one := Lib.atMostOne_cons (by decide)
  current := by decide
  other := by decide

theorem twoEnabled_cached : twoEnabledManager.imeEnabledCfg 100 = some twoEnabled := rfl

/-- The second one is the system input method: it becomes current. -/
theorem first_handed_over : HandedOver "com.example.first"
    ((delete compact { defaultIme := "com.example.second" } {} 100 "com.example.first"
      twoEnabledManager).2.getEnabledCache 100).enabledInfos := by
  have picks : PicksOther { defaultIme := "com.example.second" } "com.example.first"
      twoEnabled.enabledInfos := by
    rw [PicksOther, if_pos (by decide)]
    decide
  exact ((current_handed_over compact { defaultIme := "com.example.second" } twoEnabled_cached
    twoEnabled_among).1 {} rfl).2 picks

/-- The system input method is not in the table and the first enabled entry is the one that
goes: nobody is current. -/
theorem first_not_handed_over : CurrentAmong "com.example.first" twoEnabled.enabledInfos ∧
    ¬ HandedOver "com.example.first"
      ((delete compact { defaultIme := "com.example.system" } {} 100 "com.example.first"
        twoEnabledManager).2.getEnabledCache 100).enabledInfos := by
  refine ⟨twoEnabled_among, ?_⟩
  rw [delete_cached twoEnabled_cached twoEnabled_among rfl]
  rintro ⟨-, passed⟩
  exact absurd passed (by decide)

end Imf.Enabled
