/-
# Imf.Enabled.Removal -- what a removed input method comes back through

`Delete` and `Update` to disabled are to take an input method out of use.  Two flags put one in use:
the current one and, before it, the temporary one.  Both calls look at the first flag only.  The
entry stays in the table, and whoever needs a new current input method later may find it there.

A call takes the marks off `b` when `Frees` holds of the table it works on, and a later step leaves
it unmarked when it `Spares` it.  `removed_never_current` is the run theorem; lemmas such as
`storeCfg_touches` say once for every operation what it can put in the place of a table, whatever
the writes answer.
-/
import Imf.Enabled.Survival

namespace Imf.Enabled

set_option autoImplicit false

open Lib (AtMostOne Meets run modifyFirst mem_modify mem_upsert map_modify run_keeps)
open Imf.Json

/-! ## GetCurrentImeCfg -/

/-- `ImeNativeCfg`. -/
structure ImeNativeCfg where
  imeId : String := ""
  bundleName : String := ""
  subName : String := ""
  extName : String := ""
  deriving DecidableEq

/-- What `GetCurrentImeCfgInner` makes of an entry; only the current one has its subtype. -/
def ImeEnabledInfo.native (info : ImeEnabledInfo) (subName : String) : ImeNativeCfg where
  imeId := info.bundleName ++ "/" ++ info.extensionName
  bundleName := info.bundleName
  subName := subName
  extName := info.extensionName

/-- The entry `GetCurrentImeCfgInner` selects: the temporary one, else the current one. -/
def selected (infos : List ImeEnabledInfo) : Option ImeNativeCfg :=
  match infos.find? ImeEnabledInfo.isTmp with
  | some info => some (info.native "")
  | none => (infos.find? ImeEnabledInfo.isDefault).map fun info =>
      info.native info.extraInfo.currentSubName

section Query

variable (cjson : CJson) (config : Config)

/-- `GetCurrentImeCfgInner`, with `isCurrentImeSet`. -/
def getCurrentImeCfgInner (io : ReloadIo) (userId : Int32) (m : Manager) :
    (ImeNativeCfg × Bool) × Manager :=
  match getEnabledCacheWithCorrect cjson config io userId m with
  | (.error _, m) => (({}, true), m)
  | (.ok cfg, m) =>
      match selected cfg.enabledInfos with
      | some native => ((native, true), m)
      | none => (({}, false), m)

/-- `GetCurrentImeCfg`. -/
def getCurrentImeCfg (io : ReloadIo) (userId : Int32) (m : Manager) : ImeNativeCfg × Manager :=
  let done := getCurrentImeCfgInner cjson config io userId m
  (done.1.1, done.2)

end Query

/-- The configuration names `b`; one that names nothing has no identity either. -/
def ImeNativeCfg.Names (b : String) (native : ImeNativeCfg) : Prop :=
  native.imeId ≠ "" ∧ native.bundleName = b

instance (b : String) (native : ImeNativeCfg) : Decidable (native.Names b) :=
  inferInstanceAs (Decidable (_ ∧ _))

/-- `b` is neither current nor temporary. -/
def Unselected (b : String) (infos : List ImeEnabledInfo) : Prop :=
  ∀ info ∈ infos, info.bundleName = b → info.isDefault = false ∧ info.isTmp = false

section Tables

variable {config : Config} {b : String} {infos : List ImeEnabledInfo}

theorem Unselected.not_selected (unselected : Unselected b infos) {native : ImeNativeCfg}
    (found : selected infos = some native) : native.bundleName ≠ b := by
  unfold selected at found
  split at found
  · rename_i info isTmp
    cases found
    intro named
    have unmarked := (unselected info (List.mem_of_find?_eq_some isTmp) named).2
    rw [List.find?_some isTmp] at unmarked
    cases unmarked
  · obtain ⟨info, isDefault, rfl⟩ := Option.map_eq_some_iff.1 found
    intro named
    have unmarked := (unselected info (List.mem_of_find?_eq_some isDefault) named).1
    rw [List.find?_some isDefault] at unmarked
    cases unmarked

theorem unselected_nil (b : String) : Unselected b [] := List.forall_mem_nil _

/-- Changes that keep the names and set no mark on `b`. -/
theorem Unselected.map (unselected : Unselected b infos) {f : ImeEnabledInfo → ImeEnabledInfo}
    (name : ∀ info ∈ infos, (f info).bundleName = info.bundleName)
    (marks : ∀ info, info.bundleName = b → info.isDefault = false → info.isTmp = false →
      (f info).isDefault = false ∧ (f info).isTmp = false) : Unselected b (infos.map f) := by
  intro info member named
  obtain ⟨before, inside, rfl⟩ := List.mem_map.1 member
  rw [name before inside] at named
  obtain ⟨isDefault, isTmp⟩ := unselected before inside named
  exact marks before named isDefault isTmp

theorem Unselected.modify (unselected : Unselected b infos) (i : Nat)
    {f : ImeEnabledInfo → ImeEnabledInfo} (name : ∀ info, (f info).bundleName = info.bundleName)
    (marks : ∀ info, infos[i]? = some info → info.bundleName = b → info.isDefault = false →
      info.isTmp = false →
      (f info).isDefault = false ∧ (f info).isTmp = false) : Unselected b (infos.modify i f) := by
  intro info member named
  obtain ⟨n, there⟩ := List.getElem?_of_mem member
  rw [List.getElem?_modify] at there
  obtain ⟨before, place, rfl⟩ := Option.map_eq_some_iff.1 there
  have inside := List.mem_of_getElem? place
  by_cases here : i = n
  · subst here
    rw [if_pos rfl] at named ⊢
    rw [name] at named
    obtain ⟨isDefault, isTmp⟩ := unselected before inside named
    exact marks before place named isDefault isTmp
  · rw [if_neg here] at named ⊢
    exact unselected before inside named

theorem Unselected.install (unselected : Unselected b infos) (config : Config) (imeInfo : FullImeInfo) :
    Unselected b (install config infos imeInfo) := by
  intro info member named
  rcases mem_upsert member with old | ⟨before, old, rfl⟩ | rfl
  · exact unselected info old named
  · rw [fillExtension_name] at named
    unfold ImeEnabledInfo.isDefault ImeEnabledInfo.isTmp
    rw [fillExtension_extra]
    exact unselected before old named
  · exact ⟨rfl, rfl⟩

/-- The entry that `ModCurrentIme` marks, where it picks another than `b`. -/
theorem PicksOther.successor_named (picks : PicksOther config b infos) {info : ImeEnabledInfo}
    (there : infos[successor config infos]? = some info) : info.bundleName ≠ b := by
  have inRange := (List.getElem?_eq_some_iff.1 there).1
  unfold successor at there inRange
  unfold PicksOther at picks
  dsimp only at there inRange
  split at there
  · rename_i absent
    rw [if_pos absent] at inRange
    have missing : config.defaultIme ∉ infos.map ImeEnabledInfo.bundleName := by
      intro inTable
      obtain ⟨sysIme, inside, named⟩ := List.mem_map.1 inTable
      exact Nat.ne_of_lt (List.findIdx_lt_length.2 ⟨sysIme, inside, isNamed_iff.2 named⟩) absent
    rw [if_neg missing] at picks
    rw [Lib.getElem?_findIdx] at there
    exact picks info there
  · have named := isNamed_iff.1 (List.findIdx_of_getElem?_eq_some there)
    rw [if_pos (List.mem_map.2 ⟨info, List.mem_of_getElem? there, named⟩)] at picks
    rwa [named]

theorem Unselected.modCurrentIme (unselected : Unselected b infos) (picks : PicksOther config b infos) :
    Unselected b (modCurrentIme config infos) := by
  unfold Enabled.modCurrentIme
  dsimp only
  split
  · exact unselected
  · have marked : Unselected b (infos.modify (successor config infos) setDefault) :=
      unselected.modify _ (fun _ => rfl) fun info there named =>
        absurd named (picks.successor_named there)
    exact marked.modify _ (fun _ => rfl) fun _ _ _ _ _ => ⟨rfl, rfl⟩

theorem Unselected.correctBy (unselected : Unselected b infos) {installed : List FullImeInfo}
    (picks : (∃ info ∈ infos,
      info.isDefault = true ∧ info.bundleName ∉ installed.map FullImeInfo.name) →
      PicksOther config b infos) : Unselected b (correctBy config installed infos) := by
  show Unselected b (run (Enabled.install config) _ installed)
  refine Lib.run_always (fun _ imeInfo unselected => unselected.install config imeInfo) ?_ installed
  split
  · rename_i gone
    obtain ⟨info, inside, uninstalled⟩ := List.any_eq_true.1 gone
    obtain ⟨isDefault, missing⟩ := (Bool.and_eq_true ..).mp uninstalled
    refine unselected.modCurrentIme (picks ⟨info, inside, isDefault, ?_⟩)
    intro listed
    obtain ⟨imeInfo, member, named⟩ := List.mem_map.1 listed
    have found : (installed.any fun imeInfo => decide (info.bundleName = imeInfo.name)) = true :=
      List.any_eq_true.2 ⟨imeInfo, member, decide_eq_true named.symm⟩
    rw [found] at missing
    cases missing
  · exact unselected

theorem Unselected.setCurrent (unselected : Unselected b infos) {bundleName : String}
    (other : bundleName ≠ b) (extName subName : String) (isSetByUser : Bool) :
    Unselected b (setCurrent bundleName extName subName isSetByUser infos) := by
  refine unselected.map ?_ ?_
  · intro info _
    split <;> rfl
  · intro info named _ isTmp
    rw [if_neg (fun same => other (same.symm.trans named))]
    exact ⟨rfl, isTmp⟩

theorem Unselected.setTmp (unselected : Unselected b infos) {bundleName : String}
    (other : bundleName ≠ b) :
    Unselected b (setTmp bundleName infos) := by
  refine unselected.map (fun _ _ => rfl) ?_
  intro info named isDefault _
  exact ⟨isDefault, decide_eq_false fun same => other (same.symm.trans named)⟩

theorem Unselected.clearTmp (unselected : Unselected b infos) : Unselected b (clearTmp infos) :=
  unselected.map (fun _ _ => rfl) fun _ _ isDefault _ => ⟨isDefault, rfl⟩

theorem Unselected.setStatus (unselected : Unselected b infos) (name : String)
    (status : EnabledStatus) (now : String) :
    Unselected b (modifyFirst (isNamed name) (setStatus status now) infos) :=
  unselected.modify _ (fun _ => rfl) fun _ _ _ isDefault isTmp => ⟨isDefault, isTmp⟩

theorem Unselected.updated (unselected : Unselected b infos) {name now : String}
    {status : EnabledStatus}
    (picks : isCurrentIme name (modifyFirst (isNamed name) (Enabled.setStatus status now) infos) =
      true →
      status = .disabled →
        PicksOther config b (modifyFirst (isNamed name) (Enabled.setStatus status now) infos)) :
    Unselected b (updated config name status now infos) := by
  have changed := unselected.setStatus name status now
  unfold Enabled.updated
  dsimp only
  split
  · rename_i moves
    exact changed.modCurrentIme (picks moves.1 moves.2)
  · exact changed

/-- Written and read back. -/
theorem Unselected.cText (unselected : Unselected b infos) (good : WellFormed infos) :
    Unselected b (infos.map ImeEnabledInfo.cText) := by
  refine unselected.map ?_ fun _ _ isDefault isTmp => ⟨isDefault, isTmp⟩
  intro info inside
  exact cStr_eq (good.plain _ (List.mem_map_of_mem inside))

/-! ## The marks of the one removed -/

/-- `b` is not the temporary input method. -/
def NotTmp (b : String) (infos : List ImeEnabledInfo) : Prop :=
  ∀ info ∈ infos, info.bundleName = b → info.isTmp = false

/-- One that is neither found current nor temporary. -/
theorem NotTmp.unselected (notTmp : NotTmp b infos) (good : WellFormed infos)
    (notCurrent : isCurrentIme b infos = false) : Unselected b infos := by
  intro info inside named
  refine ⟨?_, notTmp info inside named⟩
  by_contra marked
  have isDefault : info.isDefault = true := by simpa using marked
  obtain ⟨n, there⟩ := List.getElem?_of_mem inside
  rw [good.oneDefault.eq_findIdx there isDefault, Lib.getElem?_findIdx] at there
  rw [isCurrentIme, there] at notCurrent
  exact of_decide_eq_false notCurrent named

/-- `ModCurrentIme` clears both marks of the current input method, if it finds any successor: even
itself. -/
theorem unselected_modCurrentIme (good : WellFormed infos) (current : isCurrentIme b infos = true)
    (hasNext : successor config infos ≠ infos.length) : Unselected b (modCurrentIme config infos) := by
  have moved : modCurrentIme config infos = (infos.modify (successor config infos) setDefault).modify
      (infos.findIdx ImeEnabledInfo.isDefault) clearCurrent := by
    unfold modCurrentIme
    exact if_neg hasNext
  have names : (modCurrentIme config infos).map ImeEnabledInfo.bundleName =
    infos.map ImeEnabledInfo.bundleName := by
    rw [moved, map_modify (f := clearCurrent) fun _ => rfl, map_modify (f := setDefault) fun _ => rfl]
  -- The entry of `b` is where the mark was found.
  have place : (infos.map ImeEnabledInfo.bundleName)[infos.findIdx ImeEnabledInfo.isDefault]? =
    some b := by
    unfold isCurrentIme at current
    rw [List.getElem?_map, Lib.getElem?_findIdx]
    split at current
    · rename_i info found
      rw [found, ← of_decide_eq_true current]
      rfl
    · cases current
  intro info member named
  obtain ⟨n, there⟩ := List.getElem?_of_mem member
  have atN : (infos.map ImeEnabledInfo.bundleName)[n]? = some b := by
    rw [← names, List.getElem?_map, there, ← named]
    rfl
  have inRange := (List.getElem?_eq_some_iff.1 atN).1
  have here := (List.getElem?_inj inRange good.distinct).1 (atN.trans place.symm)
  rw [moved, here, List.getElem?_modify_eq] at there
  obtain ⟨before, -, rfl⟩ := Option.map_eq_some_iff.1 there
  exact ⟨rfl, rfl⟩

end Tables

/-! ## What an operation can put in the place of a table -/

/-- Only tables of the user change, and each of the two stays or becomes one of `tables`. -/
structure Touches (cjson : CJson) (userId : Int32) (tables : ImeEnabledCfg → Prop)
    (m m' : Manager) : Prop where
  others : ∀ other, other ≠ userId → Spared other m m'
  cache : m'.imeEnabledCfg userId = m.imeEnabledCfg userId ∨
    ∃ cfg, tables cfg ∧ m'.imeEnabledCfg userId = some cfg
  table : m'.settings.userTable userId = m.settings.userTable userId ∨
    ∃ cfg, tables cfg ∧ m'.settings.userTable userId = some (cfg.text cjson)

section Touches

variable {cjson : CJson} {config : Config} {userId : Int32} {tables : ImeEnabledCfg → Prop}
  {m m' m'' : Manager}

theorem Touches.refl (m : Manager) : Touches cjson userId tables m m :=
  ⟨fun _ _ => .refl m, .inl rfl, .inl rfl⟩

theorem Touches.trans (first : Touches cjson userId tables m m')
    (second : Touches cjson userId tables m' m'') :
    Touches cjson userId tables m m'' where
  others other differs := (first.others other differs).trans (second.others other differs)
  cache := by
    rcases second.cache with same | new
    · rw [same]
      exact first.cache
    · exact .inr new
  table := by
    rcases second.table with same | new
    · rw [same]
      exact first.table
    · exact .inr new

theorem storeCfg_touches (write : Write) {cfg : ImeEnabledCfg} (wanted : tables cfg) (m : Manager) :
    Touches cjson userId tables m (storeCfg cjson write userId cfg m).2 where
  others other differs := storeCfg_spared cjson differs write cfg m
  cache := by
    unfold storeCfg
    dsimp only
    split
    · exact .inr ⟨cfg, wanted, Function.update_self ..⟩
    · exact .inl rfl
  table := by
    have written : (storeCfg cjson write userId cfg m).2.settings.userTable userId =
        write.put (cfg.text cjson) (m.settings.userTable userId) := by
      unfold storeCfg
      dsimp only
      split <;> exact Settings.setUserTable_self ..
    rw [written, Write.put]
    split
    · exact .inr ⟨cfg, wanted, rfl⟩
    · exact .inl rfl

/-- Loading leaves the tables of the settings as they are, or migrates that of the user. -/
theorem getEnabledCfg_userTable (cjson : CJson) (config : Config) (io : ReloadIo) (userId : Int32)
    (imeInfos : List FullImeInfo) (s : Settings) :
    (getEnabledCfg cjson config io.cfg userId imeInfos s).2.userTable = s.userTable ∨
      io.Migrates cjson userId imeInfos s ∧
        ∃ src, gather cjson io.cfg.upgrade userId imeInfos s = .ok src ∧
          (getEnabledCfg cjson config io.cfg userId imeInfos s).2.userTable =
            Function.update s.userTable userId (some ((src.cfg config).text cjson)) := by
  rcases getEnabledCfg_settings cjson config io.cfg userId imeInfos s with same | ⟨unread, migrated⟩
  · exact .inl (by rw [same])
  · rw [migrated]
    rcases upgrade_tables cjson config io.cfg.upgrade userId imeInfos s with
      same | ⟨new, read, src, gathered, -, -, table⟩
    · exact .inl same
    · exact .inr ⟨⟨new, unread, read, ⟨src, gathered⟩⟩, src, gathered, table⟩

/-- The tables that a reload puts, migrated or loaded, are among `tables`. -/
structure ReloadIo.Puts (cjson : CJson) (config : Config) (io : ReloadIo) (userId : Int32)
    (imeInfos : List FullImeInfo) (tables : ImeEnabledCfg → Prop) (m : Manager) : Prop where
  migrated : io.Migrates cjson userId imeInfos m.settings →
    ∀ src, gather cjson io.cfg.upgrade userId imeInfos m.settings = .ok src → tables (src.cfg config)
  loaded : ∀ cfg, Loads cjson config io userId imeInfos m cfg → tables cfg

theorem reload_touches {io : ReloadIo} {imeInfos : List FullImeInfo}
    (puts : io.Puts cjson config userId imeInfos tables m) :
    Touches cjson userId tables m (reload cjson config io userId imeInfos m).2 := by
  have first : Touches cjson userId tables m
      (m.withSettings (getEnabledCfg cjson config io.cfg userId imeInfos m.settings).2) := by
    rcases getEnabledCfg_userTable cjson config io userId imeInfos m.settings with
      same | ⟨migrates, src, gathered, table⟩
    · exact ⟨fun other _ => ⟨rfl, congrFun same other⟩, .inl rfl, .inl (congrFun same userId)⟩
    · refine ⟨fun other differs => ⟨rfl, ?_⟩, .inl rfl,
        .inr ⟨src.cfg config, puts.migrated migrates src gathered, ?_⟩⟩
      · exact (congrFun table other).trans (Function.update_of_ne differs ..)
      · exact (congrFun table userId).trans (Function.update_self ..)
  have loads := puts.loaded
  unfold Loads at loads
  unfold reload
  generalize getEnabledCfg cjson config io.cfg userId imeInfos m.settings = loaded at first loads
  obtain ⟨result, after⟩ := loaded
  cases result with
  | error code => exact first
  | ok cfg => exact first.trans (storeCfg_touches io.write (loads cfg rfl) _)

/-- What loading leaves, and that what it returns is what is cached then. -/
def Fetches (cjson : CJson) (userId : Int32) (tables : ImeEnabledCfg → Prop) (m : Manager)
    (done : Except ErrorCode ImeEnabledCfg × Manager) : Prop :=
  Touches cjson userId tables m done.2 ∧ ∀ cfg, done.1 = .ok cfg → done.2.getEnabledCache userId = cfg

theorem reloadedCache_fetches {io : ReloadIo} (puts : io.Puts cjson config userId [] tables m) :
    Fetches cjson userId tables m (reloadedCache cjson config io userId m) := by
  have touches := reload_touches puts
  unfold reloadedCache
  generalize reload cjson config io userId [] m = reloaded at touches
  obtain ⟨result, after⟩ := reloaded
  cases result with
  | error code =>
      refine ⟨touches, fun cfg failed => ?_⟩
      cases failed
  | ok =>
      refine ⟨touches, fun cfg found => ?_⟩
      dsimp only at found
      split at found
      · cases found
      · cases found
        rfl

theorem getEnabledCacheWithCorrect_fetches {io : ReloadIo}
    (puts : (m.getEnabledCache userId).enabledInfos = [] → io.Puts cjson config userId [] tables m) :
    Fetches cjson userId tables m (getEnabledCacheWithCorrect cjson config io userId m) := by
  unfold getEnabledCacheWithCorrect
  dsimp only
  split
  · refine ⟨.refl m, fun cfg found => ?_⟩
    cases found
    rfl
  · rename_i empty
    exact reloadedCache_fetches (puts (by simpa using empty))

theorem getEnabledCacheWithCorrectFor_fetches {io : OpIo} {name : String}
    (puts : (m.getEnabledCache userId).enabledInfos.any (isNamed name) = false →
      io.reload.Puts cjson config userId [] tables m) :
    Fetches cjson userId tables m (getEnabledCacheWithCorrectFor cjson config io userId name m) := by
  unfold getEnabledCacheWithCorrectFor
  dsimp only
  split
  · refine ⟨.refl m, fun cfg found => ?_⟩
    cases found
    rfl
  · rename_i unknown
    split
    · refine ⟨.refl m, fun cfg failed => ?_⟩
      cases failed
    · exact reloadedCache_fetches (puts (by simpa using unknown))

/-! ## Operations -/

theorem switch_touches {ready : Bool} (handler : Bool) {io : ReloadIo} {imeInfos : List FullImeInfo}
    (puts : (m.getEnabledCache userId).enabledInfos = [] → ready = true →
      io.Puts cjson config userId imeInfos tables m) :
    Touches cjson userId tables m (switch cjson config ready handler io userId imeInfos m).2 := by
  unfold switch
  dsimp only
  split
  · split
    · exact ⟨fun _ _ => ⟨rfl, rfl⟩, .inl rfl, .inl rfl⟩
    · exact .refl m
  rename_i empty
  split
  · exact .refl m
  · rename_i isReady
    exact reload_touches (puts (by simpa using empty) (by simpa using isReady))

theorem add_touches {io : OpIo} {imeInfo : FullImeInfo}
    (loads : Touches cjson userId tables m
      (getEnabledCacheWithCorrect cjson config io.reload userId m).2)
    (edits : ∀ cfg, (getEnabledCacheWithCorrect cjson config io.reload userId m).1 = .ok cfg →
      tables { cfg with enabledInfos := install config cfg.enabledInfos imeInfo }) :
    Touches cjson userId tables m (add cjson config io userId imeInfo m).2 := by
  unfold add
  split
  · exact .refl m
  generalize getEnabledCacheWithCorrect cjson config io.reload userId m = found at loads edits
  obtain ⟨result, after⟩ := found
  cases result with
  | error code => exact loads
  | ok cfg =>
      dsimp only
      split
      · exact loads
      · exact loads.trans (storeCfg_touches io.write (edits cfg rfl) after)

theorem delete_touches {io : OpIo} {name : String}
    (loads : Touches cjson userId tables m
      (getEnabledCacheWithCorrect cjson config io.reload userId m).2)
    (edits : ∀ cfg, (getEnabledCacheWithCorrect cjson config io.reload userId m).1 = .ok cfg →
      isCurrentIme name cfg.enabledInfos = true →
      tables { cfg with enabledInfos := modCurrentIme config cfg.enabledInfos }) :
    Touches cjson userId tables m (delete cjson config io userId name m).2 := by
  unfold delete
  generalize getEnabledCacheWithCorrect cjson config io.reload userId m = found at loads edits
  obtain ⟨result, after⟩ := found
  cases result with
  | error code => exact loads
  | ok cfg =>
      dsimp only
      split
      · exact loads
      · rename_i current
        exact loads.trans (storeCfg_touches io.write (edits cfg rfl (by simpa using current)) after)

theorem update_touches {io : OpIo} {now name ext : String} {status : EnabledStatus}
    (loads : Touches cjson userId tables m
      (getEnabledCacheWithCorrectFor cjson config io userId name m).2)
    (edits : ∀ cfg info, (getEnabledCacheWithCorrectFor cjson config io userId name m).1 = .ok cfg →
      cfg.enabledInfos.find? (isNamed name) = some info → info.enabledStatus ≠ status →
      tables { cfg with enabledInfos := updated config name status now cfg.enabledInfos }) :
    Touches cjson userId tables m (update cjson config io now userId name ext status m).2 := by
  unfold update
  split
  · exact .refl m
  generalize getEnabledCacheWithCorrectFor cjson config io userId name m = found at loads edits
  obtain ⟨result, after⟩ := found
  cases result with
  | error code => exact loads
  | ok cfg =>
      dsimp only
      split
      · exact loads
      · rename_i info there
        split
        · exact loads
        · rename_i changes
          exact loads.trans (storeCfg_touches io.write (edits cfg info rfl there changes) after)

theorem setCurrentIme_touches {io : OpIo} {imeId subName : String} {isSetByUser : Bool}
    (loads : Touches cjson userId tables m
      (getEnabledCacheWithCorrectFor cjson config io userId (splitImeId imeId).1 m).2)
    (edits : ∀ cfg, (getEnabledCacheWithCorrectFor cjson config io userId
      (splitImeId imeId).1 m).1 = .ok cfg →
      tables { cfg with
        enabledInfos := setCurrent (splitImeId imeId).1
          (splitImeId imeId).2 subName isSetByUser cfg.enabledInfos }) :
    Touches cjson userId tables m
      (setCurrentIme cjson config io userId imeId subName isSetByUser m).2 := by
  unfold setCurrentIme
  dsimp only
  split
  · exact .refl m
  generalize getEnabledCacheWithCorrectFor cjson config io userId (splitImeId imeId).1 m =
    found at loads edits
  obtain ⟨result, after⟩ := found
  cases result with
  | error code => exact loads
  | ok cfg =>
      dsimp only
      split
      · exact loads
      · exact loads.trans (storeCfg_touches io.write (edits cfg rfl) after)

theorem setTmpIme_clears_touches {io : OpIo}
    (loads : Touches cjson userId tables m
      (getEnabledCacheWithCorrect cjson config io.reload userId m).2)
    (edits : ∀ cfg, (getEnabledCacheWithCorrect cjson config io.reload userId m).1 = .ok cfg →
      tables { cfg with enabledInfos := clearTmp cfg.enabledInfos }) :
    Touches cjson userId tables m (setTmpIme cjson config io userId "" m).2 := by
  unfold setTmpIme
  rw [if_pos rfl]
  generalize getEnabledCacheWithCorrect cjson config io.reload userId m = found at loads edits
  obtain ⟨result, after⟩ := found
  cases result with
  | error code => exact loads
  | ok cfg =>
      dsimp only
      split
      · exact loads
      · exact loads.trans (storeCfg_touches io.write (edits cfg rfl) after)

theorem setTmpIme_touches {io : OpIo} {imeId : String} (given : imeId ≠ "")
    (loads : Touches cjson userId tables m
      (getEnabledCacheWithCorrectFor cjson config io userId (splitImeId imeId).1 m).2)
    (edits : ∀ cfg, (getEnabledCacheWithCorrectFor cjson config io userId
      (splitImeId imeId).1 m).1 = .ok cfg →
      tables { cfg with enabledInfos := setTmp (splitImeId imeId).1 cfg.enabledInfos }) :
    Touches cjson userId tables m (setTmpIme cjson config io userId imeId m).2 := by
  unfold setTmpIme
  rw [if_neg given]
  dsimp only
  generalize getEnabledCacheWithCorrectFor cjson config io userId (splitImeId imeId).1 m =
    found at loads edits
  obtain ⟨result, after⟩ := found
  cases result with
  | error code => exact loads
  | ok cfg =>
      dsimp only
      split
      · exact loads
      · exact loads.trans (storeCfg_touches io.write (edits cfg rfl) after)

end Touches

/-! ## An unmarked input method -/

/-- The persisted table of the user is of the new format, and `b` is unmarked there. -/
def Persists (cjson : CJson) (userId : Int32) (b : String) (s : Settings) : Prop :=
  ∃ content, s.userTable userId = some content ∧ mentionsVersion content = true ∧
    Unselected b (readCfg cjson content).enabledInfos

/-- `b` is unmarked in both tables of the user. -/
structure Released (cjson : CJson) (userId : Int32) (b : String) (m : Manager) : Prop where
  good : Good cjson m
  cached : Unselected b (m.getEnabledCache userId).enabledInfos
  persisted : Persists cjson userId b m.settings

/-- A table of `user` that can be put without harm to that. -/
def Clean (userId : Int32) (b : String) (user : Int32) (cfg : ImeEnabledCfg) : Prop :=
  user = userId → WellFormed cfg.enabledInfos ∧ Unselected b cfg.enabledInfos

/-- Loading leaves `b` unmarked: the table of the user is not taken for missing and migrated again, and
if its current input method is found uninstalled, the mark goes to another one. -/
structure ReloadIo.Spares (cjson : CJson) (config : Config) (b : String) (io : ReloadIo)
    (userId : Int32) (imeInfos : List FullImeInfo) (s : Settings) : Prop where
  kept : ¬ io.Migrates cjson userId imeInfos s
  corrected : ∀ content installed, getStringValue io.cfg.first (s.userTable userId) = .ok content →
    finalImeInfos io.cfg.query imeInfos = .ok installed →
    (∃ info ∈ (readCfg cjson content).enabledInfos,
      info.isDefault = true ∧ info.bundleName ∉ installed.map FullImeInfo.name) →
    PicksOther config b (readCfg cjson content).enabledInfos

section Released

variable {cjson : CJson} {config : Config} {userId user : Int32} {b : String} {m m' : Manager}

theorem Touches.released (touches : Touches cjson user (Clean userId b user) m m')
    (lawful : cjson.Lawful)
    (verbatim : cjson.Verbatim "version") (released : Released cjson userId b m)
    (good : Good cjson m') :
    Released cjson userId b m' := by
  by_cases own : user = userId
  · subst own
    refine ⟨good, ?_, ?_⟩
    · rcases touches.cache with same | ⟨cfg, clean, cached⟩
      · rw [Manager.getEnabledCache, same]
        exact released.cached
      · rw [getEnabledCache_eq cached]
        exact (clean rfl).2
    · rcases touches.table with same | ⟨cfg, clean, table⟩
      · unfold Persists
        rw [same]
        exact released.persisted
      · refine ⟨_, table, mentionsVersion_text verbatim cfg, ?_⟩
        rw [readCfg_text lawful]
        exact (clean rfl).2.cText (clean rfl).1
  · obtain ⟨cache, table⟩ := touches.others userId (Ne.symm own)
    refine ⟨good, ?_, ?_⟩
    · rw [Manager.getEnabledCache, cache]
      exact released.cached
    · unfold Persists
      rw [table]
      exact released.persisted

/-- What is loaded of a table in which `b` is unmarked. -/
theorem Persists.loaded (persists : Persists cjson userId b m.settings)
    (lawful : cjson.Lawful) {io : ReloadIo}
    {imeInfos : List FullImeInfo} (spares : io.Spares cjson config b userId imeInfos m.settings)
    {cfg : ImeEnabledCfg}
    (loads : Loads cjson config io userId imeInfos m cfg) : Unselected b cfg.enabledInfos := by
  obtain ⟨stored, table, mentions, unselected⟩ := persists
  have kept : (getEnabledCfg cjson config io.cfg userId imeInfos m.settings).2.userTable =
    m.settings.userTable := by
    rcases getEnabledCfg_userTable cjson config io userId imeInfos m.settings with same | ⟨migrates, -⟩
    · exact same
    · exact absurd migrates spares.kept
  unfold Loads at loads
  unfold getEnabledCfg at loads kept
  split at loads
  · cases loads
  rename_i userContent first
  rw [first] at kept
  dsimp only at kept
  rcases orEmpty_ok first with read | ⟨-, rfl⟩
  · -- The table is found, and corrected.
    obtain ⟨-, found⟩ := getStringValue_ok read
    obtain rfl := Option.some.inj (table.symm.trans found)
    rw [if_pos mentions] at loads
    dsimp only at loads
    split at loads
    · cases loads
    · rename_i installed query
      cases loads
      exact unselected.correctBy (spares.corrected _ installed read query)
  · -- It is reported missing; nothing is migrated, and it is read again.
    rw [if_neg (by decide)] at loads kept
    generalize upgrade cjson config io.cfg.upgrade userId imeInfos m.settings = upgraded at loads kept
    obtain ⟨result, after⟩ := upgraded
    cases result with
    | error code => cases loads
    | ok =>
        dsimp only at loads kept
        split at loads
        · cases loads
          rw [readCfg_empty lawful]
          exact unselected_nil b
        · cases loads
        · rename_i content second
          cases loads
          rw [second] at kept
          have found := (getStringValue_ok second).2
          rw [congrFun kept userId] at found
          obtain rfl := Option.some.inj (table.symm.trans found)
          exact unselected

theorem Released.puts (released : Released cjson userId b m) (lawful : cjson.Lawful) {io : ReloadIo}
    {imeInfos : List FullImeInfo}
    (spares : user = userId → io.Spares cjson config b user imeInfos m.settings) :
    io.Puts cjson config user imeInfos (Clean userId b user) m where
  migrated migrates _ _ own := absurd migrates (spares own).kept
  loaded cfg loads own := by
    subst own
    exact ⟨(getEnabledCfg_good lawful released.good.settings config io.cfg user imeInfos).2 cfg loads,
      released.persisted.loaded lawful (spares rfl) loads⟩

/-- A table that was fetched is clean. -/
theorem Fetches.clean {done : Except ErrorCode ImeEnabledCfg × Manager}
    (fetches : Fetches cjson user (Clean userId b user) m done) (lawful : cjson.Lawful)
    (verbatim : cjson.Verbatim "version") (released : Released cjson userId b m)
    (loaded : Loaded cjson done)
    {cfg : ImeEnabledCfg} (found : done.1 = .ok cfg) : Clean userId b user cfg := by
  intro own
  subst own
  have after := fetches.1.released lawful verbatim released loaded.1
  refine ⟨loaded.2 cfg found, ?_⟩
  rw [← fetches.2 cfg found]
  exact after.cached

/-- The cached table, loaded if it is empty. -/
theorem Released.fetched (released : Released cjson userId b m) (lawful : cjson.Lawful)
    (verbatim : cjson.Verbatim "version") {io : ReloadIo}
    (spares : user = userId → (m.getEnabledCache user).enabledInfos = [] →
      io.Spares cjson config b user [] m.settings) :
    Touches cjson user (Clean userId b user) m (getEnabledCacheWithCorrect cjson config io user m).2 ∧
      ∀ cfg, (getEnabledCacheWithCorrect cjson config io user m).1 = .ok cfg →
        Clean userId b user cfg := by
  have fetches : Fetches cjson user (Clean userId b user) m
    (getEnabledCacheWithCorrect cjson config io user m) :=
    getEnabledCacheWithCorrect_fetches fun empty => released.puts lawful fun own => spares own empty
  have loaded := getEnabledCacheWithCorrect_good lawful released.good config io user
  exact ⟨fetches.1, fun _ found => fetches.clean lawful verbatim released loaded found⟩

/-- The cached table, loaded if it does not know the name. -/
theorem Released.fetchedFor (released : Released cjson userId b m) (lawful : cjson.Lawful)
    (verbatim : cjson.Verbatim "version") {io : OpIo} {name : String}
    (spares : user = userId → (m.getEnabledCache user).enabledInfos.any (isNamed name) = false →
      io.reload.Spares cjson config b user [] m.settings) :
    Touches cjson user (Clean userId b user) m
      (getEnabledCacheWithCorrectFor cjson config io user name m).2 ∧
      ∀ cfg, (getEnabledCacheWithCorrectFor cjson config io user name m).1 = .ok cfg →
        Clean userId b user cfg := by
  have fetches : Fetches cjson user (Clean userId b user) m
      (getEnabledCacheWithCorrectFor cjson config io user name m) :=
    getEnabledCacheWithCorrectFor_fetches fun unknown =>
      released.puts lawful fun own => spares own unknown
  have loaded := getEnabledCacheWithCorrectFor_good lawful released.good config io user name
  exact ⟨fetches.1, fun _ found => fetches.clean lawful verbatim released loaded found⟩

end Released

/-! ## Later steps -/

/-- A later step leaves `b` unmarked for the user: it does not make `b` current or temporary, every
loading in it spares `b`, and where it moves the mark of the current input method, the mark goes to
another one. -/
def Spares (cjson : CJson) (userId : Int32) (b : String) (m : Manager) : Config × Op → Prop
  | (config, .init ready users) =>
      ready = true → Meets (initUser cjson config)
        (fun m user => user.1 = userId → (m.getEnabledCache user.1).enabledInfos = [] →
          user.2.2.Spares cjson config b user.1 user.2.1 m.settings) m users
  | (config, .switch ready _ io user imeInfos) =>
      user = userId → (m.getEnabledCache user).enabledInfos = [] → ready = true →
        io.Spares cjson config b user imeInfos m.settings
  | (config, .add io user _) =>
      user = userId → (m.getEnabledCache user).enabledInfos = [] →
        io.reload.Spares cjson config b user [] m.settings
  | (_, .deleteUser _) => True
  | (config, .delete io user name) =>
      user = userId → ((m.getEnabledCache user).enabledInfos = [] →
          io.reload.Spares cjson config b user [] m.settings) ∧
        ∀ cfg, (getEnabledCacheWithCorrect cjson config io.reload user m).1 = .ok cfg →
          isCurrentIme name cfg.enabledInfos = true → PicksOther config b cfg.enabledInfos
  | (config, .update io now user name _ status) =>
      user = userId → ((m.getEnabledCache user).enabledInfos.any (isNamed name) = false →
          io.reload.Spares cjson config b user [] m.settings) ∧
        ∀ cfg info, (getEnabledCacheWithCorrectFor cjson config io user name m).1 = .ok cfg →
          cfg.enabledInfos.find? (isNamed name) = some info → info.enabledStatus ≠ status →
          isCurrentIme name (modifyFirst (isNamed name) (setStatus status now) cfg.enabledInfos) =
            true →
          status = .disabled →
          PicksOther config b (modifyFirst (isNamed name) (setStatus status now) cfg.enabledInfos)
  | (config, .setCurrentIme io user imeId _ _) =>
      user = userId → (splitImeId imeId).1 ≠ b ∧
        ((m.getEnabledCache user).enabledInfos.any (isNamed (splitImeId imeId).1) = false →
          io.reload.Spares cjson config b user [] m.settings)
  | (config, .setTmpIme io user imeId) =>
      user = userId →
        if imeId = "" then
          (m.getEnabledCache user).enabledInfos = [] →
            io.reload.Spares cjson config b user [] m.settings
        else (splitImeId imeId).1 ≠ b ∧
          ((m.getEnabledCache user).enabledInfos.any (isNamed (splitImeId imeId).1) = false →
            io.reload.Spares cjson config b user [] m.settings)
  | (config, .reload io user imeInfos) =>
      user = userId → io.Spares cjson config b user imeInfos m.settings
  | (config, .task io) =>
      ∀ user cfg old, m.tasks.head? = some (user, cfg) →
        Replaces cjson config io user cfg m.settings old →
        getGlobalTableUserId cjson old = userId → io.upgrade.userTable ≠ some .errorKeywordNotFound
  | (_, .restart) => True

section Steps

variable {cjson : CJson} {userId : Int32} {b : String} {m : Manager} (lawful : cjson.Lawful)
  (verbatim : cjson.Verbatim "version")
include lawful verbatim

theorem initUser_released (released : Released cjson userId b m) (config : Config)
    {user : Int32 × List FullImeInfo × ReloadIo}
    (spares : user.1 = userId → (m.getEnabledCache user.1).enabledInfos = [] →
      user.2.2.Spares cjson config b user.1 user.2.1 m.settings) :
    Released cjson userId b (initUser cjson config m user) := by
  unfold initUser
  split
  · rename_i empty
    have touches := reload_touches (released.puts lawful fun own => spares own (by simpa using empty))
    exact touches.released lawful verbatim released (reload_good lawful released.good config _ _ _)
  · exact released

omit lawful verbatim in
/-- The task upgrades the user of the global table, whose table it finds. -/
theorem runTask_released (released : Released cjson userId b m) {config : Config} {io : GlobalIo}
    (spares : Spares cjson userId b m (config, .task io))
    (good : Good cjson (runTask cjson config io m)) :
    Released cjson userId b (runTask cjson config io m) := by
  refine ⟨good, ?_, ?_⟩
  · have cache : (runTask cjson config io m).imeEnabledCfg = m.imeEnabledCfg := by
      unfold runTask
      split <;> rfl
    rw [Manager.getEnabledCache, cache]
    exact released.cached
  · have table : (runTask cjson config io m).settings.userTable userId =
      m.settings.userTable userId := by
      unfold runTask
      cases queue : m.tasks with
      | nil => rfl
      | cons task tasks =>
          obtain ⟨user, cfg⟩ := task
          have found := spares user cfg
          rw [queue] at found
          obtain ⟨content, stored, mentions, -⟩ := released.persisted
          have upgraded : ∀ old, Replaces cjson config io user cfg m.settings old →
              (upgrade cjson config io.upgrade (getGlobalTableUserId cjson old)
                [] m.settings).2.userTable userId =
                m.settings.userTable userId := by
            intro old replaces
            rcases upgrade_tables cjson config io.upgrade (getGlobalTableUserId cjson old)
              [] m.settings with
              same | ⟨-, ⟨read, reads, unmentioned⟩, src, -, -, -, tables⟩
            · rw [same]
            · by_cases own : getGlobalTableUserId cjson old = userId
              · have truthful := found old rfl replaces own
                rw [own, stored] at reads
                rcases orEmpty_ok reads with there | ⟨missing, -⟩
                · obtain rfl := Option.some.inj (getStringValue_ok there).2
                  rw [unmentioned] at mentions
                  cases mentions
                · unfold getStringValue at missing
                  split at missing
                  · cases missing
                    exact absurd ‹io.upgrade.userTable = _› truthful
                  · cases ‹some content = none›
                  · cases missing
              · rw [tables, Function.update_of_ne (Ne.symm own)]
          have spec := updateGlobalEnabledTable_spec cjson config io user cfg m.settings
          show (updateGlobalEnabledTable cjson config io user cfg m.settings).userTable userId = _
          generalize updateGlobalEnabledTable cjson config io user cfg m.settings = after at spec
          cases spec with
          | unchanged => rfl
          | replaced => rfl
          | stopped old replaces => exact upgraded old replaces
          | upgraded old replaces => exact upgraded old replaces
    unfold Persists
    rw [table]
    exact released.persisted

/-- One later step. -/
theorem step_released (released : Released cjson userId b m) {e : Config × Op}
    (spares : Spares cjson userId b m e) :
    Released cjson userId b (m.step cjson e) := by
  have good := step_good lawful released.good e
  -- Every operation of one user is given by what it can put in the place of his tables.
  have settled : ∀ {user : Int32}, Touches cjson user (Clean userId b user) m (m.step cjson e) →
      Released cjson userId b (m.step cjson e) :=
    fun touches => touches.released lawful verbatim released good
  obtain ⟨config, op⟩ := e
  cases op with
  | init ready users =>
      cases ready with
      | false => exact released
      | true =>
          refine run_keeps ?_ released (spares rfl)
          intro m user released spares
          exact initUser_released lawful verbatim released config spares
  | switch ready handler io user imeInfos =>
      exact settled (switch_touches handler fun empty isReady =>
        released.puts lawful fun own => spares own empty isReady)
  | add io user imeInfo =>
      obtain ⟨touches, clean⟩ := released.fetched lawful verbatim spares
      refine settled (add_touches touches fun cfg found own => ?_)
      obtain ⟨wf, unselected⟩ := clean cfg found own
      exact ⟨wf.install imeInfo, unselected.install config imeInfo⟩
  | deleteUser user =>
      refine ⟨good, ?_, released.persisted⟩
      show Unselected b ((Function.update m.imeEnabledCfg user none userId).getD {}).enabledInfos
      by_cases own : userId = user
      · rw [own, Function.update_self]
        exact unselected_nil b
      · rw [Function.update_of_ne own]
        exact released.cached
  | delete io user name =>
      obtain ⟨touches, clean⟩ := released.fetched lawful verbatim fun own => (spares own).1
      refine settled (delete_touches touches fun cfg found current own => ?_)
      obtain ⟨wf, unselected⟩ := clean cfg found own
      exact ⟨wf.modCurrentIme, unselected.modCurrentIme ((spares own).2 cfg found current)⟩
  | update io now user name ext status =>
      obtain ⟨touches, clean⟩ := released.fetchedFor lawful verbatim fun own => (spares own).1
      refine settled (update_touches touches fun cfg info found there changes own => ?_)
      obtain ⟨wf, unselected⟩ := clean cfg found own
      exact ⟨updated_wellFormed config wf name status now,
        unselected.updated ((spares own).2 cfg info found there changes)⟩
  | setCurrentIme io user imeId subName isSetByUser =>
      obtain ⟨touches, clean⟩ := released.fetchedFor lawful verbatim fun own => (spares own).2
      refine settled (setCurrentIme_touches touches fun cfg found own => ?_)
      obtain ⟨wf, unselected⟩ := clean cfg found own
      exact ⟨wf.setCurrent _ _ _ _, unselected.setCurrent (spares own).1 _ _ _⟩
  | setTmpIme io user imeId =>
      by_cases clears : imeId = ""
      · subst clears
        obtain ⟨touches, clean⟩ := released.fetched lawful verbatim spares
        refine settled (setTmpIme_clears_touches touches fun cfg found own => ?_)
        obtain ⟨wf, unselected⟩ := clean cfg found own
        exact ⟨wf.clearTmp, unselected.clearTmp⟩
      · have other : user = userId → _ := fun own => (if_neg clears).mp (spares own)
        obtain ⟨touches, clean⟩ := released.fetchedFor lawful verbatim fun own => (other own).2
        refine settled (setTmpIme_touches clears touches fun cfg found own => ?_)
        obtain ⟨wf, unselected⟩ := clean cfg found own
        exact ⟨wf.setTmp _, unselected.setTmp (other own).1⟩
  | reload io user imeInfos => exact settled (reload_touches (released.puts lawful spares))
  | task io => exact runTask_released released spares good
  | restart => exact ⟨good, unselected_nil b, released.persisted⟩

/-- Asked for the current input method, nobody gets `b`. -/
theorem getCurrentImeCfg_released (released : Released cjson userId b m)
    {config : Config} {io : ReloadIo} (spares : (m.getEnabledCache userId).enabledInfos = [] →
      io.Spares cjson config b userId [] m.settings) :
    ¬ (getCurrentImeCfg cjson config io userId m).1.Names b := by
  obtain ⟨-, clean⟩ := released.fetched lawful verbatim fun _ : userId = userId => spares
  rintro ⟨identified, named⟩
  unfold getCurrentImeCfg getCurrentImeCfgInner at identified named
  generalize getEnabledCacheWithCorrect cjson config io userId m = found at clean identified named
  obtain ⟨result, after⟩ := found
  cases result with
  | error code => exact identified rfl
  | ok cfg =>
      dsimp only at identified named
      split at named
      · rename_i native picked
        exact (clean cfg rfl rfl).2.not_selected picked named
      · rename_i nothing
        rw [nothing] at identified
        exact identified rfl

end Steps

/-! ## The removal -/

/-- The calls that take an input method out of use. -/
inductive Removal where
  | delete (io : OpIo)
  | update (io : OpIo) (now ext : String)

def Removal.op (userId : Int32) (b : String) : Removal → Op
  | .delete io => .delete io userId b
  | .update io now ext => .update io now userId b ext .disabled

def Removal.io : Removal → OpIo
  | .delete io => io
  | .update io _ _ => io

/-- The writes of a call succeed. -/
structure OpIo.Writes (io : OpIo) : Prop where
  write : io.write = ⟨true, true⟩
  reload : io.reload.write = ⟨true, true⟩

/-- The call takes both marks off `b`.  A current input method needs a successor in the table the call
works on; one that is not current, or that was disabled before, must not be temporary.  Where
the call then writes nothing, the persisted table must agree. -/
def Removal.Frees (cjson : CJson) (config : Config) (userId : Int32) (b : String) (m : Manager) :
    Removal → Prop
  | .delete io =>
      ∀ cfg, (getEnabledCacheWithCorrect cjson config io.reload userId m).1 = .ok cfg →
        if isCurrentIme b cfg.enabledInfos then
          successor config cfg.enabledInfos ≠ cfg.enabledInfos.length
        else NotTmp b cfg.enabledInfos ∧
          ((m.getEnabledCache userId).enabledInfos ≠ [] → Persists cjson userId b m.settings)
  | .update io now _ =>
      ∀ cfg info, (getEnabledCacheWithCorrectFor cjson config io userId b m).1 = .ok cfg →
        cfg.enabledInfos.find? (isNamed b) = some info →
        if info.enabledStatus = .disabled then
          isCurrentIme b cfg.enabledInfos = false ∧ NotTmp b cfg.enabledInfos ∧
            ((m.getEnabledCache userId).enabledInfos.any (isNamed b) = true →
              Persists cjson userId b m.settings)
        else
          let infos := modifyFirst (isNamed b) (setStatus .disabled now) cfg.enabledInfos
          if isCurrentIme b infos then successor config infos ≠ infos.length
          else NotTmp b cfg.enabledInfos

section Removal

variable {cjson : CJson} {config : Config} {userId : Int32} {b : String} {m m' : Manager}

theorem released_of_tables (lawful : cjson.Lawful) (verbatim : cjson.Verbatim "version")
    {cfg : ImeEnabledCfg} (good : Good cjson m) (cached : m.getEnabledCache userId = cfg)
    (table : m.settings.userTable userId = some (cfg.text cjson))
    (wellFormed : WellFormed cfg.enabledInfos)
    (unselected : Unselected b cfg.enabledInfos) : Released cjson userId b m := by
  refine ⟨good, ?_, _, table, mentionsVersion_text verbatim cfg, ?_⟩
  · rw [cached]
    exact unselected
  · rw [readCfg_text lawful]
    exact unselected.cText wellFormed

/-- A write that succeeds leaves the table in both places. -/
theorem storeCfg_stores (cjson : CJson) (userId : Int32) (cfg : ImeEnabledCfg) (m : Manager) :
    (storeCfg cjson ⟨true, true⟩ userId cfg m).2.getEnabledCache userId = cfg ∧
      (storeCfg cjson ⟨true, true⟩ userId cfg m).2.settings.userTable userId = some (cfg.text cjson) :=
  ⟨getEnabledCache_eq (Function.update_self ..), Settings.setUserTable_self ..⟩

/-- A table that was loaded is the persisted one then. -/
theorem reloadedCache_stores {io : ReloadIo} (write : io.write = ⟨true, true⟩) {cfg : ImeEnabledCfg}
    (found : (reloadedCache cjson config io userId m).1 = .ok cfg) :
    (reloadedCache cjson config io userId m).2.settings.userTable userId = some (cfg.text cjson) := by
  unfold reloadedCache reload at found ⊢
  rw [write] at found ⊢
  generalize getEnabledCfg cjson config io.cfg userId [] m.settings = loaded at found ⊢
  obtain ⟨result, after⟩ := loaded
  cases result with
  | error code => cases found
  | ok loaded =>
      obtain ⟨cached, table⟩ := storeCfg_stores cjson userId loaded (m.withSettings after)
      change (if _ then _ else _) = _ at found
      split at found
      · cases found
      · cases found
        exact table.trans (congrArg (fun cfg => some (ImeEnabledCfg.text cjson cfg)) cached.symm)

theorem fetched_stores {io : ReloadIo} (write : io.write = ⟨true, true⟩) {cfg : ImeEnabledCfg}
    (found : (getEnabledCacheWithCorrect cjson config io userId m).1 = .ok cfg) :
    ((m.getEnabledCache userId).enabledInfos ≠ [] ∧
      (getEnabledCacheWithCorrect cjson config io userId m).2 = m) ∨
      (getEnabledCacheWithCorrect cjson config io userId m).2.settings.userTable userId =
        some (cfg.text cjson) := by
  unfold getEnabledCacheWithCorrect at found ⊢
  dsimp only at found ⊢
  split
  · rename_i filled
    exact .inl ⟨by simpa using filled, rfl⟩
  · rename_i empty
    rw [if_neg empty] at found
    exact .inr (reloadedCache_stores write found)

theorem fetchedFor_stores {io : OpIo} (write : io.reload.write = ⟨true, true⟩) {name : String}
    {cfg : ImeEnabledCfg}
    (found : (getEnabledCacheWithCorrectFor cjson config io userId name m).1 = .ok cfg) :
    ((m.getEnabledCache userId).enabledInfos.any (isNamed name) = true ∧
        (getEnabledCacheWithCorrectFor cjson config io userId name m).2 = m) ∨
      (getEnabledCacheWithCorrectFor cjson config io userId name m).2.settings.userTable userId =
        some (cfg.text cjson) := by
  unfold getEnabledCacheWithCorrectFor at found ⊢
  dsimp only at found ⊢
  split
  · rename_i known
    exact .inl ⟨known, rfl⟩
  · rename_i unknown
    rw [if_neg unknown] at found
    split
    · rename_i notIme
      rw [if_pos notIme] at found
      cases found
    · rename_i isIme
      rw [if_neg isIme] at found
      exact .inr (reloadedCache_stores write found)

/-- Nothing is written: both tables stay as the call found them. -/
theorem released_of_fetched (lawful : cjson.Lawful) (verbatim : cjson.Verbatim "version")
    {cfg : ImeEnabledCfg} (good : Good cjson m') (cached : m'.getEnabledCache userId = cfg)
    (wellFormed : WellFormed cfg.enabledInfos) (unselected : Unselected b cfg.enabledInfos)
    (table : Persists cjson userId b m'.settings ∨ m'.settings.userTable userId =
      some (cfg.text cjson)) :
    Released cjson userId b m' := by
  rcases table with persists | stored
  · refine ⟨good, ?_, persists⟩
    rw [cached]
    exact unselected
  · exact released_of_tables lawful verbatim good cached stored wellFormed unselected

theorem puts_any (cjson : CJson) (config : Config) (io : ReloadIo) (userId : Int32)
    (imeInfos : List FullImeInfo)
    (m : Manager) : io.Puts cjson config userId imeInfos (fun _ => True) m :=
  ⟨fun _ _ _ => trivial, fun _ _ => trivial⟩

theorem delete_releases (lawful : cjson.Lawful) (verbatim : cjson.Verbatim "version")
    (good : Good cjson m) {io : OpIo}
    (writes : io.Writes) (done : (delete cjson config io userId b m).1 = .ok ())
    (frees : (Removal.delete io).Frees cjson config userId b m) :
    Released cjson userId b (delete cjson config io userId b m).2 := by
  have goodAfter : Good cjson (delete cjson config io userId b m).2 :=
    step_good lawful good (config, .delete io userId b)
  have loaded := getEnabledCacheWithCorrect_good lawful good config io.reload userId
  have fetches := getEnabledCacheWithCorrect_fetches fun _ =>
    puts_any cjson config io.reload userId [] m
  have stores : ∀ cfg, (getEnabledCacheWithCorrect cjson config io.reload userId m).1 = .ok cfg → _ :=
    fun _ found => fetched_stores writes.reload found
  unfold Removal.Frees at frees
  unfold delete at done goodAfter ⊢
  dsimp only at frees
  generalize getEnabledCacheWithCorrect cjson config io.reload userId m = found at *
  obtain ⟨result, after⟩ := found
  cases result with
  | error code => cases done
  | ok cfg =>
      have condition := frees cfg rfl
      have wellFormed := loaded.2 cfg rfl
      dsimp only at goodAfter ⊢
      cases current : isCurrentIme b cfg.enabledInfos with
      | false =>
          rw [current] at condition goodAfter
          rw [if_neg (by decide)] at condition
          obtain ⟨notTmp, agrees⟩ := condition
          refine released_of_fetched lawful verbatim goodAfter (fetches.2 cfg rfl) wellFormed
            (notTmp.unselected wellFormed current) ?_
          rcases stores cfg rfl with ⟨filled, same⟩ | table
          · exact .inl (same.symm ▸ agrees filled)
          · exact .inr table
      | true =>
          rw [current] at condition goodAfter
          rw [if_pos rfl] at condition
          rw [writes.write] at goodAfter ⊢
          obtain ⟨cached, table⟩ := storeCfg_stores cjson userId
            { cfg with enabledInfos := modCurrentIme config cfg.enabledInfos } after
          exact released_of_tables lawful verbatim goodAfter cached table wellFormed.modCurrentIme
            (unselected_modCurrentIme wellFormed current condition)

/-- The table after the status has changed. -/
theorem unselected_updated {infos : List ImeEnabledInfo} (wellFormed : WellFormed infos) {now : String}
    (condition : if isCurrentIme b (modifyFirst (isNamed b) (setStatus .disabled now) infos) then
        successor config (modifyFirst (isNamed b) (setStatus .disabled now) infos) ≠
          (modifyFirst (isNamed b) (setStatus .disabled now) infos).length
      else NotTmp b infos) : Unselected b (updated config b .disabled now infos) := by
  have changed : WellFormed (modifyFirst (isNamed b) (setStatus .disabled now) infos) :=
    wellFormed.modify _ (fun _ => rfl) fun _ => rfl
  unfold updated
  dsimp only
  split
  · rename_i moves
    rw [if_pos moves.1] at condition
    exact unselected_modCurrentIme changed moves.1 condition
  · rename_i stays
    have notCurrent : isCurrentIme b (modifyFirst (isNamed b) (setStatus .disabled now) infos) =
      false := by
      simpa using stays
    rw [if_neg (by rw [notCurrent]; decide)] at condition
    refine NotTmp.unselected ?_ changed notCurrent
    intro info member named
    rcases mem_modify member with old | ⟨before, old, rfl⟩
    · exact condition info old named
    · exact condition before old named

theorem update_releases (lawful : cjson.Lawful) (verbatim : cjson.Verbatim "version")
    (good : Good cjson m) {io : OpIo} (writes : io.Writes) {now ext : String}
    (done : (update cjson config io now userId b ext .disabled m).1 = .ok ())
    (frees : (Removal.update io now ext).Frees cjson config userId b m) :
    Released cjson userId b (update cjson config io now userId b ext .disabled m).2 := by
  have goodAfter : Good cjson (update cjson config io now userId b ext .disabled m).2 :=
    step_good lawful good (config, .update io now userId b ext .disabled)
  have loaded := getEnabledCacheWithCorrectFor_good lawful good config io userId b
  have fetches : Fetches cjson userId (fun _ => True) m
    (getEnabledCacheWithCorrectFor cjson config io userId b m) :=
    getEnabledCacheWithCorrectFor_fetches fun _ => puts_any cjson config io.reload userId [] m
  have stores : ∀ cfg, (getEnabledCacheWithCorrectFor cjson config io userId b m).1 = .ok cfg → _ :=
    fun _ found => fetchedFor_stores writes.reload found
  unfold Removal.Frees at frees
  unfold update at done goodAfter ⊢
  dsimp only at frees
  split at done
  · cases done
  rename_i checked
  rw [checked] at goodAfter
  dsimp only at goodAfter
  generalize getEnabledCacheWithCorrectFor cjson config io userId b m = found at *
  obtain ⟨result, after⟩ := found
  cases result with
  | error code => cases done
  | ok cfg =>
      have wellFormed := loaded.2 cfg rfl
      dsimp only at done goodAfter ⊢
      cases there : cfg.enabledInfos.find? (isNamed b) with
      | none =>
          rw [there] at done
          cases done
      | some info =>
          have condition := frees cfg info rfl there
          rw [there] at goodAfter
          dsimp only at goodAfter ⊢
          by_cases disabled : info.enabledStatus = .disabled
          · rw [if_pos disabled] at condition goodAfter
            obtain ⟨notCurrent, notTmp, agrees⟩ := condition
            rw [if_pos disabled]
            refine released_of_fetched lawful verbatim goodAfter (fetches.2 cfg rfl) wellFormed
              (notTmp.unselected wellFormed notCurrent) ?_
            rcases stores cfg rfl with ⟨known, same⟩ | table
            · exact .inl (same.symm ▸ agrees known)
            · exact .inr table
          · rw [if_neg disabled] at condition goodAfter
            rw [if_neg disabled, writes.write]
            rw [writes.write] at goodAfter
            obtain ⟨cached, table⟩ := storeCfg_stores cjson userId
              { cfg with enabledInfos := updated config b .disabled now cfg.enabledInfos } after
            exact released_of_tables lawful verbatim goodAfter cached table
              (updated_wellFormed config wellFormed b .disabled now)
                (unselected_updated wellFormed condition)

/-- **Removed for good.**  Start with empty caches and any settings with tables of the code's own,
and let any operations happen.  After a `Delete` of `b`, or an `Update` of `b` to disabled, that
succeeds with its writes and takes both marks off it, and any operations each of which spares it,
`GetCurrentImeCfg` of the user does not return `b`. -/
theorem removed_never_current (lawful : cjson.Lawful) (verbatim : cjson.Verbatim "version")
    {settings : Settings}
    (start : GoodSettings cjson settings) (before : List (Config × Op)) {removal : Removal}
    (writes : removal.io.Writes)
    (done : (run (Manager.step cjson) { settings := settings } before).result cjson
      (config, removal.op userId b) = .ok ())
    (frees : removal.Frees cjson config userId b
      (run (Manager.step cjson) { settings := settings } before))
    {later : List (Config × Op)}
    (spares : Meets (Manager.step cjson) (Spares cjson userId b)
      (run (Manager.step cjson) { settings := settings }
        (before ++ [(config, removal.op userId b)])) later)
    {config' : Config} {io : ReloadIo} {m : Manager}
    (reached : m = run (Manager.step cjson) { settings := settings }
      (before ++ [(config, removal.op userId b)] ++ later))
    (query : (m.getEnabledCache userId).enabledInfos = [] →
      io.Spares cjson config' b userId [] m.settings) :
    ¬ (getCurrentImeCfg cjson config' io userId m).1.Names b := by
  have empty : Good cjson { settings := settings } := ⟨start, fun _ _ cached => by cases cached⟩
  have good : Good cjson (run (Manager.step cjson) { settings := settings } before) :=
    Lib.run_always (P := Good cjson) (fun _ e good => step_good lawful good e) empty before
  rw [Lib.run_append] at spares
  rw [Lib.run_append, Lib.run_append] at reached
  generalize run (Manager.step cjson) { settings := settings } before = removedFrom at *
  have removed : Released cjson userId b (removedFrom.step cjson (config, removal.op userId b)) := by
    cases removal with
    | delete io => exact delete_releases lawful verbatim good writes done frees
    | update io now ext => exact update_releases lawful verbatim good writes done frees
  have after : Released cjson userId b m := by
    rw [reached]
    exact run_keeps (P := Released cjson userId b)
      (fun _ _ released spares => step_released lawful verbatim released spares) removed spares
  exact getCurrentImeCfg_released lawful verbatim after query

end Removal

/-! ## Poles -/

theorem nulFree_systemIme : NulFree "com.example.system" := by decide

theorem nulFree_systemExt : NulFree "SystemExt" := by decide

def systemIme : FullImeInfo where
  name := "com.example.system"
  id := "SystemExt"
  plainName := nulFree_systemIme
  plainId := nulFree_systemExt

def systemConfig : Config where
  defaultIme := "com.example.system"

/-- The system input method is current, and another one is enabled. -/
def systemCurrent : ImeEnabledCfg where
  enabledInfos :=
    [{ bundleName := "com.example.system", extensionName := "SystemExt", enabledStatus := .basicMode,
       extraInfo := { isDefaultIme := true } },
     { bundleName := "com.example.keyboard", extensionName := "KeyboardExt",
       enabledStatus := .basicMode }]

def systemSettings : Settings where
  userTable _ := some (systemCurrent.text compact)

theorem systemCurrent_wellFormed : WellFormed systemCurrent.enabledInfos where
  plain := List.forall_mem_cons.2 ⟨nulFree_systemIme, List.forall_mem_singleton.2 nulFree_keyboard⟩
  distinct := by decide
  oneDefault := Lib.atMostOne_cons (by decide)
  oneTmp := Lib.atMostOne_of_none (by decide)

theorem systemSettings_good : GoodSettings compact systemSettings := by
  intro userId content stored
  exact .inr ⟨systemCurrent, (Option.some.inj stored).symm, systemCurrent_wellFormed⟩

/-- The table is read as it was written, and corrected by those two it stays as it is. -/
theorem systemCurrent_decoded {io : CfgIo} {imeInfos : List FullImeInfo} (first : io.first = none)
    (answered : finalImeInfos io.query imeInfos = .ok [systemIme, keyboard]) :
    getEnabledCfg compact systemConfig io 100 imeInfos systemSettings =
      (.ok systemCurrent, systemSettings) := by
  have strings : systemCurrent.cText = systemCurrent := by decide
  have table : TakenAsTable compact (readCfg compact (systemCurrent.text compact))
    (systemCurrent.text compact) :=
    takenAsTable (mentionsVersion_text compact_verbatim_version systemCurrent)
  rw [readCfg_text compact_lawful, strings] at table
  have corrected : correctBy systemConfig [systemIme, keyboard] systemCurrent.enabledInfos =
      systemCurrent.enabledInfos := by decide
  have loaded := table.decoded systemConfig io 100 imeInfos systemSettings rfl first
  rw [answered] at loaded
  change getEnabledCfg compact systemConfig io 100 imeInfos systemSettings =
    (.ok { systemCurrent with
      enabledInfos := correctBy systemConfig [systemIme, keyboard] systemCurrent.enabledInfos },
        systemSettings) at loaded
  rw [corrected] at loaded
  exact loaded

/-- The state after the table is loaded. -/
def systemLoaded : Manager :=
  (storeCfg compact ⟨true, true⟩ 100 systemCurrent { settings := systemSettings }).2

theorem systemCurrent_loaded :
    Manager.step compact { settings := systemSettings }
      (systemConfig, .reload {} 100 [systemIme, keyboard]) =
      systemLoaded :=
  step_reload {} { settings := systemSettings } (systemCurrent_decoded rfl rfl)

theorem run_systemLoaded (es : List (Config × Op)) :
    run (Manager.step compact) { settings := systemSettings }
      ((systemConfig, .reload {} 100 [systemIme, keyboard]) :: es) =
        run (Manager.step compact) systemLoaded es := by
  rw [Lib.run_cons, systemCurrent_loaded]

/-- The keyboard is made current and uninstalled, and the system input method made temporary: the
keyboard is not the one to use. -/
theorem keyboard_removed :
    ¬ (getCurrentImeCfg compact systemConfig {} 100
      (run (Manager.step compact) { settings := systemSettings }
      [(systemConfig, .reload {} 100 [systemIme, keyboard]),
       (systemConfig, .setCurrentIme {} 100 "com.example.keyboard/KeyboardExt" "" true),
       (systemConfig, .delete {} 100 "com.example.keyboard"),
       (systemConfig, .setTmpIme {} 100 "com.example.system/SystemExt")])).1.Names
         "com.example.keyboard" := by
  refine @removed_never_current compact systemConfig 100 "com.example.keyboard" compact_lawful
    compact_verbatim_version systemSettings systemSettings_good
    [(systemConfig, .reload {} 100 [systemIme, keyboard]),
     (systemConfig, .setCurrentIme {} 100 "com.example.keyboard/KeyboardExt" "" true)]
    (.delete {}) ⟨rfl, rfl⟩ ?_ ?_ [(systemConfig, .setTmpIme {} 100 "com.example.system/SystemExt")] ?_
    systemConfig {} _ rfl ?_
  · rw [run_systemLoaded]
    rfl
  · rw [run_systemLoaded]
    rintro cfg ⟨⟩
    rw [if_pos (by decide)]
    decide
  · rw [List.cons_append, run_systemLoaded]
    refine ⟨fun _ => ?_, trivial⟩
    rw [if_neg (by decide)]
    exact ⟨by decide, fun unknown => absurd unknown (by decide)⟩
  · rw [run_systemLoaded]
    intro empty
    exact absurd empty (by decide)

/-- The temporary input method is uninstalled, and is still the one to use. -/
theorem temporary_stays :
    let m := run (Manager.step compact) { settings := systemSettings }
      [(systemConfig, .reload {} 100 [systemIme, keyboard]),
       (systemConfig, .setTmpIme {} 100 "com.example.keyboard/KeyboardExt")]
    (delete compact systemConfig {} 100 "com.example.keyboard" m).1 = .ok () ∧
      (getCurrentImeCfg compact systemConfig {} 100
        (delete compact systemConfig {} 100 "com.example.keyboard" m).2).1.Names
          "com.example.keyboard" := by
  intro m
  have same : m = run (Manager.step compact) systemLoaded
      [(systemConfig, .setTmpIme {} 100 "com.example.keyboard/KeyboardExt")] := run_systemLoaded _
  rw [same]
  exact ⟨rfl, by decide⟩

end Imf.Enabled
