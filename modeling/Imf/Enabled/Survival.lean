/-
# Imf.Enabled.Survival -- who is current after the table is loaded

Loading a table corrects it by a list of installed input methods, and a current input method that
is not on the list loses its place.  Whose list it is the loader cannot know: it is handed down,
and only an empty one makes the loader ask for itself.

`reload_survives_iff` says that a loaded table keeps its enabled current input method exactly when
the list it is corrected by has it.  Installing and uninstalling others, and everything that
happens to other users, leaves it where it is.
-/
import Imf.Enabled.Coherence
import Imf.Enabled.Handover

namespace Imf.Enabled

set_option autoImplicit false

open Lib (AtMostOne mem_upsert_of_mem nodup_upsert)
open Imf.Json

/-- `b` is the one current input method, and enabled. -/
structure Current (b : String) (infos : List ImeEnabledInfo) : Prop where
  distinct : (infos.map ImeEnabledInfo.bundleName).Nodup
  one : AtMostOne ImeEnabledInfo.isDefault infos
  current : ∃ info ∈ infos, info.isDefault = true ∧ info.bundleName = b
  enabled : ∃ info ∈ infos, info.bundleName = b ∧ info.enabledStatus ≠ .disabled

section Tables

variable {config : Config} {b : String} {infos : List ImeEnabledInfo}

theorem Current.only (current : Current b infos) : ∀ info ∈ infos,
    info.isDefault = true → info.bundleName = b := by
  obtain ⟨holder, holds, marked, named⟩ := current.current
  intro info inside isDefault
  obtain ⟨i, atI⟩ := List.getElem?_of_mem inside
  obtain ⟨k, atK⟩ := List.getElem?_of_mem holds
  obtain rfl := current.one i k info holder atI atK isDefault marked
  rw [atI] at atK
  cases atK
  exact named

theorem Current.install (current : Current b infos) (config : Config) (imeInfo : FullImeInfo) :
    Current b (install config infos imeInfo) where
  distinct := nodup_upsert (fillExtension_name imeInfo) rfl current.distinct
  one := oneDefault_install current.one imeInfo
  current := (marked_install imeInfo (· = b)).2 current.current
  enabled := by
    obtain ⟨info, inside, named, enabled⟩ := current.enabled
    rcases mem_upsert_of_mem inside with kept | changed
    · exact ⟨info, kept, named, enabled⟩
    · refine ⟨_, changed, ?_, ?_⟩
      · rw [fillExtension_name]
        exact named
      · unfold fillExtension
        split <;> exact enabled

theorem Current.installAll (current : Current b infos) (config : Config)
    (installed : List FullImeInfo) :
    Current b (installed.foldl (Enabled.install config) infos) := by
  induction installed generalizing infos with
  | nil => exact current
  | cons imeInfo installed ih => exact ih (current.install config imeInfo)

theorem marked_installAll (installed : List FullImeInfo) (p : String → Prop) :
    (∃ info ∈ installed.foldl (install config) infos, info.isDefault = true ∧ p info.bundleName) ↔
      ∃ info ∈ infos, info.isDefault = true ∧ p info.bundleName := by
  induction installed generalizing infos with
  | nil => rfl
  | cons imeInfo installed ih => rw [List.foldl_cons, ih, marked_install]

theorem successor_ne_length (config : Config) (enabled : ∃ info ∈ infos, info.enabled = true) :
    successor config infos ≠ infos.length := by
  unfold successor
  dsimp only
  split
  · exact Nat.ne_of_lt (List.findIdx_lt_length.2 enabled)
  · assumption

/-- `ModCurrentIme` takes the mark off the current input method, whoever gets it. -/
theorem Current.lost_modCurrentIme (current : Current b infos) (config : Config) :
    ¬ ∃ info ∈ modCurrentIme config infos, info.isDefault = true ∧ info.bundleName = b := by
  obtain ⟨enabled, member, -, isEnabled⟩ := current.enabled
  have moved : modCurrentIme config infos = (infos.modify (successor config infos) setDefault).modify
      (infos.findIdx ImeEnabledInfo.isDefault) clearCurrent := by
    unfold modCurrentIme
    exact if_neg (successor_ne_length config ⟨enabled, member, enabled_iff.2 isEnabled⟩)
  rintro ⟨info, inside, isDefault, named⟩
  rw [moved] at inside
  obtain ⟨n, there⟩ := List.getElem?_of_mem inside
  obtain ⟨-, elsewhere⟩ := current.one.only_moved _ (fun _ => rfl) there isDefault
  -- The names stay where they are, and `b` has its place already.
  have names : (((infos.modify (successor config infos) setDefault).modify
      (infos.findIdx ImeEnabledInfo.isDefault) clearCurrent).map ImeEnabledInfo.bundleName) =
        infos.map ImeEnabledInfo.bundleName := by
    rw [Lib.map_modify (f := clearCurrent) fun _ => rfl, Lib.map_modify (f := setDefault) fun _ => rfl]
  have atN : (infos.map ImeEnabledInfo.bundleName)[n]? = some b := by
    rw [← names, List.getElem?_map, there, ← named]
    rfl
  obtain ⟨holder, holds, marked, holderNamed⟩ := current.current
  obtain ⟨k, atK⟩ := List.getElem?_of_mem holds
  have place := current.one.eq_findIdx atK marked
  have atHolder : (infos.map ImeEnabledInfo.bundleName)[k]? = some b := by
    rw [List.getElem?_map, atK, ← holderNamed]
    rfl
  have inRange := (List.getElem?_eq_some_iff.1 atN).1
  have same := (List.getElem?_inj inRange current.distinct).1 (atN.trans atHolder.symm)
  exact elsewhere (same.trans place)

theorem correctBy_ne_nil (config : Config) (installed : List FullImeInfo) (filled : infos ≠ []) :
    correctBy config installed infos ≠ [] := by
  have installs : ∀ infos : List ImeEnabledInfo,
    infos ≠ [] → installed.foldl (install config) infos ≠ [] := by
    induction installed with
    | nil => exact fun _ filled => filled
    | cons imeInfo installed ih =>
        intro infos filled
        refine ih _ ?_
        obtain ⟨info, inside⟩ := List.exists_mem_of_ne_nil infos filled
        rcases mem_upsert_of_mem (p := isNamed imeInfo.name) (f := fillExtension imeInfo) inside
          with kept | changed
        · exact List.ne_nil_of_mem kept
        · exact List.ne_nil_of_mem changed
  refine installs _ ?_
  split
  · unfold modCurrentIme
    dsimp only
    split
    · exact filled
    · intro empty
      have lengths := congrArg List.length empty
      rw [List.length_modify, List.length_modify] at lengths
      exact filled (List.length_eq_zero_iff.1 lengths)
  · exact filled

/-- A table is corrected without harm to its current input method exactly when the list has it. -/
theorem Current.correctBy_iff (current : Current b infos) (config : Config)
    (installed : List FullImeInfo) :
    Current b (correctBy config installed infos) ↔ b ∈ installed.map FullImeInfo.name := by
  obtain ⟨holder, holds, marked, named⟩ := current.current
  have listed : (installed.any fun imeInfo => decide (b = imeInfo.name)) = true ↔
      b ∈ installed.map FullImeInfo.name := by
    rw [List.any_eq_true, List.mem_map]
    exact exists_congr fun imeInfo => and_congr_right fun _ => by rw [decide_eq_true_iff, eq_comm]
  unfold correctBy
  dsimp only
  constructor
  · intro corrected
    by_contra absent
    have gone : (infos.any fun info => info.isDefault &&
        !installed.any fun imeInfo => decide (info.bundleName = imeInfo.name)) = true := by
      refine List.any_eq_true.2 ⟨holder, holds, ?_⟩
      rw [marked, named, Bool.eq_false_iff.2 (fun found => absent (listed.1 found))]
      rfl
    rw [if_pos gone] at corrected
    have lost := current.lost_modCurrentIme config
    exact lost ((marked_installAll installed (· = b)).1 corrected.current)
  · intro there
    rw [if_neg]
    · exact current.installAll config installed
    · intro gone
      obtain ⟨info, inside, found⟩ := List.any_eq_true.1 gone
      obtain ⟨isDefault, missing⟩ := (Bool.and_eq_true ..).mp found
      rw [current.only info inside isDefault, listed.2 there] at missing
      cases missing

end Tables

/-! ## One user -/

/-- The persisted table of the user is of the new format and has `b` current; so does the cached
one, where it has entries. -/
structure Survives (cjson : CJson) (userId : Int32) (b : String) (m : Manager) : Prop where
  table : ∃ content, m.settings.userTable userId = some content ∧ mentionsVersion content = true ∧
    Current b (readCfg cjson content).enabledInfos
  cached : ∀ cfg, m.imeEnabledCfg userId = some cfg → cfg.enabledInfos ≠ [] →
    Current b cfg.enabledInfos ∧ cfg.CStrings

/-- Nothing has happened to the user. -/
structure Spared (userId : Int32) (m m' : Manager) : Prop where
  cache : m'.imeEnabledCfg userId = m.imeEnabledCfg userId
  table : m'.settings.userTable userId = m.settings.userTable userId

section User

variable {cjson : CJson} {config : Config} {userId other : Int32} {b : String} {m m' m'' : Manager}

theorem Current.nonempty {infos : List ImeEnabledInfo} (current : Current b infos) : infos ≠ [] := by
  rintro rfl
  obtain ⟨_, impossible, -⟩ := current.current
  cases impossible

theorem Spared.refl (m : Manager) : Spared userId m m := ⟨rfl, rfl⟩

theorem Spared.trans (first : Spared userId m m') (second : Spared userId m' m'') :
    Spared userId m m'' :=
  ⟨second.cache.trans first.cache, second.table.trans first.table⟩

theorem Spared.survives_iff (spared : Spared userId m m') :
    Survives cjson userId b m' ↔ Survives cjson userId b m := by
  constructor
  · intro survives
    exact ⟨spared.table ▸ survives.table, spared.cache ▸ survives.cached⟩
  · intro survives
    exact ⟨spared.table.symm ▸ survives.table, spared.cache.symm ▸ survives.cached⟩

/-! ## Other users -/

theorem storeCfg_spared (cjson : CJson) (differ : userId ≠ other) (write : Write)
    (cfg : ImeEnabledCfg) (m : Manager) :
    Spared userId m (storeCfg cjson write other cfg m).2 := by
  unfold storeCfg
  dsimp only
  split
  · exact ⟨Function.update_of_ne differ .., Settings.setUserTable_other _ _ _ differ⟩
  · exact ⟨rfl, Settings.setUserTable_other _ _ _ differ⟩

theorem getEnabledCfg_spared (cjson : CJson) (differ : userId ≠ other) (config : Config) (io : CfgIo)
    (imeInfos : List FullImeInfo) (s : Settings) :
    (getEnabledCfg cjson config io other imeInfos s).2.userTable userId = s.userTable userId := by
  rcases getEnabledCfg_settings cjson config io other imeInfos s with same | ⟨-, migrated⟩
  · rw [same]
  · rw [migrated]
    rcases upgrade_tables cjson config io.upgrade other imeInfos s
      with same | ⟨-, -, src, -, -, -, table⟩
    · rw [same]
    · rw [table, Function.update_of_ne differ]

theorem reload_spared (cjson : CJson) (differ : userId ≠ other) (config : Config) (io : ReloadIo)
    (imeInfos : List FullImeInfo) (m : Manager) :
    Spared userId m (reload cjson config io other imeInfos m).2 := by
  have frame := getEnabledCfg_spared cjson differ config io.cfg imeInfos m.settings
  unfold reload
  generalize getEnabledCfg cjson config io.cfg other imeInfos m.settings = loaded at frame
  obtain ⟨result, after⟩ := loaded
  have loaded : Spared userId m (m.withSettings after) := ⟨rfl, frame⟩
  cases result with
  | error code => exact loaded
  | ok cfg => exact loaded.trans (storeCfg_spared cjson differ io.write cfg _)

theorem getEnabledCacheWithCorrect_spared (cjson : CJson) (differ : userId ≠ other)
    (config : Config) (io : ReloadIo)
    (m : Manager) : Spared userId m (getEnabledCacheWithCorrect cjson config io other m).2 := by
  have frame := reload_spared cjson differ config io [] m
  unfold getEnabledCacheWithCorrect
  dsimp only
  split
  · exact .refl m
  · unfold reloadedCache
    generalize reload cjson config io other [] m = reloaded at frame
    obtain ⟨result, after⟩ := reloaded
    cases result with
    | error code => exact frame
    | ok => exact frame

theorem add_spared (cjson : CJson) (differ : userId ≠ other) (config : Config) (io : OpIo)
    (imeInfo : FullImeInfo)
    (m : Manager) : Spared userId m (add cjson config io other imeInfo m).2 := by
  have frame := getEnabledCacheWithCorrect_spared cjson differ config io.reload m
  unfold add
  split
  · exact .refl m
  generalize getEnabledCacheWithCorrect cjson config io.reload other m = loaded at frame
  obtain ⟨result, after⟩ := loaded
  cases result with
  | error code => exact frame
  | ok cfg =>
      dsimp only
      split
      · exact frame
      · exact frame.trans (storeCfg_spared cjson differ io.write _ _)

theorem delete_spared (cjson : CJson) (differ : userId ≠ other) (config : Config) (io : OpIo)
    (bundleName : String)
    (m : Manager) : Spared userId m (delete cjson config io other bundleName m).2 := by
  have frame := getEnabledCacheWithCorrect_spared cjson differ config io.reload m
  unfold delete
  generalize getEnabledCacheWithCorrect cjson config io.reload other m = loaded at frame
  obtain ⟨result, after⟩ := loaded
  cases result with
  | error code => exact frame
  | ok cfg =>
      dsimp only
      split
      · exact frame
      · exact frame.trans (storeCfg_spared cjson differ io.write _ _)

/-! ## The user -/

/-- Settings that work. -/
structure ReloadIo.Works (io : ReloadIo) : Prop where
  first : io.cfg.first = none
  write : io.write = ⟨true, true⟩

/-- Loading, as far as the table goes. -/
theorem reload_own (survives : Survives cjson userId b m) (config : Config) {io : ReloadIo}
    (works : io.Works) (imeInfos : List FullImeInfo) :
    (∀ code, finalImeInfos io.cfg.query imeInfos = .error code →
        reload cjson config io userId imeInfos m = (.error code, m)) ∧
      ∀ installed, finalImeInfos io.cfg.query imeInfos = .ok installed →
        ∃ cfg, cfg.CStrings ∧ cfg.enabledInfos ≠ [] ∧
          (Current b cfg.enabledInfos ↔ b ∈ installed.map FullImeInfo.name) ∧
          reload cjson config io userId imeInfos m = storeCfg cjson ⟨true, true⟩ userId cfg m := by
  obtain ⟨content, stored, mentions, current⟩ := survives.table
  have table : TakenAsTable cjson (readCfg cjson content) content := takenAsTable mentions
  have loaded := table.decoded config io.cfg userId imeInfos m.settings stored works.first
  constructor
  · intro code failed
    rw [reload, loaded, failed]
    rfl
  · intro installed answered
    have plain := readCfg_cStrings cjson content
    refine ⟨{ readCfg cjson content with
      enabledInfos := correctBy config installed (readCfg cjson content).enabledInfos },
      ⟨plain.version, cStrings_correctBy config plain.infos installed⟩,
      correctBy_ne_nil config installed current.nonempty, current.correctBy_iff config installed, ?_⟩
    rw [reload, loaded, answered, works.write]
    rfl

/-- Given a list to correct it by, a table is loaded. -/
theorem reload_fills (survives : Survives cjson userId b m) (config : Config) {io : ReloadIo}
    (works : io.Works) {imeInfos installed : List FullImeInfo}
    (answered : finalImeInfos io.cfg.query imeInfos = .ok installed) :
    ((reload cjson config io userId imeInfos m).2.getEnabledCache userId).enabledInfos ≠ [] := by
  obtain ⟨cfg, -, filled, -, same⟩ := (reload_own survives config works imeInfos).2 installed answered
  have cached : (storeCfg cjson ⟨true, true⟩ userId cfg m).2.imeEnabledCfg userId = some cfg :=
    Function.update_self ..
  rw [same, getEnabledCache_eq cached]
  exact filled

variable (lawful : cjson.Lawful) (verbatim : cjson.Verbatim "version")

include lawful verbatim

theorem storeCfg_survives_iff {cfg : ImeEnabledCfg} (strings : cfg.CStrings)
    (filled : cfg.enabledInfos ≠ []) (m : Manager) :
    Survives cjson userId b (storeCfg cjson ⟨true, true⟩ userId cfg m).2 ↔
      Current b cfg.enabledInfos := by
  have cache : (storeCfg cjson ⟨true, true⟩ userId cfg m).2.imeEnabledCfg userId = some cfg :=
    Function.update_self ..
  have table : (storeCfg cjson ⟨true, true⟩ userId cfg m).2.settings.userTable userId =
      some (cfg.text cjson) := setUserTable_stored m.settings userId rfl _
  constructor
  · intro survives
    exact (survives.cached cfg cache filled).1
  · intro current
    refine ⟨⟨_, table, mentionsVersion_text verbatim cfg, ?_⟩, ?_⟩
    · rw [strings.readCfg_text lawful]
      exact current
    · intro cached there _
      rw [cache] at there
      cases there
      exact ⟨current, strings⟩

/-- **A loaded table keeps its current input method exactly when the list it is corrected by has
it.** -/
theorem reload_survives_iff (survives : Survives cjson userId b m) (config : Config) {io : ReloadIo}
    (works : io.Works) (imeInfos : List FullImeInfo) :
    Survives cjson userId b (reload cjson config io userId imeInfos m).2 ↔
      ∀ installed, finalImeInfos io.cfg.query imeInfos = .ok installed →
        b ∈ installed.map FullImeInfo.name := by
  obtain ⟨refused, loaded⟩ := reload_own survives config works imeInfos
  cases answer : finalImeInfos io.cfg.query imeInfos with
  | error code =>
      rw [refused code answer]
      exact iff_of_true survives nofun
  | ok installed =>
      obtain ⟨cfg, strings, filled, kept, same⟩ := loaded installed answer
      rw [same, storeCfg_survives_iff lawful verbatim strings filled, kept]
      constructor
      · rintro there installed ⟨⟩
        exact there
      · intro there
        exact there installed rfl

/-- The table that an operation starts from has `b` current, loaded or not. -/
theorem getEnabledCacheWithCorrect_survives (survives : Survives cjson userId b m) (config : Config)
    {io : ReloadIo} (works : io.Works)
    (complete : ∀ installed, io.cfg.query = .ok installed → b ∈ installed.map FullImeInfo.name) :
    Survives cjson userId b (getEnabledCacheWithCorrect cjson config io userId m).2 ∧
      ∀ cfg, (getEnabledCacheWithCorrect cjson config io userId m).1 = .ok cfg →
        Current b cfg.enabledInfos ∧ cfg.CStrings := by
  have reloaded := (reload_survives_iff lawful verbatim survives config works []).2 complete
  have cachedBy : ∀ {m : Manager},
    Survives cjson userId b m → (m.getEnabledCache userId).enabledInfos ≠ [] →
      Current b (m.getEnabledCache userId).enabledInfos ∧ (m.getEnabledCache userId).CStrings := by
    intro m survives filled
    cases found : m.imeEnabledCfg userId with
    | none =>
        rw [Manager.getEnabledCache, found] at filled
        exact absurd rfl filled
    | some cfg =>
        rw [getEnabledCache_eq found] at filled ⊢
        exact survives.cached cfg found filled
  unfold getEnabledCacheWithCorrect
  dsimp only
  split
  · rename_i filled
    refine ⟨survives, ?_⟩
    rintro cfg ⟨⟩
    exact cachedBy survives (by simpa using filled)
  · unfold reloadedCache
    generalize reload cjson config io userId [] m = done at reloaded
    obtain ⟨result, after⟩ := done
    cases result with
    | error code =>
        refine ⟨reloaded, fun cfg failed => ?_⟩
        cases failed
    | ok =>
        refine ⟨reloaded, ?_⟩
        dsimp only
        split
        · intro cfg failed
          cases failed
        · rename_i filled
          rintro cfg ⟨⟩
          exact cachedBy reloaded (by simpa using filled)

theorem add_survives (survives : Survives cjson userId b m) (config : Config) {io : OpIo}
    (works : io.reload.Works) (write : io.write = ⟨true, true⟩)
    (complete : ∀ installed, io.reload.cfg.query = .ok installed → b ∈ installed.map FullImeInfo.name)
    (imeInfo : FullImeInfo) : Survives cjson userId b (add cjson config io userId imeInfo m).2 := by
  have loaded := getEnabledCacheWithCorrect_survives lawful verbatim survives config works complete
  unfold add
  split
  · exact survives
  generalize getEnabledCacheWithCorrect cjson config io.reload userId m = done at loaded
  obtain ⟨result, after⟩ := done
  cases result with
  | error code => exact loaded.1
  | ok cfg =>
      obtain ⟨current, strings⟩ := loaded.2 cfg rfl
      dsimp only
      split
      · exact loaded.1
      · have next := current.install config imeInfo
        rw [write, storeCfg_survives_iff lawful verbatim _ next.nonempty]
        · exact next
        · exact ⟨strings.version, cStrings_install config strings.infos imeInfo⟩

theorem delete_survives (survives : Survives cjson userId b m) (config : Config) {io : OpIo}
    (works : io.reload.Works)
    (complete : ∀ installed, io.reload.cfg.query = .ok installed → b ∈ installed.map FullImeInfo.name)
    {bundleName : String} (differs : bundleName ≠ b) :
    Survives cjson userId b (delete cjson config io userId bundleName m).2 := by
  have loaded := getEnabledCacheWithCorrect_survives lawful verbatim survives config works complete
  unfold delete
  generalize getEnabledCacheWithCorrect cjson config io.reload userId m = done at loaded
  obtain ⟨result, after⟩ := done
  cases result with
  | error code => exact loaded.1
  | ok cfg =>
      obtain ⟨current, -⟩ := loaded.2 cfg rfl
      have another : isCurrentIme bundleName cfg.enabledInfos = false := by
        unfold isCurrentIme
        split
        · rename_i info found
          refine decide_eq_false fun named => differs ?_
          rw [← named]
          exact current.only info (List.mem_of_find?_eq_some found) (List.find?_some found)
        · rfl
      dsimp only
      rw [another]
      exact loaded.1

end User

end Imf.Enabled
