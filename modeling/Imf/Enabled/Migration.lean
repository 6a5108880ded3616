/-
# Imf.Enabled.Migration -- what a migration preserves

`Migrated` says what the table of a user has to be, given the two lists of names, what is
installed and the persisted input methods: the status of every bundle, the extension of
every installed one, who is current and who is temporary.  `table_migrated`: the three
passes of `Upgrade` make such a table.

`upgrade_migrates_iff` is about the whole of `Upgrade`: on success a table is stored that is
right for the lists in the settings (`storedSources`), on failure nothing is, and a second call
changes nothing.  Two things can go wrong besides the recognition of a table.  `SetStringValue`
can report a write that did not happen, and the other way round.  And a read can report that
nothing is there while a list is stored, which `MergeTwoTable` takes for no names: then the
table is made of what is left (`shownSources`).
-/
import Imf.Enabled.Invariant

namespace Imf.Enabled

set_option autoImplicit false

open Lib (Json bind_eq_ok lookup AtMostOne modifyFirst map_modify atMostOne_key
  lookup_congr lookup_names
  lookup_foldl_upsert lookup_of_mem lookup_mem marked_modifyFirst mem_modify)
open Imf.Json

/-- The status that the sources call for.  The full experience list goes before the enabled
list, and both go before the status of a new entry. -/
def Sources.status (config : Config) (src : Sources) (name : String) : Option EnabledStatus :=
  if name ∈ src.full then some .fullExperienceMode
  else if name ∈ src.enabled then some .basicMode
  else (lookup FullImeInfo.name name src.installed).map fun imeInfo =>
    computeEnabledStatus config imeInfo.name imeInfo.isSystemSpecialIme .disabled

/-- The table that the sources call for.  The current input method is the persisted one if
exactly that bundle and extension is there and enabled, else the system input method if it is
there. -/
structure Migrated (config : Config) (src : Sources) (infos : List ImeEnabledInfo) : Prop where
  distinct : (infos.map ImeEnabledInfo.bundleName).Nodup
  status : ∀ name, (lookup ImeEnabledInfo.bundleName name infos).map ImeEnabledInfo.enabledStatus =
    src.status config name
  installed : ∀ imeInfo ∈ src.installed,
    ∃ info ∈ infos, info.bundleName = imeInfo.name ∧ info.extensionName = imeInfo.id
  current : ∀ info ∈ infos, info.isDefault =
    if infos.any (isEnabledIme (splitImeId src.persist.currentIme)) then
      isEnabledIme (splitImeId src.persist.currentIme) info
    else isNamed config.defaultIme info
  tmp : ∀ info ∈ infos, info.isTmp = isIme (splitImeId src.persist.tempScreenLockIme) info

/-- The two lists matter only for the status. -/
theorem Migrated.congr {config : Config} {src other : Sources} {infos : List ImeEnabledInfo}
    (migrated : Migrated config src infos) (installed : other.installed = src.installed)
    (persist : other.persist = src.persist)
    (status : ∀ name, src.status config name = other.status config name) :
    Migrated config other infos := by
  obtain ⟨distinct, statuses, extensions, current, tmp⟩ := migrated
  refine ⟨distinct, fun name => (statuses name).trans (status name), ?_, ?_, ?_⟩
  · rw [installed]
    exact extensions
  · rw [persist]
    exact current
  · rw [persist]
    exact tmp

/-! ## The three passes -/

section Passes

variable {config : Config} {src : Sources} {infos : List ImeEnabledInfo}

theorem lookup_self (name : String) (names : List String) :
    lookup id name names = if name ∈ names then some name else none := by
  have itself : ∀ name : String, id (id name) = name := fun _ => rfl
  have found := lookup_names itself name names
  rwa [List.map_id] at found

/-- `MergeTwoTable`: the full experience list wins. -/
theorem lookup_mergeTwo {enabled full : List String} (distinct : full.Nodup) (name : String) :
    lookup ImeEnabledInfo.bundleName name (mergeTwo enabled full) =
      if name ∈ full then some { bundleName := name, enabledStatus := .fullExperienceMode }
      else if name ∈ enabled then some { bundleName := name, enabledStatus := .basicMode }
      else none := by
  have same : ∀ (_ : String) (info : ImeEnabledInfo),
      ({ info with enabledStatus := .fullExperienceMode } : ImeEnabledInfo).bundleName =
        info.bundleName := fun _ _ => rfl
  have named : ∀ name, ({ bundleName := name, enabledStatus := .fullExperienceMode } :
      ImeEnabledInfo).bundleName = id name := fun _ => rfl
  have basic : ∀ name, ({ bundleName := name, enabledStatus := .basicMode } :
      ImeEnabledInfo).bundleName = name := fun _ => rfl
  have once : (full.map id).Nodup := by rwa [List.map_id]
  refine (lookup_foldl_upsert same named once name _).trans ?_
  rw [lookup_names basic, lookup_self]
  by_cases inFull : name ∈ full
  · rw [if_pos inFull, if_pos inFull]
    by_cases inEnabled : name ∈ enabled
    · rw [if_pos inEnabled]
      rfl
    · rw [if_neg inEnabled]
      rfl
  · rw [if_neg inFull, if_neg inFull]
    rfl

/-- `PaddedByBundleMgr`: every installed one gets its extension, or an entry. -/
theorem lookup_padded {installed : List FullImeInfo} (distinct : (installed.map FullImeInfo.name).Nodup)
    (name : String) :
    lookup ImeEnabledInfo.bundleName name (installed.foldl (pad config) infos) =
      (lookup FullImeInfo.name name installed).elim (lookup ImeEnabledInfo.bundleName name infos)
        fun imeInfo =>
          some (((lookup ImeEnabledInfo.bundleName name infos).map fun info =>
            { info with extensionName := imeInfo.id }).getD
              (freshInfo imeInfo
                (computeEnabledStatus config imeInfo.name imeInfo.isSystemSpecialIme .disabled))) := by
  have same : ∀ (imeInfo : FullImeInfo) (info : ImeEnabledInfo),
      ({ info with extensionName := imeInfo.id } : ImeEnabledInfo).bundleName = info.bundleName :=
    fun _ _ => rfl
  have named : ∀ imeInfo, (freshInfo imeInfo (computeEnabledStatus config imeInfo.name
      imeInfo.isSystemSpecialIme .disabled)).bundleName = imeInfo.name := fun _ => rfl
  exact lookup_foldl_upsert same named distinct name infos

/-- What `PaddedByImePersistCfg` leaves of an entry. -/
def facts (info : ImeEnabledInfo) : String × String × EnabledStatus :=
  (info.bundleName, info.extensionName, info.enabledStatus)

theorem facts_padCurrent (persist : ImePersistInfo) :
    (padCurrent config persist infos).map facts = infos.map facts := by
  unfold padCurrent
  dsimp only
  split
  · refine map_modify ?_ infos _
    intro info
    rfl
  · refine map_modify ?_ infos _
    intro info
    rfl

theorem facts_padTmp (persist : ImePersistInfo) :
    (padTmp persist infos).map facts = infos.map facts := by
  refine map_modify ?_ infos _
  intro info
  rfl

theorem lookup_facts {before after : List ImeEnabledInfo} (same : after.map facts = before.map facts)
    (name : String) : (lookup ImeEnabledInfo.bundleName name after).map facts =
      (lookup ImeEnabledInfo.bundleName name before).map facts := by
  apply lookup_congr
  have pairs := congrArg (List.map fun fact : String × String × EnabledStatus => (fact.1, fact)) same
  rwa [List.map_map, List.map_map] at pairs

theorem any_isEnabledIme {before after : List ImeEnabledInfo}
    (same : after.map facts = before.map facts) (ime : String × String) :
    after.any (isEnabledIme ime) = before.any (isEnabledIme ime) := by
  have through : ∀ infos : List ImeEnabledInfo, infos.any (isEnabledIme ime) =
      (infos.map facts).any fun fact => decide (fact.1 = ime.1 ∧ fact.2.1 = ime.2) &&
        decide (fact.2.2 ≠ .disabled) := by
    intro infos
    rw [List.any_map]
    rfl
  rw [through, through, same]

/-- The current input method is marked, and nothing else. -/
theorem isDefault_padCurrent (config : Config) (distinct : (infos.map ImeEnabledInfo.bundleName).Nodup)
    (unmarked : Unmarked infos) (persist : ImePersistInfo) :
    ∀ info ∈ padCurrent config persist infos, info.isDefault =
      if infos.any (isEnabledIme (splitImeId persist.currentIme)) then
        isEnabledIme (splitImeId persist.currentIme) info
      else isNamed config.defaultIme info := by
  have none : ∀ info ∈ infos, info.isDefault = false := by
    intro info member
    rw [ImeEnabledInfo.isDefault, unmarked info member]
  intro info member
  unfold padCurrent at member
  dsimp only at member
  split at member
  · rename_i there
    rw [if_pos there]
    refine marked_modifyFirst ?_ none ?_ ?_ info member
    · refine (atMostOne_key distinct (splitImeId persist.currentIme).1).imp ?_
      intro other isCurrent
      have named := (Bool.and_eq_true_iff.1 isCurrent).1
      exact decide_eq_true (of_decide_eq_true named).1
    · intro _
      rfl
    · intro _
      rfl
  · rename_i absent
    rw [if_neg absent]
    refine marked_modifyFirst (atMostOne_key distinct config.defaultIme) none ?_ ?_ info member
    · intro _
      rfl
    · intro _
      rfl

/-- So is the temporary one. -/
theorem isTmp_padTmp (distinct : (infos.map ImeEnabledInfo.bundleName).Nodup)
    (noTmp : ∀ info ∈ infos, info.isTmp = false) (persist : ImePersistInfo) :
    ∀ info ∈ padTmp persist infos, info.isTmp = isIme (splitImeId persist.tempScreenLockIme) info := by
  refine marked_modifyFirst ?_ noTmp ?_ ?_
  · refine (atMostOne_key distinct (splitImeId persist.tempScreenLockIme).1).imp ?_
    intro info isTmp
    exact decide_eq_true (of_decide_eq_true isTmp).1
  · intro _
    rfl
  · intro _
    rfl

/-- **The migrated table.**  The three passes make the table that the sources call for. -/
theorem table_migrated (enabled : NameList src.enabled) (full : NameList src.full)
    (installed : (src.installed.map FullImeInfo.name).Nodup) :
    Migrated config src (src.table config) := by
  obtain ⟨good, unmarked⟩ := mergeTwo_wellFormed enabled.1 enabled.2 full.2
  obtain ⟨padded, unmarked⟩ := padded_wellFormed config good unmarked src.installed
  obtain ⟨current, noTmp⟩ := padCurrent_wellFormed config padded unmarked src.persist
  have same : (src.table config).map facts =
      (src.installed.foldl (pad config) (mergeTwo src.enabled src.full)).map facts :=
    (facts_padTmp src.persist).trans (facts_padCurrent src.persist)
  have found := fun name => lookup_facts same name
  refine ⟨(table_wellFormed enabled full).distinct, ?_, ?_, ?_,
    isTmp_padTmp current.distinct noTmp src.persist⟩
  · intro name
    have status := congrArg (Option.map fun fact : String × String × EnabledStatus => fact.2.2)
      (found name)
    rw [Option.map_map, Option.map_map] at status
    refine status.trans ?_
    rw [lookup_padded installed, lookup_mergeTwo full.1, Sources.status]
    by_cases inFull : name ∈ src.full
    · rw [if_pos inFull, if_pos inFull]
      cases lookup FullImeInfo.name name src.installed <;> rfl
    · rw [if_neg inFull, if_neg inFull]
      by_cases inEnabled : name ∈ src.enabled
      · rw [if_pos inEnabled, if_pos inEnabled]
        cases lookup FullImeInfo.name name src.installed <;> rfl
      · rw [if_neg inEnabled, if_neg inEnabled]
        cases lookup FullImeInfo.name name src.installed <;> rfl
  · intro imeInfo member
    have atName := found imeInfo.name
    rw [lookup_padded installed, lookup_of_mem installed member, Option.elim_some,
      Option.map_some] at atName
    obtain ⟨info, there, same⟩ := Option.map_eq_some_iff.1 atName
    obtain ⟨inside, named⟩ := lookup_mem there
    refine ⟨info, inside, named, (congrArg (fun fact => fact.2.1) same).trans ?_⟩
    cases lookup ImeEnabledInfo.bundleName imeInfo.name (mergeTwo src.enabled src.full) <;> rfl
  · intro info member
    rw [any_isEnabledIme same]
    have marked := isDefault_padCurrent config padded.distinct unmarked src.persist
    -- Marking the temporary one does not show in what is compared here.
    rcases mem_modify member with kept | ⟨before, old, rfl⟩
    · exact marked info kept
    · exact marked before old

end Passes

/-! ## Lists as text -/

section Text

variable {cjson : CJson}

theorem writeInt_injective {m n : Int} (same : Json.writeInt m = Json.writeInt n) : m = n := by
  have trees : (Json.num m).write = (Json.num n).write := by
    rw [Json.write, Json.write, same]
  have read := congrArg Json.read trees
  rw [Json.read_write, Json.read_write] at read
  cases read
  rfl

theorem userKey_lower (userId : Int32) :
    (userKey userId).toList.map Char.toLower = (userKey userId).toList := by
  have lower : ∀ c ∈ Json.markup, c.toLower = c := Json.checked (by decide)
  rw [userKey, String.toList_ofList]
  refine (List.map_congr_left fun c member => ?_).trans (List.map_id _)
  exact lower c (Json.writeInt_markup _ c member)

theorem sameKey_userKey {a b : Int32} : sameKey (userKey a) (userKey b) = true ↔ a = b := by
  rw [sameKey, userKey_lower, userKey_lower, beq_iff_eq]
  constructor
  · intro same
    rw [userKey, userKey, String.toList_ofList, String.toList_ofList] at same
    exact Int32.toInt_inj.1 (writeInt_injective same)
  · rintro rfl
    rfl

theorem userKey_ne_empty (userId : Int32) : userKey userId ≠ "" := by
  intro empty
  have chars := congrArg String.toList empty
  rw [userKey, String.toList_ofList] at chars
  obtain ⟨c, cs, split, -⟩ := Json.write_head (.num userId.toInt)
  rw [Json.write, chars] at split
  cases split

/-- What is read of the lists is what was written. -/
theorem readList_print (lawful : cjson.Lawful) {listName : String} (nulFree : NulFree listName)
    (named : listName ≠ "") (lists : List (Int32 × List String)) (userId : Int32) :
    readList cjson listName userId (cjson.print
        (.obj [(listName, .obj (lists.map fun list => (userKey list.1, ofStrings list.2)))])) =
      (lists.find? fun list => decide (list.1 = userId)).map fun list => list.2.map cStr := by
  have found : getSubNode
      (.obj [(listName, .obj (lists.map fun list => (userKey list.1, ofStrings list.2)))]) listName =
        some (.obj (lists.map fun list => (userKey list.1, ofStrings list.2))) :=
    getSubNode_of_find named (by simp [sameKey])
  have keys : (fun list : Int32 × List String => sameKey (userKey list.1) (userKey userId)) =
      fun list => decide (list.1 = userId) := by
    funext list
    rw [Bool.eq_iff_iff, sameKey_userKey, decide_eq_true_iff]
  have child : getSubNode (.obj (lists.map fun list => (userKey list.1, ofStrings list.2)))
      (userKey userId) =
        (lists.find? fun list => decide (list.1 = userId)).map fun list => ofStrings list.2 := by
    rw [getSubNode, if_neg (userKey_ne_empty userId), List.find?_map, Option.map_map, ← keys]
    rfl
  rw [readList, lawful.cStr_print, lawful.parse_print _ (plain_lists nulFree lists),
    Option.bind_some, getObject, found]
  dsimp only
  rw [getStrings, child]
  cases lists.find? fun list => decide (list.1 = userId) with
  | none => rfl
  | some list => exact stringItems_of list.2

theorem readEnabledImeCfg_print (lawful : cjson.Lawful) (lists : List (Int32 × List String))
    (userId : Int32) :
    readEnabledImeCfg cjson userId (cjson.print (enableImeList lists)) =
      (lists.find? fun list => decide (list.1 = userId)).map fun list => list.2.map cStr :=
  readList_print lawful (by decide) (by decide) lists userId

end Text

/-! ## What is stored, and what is shown of it -/

section Stored

variable (cjson : CJson) (io : UpgradeIo) (userId : Int32) (imeInfos : List FullImeInfo) (s : Settings)

/-- The sources as they are in the settings, whatever the reads report.  The enabled list is the
one in the global table, else the one in the table of the user; what is not there or cannot be
decoded is no names and no input method. -/
def storedSources (installed : List FullImeInfo) : Sources where
  enabled := ((s.globalTable.bind (readEnabledImeCfg cjson userId)).or
    ((s.userTable userId).bind (readEnabledImeCfg cjson userId))).getD []
  full := (s.securityMode.bind (readSecurityModeCfg cjson userId)).getD []
  installed := installed
  persist := ((s.imeCfg.bind fun content => readImePersistCfg cjson (readFile content)).bind
    fun infos => infos.find? fun info => decide (info.userId = userId)).getD {}

/-- A failure that `MergeTwoTable` takes for no names. -/
def hides : Fault → Bool
  | some .errorKeywordNotFound => true
  | some .errorExParcelable => true
  | _ => false

/-- The list in the table of the user, as it is reported. -/
def shownOwn : Option (List String) :=
  if hides io.userList then none else (s.userTable userId).bind (readEnabledImeCfg cjson userId)

/-- The table of the user is read: the global one is reported without a list of his.  A global
table that is missing, or reported as missing, does not lead there. -/
def asksOwn : Bool :=
  match io.globalTable, s.globalTable with
  | some .errorExParcelable, _ => true
  | none, some content => (readEnabledImeCfg cjson userId content).isNone
  | _, _ => false

/-- The enabled list that is left of the stored one. -/
def shownEnabled : Option (List String) :=
  match asksOwn cjson io userId s with
  | true => shownOwn cjson io userId s
  | false =>
      match io.globalTable with
      | none => s.globalTable.bind (readEnabledImeCfg cjson userId)
      | some _ => none

/-- What the reads show of the sources. -/
def shownSources (installed : List FullImeInfo) : Sources :=
  { storedSources cjson userId s installed with
    enabled := (shownEnabled cjson io userId s).getD []
    full := if hides io.fullExperience then [] else (storedSources cjson userId s installed).full }

/-- No read ends the call: each works or fails in a way that is taken for no names, the
installed input methods are known, and the file can be read if it is there. -/
structure ReadsThrough (installed : List FullImeInfo) : Prop where
  globalTable : io.globalTable = none ∨ hides io.globalTable = true
  userList : asksOwn cjson io userId s = true → io.userList = none ∨ hides io.userList = true
  fullExperience : io.fullExperience = none ∨ hides io.fullExperience = true
  installed : finalImeInfos io.query imeInfos = .ok installed
  file : s.imeCfg = none ∨ io.fileReadable = true

end Stored

section Shown

variable {cjson : CJson} {io : UpgradeIo} {userId : Int32} {imeInfos : List FullImeInfo} {s : Settings}

theorem orNoNames_failed {code : ErrorCode} {names : List String} :
    orNoNames (.error code) = .ok names ↔ hides (some code) = true ∧ names = [] := by
  cases code <;> simp [orNoNames, hides, eq_comm]

theorem orNoNames_read {names found : List String} :
    orNoNames (.ok found) = .ok names ↔ names = found := by
  simp [orNoNames, eq_comm]

theorem nameSet_nil : nameSet [] = [] := rfl

/-- The list of one table. -/
theorem orNoNames_getTableNames {fault : Fault} {stored : Option String} {names : List String} :
    orNoNames (getTableNames cjson fault stored userId) = .ok names ↔
      (fault = none ∨ hides fault = true) ∧
        names = nameSet ((if hides fault then none
          else stored.bind (readEnabledImeCfg cjson userId)).getD []) := by
  cases fault with
  | some code =>
      refine orNoNames_failed.trans ?_
      by_cases hidden : hides (some code) = true
      · simp [hidden, nameSet_nil]
      · simp [hidden]
  | none =>
      cases stored with
      | none => simp [getTableNames, getStringValue, orNoNames_failed, hides, nameSet_nil]
      | some content =>
          cases list : readEnabledImeCfg cjson userId content with
          | none =>
              simp [getTableNames, getStringValue, parseEnabledTable, list, orNoNames_failed, hides,
                nameSet_nil]
          | some found =>
              simp [getTableNames, getStringValue, parseEnabledTable, list, orNoNames_read, hides]

/-- The enabled list that `MergeTwoTable` works with is the one that is shown. -/
theorem orNoNames_getEnabledTable {names : List String} :
    orNoNames (getEnabledTable cjson io s userId) = .ok names ↔
      (io.globalTable = none ∨ hides io.globalTable = true) ∧
        (asksOwn cjson io userId s = true → io.userList = none ∨ hides io.userList = true) ∧
          names = nameSet ((shownEnabled cjson io userId s).getD []) := by
  have own : orNoNames (getTableNames cjson io.userList (s.userTable userId) userId) = .ok names ↔
      (io.userList = none ∨ hides io.userList = true) ∧
        names = nameSet ((shownOwn cjson io userId s).getD []) := orNoNames_getTableNames
  unfold getEnabledTable shownEnabled asksOwn
  cases fault : io.globalTable with
  | some code =>
      cases code with
      | errorExParcelable => simpa [getTableNames, getStringValue, hides] using own
      | _ => simp [getTableNames, getStringValue, orNoNames_failed, hides, nameSet_nil]
  | none =>
      cases stored : s.globalTable with
      | none => simp [getTableNames, getStringValue, orNoNames_failed, hides, nameSet_nil]
      | some content =>
          cases list : readEnabledImeCfg cjson userId content with
          | none => simpa [getTableNames, getStringValue, parseEnabledTable, list] using own
          | some found => simp [getTableNames, getStringValue, parseEnabledTable, list, orNoNames_read]

/-- So is the full experience list. -/
theorem orNoNames_getFullExperienceTable {names : List String} (installed : List FullImeInfo) :
    orNoNames (getFullExperienceTable cjson io s userId) = .ok names ↔
      (io.fullExperience = none ∨ hides io.fullExperience = true) ∧
        names = nameSet (shownSources cjson io userId s installed).full := by
  unfold getFullExperienceTable shownSources storedSources
  cases fault : io.fullExperience with
  | some code =>
      refine orNoNames_failed.trans ?_
      by_cases hidden : hides (some code) = true
      · simp [hidden, nameSet_nil]
      · simp [hidden]
  | none =>
      cases stored : s.securityMode with
      | none => simp [getStringValue, orNoNames_failed, hides, nameSet_nil]
      | some content =>
          cases list : readSecurityModeCfg cjson userId content with
          | none => simp [getStringValue, list, orNoNames_failed, hides, nameSet_nil]
          | some found => simp [getStringValue, list, orNoNames_read, hides]

theorem ok_inj_iff {α ε : Type} {a b : α} {P : Prop} (holds : P) :
    (.ok a : Except ε α) = .ok b ↔ P ∧ b = a := by
  constructor
  · intro same
    cases same
    exact ⟨holds, rfl⟩
  · rintro ⟨-, rfl⟩
    rfl

theorem getImePersistCfg_ok {persist : ImePersistInfo} (installed : List FullImeInfo) :
    getImePersistCfg cjson io s userId = .ok persist ↔
      (s.imeCfg = none ∨ io.fileReadable = true) ∧
        persist = (shownSources cjson io userId s installed).persist := by
  unfold getImePersistCfg shownSources storedSources
  cases s.imeCfg with
  | none => exact ok_inj_iff (.inl rfl)
  | some content =>
      cases readable : io.fileReadable with
      | false => simp
      | true =>
          dsimp only
          rw [if_pos rfl, Option.bind_some]
          cases readImePersistCfg cjson (readFile content) with
          | none => exact ok_inj_iff (.inr rfl)
          | some infos => exact ok_inj_iff (.inr rfl)

/-- The two lists as sets, which is how `Upgrade` holds them. -/
def Sources.sets (src : Sources) : Sources :=
  { src with enabled := nameSet src.enabled, full := nameSet src.full }

@[simp] theorem Sources.status_sets (config : Config) (src : Sources) (name : String) :
    src.sets.status config name = src.status config name := by
  simp only [Sources.status, Sources.sets, mem_nameSet]

/-- **What a migration is made of.**  It comes to the write if no read ends it, and then it has
the sources that the reads show. -/
theorem gather_ok_iff {src : Sources} :
    gather cjson io userId imeInfos s = .ok src ↔
      ∃ installed, ReadsThrough cjson io userId imeInfos s installed ∧
        src = (shownSources cjson io userId s installed).sets := by
  constructor
  · intro gathered
    obtain ⟨enabled, enabledRead, gathered⟩ := bind_eq_ok.1 gathered
    obtain ⟨full, fullRead, gathered⟩ := bind_eq_ok.1 gathered
    obtain ⟨installed, found, gathered⟩ := bind_eq_ok.1 gathered
    obtain ⟨persist, persistRead, gathered⟩ := bind_eq_ok.1 gathered
    cases gathered
    obtain ⟨global, own, rfl⟩ := orNoNames_getEnabledTable.1 enabledRead
    obtain ⟨experience, rfl⟩ := (orNoNames_getFullExperienceTable installed).1 fullRead
    obtain ⟨file, rfl⟩ := (getImePersistCfg_ok installed).1 persistRead
    exact ⟨installed, ⟨global, own, experience, found, file⟩, rfl⟩
  · rintro ⟨installed, ⟨global, own, experience, found, file⟩, rfl⟩
    refine bind_eq_ok.2 ⟨_, orNoNames_getEnabledTable.2 ⟨global, own, rfl⟩, ?_⟩
    refine bind_eq_ok.2 ⟨_, (orNoNames_getFullExperienceTable installed).2 ⟨experience, rfl⟩, ?_⟩
    refine bind_eq_ok.2 ⟨_, found, ?_⟩
    exact bind_eq_ok.2 ⟨_, (getImePersistCfg_ok installed).2 ⟨file, rfl⟩, rfl⟩

/-- A list in the global table is the enabled list, however it was written. -/
theorem storedSources_listed (lawful : cjson.Lawful) {lists : List (Int32 × List String)}
    (stored : s.globalTable = some (cjson.print (enableImeList lists))) {names : List String}
    (listed : lists.find? (fun list => decide (list.1 = userId)) = some (userId, names))
    (installed : List FullImeInfo) :
    (storedSources cjson userId s installed).enabled = names.map cStr := by
  rw [storedSources, stored, Option.bind_some, readEnabledImeCfg_print lawful, listed]
  rfl

/-- Reads that hide nothing show what is stored. -/
theorem shownSources_eq {content : String} (stored : s.globalTable = some content)
    (global : io.globalTable = none) (own : hides io.userList = false)
    (experience : hides io.fullExperience = false) (installed : List FullImeInfo) :
    shownSources cjson io userId s installed = storedSources cjson userId s installed := by
  have enabled : shownEnabled cjson io userId s =
      (s.globalTable.bind (readEnabledImeCfg cjson userId)).or
        ((s.userTable userId).bind (readEnabledImeCfg cjson userId)) := by
    rw [shownEnabled, asksOwn, global, stored]
    cases list : readEnabledImeCfg cjson userId content with
    | none => simp [shownOwn, own, list]
    | some found => simp [list]
  rw [shownSources, enabled, experience]
  rfl

end Shown

/-! ## Upgrade -/

section Upgrade

variable {io : UpgradeIo} {userId : Int32} {s : Settings}

/-- After a restart nobody is recorded: `upgradedUserId_` is only in memory. -/
def Settings.restart (s : Settings) : Settings := { s with upgradedUserId := [] }

/-- What `Upgrade` of a user without a table has to do.  On success the table that it made is
stored, and it is the one that the lists in the settings call for; a failure leaves everything
as it was; after a success a second call changes nothing, and neither does one after a restart
that can read the table. -/
structure MigratesRight (cjson : CJson) (config : Config) (io : UpgradeIo) (userId : Int32)
    (imeInfos : List FullImeInfo) (s : Settings) : Prop where
  writes : (upgrade cjson config io userId imeInfos s).1 = .ok () →
    ∃ installed cfg, finalImeInfos io.query imeInfos = .ok installed ∧
      migratedCfg cjson config io userId imeInfos s = .ok cfg ∧
      (upgrade cjson config io userId imeInfos s).2.userTable userId =
        some (ImeEnabledCfg.text cjson cfg) ∧
      Migrated config (storedSources cjson userId s installed) cfg.enabledInfos
  refuses : ∀ code, (upgrade cjson config io userId imeInfos s).1 = .error code →
    (upgrade cjson config io userId imeInfos s).2 = s
  again : (upgrade cjson config io userId imeInfos s).1 = .ok () →
    ∀ config' io' imeInfos', upgrade cjson config' io' userId imeInfos'
      (upgrade cjson config io userId imeInfos s).2 =
        (.ok (), (upgrade cjson config io userId imeInfos s).2)
  restarted : (upgrade cjson config io userId imeInfos s).1 = .ok () →
    ∀ config' io' imeInfos', io'.userTable = none →
      (upgrade cjson config' io' userId imeInfos'
        (upgrade cjson config io userId imeInfos s).2.restart).2.userTable =
          (upgrade cjson config io userId imeInfos s).2.userTable

/-- Every text of a table is recognised. -/
theorem mentionsVersion_text {cjson : CJson} (verbatim : cjson.Verbatim "version")
    (cfg : ImeEnabledCfg) :
    mentionsVersion (cfg.text cjson) = true := by
  refine decide_eq_true ((verbatim _).2 ?_)
  exact .inl (List.infix_refl _)

/-- What is read of a table is recognised, if the table is not reported as missing. -/
theorem mentionsVersion_read {cjson : CJson} (verbatim : cjson.Verbatim "version") {cfg : ImeEnabledCfg}
    {fault : Fault} (truthful : fault ≠ some .errorKeywordNotFound) {content : String}
    (read : orEmpty (getStringValue fault (some (cfg.text cjson))) = .ok content) :
    mentionsVersion content = true := by
  cases fault with
  | none =>
      cases read
      exact mentionsVersion_text verbatim cfg
  | some code =>
      cases code with
      | errorKeywordNotFound => exact absurd rfl truthful
      | _ => cases read

/-- A user who is already recorded is left alone. -/
theorem upgrade_recorded (cjson : CJson) (config : Config) (io : UpgradeIo)
    (imeInfos : List FullImeInfo) (recorded : userId ∈ s.upgradedUserId) :
    upgrade cjson config io userId imeInfos s = (.ok (), s) := if_pos recorded

/-- A table that is recognised is left alone. -/
theorem upgrade_recognised (cjson : CJson) (config : Config) (imeInfos : List FullImeInfo)
    (new : userId ∉ s.upgradedUserId) {content : String}
    (read : orEmpty (getStringValue io.userTable (s.userTable userId)) = .ok content)
    (mentions : mentionsVersion content = true) :
    upgrade cjson config io userId imeInfos s = (.ok (), s.markUpgraded userId) := by
  rw [upgrade, if_neg new, read]
  exact if_pos mentions

theorem upgrade_unreadable (cjson : CJson) (config : Config) (imeInfos : List FullImeInfo)
    (new : userId ∉ s.upgradedUserId) {code : ErrorCode}
    (read : orEmpty (getStringValue io.userTable (s.userTable userId)) = .error code) :
    upgrade cjson config io userId imeInfos s = (.error code, s) := by
  rw [upgrade, if_neg new, read]

/-- Everything else is migrated. -/
theorem upgrade_migrate (cjson : CJson) (config : Config) (imeInfos : List FullImeInfo)
    (new : userId ∉ s.upgradedUserId) {content : String}
    (read : orEmpty (getStringValue io.userTable (s.userTable userId)) = .ok content)
    (mentions : mentionsVersion content = false) :
    upgrade cjson config io userId imeInfos s = migrate cjson config io userId imeInfos s := by
  rw [upgrade, if_neg new, read]
  exact if_neg (by rw [mentions]; decide)

section Migrate

variable {cjson : CJson} {imeInfos : List FullImeInfo}

theorem migrate_refused (config : Config) {code : ErrorCode}
    (gathered : gather cjson io userId imeInfos s = .error code) :
    migrate cjson config io userId imeInfos s = (.error code, s) := by
  rw [migrate, migratedCfg_eq, gathered]
  rfl

theorem migrate_written (config : Config) {src : Sources}
    (gathered : gather cjson io userId imeInfos s = .ok src) :
    migrate cjson config io userId imeInfos s =
      let after := s.setUserTable io.write userId ((src.cfg config).text cjson)
      if io.write.reported then (.ok (), after.markUpgraded userId)
      else (.error .errorEnableIme, after) := by
  rw [migrate, migratedCfg_eq, gathered]
  rfl

/-- A write that did not happen changes nothing. -/
theorem setUserTable_unstored {write : Write} (s : Settings) (userId : Int32)
    (unstored : write.stored = false) (content : String) :
    s.setUserTable write userId content = s := by
  have same : write.put content (s.userTable userId) = s.userTable userId := by
    rw [Write.put, unstored]
    rfl
  rw [Settings.setUserTable, same, Function.update_eq_self]

theorem setUserTable_put {write : Write} (s : Settings) (userId : Int32) (stored : write.stored = true)
    (content : String) :
    (s.setUserTable write userId content).userTable = Function.update s.userTable userId
      (some content) := by
  rw [Settings.setUserTable, Write.put, stored]
  rfl

theorem setUserTable_stored {write : Write} (s : Settings) (userId : Int32)
    (stored : write.stored = true) (content : String) :
    (s.setUserTable write userId content).userTable userId = some content := by
  rw [setUserTable_put s userId stored, Function.update_self]

/-- A success writes: the table of a user who had none is another one afterwards. -/
theorem MigratesRight.writesNew {config : Config}
    (right : MigratesRight cjson config io userId imeInfos s)
    (noTable : ∀ cfg, s.userTable userId ≠ some (ImeEnabledCfg.text cjson cfg)) {after : Settings}
    (ran : upgrade cjson config io userId imeInfos s = (.ok (), after)) :
    after.userTable userId ≠ s.userTable userId := by
  obtain ⟨installed, cfg, -, -, table, -⟩ := right.writes (by rw [ran])
  rw [ran] at table
  intro same
  exact noTable cfg (same.symm.trans table)

/-- A call that ends before the write. -/
theorem right_of_refused {config : Config} {code : ErrorCode}
    (ran : upgrade cjson config io userId imeInfos s = (.error code, s)) :
    MigratesRight cjson config io userId imeInfos s := by
  refine ⟨?_, ?_, ?_, ?_⟩
  · rw [ran]
    exact nofun
  · intro _ _
    rw [ran]
  · rw [ran]
    exact nofun
  · rw [ran]
    exact nofun

/-- The table that the shown sources make. -/
theorem shown_migrated {config : Config} {installed : List FullImeInfo}
    (through : ReadsThrough cjson io userId imeInfos s installed)
    (distinct : (installed.map FullImeInfo.name).Nodup) :
    Migrated config (shownSources cjson io userId s installed)
      ((shownSources cjson io userId s installed).sets.table config) := by
  obtain ⟨enabled, full⟩ := gather_nameLists (gather_ok_iff.2 ⟨installed, through, rfl⟩)
  exact (table_migrated enabled full distinct).congr rfl rfl
    fun name => Sources.status_sets config _ name

/-- A write that is stored and reported. -/
theorem right_of_written {config : Config} (verbatim : cjson.Verbatim "version")
    (distinct : ∀ installed, finalImeInfos io.query imeInfos = .ok installed →
      (installed.map FullImeInfo.name).Nodup)
    {installed : List FullImeInfo} (through : ReadsThrough cjson io userId imeInfos s installed)
    (stored : io.write.stored = true)
    (status : ∀ name, (shownSources cjson io userId s installed).status config name =
      (storedSources cjson userId s installed).status config name)
    (ran : upgrade cjson config io userId imeInfos s =
      (.ok (), (s.setUserTable io.write userId
        (((shownSources cjson io userId s installed).sets.cfg config).text cjson)).markUpgraded
          userId)) :
    MigratesRight cjson config io userId imeInfos s := by
  have gathered := gather_ok_iff.2 ⟨installed, through, rfl⟩
  have table := setUserTable_stored s userId stored
    (((shownSources cjson io userId s installed).sets.cfg config).text cjson)
  refine ⟨fun _ => ?_, ?_, fun _ => ?_, fun _ => ?_⟩
  · refine ⟨installed, (shownSources cjson io userId s installed).sets.cfg config,
      through.installed, ?_, ?_, ?_⟩
    · rw [migratedCfg_eq, gathered]
      rfl
    · rw [ran]
      exact table
    · exact (shown_migrated through (distinct _ through.installed)).congr rfl rfl status
  · intro code
    rw [ran]
    exact nofun
  · intro config' io' imeInfos'
    rw [ran]
    exact upgrade_recorded _ _ _ _ List.mem_cons_self
  · intro config' io' imeInfos' readable
    rw [ran]
    have read : orEmpty (getStringValue io'.userTable ((s.setUserTable io.write userId
        (((shownSources cjson io userId s installed).sets.cfg config).text cjson)).userTable userId)) =
          .ok (((shownSources cjson io userId s installed).sets.cfg config).text cjson) := by
      rw [table, readable]
      rfl
    have new : userId ∉ (Settings.restart ((s.setUserTable io.write userId
        (((shownSources cjson io userId s installed).sets.cfg config).text cjson)).markUpgraded
          userId)).upgradedUserId := List.not_mem_nil
    exact congrArg (fun done => done.2.userTable)
      (upgrade_recognised cjson config' imeInfos' new read (mentionsVersion_text verbatim _))

/-- A table that was made right has the status of every bundle that is stored for it. -/
theorem MigratesRight.sameStatus {config : Config}
    (right : MigratesRight cjson config io userId imeInfos s)
    (distinct : ∀ installed, finalImeInfos io.query imeInfos = .ok installed →
      (installed.map FullImeInfo.name).Nodup)
    {installed : List FullImeInfo} (through : ReadsThrough cjson io userId imeInfos s installed)
    (success : (upgrade cjson config io userId imeInfos s).1 = .ok ()) (name : String) :
    (shownSources cjson io userId s installed).status config name =
      (storedSources cjson userId s installed).status config name := by
  obtain ⟨found, cfg, query, made, -, migrated⟩ := right.writes success
  have same : installed = found := by
    have both := through.installed.symm.trans query
    cases both
    rfl
  subst same
  rw [migratedCfg_eq, gather_ok_iff.2 ⟨installed, through, rfl⟩] at made
  cases made
  have shown : Migrated config _ _ := shown_migrated through (distinct _ through.installed)
  exact (shown.status name).symm.trans (migrated.status name)

/-- **When a migration goes right.**  For a user without a table, any lists, any installed
input methods (each bundle once), any persisted input methods and any outcome of the calls:
`Upgrade` stores the table that the lists in the settings call for on success, changes nothing
on failure and nothing the second time, if and only if the user is not already recorded as
upgraded, his content does not have the word by which tables are recognised, and, if it comes
to the write, the write is stored exactly if it is reported and the reads leave of the lists
what gives every bundle the same status. -/
theorem upgrade_migrates_iff (config : Config) (verbatim : cjson.Verbatim "version")
    (noTable : ∀ cfg, s.userTable userId ≠ some (ImeEnabledCfg.text cjson cfg))
    (distinct : ∀ installed, finalImeInfos io.query imeInfos = .ok installed →
      (installed.map FullImeInfo.name).Nodup) :
    MigratesRight cjson config io userId imeInfos s ↔
      userId ∉ s.upgradedUserId ∧
        ∀ content, orEmpty (getStringValue io.userTable (s.userTable userId)) = .ok content →
          mentionsVersion content = false ∧
            ∀ installed, ReadsThrough cjson io userId imeInfos s installed →
              io.write.stored = io.write.reported ∧
                (io.write.stored = true → ∀ name,
                  (shownSources cjson io userId s installed).status config name =
                    (storedSources cjson userId s installed).status config name) := by
  constructor
  · intro right
    have new : userId ∉ s.upgradedUserId := by
      intro recorded
      exact right.writesNew noTable (upgrade_recorded cjson config io imeInfos recorded) rfl
    refine ⟨new, fun content read => ?_⟩
    have unmentioned : mentionsVersion content = false := by
      by_contra mentions
      have ran := upgrade_recognised cjson config imeInfos new read (by simpa using mentions)
      exact right.writesNew noTable ran rfl
    refine ⟨unmentioned, fun installed through => ?_⟩
    have ran := (upgrade_migrate cjson config imeInfos new read unmentioned).trans
      (migrate_written config (gather_ok_iff.2 ⟨installed, through, rfl⟩))
    cases reported : io.write.reported with
    | true =>
        rw [reported] at ran
        cases stored : io.write.stored with
        | true => exact ⟨rfl, fun _ => right.sameStatus distinct through (by rw [ran]; rfl)⟩
        | false =>
            rw [setUserTable_unstored s userId stored] at ran
            exact (right.writesNew noTable ran rfl).elim
    | false =>
        rw [reported] at ran
        cases stored : io.write.stored with
        | false => exact ⟨rfl, nofun⟩
        | true =>
            have unchanged := right.refuses .errorEnableIme (by rw [ran]; rfl)
            rw [ran] at unchanged
            have table := setUserTable_stored s userId stored
              (((shownSources cjson io userId s installed).sets.cfg config).text cjson)
            have before : s.userTable userId =
                some (((shownSources cjson io userId s installed).sets.cfg config).text cjson) :=
              (congrArg (fun after => after.userTable userId) unchanged).symm.trans table
            exact absurd before (noTable _)
  · rintro ⟨new, favourable⟩
    cases read : orEmpty (getStringValue io.userTable (s.userTable userId)) with
    | error code => exact right_of_refused (upgrade_unreadable cjson config imeInfos new read)
    | ok content =>
        obtain ⟨unmentioned, honest⟩ := favourable content read
        have ran := upgrade_migrate cjson config imeInfos new read unmentioned
        cases gathered : gather cjson io userId imeInfos s with
        | error code => exact right_of_refused (ran.trans (migrate_refused config gathered))
        | ok src =>
            have done := ran.trans (migrate_written config gathered)
            obtain ⟨installed, through, rfl⟩ := gather_ok_iff.1 gathered
            obtain ⟨honest, status⟩ := honest installed through
            cases reported : io.write.reported with
            | true =>
                rw [reported] at done honest
                exact right_of_written verbatim distinct through honest (status honest) done
            | false =>
                rw [reported] at done honest
                rw [setUserTable_unstored s userId honest] at done
                exact right_of_refused done

end Migrate

end Upgrade

/-! ## Poles -/

/-- The lists of two users in the global table, as an earlier version left them. -/
def sharedSettings : Settings where
  globalTable := some (compact.print
    (enableImeList [(100, ["com.example.keyboard"]), (101, ["com.example.other"])]))

/-- Each bundle is there once. -/
theorem keyboard_once (query : Except ErrorCode (List FullImeInfo)) :
    ∀ installed, finalImeInfos query [keyboard] = .ok installed →
      (installed.map FullImeInfo.name).Nodup := by
  intro installed found
  cases found
  decide

theorem sharedSettings_listed (installed : List FullImeInfo) :
    (storedSources compact 100 sharedSettings installed).enabled = ["com.example.keyboard"] := by
  have names : ["com.example.keyboard"].map cStr = ["com.example.keyboard"] :=
    congrArg (fun name => [name]) (cStr_eq nulFree_keyboard)
  rw [← names]
  exact storedSources_listed compact_lawful rfl rfl installed

/-- A list is migrated, and it is the list that was there. -/
theorem shared_list_migrated :
    MigratesRight compact { defaultIme := "com.example.system" } {} 100 [keyboard] sharedSettings ∧
      (storedSources compact 100 sharedSettings [keyboard]).enabled = ["com.example.keyboard"] := by
  have noTable : sharedSettings.userTable 100 = none := rfl
  refine ⟨(upgrade_migrates_iff { defaultIme := "com.example.system" } compact_verbatim_version
    (by simp [noTable]) (keyboard_once _)).2 ⟨List.not_mem_nil, ?_⟩, ?_⟩
  · intro content read
    cases read
    refine ⟨by decide, fun installed _ => ⟨rfl, fun _ name => ?_⟩⟩
    rw [shownSources_eq rfl rfl rfl rfl]
  · exact sharedSettings_listed _

/-- The row of the global table is not counted: the list goes for nothing. -/
def hiddenIo : UpgradeIo where
  globalTable := some .errorKeywordNotFound

/-- `Insert` fails and the helper is released: the write is reported, the user counts as
upgraded, and there is no table.  Or the read of the global table reports no row: the user is
upgraded without his list. -/
theorem reported_write_not_migrated :
    let config : Config := { defaultIme := "com.example.system" }
    (upgrade compact config { write := ⟨false, true⟩ } 100 [keyboard] {} =
        (.ok (), { upgradedUserId := [100] }) ∧
      ¬ MigratesRight compact config { write := ⟨false, true⟩ } 100 [keyboard] {}) ∧
    (upgrade compact config hiddenIo 100 [keyboard] sharedSettings).1 = .ok () ∧
      ¬ MigratesRight compact config hiddenIo 100 [keyboard] sharedSettings := by
  intro config
  have ran : upgrade compact config { write := ⟨false, true⟩ } 100 [keyboard] {} =
      (.ok (), { upgradedUserId := [100] }) := by
    refine (upgrade_migrate compact config [keyboard] List.not_mem_nil rfl (by decide)).trans ?_
    refine (migrate_written config rfl).trans ?_
    rw [setUserTable_unstored {} 100 rfl]
    rfl
  have through : ReadsThrough compact hiddenIo 100 [keyboard] sharedSettings [keyboard] :=
    ⟨.inr rfl, nofun, .inl rfl, rfl, .inl rfl⟩
  have hidden : (upgrade compact config hiddenIo 100 [keyboard] sharedSettings).1 = .ok () := by
    rw [upgrade_migrate compact config [keyboard] List.not_mem_nil rfl (by decide),
      migrate_written config (gather_ok_iff.2 ⟨_, through, rfl⟩)]
    rfl
  refine ⟨⟨ran, fun right => ?_⟩, hidden, fun right => ?_⟩
  · obtain ⟨installed, cfg, -, -, table, -⟩ := right.writes (by rw [ran])
    rw [ran] at table
    cases table
  · have same := right.sameStatus (keyboard_once _) through hidden "com.example.keyboard"
    rw [Sources.status, Sources.status, sharedSettings_listed] at same
    revert same
    decide

end Imf.Enabled
