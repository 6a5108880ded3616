/-
# Imf.Enabled.GlobalTable -- lists in the global table

The lists of earlier versions are in the global table, for all users together.  `Upgrade`
takes the list of one user from there; `UpdateGlobalEnabledTable` replaces the whole table
with the list of the foreground user, after it has upgraded one user: the first that the
table names.

`lists_kept`: along every run of the two, every list of the beginning is in the global table
or in the table of its user, as long as nobody else still needs the table when it is replaced
and no missing row or stored write is reported wrongly.  `shared_list_lost` is a run in which
somebody does.
-/
import Imf.Enabled.Migration
import Imf.Lib.Run

namespace Imf.Enabled

set_option autoImplicit false

open Lib (bind_eq_ok Json Meets run run_keeps mem_modify_of_mem mem_upsert_of_mem)
open Imf.Json

/-! ## Steps -/

/-- The two calls, with the answers they get. -/
inductive TableStep where
  | upgrade (config : Config) (io : UpgradeIo) (userId : Int32) (imeInfos : List FullImeInfo)
  | updateGlobal (config : Config) (io : GlobalIo) (userId : Int32) (cfg : ImeEnabledCfg)

def Settings.step (cjson : CJson) (s : Settings) : TableStep → Settings
  | .upgrade config io userId imeInfos => (Enabled.upgrade cjson config io userId imeInfos s).2
  | .updateGlobal config io userId cfg => updateGlobalEnabledTable cjson config io userId cfg s

theorem run_updateGlobal (cjson : CJson) (s : Settings) (config : Config) (io : GlobalIo)
    (userId : Int32) (cfg : ImeEnabledCfg) :
    run (Settings.step cjson) s [.updateGlobal config io userId cfg] =
      updateGlobalEnabledTable cjson config io userId cfg s := rfl

/-! ## Where a list is -/

/-- The global table has this list for the user. -/
def Listed (cjson : CJson) (s : Settings) (userId : Int32) (names : List String) : Prop :=
  ∃ content, s.globalTable = some content ∧ readEnabledImeCfg cjson userId content = some names

/-- Every name of the list has an entry that is in force. -/
def Enables (names : List String) (infos : List ImeEnabledInfo) : Prop :=
  ∀ name ∈ names, ∃ info ∈ infos, info.bundleName = name ∧
    (info.enabledStatus = .basicMode ∨ info.enabledStatus = .fullExperienceMode)

/-- The user has a table, and the list was merged into it. -/
def Merged (cjson : CJson) (s : Settings) (userId : Int32) (names : List String) : Prop :=
  ∃ cfg : ImeEnabledCfg, s.userTable userId = some (cfg.text cjson) ∧ Enables names cfg.enabledInfos

/-- The user is still to be upgraded: he is not recorded, and what his table holds, if
anything, is not taken for a table. -/
def Pending (s : Settings) (userId : Int32) : Prop :=
  userId ∉ s.upgradedUserId ∧
    ∀ content, s.userTable userId = some content → mentionsVersion content = false

/-- What a run keeps of the list of a user. -/
def Kept (cjson : CJson) (s : Settings) (userId : Int32) (names : List String) : Prop :=
  (Listed cjson s userId names ∧ Pending s userId) ∨ Merged cjson s userId names

/-! ## Conditions -/

/-- The answers that `Upgrade` of a user with a list needs.  A read that fails is not reported
as a missing row, nor the read of the global table as one that cannot be decoded; a write that
is reported was stored. -/
structure Truthful (io : UpgradeIo) : Prop where
  userTable : io.userTable ≠ some .errorKeywordNotFound
  globalTable : io.globalTable ≠ some .errorKeywordNotFound ∧ io.globalTable ≠ some .errorExParcelable
  write : io.write.reported = true → io.write.stored = true

/-- The user whom the global table names first is upgraded before it is replaced. -/
def UpgradedFirst (cjson : CJson) (old : String) (userId other : Int32) : Prop :=
  other = getGlobalTableUserId cjson old ∧ other ≠ -1 ∧ other ≠ userId

/-- When a step is allowed, in a run that began at `start`.  The users with a list get
truthful answers; and when the global table is replaced, each of them has been merged or is
the one who is upgraded first. -/
def Allowed (cjson : CJson) (start s : Settings) : TableStep → Prop
  | .upgrade _ io userId _ => ∀ names, Listed cjson start userId names → Truthful io
  | .updateGlobal config io userId cfg =>
      ∀ old, Replaces cjson config io userId cfg s old →
        (∀ names, Listed cjson start (getGlobalTableUserId cjson old) names → Truthful io.upgrade) ∧
          (io.write.stored = true → ∀ other names, Listed cjson start other names →
            Merged cjson s other names ∨ UpgradedFirst cjson old userId other)

/-! ## A migration merges the list -/

section Merge

variable {names : List String} {infos : List ImeEnabledInfo} {f : ImeEnabledInfo → ImeEnabledInfo}

/-- A change that leaves the names alone and nothing in force out. -/
def KeepsForce (f : ImeEnabledInfo → ImeEnabledInfo) : Prop :=
  ∀ info, (f info).bundleName = info.bundleName ∧
    ((f info).enabledStatus = info.enabledStatus ∨ (f info).enabledStatus = .fullExperienceMode)

theorem Enables.of_survivors {after : List ImeEnabledInfo} (enables : Enables names infos)
    (keeps : KeepsForce f) (survive : ∀ info ∈ infos, info ∈ after ∨ f info ∈ after) :
    Enables names after := by
  intro name member
  obtain ⟨info, inside, named, inForce⟩ := enables name member
  rcases survive info inside with same | changed
  · exact ⟨info, same, named, inForce⟩
  · obtain ⟨sameName, status⟩ := keeps info
    refine ⟨f info, changed, sameName.trans named, ?_⟩
    rcases status with kept | full
    · rwa [kept]
    · exact .inr full

theorem Enables.modify (enables : Enables names infos) (keeps : KeepsForce f) (i : Nat) :
    Enables names (infos.modify i f) :=
  enables.of_survivors keeps fun _ inside => mem_modify_of_mem i inside

theorem Enables.upsert (enables : Enables names infos) (keeps : KeepsForce f)
    (p : ImeEnabledInfo → Bool) (fresh : ImeEnabledInfo) :
    Enables names (Lib.upsert p f fresh infos) :=
  enables.of_survivors keeps fun _ inside => mem_upsert_of_mem inside

theorem enables_mergeTwo (enabled full : List String) : Enables enabled (mergeTwo enabled full) := by
  refine Lib.run_always (P := Enables enabled) ?_ ?_ full
  · intro infos name enables
    refine enables.upsert ?_ _ _
    intro info
    exact ⟨rfl, .inr rfl⟩
  · intro name member
    exact ⟨_, List.mem_map_of_mem member, rfl, .inl rfl⟩

/-- Every name of the enabled list is in force in the migrated table. -/
theorem enables_table (config : Config) (src : Sources) : Enables src.enabled (src.table config) := by
  have padded : Enables src.enabled
      (src.installed.foldl (pad config) (mergeTwo src.enabled src.full)) := by
    refine Lib.run_always (P := Enables src.enabled) ?_ (enables_mergeTwo _ _) src.installed
    intro infos imeInfo enables
    refine enables.upsert ?_ _ _
    intro info
    exact ⟨rfl, .inl rfl⟩
  have current : Enables src.enabled (padCurrent config src.persist
      (src.installed.foldl (pad config) (mergeTwo src.enabled src.full))) := by
    unfold padCurrent
    dsimp only
    split
    · refine padded.modify ?_ _
      intro info
      exact ⟨rfl, .inl rfl⟩
    · refine padded.modify ?_ _
      intro info
      exact ⟨rfl, .inl rfl⟩
  refine current.modify ?_ _
  intro info
  exact ⟨rfl, .inl rfl⟩

end Merge

section Steps

variable {cjson : CJson} {s : Settings} {userId : Int32} {names : List String}

/-- A list that is in the global table is the enabled list of a migration whose answers are
truthful. -/
theorem gather_listed {io : UpgradeIo} (truthful : Truthful io) (listed : Listed cjson s userId names)
    {imeInfos : List FullImeInfo} {src : Sources}
    (gathered : gather cjson io userId imeInfos s = .ok src) : src.enabled = nameSet names := by
  obtain ⟨enabled, read, gathered⟩ := bind_eq_ok.1 gathered
  obtain ⟨full, -, gathered⟩ := bind_eq_ok.1 gathered
  obtain ⟨installed, -, gathered⟩ := bind_eq_ok.1 gathered
  obtain ⟨persist, -, gathered⟩ := bind_eq_ok.1 gathered
  cases gathered
  obtain ⟨content, stored, list⟩ := listed
  obtain ⟨notMissing, notUndecodable⟩ := truthful.globalTable
  cases fault : io.globalTable with
  | none =>
      have parsed : parseEnabledTable cjson userId content = .ok (nameSet names) := by
        rw [parseEnabledTable, list]
      have found : getTableNames cjson io.globalTable s.globalTable userId = .ok (nameSet names) := by
        rw [getTableNames, fault, stored]
        exact parsed
      rw [getEnabledTable, found] at read
      cases read
      rfl
  | some code =>
      -- Any other failure ends the migration.
      rw [fault] at notMissing notUndecodable
      have failed : getTableNames cjson io.globalTable s.globalTable userId = .error code := by
        rw [getTableNames, fault, getStringValue]
      rw [getEnabledTable, failed] at read
      cases code with
      | errorKeywordNotFound => exact absurd rfl notMissing
      | errorExParcelable => exact absurd rfl notUndecodable
      | _ => cases read

/-- The content of a user who is still to be upgraded is not recognised. -/
theorem Pending.unmentioned (pending : Pending s userId) {fault : Fault} {content : String}
    (read : orEmpty (getStringValue fault (s.userTable userId)) = .ok content) :
    mentionsVersion content = false := by
  rcases orEmpty_ok read with found | ⟨-, rfl⟩
  · exact pending.2 content (getStringValue_ok found).2
  · decide

/-- The table of a merged user is, if its absence is not reported wrongly. -/
theorem Merged.mentions (merged : Merged cjson s userId names) (verbatim : cjson.Verbatim "version")
    {io : UpgradeIo} (truthful : Truthful io) {content : String}
    (read : orEmpty (getStringValue io.userTable (s.userTable userId)) = .ok content) :
    mentionsVersion content = true := by
  obtain ⟨cfg, table, -⟩ := merged
  rw [table] at read
  exact mentionsVersion_read verbatim truthful.userTable read

/-- A migration merges the list, or leaves it where it is. -/
theorem migrate_listed {io : UpgradeIo} (truthful : Truthful io) (listed : Listed cjson s userId names)
    (pending : Pending s userId) (config : Config) (imeInfos : List FullImeInfo) :
    Kept cjson (migrate cjson config io userId imeInfos s).2 userId names ∧
      ((migrate cjson config io userId imeInfos s).1 = .ok () →
        Merged cjson (migrate cjson config io userId imeInfos s).2 userId names) := by
  cases gathered : gather cjson io userId imeInfos s with
  | error code =>
      rw [migrate_refused config gathered]
      exact ⟨.inl ⟨listed, pending⟩, nofun⟩
  | ok src =>
      have enables : Enables names (src.table config) := by
        intro name member
        refine enables_table config src name ?_
        rw [gather_listed truthful listed gathered]
        exact mem_nameSet.2 member
      rw [migrate_written config gathered]
      dsimp only
      cases stored : io.write.stored with
      | true =>
          have merged : Merged cjson
              (s.setUserTable io.write userId ((src.cfg config).text cjson)) userId names :=
            ⟨_, setUserTable_stored s userId stored _, enables⟩
          split
          · exact ⟨.inr merged, fun _ => merged⟩
          · exact ⟨.inr merged, nofun⟩
      | false =>
          rw [setUserTable_unstored s userId stored]
          split
          · rename_i reported
            exact absurd (truthful.write reported) (by rw [stored]; decide)
          · exact ⟨.inl ⟨listed, pending⟩, nofun⟩

/-- What `Upgrade` makes of the list of its user. -/
theorem upgrade_kept (verbatim : cjson.Verbatim "version") {io : UpgradeIo} (truthful : Truthful io)
    (kept : Kept cjson s userId names) (config : Config) (imeInfos : List FullImeInfo) :
    Kept cjson (upgrade cjson config io userId imeInfos s).2 userId names ∧
      ((upgrade cjson config io userId imeInfos s).1 = .ok () →
        Merged cjson (upgrade cjson config io userId imeInfos s).2 userId names) := by
  by_cases recorded : userId ∈ s.upgradedUserId
  · -- Only a merged user is recorded.
    rw [upgrade_recorded cjson config io imeInfos recorded]
    refine ⟨kept, fun _ => ?_⟩
    rcases kept with ⟨-, new, -⟩ | merged
    · exact absurd recorded new
    · exact merged
  cases read : orEmpty (getStringValue io.userTable (s.userTable userId)) with
  | error code =>
      rw [upgrade_unreadable cjson config imeInfos recorded read]
      exact ⟨kept, nofun⟩
  | ok content =>
      rcases kept with ⟨listed, pending⟩ | merged
      · rw [upgrade_migrate cjson config imeInfos recorded read (pending.unmentioned read)]
        exact migrate_listed truthful listed pending config imeInfos
      · have mentions := merged.mentions verbatim truthful read
        rw [upgrade_recognised cjson config imeInfos recorded read mentions]
        exact ⟨.inr merged, fun _ => merged⟩

/-- `Upgrade` leaves the global table and the other users alone. -/
theorem upgrade_frame (cjson : CJson) (config : Config) (io : UpgradeIo) (userId : Int32)
    (imeInfos : List FullImeInfo) (s : Settings) :
    (upgrade cjson config io userId imeInfos s).2.globalTable = s.globalTable ∧
      ∀ other, other ≠ userId →
        (upgrade cjson config io userId imeInfos s).2.userTable other = s.userTable other ∧
          (other ∉ s.upgradedUserId →
            other ∉ (upgrade cjson config io userId imeInfos s).2.upgradedUserId) := by
  have marked : ∀ other,
    other ≠ userId → other ∉ s.upgradedUserId → other ∉ userId :: s.upgradedUserId := by
    intro other differ new
    rw [List.mem_cons, not_or]
    exact ⟨differ, new⟩
  unfold upgrade
  split
  · exact ⟨rfl, fun _ _ => ⟨rfl, id⟩⟩
  split
  · exact ⟨rfl, fun _ _ => ⟨rfl, id⟩⟩
  split
  · exact ⟨rfl, fun other differ => ⟨rfl, marked other differ⟩⟩
  unfold migrate
  split
  · exact ⟨rfl, fun _ _ => ⟨rfl, id⟩⟩
  dsimp only
  split
  · exact ⟨rfl, fun other differ => ⟨Settings.setUserTable_other _ _ _ differ, marked other differ⟩⟩
  · exact ⟨rfl, fun other differ => ⟨Settings.setUserTable_other _ _ _ differ, id⟩⟩

theorem upgrade_other {other : Int32} (differ : other ≠ userId) (kept : Kept cjson s other names)
    (config : Config) (io : UpgradeIo) (imeInfos : List FullImeInfo) :
    Kept cjson (upgrade cjson config io userId imeInfos s).2 other names := by
  obtain ⟨sameGlobal, others⟩ := upgrade_frame cjson config io userId imeInfos s
  obtain ⟨sameTable, new⟩ := others other differ
  rcases kept with ⟨⟨content, stored, list⟩, pending⟩ | ⟨cfg, table, enables⟩
  · refine .inl ⟨⟨content, sameGlobal.trans stored, list⟩, new pending.1, ?_⟩
    rw [sameTable]
    exact pending.2
  · exact .inr ⟨cfg, sameTable.trans table, enables⟩

theorem setGlobalTable_unstored {write : Write} (unstored : write.stored = false) (content : String) :
    s.setGlobalTable write content = s := by
  rw [Settings.setGlobalTable, Write.put, unstored]
  rfl

end Steps

/-! ## Runs -/

section Runs

variable {cjson : CJson} {start s : Settings}

/-- Every list of the beginning is kept. -/
def AllKept (cjson : CJson) (start s : Settings) : Prop :=
  ∀ userId names, Listed cjson start userId names → Kept cjson s userId names

theorem AllKept.upgrade (kept : AllKept cjson start s) (verbatim : cjson.Verbatim "version")
    {io : UpgradeIo} {userId : Int32}
    (truthful : ∀ names, Listed cjson start userId names → Truthful io) (config : Config)
    (imeInfos : List FullImeInfo) :
    AllKept cjson start (upgrade cjson config io userId imeInfos s).2 := by
  intro other names listed
  by_cases same : other = userId
  · subst same
    exact (upgrade_kept verbatim (truthful names listed) (kept other names listed) config imeInfos).1
  · exact upgrade_other same (kept other names listed) config io imeInfos

/-- Replacing the global table loses nothing when everybody has been merged. -/
theorem AllKept.setGlobalTable (kept : AllKept cjson start s) {write : Write}
    (merged : write.stored = true →
      ∀ userId names, Listed cjson start userId names → Merged cjson s userId names)
    (content : String) : AllKept cjson start (s.setGlobalTable write content) := by
  intro userId names listed
  cases stored : write.stored with
  | true => exact .inr (merged stored userId names listed)
  | false =>
      rw [setGlobalTable_unstored stored]
      exact kept userId names listed

theorem AllKept.updateGlobal (kept : AllKept cjson start s) (verbatim : cjson.Verbatim "version")
    {config : Config} {io : GlobalIo} {userId : Int32} {cfg : ImeEnabledCfg}
    (allowed : Allowed cjson start s (.updateGlobal config io userId cfg)) :
    AllKept cjson start (updateGlobalEnabledTable cjson config io userId cfg s) := by
  have spec := updateGlobalEnabledTable_spec cjson config io userId cfg s
  generalize updateGlobalEnabledTable cjson config io userId cfg s = after at spec ⊢
  cases spec with
  | unchanged => exact kept
  | replaced old replaces own =>
      obtain ⟨-, safe⟩ := allowed old replaces
      refine kept.setGlobalTable ?_ _
      intro stored other names listed
      rcases safe stored other names listed with merged | ⟨rfl, notNobody, notOwn⟩
      · exact merged
      · rcases own with nobody | same
        · exact absurd nobody notNobody
        · exact absurd same.symm notOwn
  | stopped old replaces =>
      obtain ⟨truthful, -⟩ := allowed old replaces
      exact kept.upgrade verbatim truthful config []
  | upgraded old replaces done =>
      obtain ⟨truthful, safe⟩ := allowed old replaces
      refine (kept.upgrade verbatim truthful config []).setGlobalTable ?_ _
      intro stored other names listed
      by_cases first : other = getGlobalTableUserId cjson old
      · -- He has just been upgraded.
        subst first
        exact (upgrade_kept verbatim (truthful names listed) (kept _ names listed) config []).2 done
      · rcases safe stored other names listed with ⟨cfg, table, enables⟩ | ⟨same, -⟩
        · have frame := (upgrade_frame cjson config io.upgrade (getGlobalTableUserId cjson old) [] s).2
          exact ⟨cfg, (frame other first).1.trans table, enables⟩
        · exact absurd same first

/-- One step keeps every list. -/
theorem AllKept.step (kept : AllKept cjson start s) (verbatim : cjson.Verbatim "version")
    {e : TableStep} (allowed : Allowed cjson start s e) : AllKept cjson start (s.step cjson e) := by
  cases e with
  | upgrade config io userId imeInfos => exact kept.upgrade verbatim allowed config imeInfos
  | updateGlobal config io userId cfg => exact kept.updateGlobal verbatim allowed

/-- **No list is lost.**  Start with any tables in which every user with a list in the global
table is still to be upgraded or has been merged.  After every run of `Upgrade` and
`UpdateGlobalEnabledTable` whose steps are allowed, whatever their reads and writes did, each
of these lists is still in the global table or was merged into the table of its user. -/
theorem lists_kept (verbatim : cjson.Verbatim "version")
    (initially : ∀ userId names, Listed cjson start userId names →
      Pending start userId ∨ Merged cjson start userId names)
    {steps : List TableStep}
    (allowed : Meets (Settings.step cjson) (Allowed cjson start) start steps)
    {userId : Int32} {names : List String} (listed : Listed cjson start userId names) :
    Listed cjson (run (Settings.step cjson) start steps) userId names ∨
      Merged cjson (run (Settings.step cjson) start steps) userId names := by
  have first : AllKept cjson start start := by
    intro userId names listed
    rcases initially userId names listed with pending | merged
    · exact .inl ⟨listed, pending⟩
    · exact .inr merged
  have kept : AllKept cjson start (run (Settings.step cjson) start steps) := by
    refine run_keeps ?_ first allowed
    intro s e kept allowed
    exact kept.step verbatim allowed
  exact (kept userId names listed).imp_left And.left

end Runs

/-! ## Lists as text -/

section Text

variable {cjson : CJson}

/-- The user whom a table of lists names first. -/
theorem getGlobalTableUserId_print (lawful : cjson.Lawful) (list : Int32 × List String)
    (lists : List (Int32 × List String)) :
    getGlobalTableUserId cjson (cjson.print (enableImeList (list :: lists))) =
      atoi (userKey list.1) := by
  have found : getSubNode (enableImeList (list :: lists)) "enableImeList" =
      some (.obj ((list :: lists).map fun list => (userKey list.1, ofStrings list.2))) :=
    getSubNode_of_find (by decide) (by simp [sameKey])
  rw [getGlobalTableUserId, lawful.cStr_print, lawful.parse_print _ (plain_enableImeList _)]
  dsimp only
  rw [found]
  rfl

/-- A table that is the user's own is replaced at once. -/
theorem updateGlobal_own (lawful : cjson.Lawful) {config : Config} {io : GlobalIo} {userId : Int32}
    {cfg : ImeEnabledCfg} {s : Settings} {old : String}
    (replaces : Replaces cjson config io userId cfg s old)
    (own : userId = getGlobalTableUserId cjson old) :
    updateGlobalEnabledTable cjson config io userId cfg s =
      s.setGlobalTable io.write (generateGlobalContent cjson userId (newBundleNames io cfg)) := by
  have on : ¬ (!config.enableInputMethodFeature) = true := by simp [replaces.feature]
  have nonempty : generateGlobalContent cjson userId (newBundleNames io cfg) ≠ "" := lawful.nonempty _
  rw [updateGlobalEnabledTable, if_neg on, if_neg (not_not.2 replaces.foreground), replaces.read]
  dsimp only
  rw [if_neg nonempty, if_neg replaces.changed, if_pos (.inr own)]

end Text

/-! ## Poles -/

/-- The table of the foreground user. -/
def keyboardCfg : ImeEnabledCfg where
  enabledInfos :=
    [{ bundleName := "com.example.keyboard", extensionName := "KeyboardExt",
       enabledStatus := .basicMode }]

/-- He has been upgraded; the lists are as an earlier version left them. -/
def upgradedSettings (lists : List (Int32 × List String)) : Settings where
  globalTable := some (compact.print (enableImeList lists))
  userTable userId := if userId = 100 then some (keyboardCfg.text compact) else none

def switchConfig : Config where
  defaultIme := "com.example.system"
  enableInputMethodFeature := true

def switchIo : GlobalIo where
  foreground := 100
  isImeInstalled _ _ := true

/-- He is switched to. -/
def switchStep : TableStep := .updateGlobal switchConfig switchIo 100 keyboardCfg

theorem switch_content : generateGlobalContent compact 100 (newBundleNames switchIo keyboardCfg) =
    compact.print (enableImeList [(100, ["com.example.keyboard"])]) := by
  have names : newBundleNames switchIo keyboardCfg = ["com.example.keyboard"] := rfl
  rw [names]
  rfl

theorem listed_upgradedSettings {lists : List (Int32 × List String)} {userId : Int32}
    {names : List String} :
    Listed compact (upgradedSettings lists) userId names ↔
      (lists.find? fun list => decide (list.1 = userId)).map (fun list => list.2.map cStr) =
        some names := by
  rw [← readEnabledImeCfg_print compact_lawful]
  constructor
  · rintro ⟨content, stored, read⟩
    cases stored
    exact read
  · intro read
    exact ⟨_, rfl, read⟩

theorem default_truthful : Truthful {} := ⟨nofun, ⟨nofun, nofun⟩, fun _ => rfl⟩

/-- The table has the list of one other user, who is upgraded before it is replaced. -/
theorem other_list_kept :
    let start := upgradedSettings [(101, ["com.example.other"])]
    let steps := [switchStep, .upgrade switchConfig {} 101 []]
    Listed compact (run (Settings.step compact) start steps) 101 ["com.example.other"] ∨
      Merged compact (run (Settings.step compact) start steps) 101 ["com.example.other"] := by
  intro start steps
  have only : ∀ userId names, Listed compact start userId names → userId = 101 := by
    intro userId names listed
    have found := listed_upgradedSettings.1 listed
    by_contra other
    rw [List.find?_cons_of_neg (by simpa using Ne.symm other)] at found
    cases found
  have owner : getGlobalTableUserId compact
      (compact.print (enableImeList [(101, ["com.example.other"])])) = 101 := by
    rw [getGlobalTableUserId_print compact_lawful]
    decide
  have allowed : Meets (Settings.step compact) (Allowed compact start) start steps := by
    refine ⟨?_, ?_, trivial⟩
    · intro old replaces
      cases replaces.read
      refine ⟨fun _ _ => default_truthful, fun _ other names listed => .inr ?_⟩
      cases only other names listed
      exact ⟨owner.symm, by decide, by decide⟩
    · intro names _
      exact default_truthful
  refine lists_kept compact_verbatim_version ?_ allowed (listed_upgradedSettings.2 rfl)
  intro userId names listed
  cases only userId names listed
  exact .inl ⟨List.not_mem_nil, nofun⟩

/-- The table has the lists of two users, the first of them in the foreground: it is replaced
without a look at the second. -/
theorem shared_list_lost :
    let start := upgradedSettings [(100, ["com.example.keyboard"]), (101, ["com.example.other"])]
    let after := run (Settings.step compact) start [switchStep]
    Merged compact start 100 ["com.example.keyboard"] ∧
      Listed compact start 101 ["com.example.other"] ∧
        ¬ (Listed compact after 101 ["com.example.other"] ∨
          Merged compact after 101 ["com.example.other"]) := by
  intro start after
  have listed : Listed compact start 101 ["com.example.other"] := listed_upgradedSettings.2 rfl
  have gone : readEnabledImeCfg compact 101
      (compact.print (enableImeList [(100, ["com.example.keyboard"])])) = none := by
    rw [readEnabledImeCfg_print compact_lawful]
    rfl
  have owner : getGlobalTableUserId compact (compact.print
      (enableImeList [(100, ["com.example.keyboard"]), (101, ["com.example.other"])])) = 100 := by
    rw [getGlobalTableUserId_print compact_lawful]
    decide
  have differs : generateGlobalContent compact 100 (newBundleNames switchIo keyboardCfg) ≠
      compact.print (enableImeList
        [(100, ["com.example.keyboard"]), (101, ["com.example.other"])]) := by
    intro same
    obtain ⟨content, stored, read⟩ := listed
    cases stored
    rw [← same, switch_content, gone] at read
    cases read
  have replaces : Replaces compact switchConfig switchIo 100 keyboardCfg start (compact.print
      (enableImeList [(100, ["com.example.keyboard"]), (101, ["com.example.other"])])) :=
    ⟨rfl, rfl, rfl, differs⟩
  have ran : after = updateGlobalEnabledTable compact switchConfig switchIo 100 keyboardCfg start :=
    run_updateGlobal compact start switchConfig switchIo 100 keyboardCfg
  have replaced : after = start.setGlobalTable switchIo.write
      (compact.print (enableImeList [(100, ["com.example.keyboard"])])) := by
    rw [ran, updateGlobal_own compact_lawful replaces owner.symm, switch_content]
  refine ⟨⟨keyboardCfg, rfl, ?_⟩, listed, ?_⟩
  · intro name member
    cases List.mem_singleton.1 member
    exact ⟨_, List.mem_singleton_self _, rfl, .inl rfl⟩
  · rw [replaced]
    rintro (⟨content, stored, read⟩ | ⟨cfg, table, -⟩)
    · cases stored
      rw [gone] at read
      cases read
    · cases table

end Imf.Enabled
