/-
# Imf.Enabled.Format -- how the two formats are told apart

`Upgrade` and `GetEnabledCfg` both look for the word `version` anywhere in the content of the
user table.  Every text of a table has it, as a key.  A list of an earlier version has it
exactly when one of its names does (`list_mentions_iff`): its other keys are the name of the
list and a user id.

`format_decided_iff`: a table is always taken for a table; a list is taken for a list when,
and only when, no name in it has the word.
-/
import Imf.Enabled.Migration

namespace Imf.Enabled

set_option autoImplicit false

open Lib (Json)
open Imf.Json

/-- Content that counts as a list of an earlier version.  `Upgrade` of a user who is not
recorded yet migrates it.  `GetEnabledCfg` does not decode it: it leaves the settings as
`Upgrade` does, fails as `Upgrade` does, and decodes what it then reads. -/
structure TakenAsList (cjson : CJson) (content : String) : Prop where
  migrated : ∀ config (io : UpgradeIo) userId imeInfos (s : Settings),
    s.userTable userId = some content → io.userTable = none → userId ∉ s.upgradedUserId →
      upgrade cjson config io userId imeInfos s = migrate cjson config io userId imeInfos s
  upgraded : ∀ config (io : CfgIo) userId imeInfos (s : Settings),
    s.userTable userId = some content → io.first = none →
      (getEnabledCfg cjson config io userId imeInfos s).2 =
        (upgrade cjson config io.upgrade userId imeInfos s).2
  failed : ∀ config (io : CfgIo) userId imeInfos (s : Settings),
    s.userTable userId = some content → io.first = none →
      ∀ code, (upgrade cjson config io.upgrade userId imeInfos s).1 = .error code →
        (getEnabledCfg cjson config io userId imeInfos s).1 = .error code
  readAgain : ∀ config (io : CfgIo) userId imeInfos (s : Settings),
    s.userTable userId = some content → io.first = none →
      (upgrade cjson config io.upgrade userId imeInfos s).1 = .ok () →
        ∀ table, getStringValue io.second
            ((upgrade cjson config io.upgrade userId imeInfos s).2.userTable userId) = .ok table →
          (getEnabledCfg cjson config io userId imeInfos s).1 = .ok (readCfg cjson table)

/-- Content that counts as the table `cfg`.  `Upgrade` only records the user; `GetEnabledCfg`
decodes it, corrects it by what is installed, and changes nothing. -/
structure TakenAsTable (cjson : CJson) (cfg : ImeEnabledCfg) (content : String) : Prop where
  unmigrated : ∀ config (io : UpgradeIo) userId imeInfos (s : Settings),
    s.userTable userId = some content → io.userTable = none →
      upgrade cjson config io userId imeInfos s =
        (.ok (), if userId ∈ s.upgradedUserId then s else s.markUpgraded userId)
  decoded : ∀ config (io : CfgIo) userId imeInfos (s : Settings),
    s.userTable userId = some content → io.first = none →
      getEnabledCfg cjson config io userId imeInfos s =
        ((finalImeInfos io.query imeInfos).map fun installed =>
          { cfg with enabledInfos := correctBy config installed cfg.enabledInfos }, s)

section Format

variable {cjson : CJson} {content : String}

/-! ## What the word decides -/

theorem read_stored {s : Settings} {fault : Fault} {userId : Int32}
    (stored : s.userTable userId = some content) (works : fault = none) :
    orEmpty (getStringValue fault (s.userTable userId)) = .ok content := by
  rw [stored, works]
  rfl

theorem takenAsTable (mentions : mentionsVersion content = true) :
    TakenAsTable cjson (readCfg cjson content) content := by
  refine ⟨?_, ?_⟩
  · intro config io userId imeInfos s stored works
    by_cases recorded : userId ∈ s.upgradedUserId
    · rw [if_pos recorded]
      exact upgrade_recorded cjson config io imeInfos recorded
    · rw [if_neg recorded]
      exact upgrade_recognised cjson config imeInfos recorded (read_stored stored works) mentions
  · intro config io userId imeInfos s stored works
    rw [getEnabledCfg, read_stored stored works]
    dsimp only
    rw [if_pos mentions]
    cases finalImeInfos io.query imeInfos with
    | error code => rfl
    | ok installed => rfl

/-- `GetEnabledCfg` of content without the word goes by what `Upgrade` does. -/
theorem getEnabledCfg_upgrades (unmentioned : mentionsVersion content = false) (config : Config)
    {io : CfgIo} {userId : Int32} (imeInfos : List FullImeInfo) {s : Settings}
    (stored : s.userTable userId = some content) (works : io.first = none) :
    (getEnabledCfg cjson config io userId imeInfos s).2 =
        (upgrade cjson config io.upgrade userId imeInfos s).2 ∧
      (∀ code, (upgrade cjson config io.upgrade userId imeInfos s).1 = .error code →
        (getEnabledCfg cjson config io userId imeInfos s).1 = .error code) ∧
      ((upgrade cjson config io.upgrade userId imeInfos s).1 = .ok () →
        ∀ table, getStringValue io.second
            ((upgrade cjson config io.upgrade userId imeInfos s).2.userTable userId) = .ok table →
          (getEnabledCfg cjson config io userId imeInfos s).1 = .ok (readCfg cjson table)) := by
  have other : ¬ mentionsVersion content = true := by
    rw [unmentioned]
    decide
  rw [getEnabledCfg, read_stored stored works]
  dsimp only
  rw [if_neg other]
  obtain ⟨result, after⟩ := upgrade cjson config io.upgrade userId imeInfos s
  cases result with
  | error code =>
      refine ⟨rfl, ?_, nofun⟩
      rintro code ⟨⟩
      rfl
  | ok =>
      refine ⟨?_, nofun, ?_⟩
      · dsimp only
        split <;> rfl
      · intro _ table read
        dsimp only at read ⊢
        rw [read]

theorem takenAsList (unmentioned : mentionsVersion content = false) : TakenAsList cjson content := by
  refine ⟨?_, ?_, ?_, ?_⟩
  · intro config io userId imeInfos s stored works new
    exact upgrade_migrate cjson config imeInfos new (read_stored stored works) unmentioned
  · intro config io userId imeInfos s stored works
    exact (getEnabledCfg_upgrades unmentioned config imeInfos stored works).1
  · intro config io userId imeInfos s stored works
    exact (getEnabledCfg_upgrades unmentioned config imeInfos stored works).2.1
  · intro config io userId imeInfos s stored works
    exact (getEnabledCfg_upgrades unmentioned config imeInfos stored works).2.2

/-- Content cannot be taken for both: when the list cannot be read, a migration fails, and a
table is left alone. -/
theorem not_takenAsList (mentions : mentionsVersion content = true) : ¬ TakenAsList cjson content := by
  intro list
  let config : Config := { defaultIme := "" }
  let io : UpgradeIo := { globalTable := some .errorNullPointer }
  let s : Settings := { userTable := fun _ => some content }
  have migrated := list.migrated config io 0 [] s rfl rfl List.not_mem_nil
  rw [upgrade_recognised cjson config [] List.not_mem_nil (read_stored rfl rfl) mentions] at migrated
  have unreadable : gather cjson io 0 [] s = .error .errorNullPointer := rfl
  rw [migrate_refused config unreadable] at migrated
  cases migrated

/-! ## Who has the word -/

/-- The word starts with a letter that is neither in a user id nor in the name of the list. -/
theorem not_version_of_letters {s : String} (absent : 'v' ∉ s.toList) :
    ¬ "version".toList <:+: s.toList := by
  intro inside
  exact absent (inside.subset (List.mem_cons_self ..))

theorem userKey_letters (userId : Int32) : 'v' ∉ (userKey userId).toList := by
  rw [userKey, String.toList_ofList]
  intro member
  exact version_word.apart.1 (Json.writeInt_markup _ 'v' member)

theorem ofStrings_mentions {word : List Char} {names : List String} :
    (ofStrings names).Mentions word ↔ ∃ name ∈ names, word <:+: (cStr name).toList := by
  show Json.ItemsMention word (names.map ofString) ↔ _
  rw [Json.itemsMention_iff]
  constructor
  · rintro ⟨item, member, mentions⟩
    obtain ⟨name, inside, rfl⟩ := List.mem_map.1 member
    exact ⟨name, inside, mentions⟩
  · rintro ⟨name, inside, mentions⟩
    exact ⟨ofString name, List.mem_map_of_mem inside, mentions⟩

/-- A text of lists has the word exactly when a name in it does. -/
theorem list_mentions_iff (verbatim : cjson.Verbatim "version") (lists : List (Int32 × List String)) :
    mentionsVersion (cjson.print (enableImeList lists)) = true ↔
      ∃ list ∈ lists, ∃ name ∈ list.2, "version".toList <:+: (cStr name).toList := by
  have tree : (enableImeList lists).Mentions "version".toList ↔
      Json.FieldsMention "version".toList
        (lists.map fun list => (userKey list.1, ofStrings list.2)) := by
    have key : ¬ "version".toList <:+: "enableImeList".toList := not_version_of_letters (by decide)
    rw [enableImeList, Json.Mentions, Json.FieldsMention, Json.FieldsMention, Json.Mentions, or_false,
      or_iff_right key]
  refine (decide_eq_true_iff.trans (verbatim _)).trans (tree.trans (Json.fieldsMention_iff.trans ?_))
  constructor
  · rintro ⟨field, member, mentions⟩
    obtain ⟨list, inside, rfl⟩ := List.mem_map.1 member
    rcases mentions with key | names
    · exact absurd key (not_version_of_letters (userKey_letters list.1))
    · exact ⟨list, inside, ofStrings_mentions.1 names⟩
  · rintro ⟨list, inside, names⟩
    exact ⟨_, List.mem_map_of_mem inside, .inr (ofStrings_mentions.2 names)⟩

/-- **When the format decides.**  Whatever `ImeEnabledCfg::Marshall` wrote is taken for the
table it was, strings cut at their first NUL.  The list of a user, for any user id and any
names, is taken for a list if and only if none of the names has the word `version` in it. -/
theorem format_decided_iff (lawful : cjson.Lawful) (verbatim : cjson.Verbatim "version") :
    (∀ cfg : ImeEnabledCfg, TakenAsTable cjson cfg.cText (cfg.text cjson)) ∧
      ∀ owner names, TakenAsList cjson (cjson.print (enabledImeCfg owner names)) ↔
        ∀ name ∈ names, ¬ "version".toList <:+: (cStr name).toList := by
  constructor
  · intro cfg
    rw [← readCfg_text lawful cfg]
    exact takenAsTable (mentionsVersion_text verbatim cfg)
  · intro owner names
    have mentions := list_mentions_iff verbatim [(owner, names)]
    constructor
    · intro list name member inside
      exact not_takenAsList (mentions.2 ⟨_, List.mem_singleton_self _, name, member, inside⟩) list
    · intro none
      refine takenAsList (Bool.eq_false_iff.2 fun found => ?_)
      obtain ⟨list, member, name, inside, word⟩ := mentions.1 found
      cases List.mem_singleton.1 member
      exact none name inside word

end Format

/-! ## Poles -/

theorem plain_names_decided :
    (∀ cfg : ImeEnabledCfg, TakenAsTable compact cfg.cText (cfg.text compact)) ∧
      TakenAsList compact (compact.print (enabledImeCfg 100 ["com.example.keyboard"])) := by
  obtain ⟨table, list⟩ := format_decided_iff compact_lawful compact_verbatim_version
  refine ⟨table, (list 100 ["com.example.keyboard"]).2 ?_⟩
  intro name member
  cases List.mem_singleton.1 member
  exact not_version_of_letters (by decide)

/-- An input method for conversion: its list is never migrated. -/
theorem conversion_not_decided :
    ¬ TakenAsList compact (compact.print (enabledImeCfg 100 ["com.example.conversion"])) := by
  refine not_takenAsList ((list_mentions_iff compact_verbatim_version _).2 ?_)
  refine ⟨_, List.mem_singleton_self _, _, List.mem_singleton_self _, "com.example.con".toList, [], ?_⟩
  decide

end Imf.Enabled
