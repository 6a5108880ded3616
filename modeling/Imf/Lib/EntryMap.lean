/-
# Imf.Lib.EntryMap -- maps by their entries

A map is the list of its entries in the order in which it is iterated over; no key stands
twice, which is a field, so a list that repeats a key is no map.

`find` is what a key leads to; the `find_` lemmas say what each operation makes of it.
-/
import Imf.Lib.Keyed

namespace Imf.Lib

set_option autoImplicit false

universe u v

@[ext]
structure EntryMap (κ : Type u) (ν : Type v) where
  entries : List (κ × ν)
  distinct : (entries.map Prod.fst).Nodup
  deriving DecidableEq, Repr

namespace EntryMap

variable {κ : Type u} {ν : Type v}

def empty : EntryMap κ ν := ⟨[], List.nodup_nil⟩

instance : Inhabited (EntryMap κ ν) := ⟨empty⟩

variable [DecidableEq κ]

/-- `insert` of a map: a key that is there already keeps its value. -/
def insert (m : EntryMap κ ν) (key : κ) (value : ν) : EntryMap κ ν :=
  if there : key ∈ m.entries.map Prod.fst then m
  else ⟨m.entries ++ [(key, value)], by
    rw [List.map_append, List.nodup_append]
    refine ⟨m.distinct, List.nodup_singleton key, ?_⟩
    intro a inside b only equal
    rw [equal, List.mem_singleton.1 only] at inside
    exact there inside⟩

theorem insert_entries {m : EntryMap κ ν} {key : κ}
    (absent : key ∉ m.entries.map Prod.fst) (value : ν) :
    (m.insert key value).entries = m.entries ++ [(key, value)] := by
  unfold insert
  rw [dif_neg absent]

/-- The value of a key. -/
def find (m : EntryMap κ ν) (key : κ) : Option ν := (lookup Prod.fst key m.entries).map Prod.snd

/-- Every value is changed, or its entry erased. -/
def update (m : EntryMap κ ν) (change : κ → ν → Option ν) : EntryMap κ ν where
  entries := m.entries.filterMap fun entry => (change entry.1 entry.2).map fun value => (entry.1, value)
  distinct := by
    refine m.distinct.sublist ?_
    rw [List.map_filterMap]
    induction m.entries with
    | nil => exact .slnil
    | cons entry entries ih =>
        rw [List.filterMap_cons, List.map_cons]
        cases change entry.1 entry.2 with
        | none => exact ih.cons _
        | some value => exact ih.cons_cons _

/-- The value of one key is changed, or its entry erased. -/
def alter (m : EntryMap κ ν) (key : κ) (change : ν → Option ν) : EntryMap κ ν :=
  m.update fun k value => if k = key then change value else some value

theorem find_eq_some {m : EntryMap κ ν} {key : κ} {value : ν} :
    m.find key = some value ↔ (key, value) ∈ m.entries := by
  unfold find
  constructor
  · intro found
    obtain ⟨entry, there, rfl⟩ := Option.map_eq_some_iff.1 found
    obtain ⟨inside, rfl⟩ := lookup_mem there
    exact inside
  · intro inside
    rw [lookup_of_mem m.distinct inside]
    rfl

theorem find_eq_none {m : EntryMap κ ν} {key : κ} :
    m.find key = none ↔ key ∉ m.entries.map Prod.fst := by
  unfold find
  rw [Option.map_eq_none_iff, lookup_none]

theorem find_update (m : EntryMap κ ν) (change : κ → ν → Option ν) (key : κ) :
    (m.update change).find key = (m.find key).bind (change key) := by
  apply Option.ext
  intro value
  rw [find_eq_some, Option.bind_eq_some_iff]
  unfold update
  rw [List.mem_filterMap]
  constructor
  · rintro ⟨entry, inside, changed⟩
    obtain ⟨new, made, same⟩ := Option.map_eq_some_iff.1 changed
    cases same
    exact ⟨entry.2, find_eq_some.2 inside, made⟩
  · rintro ⟨old, found, made⟩
    exact ⟨(key, old), find_eq_some.1 found, by rw [made]; rfl⟩

theorem find_alter (m : EntryMap κ ν) (key : κ) (change : ν → Option ν) (k : κ) :
    (m.alter key change).find k = if k = key then (m.find k).bind change else m.find k := by
  unfold alter
  rw [find_update]
  split
  · rfl
  · exact Option.bind_fun_some _

/-- Inserting changes nothing of a key that is there. -/
theorem insert_there {m : EntryMap κ ν} {key : κ} {value : ν}
    (there : m.find key = some value) (other : ν) :
    m.insert key other = m := by
  unfold insert
  rw [dif_pos]
  exact List.mem_map_of_mem (find_eq_some.1 there)

theorem find_insert (m : EntryMap κ ν) (key : κ) (value : ν) (k : κ) :
    (m.insert key value).find k = if k = key then some ((m.find k).getD value) else m.find k := by
  cases found : m.find key with
  | some old =>
      rw [insert_there found]
      split
      · rename_i same
        rw [same, found]
        rfl
      · rfl
  | none =>
      have grown := insert_entries (find_eq_none.1 found) value
      unfold find at found ⊢
      rw [grown, lookup_append]
      split
      · rename_i same
        subst same
        rw [Option.map_eq_none_iff.1 found]
        simp [lookup]
      · rename_i differs
        have other : ¬ key = k := fun same => differs same.symm
        simp [lookup, other]

/-- Inserting a key and changing its value replaces it. -/
theorem find_replace (m : EntryMap κ ν) (key : κ) (value new : ν) (k : κ) :
    ((m.insert key value).alter key fun _ => some new).find k = if k = key then some new
      else m.find k := by
  rw [find_alter, find_insert]
  split <;> rfl

/-- Entries whose keys are new come to stand behind those there. -/
theorem foldl_insert_entries (entries : List (κ × ν)) (m : EntryMap κ ν)
    (distinct : ((m.entries ++ entries).map Prod.fst).Nodup) :
    (entries.foldl (fun made entry => made.insert entry.1 entry.2) m).entries =
      m.entries ++ entries := by
  induction entries generalizing m with
  | nil => exact (List.append_nil _).symm
  | cons entry entries ih =>
      have absent : entry.1 ∉ m.entries.map Prod.fst := by
        intro inside
        rw [List.map_append, List.nodup_append] at distinct
        exact distinct.2.2 _ inside _ (List.mem_map_of_mem List.mem_cons_self) rfl
      have grown := insert_entries absent entry.2
      rw [List.foldl_cons, ih (m.insert entry.1 entry.2), grown, List.append_assoc]
      · rfl
      · rw [grown, List.append_assoc]
        exact distinct

/-- Inserting all entries of a map into an empty one makes the map again. -/
theorem insert_all (m : EntryMap κ ν) :
    m.entries.foldl (fun made entry => made.insert entry.1 entry.2) empty = m :=
  EntryMap.ext (foldl_insert_entries m.entries empty m.distinct)

end EntryMap

end Imf.Lib
