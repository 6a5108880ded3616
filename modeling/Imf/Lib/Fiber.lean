/-
# Imf.Lib.Fiber -- sums over the fibres of a key

A list of items with a key is added up either directly or key by key.
-/
import Mathlib.Algebra.BigOperators.Group.List.Basic
import Mathlib.Algebra.GroupWithZero.Nat
import Mathlib.Data.List.Nodup

namespace Imf.Lib

set_option autoImplicit false

universe u v

variable {α : Type u} {κ : Type v} [DecidableEq κ]

/-- Every key of a list without repetitions comes once. -/
theorem sum_single_key {keys : List κ} (nodup : keys.Nodup) (key : κ) (value : Nat) :
    (keys.map fun k => if k = key then value else 0).sum = if key ∈ keys then value else 0 := by
  induction keys with
  | nil => simp
  | cons k keys ih =>
      obtain ⟨new, nodup'⟩ := List.nodup_cons.1 nodup
      rw [List.map_cons, List.sum_cons, ih nodup']
      by_cases same : k = key
      · subst same
        simp [new]
      · simp [same, Ne.symm same]

theorem sum_filter_key {keys : List κ} (nodup : keys.Nodup) (key : κ) (value : κ → Nat) :
    ((keys.filter (· == key)).map value).sum = if key ∈ keys then value key else 0 := by
  rw [List.filter_beq]
  by_cases member : key ∈ keys
  · simp [List.count_eq_one_of_mem nodup member, member]
  · simp [List.count_eq_zero_of_not_mem member, member]

/-- A test splits a sum. -/
theorem sum_filter_split (p q : α → Bool) (value : α → Nat) (items : List α) :
    ((items.filter p).map value).sum =
      ((items.filter fun a => p a && q a).map value).sum +
        ((items.filter fun a => p a && !q a).map value).sum := by
  induction items with
  | nil => rfl
  | cons a items ih =>
      cases hp : p a <;> cases hq : q a <;> simp [hp, hq, ih] <;> omega

/-- A test of the items can be made on their values. -/
theorem sum_filter_and (p q : α → Bool) (value : α → Nat) (items : List α) :
    ((items.filter fun a => p a && q a).map value).sum =
      ((items.filter p).map fun a => if q a then value a else 0).sum := by
  induction items with
  | nil => rfl
  | cons a items ih =>
      cases hp : p a <;> cases hq : q a <;> simp [hp, hq, ih]

/-- The items of each key, added up over the keys. -/
theorem sum_by_key {keys : List κ} (nodup : keys.Nodup) (key : α → κ) (value : α → Nat)
    (items : List α) (cover : ∀ item ∈ items, key item ∈ keys) :
    (keys.map fun k => ((items.filter fun item => key item == k).map value).sum).sum =
      (items.map value).sum := by
  induction items with
  | nil => simp
  | cons item items ih =>
      have split : ∀ k, (((item :: items).filter fun item => key item == k).map value).sum =
          (if k = key item then value item else 0) +
            ((items.filter fun item => key item == k).map value).sum := by
        intro k
        by_cases same : key item = k
        · simp [same]
        · simp [same, Ne.symm same]
      have once := sum_single_key nodup (key item) (value item)
      rw [if_pos (cover item (by simp))] at once
      simp only [split, List.sum_map_add, once]
      rw [ih fun i member => cover i (by simp [member]), List.map_cons, List.sum_cons]

end Imf.Lib
