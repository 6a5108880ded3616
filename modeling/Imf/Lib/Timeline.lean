/-
# Imf.Lib.Timeline -- a value that changes, and how long it was what

A timeline is a first value and the changes that were told, each with its time.  `latest` is the value
told last at or before an instant, `timeWith` the number of instants of a half-open span at which it
satisfies a predicate.  A change leaves everything before it alone (`timeWith_append_before`), and a
span in which nothing changes has one value (`timeWith_const`).
-/
import Mathlib.Algebra.BigOperators.Group.Finset.Basic
import Mathlib.Order.Interval.Finset.Nat

namespace Imf.Lib

set_option autoImplicit false

universe u

variable {α : Type u}

/-- The value told last at or before `x`. -/
def latest (initial : α) (changes : List (Nat × α)) (x : Nat) : α :=
  ((changes.filter fun change => decide (change.1 ≤ x)).getLast?.map Prod.snd).getD initial

/-- How long, from `since` to `now`, the latest value satisfies `p`. -/
def timeWith (p : α → Prop) [DecidablePred p] (initial : α) (changes : List (Nat × α))
    (since now : Nat) : Nat :=
  ((Finset.Ico since now).filter fun x => p (latest initial changes x)).card

theorem latest_append (initial : α) (changes : List (Nat × α)) (t : Nat) (value : α) (x : Nat) :
    latest initial (changes ++ [(t, value)]) x = if t ≤ x then value else latest initial changes x := by
  unfold latest
  rw [List.filter_append]
  by_cases told : t ≤ x
  · have kept : [(t, value)].filter (fun change => decide (change.1 ≤ x)) = [(t, value)] := by
      simp [told]
    rw [if_pos told, kept, List.getLast?_append]
    rfl
  · have dropped : [(t, value)].filter (fun change => decide (change.1 ≤ x)) = [] := by simp [told]
    rw [if_neg told, dropped, List.append_nil]

section Time

variable {p : α → Prop} [DecidablePred p] {initial : α} {changes : List (Nat × α)} {since now : Nat}

theorem timeWith_le (p : α → Prop) [DecidablePred p] (initial : α) (changes : List (Nat × α))
    (since now : Nat) :
    timeWith p initial changes since now ≤ now - since := by
  have all := Finset.card_filter_le (Finset.Ico since now) fun x => p (latest initial changes x)
  rwa [Nat.card_Ico] at all

/-- One span after the other. -/
theorem timeWith_add (p : α → Prop) [DecidablePred p] (initial : α)
    (changes : List (Nat × α)) {between : Nat} (first : since ≤ between) (second : between ≤ now) :
    timeWith p initial changes since now =
      timeWith p initial changes since between + timeWith p initial changes between now := by
  unfold timeWith
  rw [← Finset.Ico_union_Ico_eq_Ico first second, Finset.filter_union, Finset.card_union_of_disjoint]
  exact Finset.disjoint_filter_filter (Finset.Ico_disjoint_Ico_consecutive since between now)

/-- A span in which the value stays the same. -/
theorem timeWith_const {value : α}
    (same : ∀ x, since ≤ x → x < now → latest initial changes x = value) :
    timeWith p initial changes since now = if p value then now - since else 0 := by
  unfold timeWith
  split
  · rename_i holds
    rw [Finset.filter_true_of_mem, Nat.card_Ico]
    intro x member
    obtain ⟨low, high⟩ := Finset.mem_Ico.1 member
    rw [same x low high]
    exact holds
  · rename_i fails
    rw [Finset.filter_false_of_mem, Finset.card_empty]
    intro x member
    obtain ⟨low, high⟩ := Finset.mem_Ico.1 member
    rw [same x low high]
    exact fails

/-- Two timelines that agree in the span. -/
theorem timeWith_congr {initial' : α} {changes' : List (Nat × α)} {q : α → Prop} [DecidablePred q]
    (same : ∀ x, since ≤ x → x < now →
      (p (latest initial changes x) ↔ q (latest initial' changes' x))) :
    timeWith p initial changes since now = timeWith q initial' changes' since now := by
  unfold timeWith
  refine congrArg Finset.card (Finset.filter_congr fun x member => ?_)
  obtain ⟨low, high⟩ := Finset.mem_Ico.1 member
  exact same x low high

/-- The values of a span have keys: the time with each of them is the whole span. -/
theorem sum_timeWith {κ : Type u} [Fintype κ] [DecidableEq κ] (key : α → Option κ)
    (keyed : ∀ x, since ≤ x → x < now → (key (latest initial changes x)).isSome) :
    ∑ k, timeWith (fun value => key value = some k) initial changes since now = now - since := by
  have whole := Finset.card_eq_sum_card_fiberwise (s := Finset.Ico since now)
    (t := Finset.univ.map .some)
    (f := fun x => key (latest initial changes x)) fun x member => by
      obtain ⟨low, high⟩ := Finset.mem_Ico.1 member
      obtain ⟨k, found⟩ := Option.isSome_iff_exists.1 (keyed x low high)
      simp [found]
  rw [Nat.card_Ico, Finset.sum_map] at whole
  exact whole.symm

/-- A later change. -/
theorem timeWith_append_before {t : Nat} (later : now ≤ t) (value : α) :
    timeWith p initial (changes ++ [(t, value)]) since now = timeWith p initial changes since now := by
  refine timeWith_congr fun x _ high => ?_
  rw [latest_append, if_neg (by omega)]

end Time

end Imf.Lib
