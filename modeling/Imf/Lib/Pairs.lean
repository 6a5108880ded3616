/-
# Imf.Lib.Pairs -- texts in which two units can be one character

A text is a list of units.  Most units are a character each, and two that `pair` relates are one
together.  A text is read from the front: `width` is how many units the first character has, `chars`
how many characters there are, and `cut k` how many units the first `k` of them have.

`cut` is between characters (`not_splits_cut`), and no longer prefix with so few characters is
(`le_cut`).  What comes second in a pair must not come first in another one; nothing else is asked
of `pair`.
-/
import Mathlib.Data.List.Basic

namespace Imf.Lib

set_option autoImplicit false

universe u

variable {α : Type u} (pair : α → α → Bool)

/-- The units of the first character. -/
def width : List α → Nat
  | [] => 0
  | [_] => 1
  | a :: b :: _ => if pair a b then 2 else 1

def chars : List α → Nat
  | [] => 0
  | [_] => 1
  | a :: b :: rest => if pair a b then chars rest + 1 else chars (b :: rest) + 1

/-- The units of the first `k` characters. -/
def cut : Nat → List α → Nat
  | 0, _ => 0
  | k + 1, s => width pair s + cut k (s.drop (width pair s))

/-- The place `n` is between the two halves of a pair. -/
def Splits (s : List α) (n : Nat) : Prop :=
  ∃ i a b, n = i + 1 ∧ s[i]? = some a ∧ s[i + 1]? = some b ∧ pair a b = true

variable {pair} {s : List α} {k n : Nat}

theorem width_pair {a b : α} (paired : pair a b = true) (rest : List α) :
    width pair (a :: b :: rest) = 2 :=
  if_pos paired

theorem width_single {a b : α} (single : pair a b = false) (rest : List α) :
    width pair (a :: b :: rest) = 1 :=
  if_neg (Bool.eq_false_iff.1 single)

variable (pair) in
theorem width_le (s : List α) : width pair s ≤ s.length := by
  match s with
  | [] => exact Nat.le_refl _
  | [_] => exact Nat.le_refl _
  | a :: b :: rest =>
      cases first : pair a b with
      | true => simp [width_pair first]
      | false => simp [width_single first]

variable (pair) in
theorem width_pos (some : s ≠ []) : 0 < width pair s := by
  match s, some with
  | [_], _ => exact Nat.one_pos
  | a :: b :: rest, _ =>
      cases first : pair a b with
      | true => simp [width_pair first]
      | false => simp [width_single first]

theorem chars_step (some : s ≠ []) : chars pair s = chars pair (s.drop (width pair s)) + 1 := by
  match s, some with
  | [_], _ => rfl
  | a :: b :: rest, _ =>
      cases first : pair a b with
      | true => simp [chars, first, width_pair first]
      | false => simp [chars, first, width_single first]

/-- The first character is as wide in a prefix that holds it. -/
theorem width_take (enough : width pair s ≤ n) : width pair (s.take n) = width pair s := by
  match s, n with
  | [], _ => simp
  | [_], 0 => simp [width] at enough
  | [_], n + 1 => simp
  | a :: b :: rest, 0 =>
      have pos := width_pos pair (List.cons_ne_nil a (b :: rest))
      omega
  | a :: b :: rest, 1 =>
      cases first : pair a b with
      | true =>
          rw [width_pair first] at enough
          omega
      | false =>
          rw [width_single first]
          rfl
  | a :: b :: rest, n + 2 => rfl

theorem chars_take_add (some : s ≠ []) (m : Nat) :
    chars pair (s.take (width pair s + m)) = chars pair ((s.drop (width pair s)).take m) + 1 := by
  have pos := width_pos pair some
  have still : s.take (width pair s + m) ≠ [] := by
    rw [Ne, List.take_eq_nil_iff]
    rintro (zero | none)
    · omega
    · exact some none
  rw [chars_step still, width_take (Nat.le_add_right _ _), List.drop_take, Nat.add_sub_cancel_left]

theorem chars_eq_zero : chars pair s = 0 ↔ s = [] := by
  constructor
  · intro none
    by_contra some
    rw [chars_step some] at none
    cases none
  · rintro rfl
    rfl

variable (pair) in
theorem cut_le (k : Nat) (s : List α) : cut pair k s ≤ s.length := by
  induction k generalizing s with
  | zero => exact Nat.zero_le _
  | succ k ih =>
      have first := width_le pair s
      have rest := ih (s.drop (width pair s))
      rw [List.length_drop] at rest
      rw [cut]
      omega

theorem chars_take_cut (k : Nat) (s : List α) :
    chars pair (s.take (cut pair k s)) = min (chars pair s) k := by
  induction k generalizing s with
  | zero => simp [cut, chars]
  | succ k ih =>
      by_cases none : s = []
      · subst none
        simp [chars]
      · rw [cut, chars_take_add none, ih, chars_step none, Nat.succ_min_succ]

/-- The end of a text splits nothing. -/
theorem not_splits_length (s : List α) : ¬ Splits pair s s.length := by
  rintro ⟨i, a, b, last, -, beyond, -⟩
  rw [← last, List.getElem?_eq_none (Nat.le_refl _)] at beyond
  cases beyond

theorem Splits.drop {m : Nat} (splits : Splits pair (s.drop m) n) : Splits pair s (m + n) := by
  obtain ⟨i, a, b, rfl, first, second, paired⟩ := splits
  rw [List.getElem?_drop] at first second
  exact ⟨m + i, a, b, rfl, first, second, paired⟩

theorem Splits.of_add {m : Nat} (splits : Splits pair s (m + n)) (some : 0 < n) :
    Splits pair (s.drop m) n := by
  obtain ⟨i, a, b, place, first, second, paired⟩ := splits
  obtain ⟨n, rfl⟩ := Nat.exists_eq_add_of_lt some
  obtain rfl : i = m + n := by omega
  refine ⟨n, a, b, by omega, ?_, ?_, paired⟩
  · rw [List.getElem?_drop]
    exact first
  · rw [List.getElem?_drop]
    exact second

/-- The first character ends between characters. -/
theorem not_splits_width (apart : ∀ a b c, pair a b = true → pair b c = false) (s : List α) :
    ¬ Splits pair s (width pair s) := by
  rintro ⟨i, a, b, place, first, second, paired⟩
  match s with
  | [] => cases first
  | [_] =>
      obtain rfl : i = 0 := by simpa [width] using place.symm
      cases second
  | c :: d :: rest =>
      cases front : pair c d with
      | true =>
          rw [width_pair front] at place
          obtain rfl : i = 1 := by omega
          cases first
          rw [apart _ _ b front] at paired
          cases paired
      | false =>
          rw [width_single front] at place
          obtain rfl : i = 0 := by omega
          cases first
          cases second
          rw [front] at paired
          cases paired

theorem not_splits_cut (apart : ∀ a b c, pair a b = true → pair b c = false) (k : Nat) (s : List α) :
    ¬ Splits pair s (cut pair k s) := by
  induction k generalizing s with
  | zero =>
      rintro ⟨i, a, b, place, -⟩
      cases place
  | succ k ih =>
      intro splits
      rw [cut] at splits
      rcases Nat.eq_zero_or_pos (cut pair k (s.drop (width pair s))) with none | some
      · rw [none] at splits
        exact not_splits_width apart s splits
      · exact ih _ (splits.of_add some)

/-- **No longer prefix has so few characters and splits no pair.** -/
theorem le_cut (inside : n ≤ s.length) (whole : ¬ Splits pair s n) (few : chars pair (s.take n) ≤ k) :
    n ≤ cut pair k s := by
  induction k generalizing s n with
  | zero =>
      have none := chars_eq_zero.1 (Nat.le_zero.1 few)
      rcases List.take_eq_nil_iff.1 none with zero | nil
      · omega
      · rw [nil] at inside
        exact inside
  | succ k ih =>
      by_cases nil : s = []
      · rw [nil] at inside
        exact Nat.le_trans inside (Nat.zero_le _)
      by_cases zero : n = 0
      · omega
      have first : width pair s ≤ n := by
        by_contra shorter
        match s, nil with
        | [_], _ =>
            rw [width] at shorter
            omega
        | a :: b :: rest, _ =>
            cases front : pair a b with
            | true =>
                rw [width_pair front] at shorter
                exact whole ⟨0, a, b, by omega, rfl, rfl, front⟩
            | false =>
                rw [width_single front] at shorter
                omega
      obtain ⟨m, rfl⟩ := Nat.exists_eq_add_of_le first
      rw [chars_take_add nil] at few
      have later := @ih (s.drop (width pair s)) m (by rw [List.length_drop]; omega)
        (fun splits => whole splits.drop) (by omega)
      rw [cut]
      omega

/-- A text of so few characters is not cut. -/
theorem cut_eq_length (few : chars pair s ≤ k) : cut pair k s = s.length := by
  refine Nat.le_antisymm (cut_le pair k s) (le_cut (Nat.le_refl _) (not_splits_length s) ?_)
  rw [List.take_length]
  exact few

theorem chars_le_length (s : List α) : chars pair s ≤ s.length := by
  fun_induction chars pair s with
  | case1 => exact Nat.le_refl _
  | case2 => exact Nat.le_refl _
  | case3 a b rest paired ih =>
      simp only [List.length_cons]
      omega
  | case4 a b rest single ih =>
      simp only [List.length_cons] at ih ⊢
      omega

end Imf.Lib
