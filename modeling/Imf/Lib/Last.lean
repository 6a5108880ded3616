/-
# Imf.Lib.Last -- the last element that satisfies a test

Reverse scans of a vector: `findLast?` returns the last match, `modifyLast` rewrites
it in place.  `modifyLast_split` is the one fact about the rewrite that its callers
need: what stands around the match is untouched, and nothing behind it matches.
-/
import Mathlib.Data.List.Basic

namespace Imf.Lib

set_option autoImplicit false

universe u

variable {α : Type u}

def findLast? (p : α → Bool) (l : List α) : Option α := l.reverse.find? p

/-- Rewrite the last element that satisfies `p`; `none` when there is none. -/
def modifyLast (p : α → Bool) (f : α → α) : List α → Option (List α)
  | [] => none
  | a :: l =>
      match modifyLast p f l with
      | some l' => some (a :: l')
      | none => if p a then some (f a :: l) else none

theorem findLast?_eq_none {p : α → Bool} {l : List α} :
    findLast? p l = none ↔ ∀ a ∈ l, p a = false := by
  simp [findLast?]

theorem findLast?_eq_some {p : α → Bool} {l : List α} {a : α} (found : findLast? p l = some a) :
    a ∈ l ∧ p a = true :=
  ⟨List.mem_reverse.1 (List.mem_of_find?_eq_some found), List.find?_some found⟩

theorem findLast?_append_of_match {p : α → Bool} (l : List α) {a : α} (hit : p a = true) :
    findLast? p (l ++ [a]) = some a := by
  simp [findLast?, hit]

theorem findLast?_append_of_miss {p : α → Bool} (l : List α) {a : α} (miss : p a = false) :
    findLast? p (l ++ [a]) = findLast? p l := by
  simp [findLast?, miss]

theorem findLast?_split {p : α → Bool} (l : List α) {a : α} (hit : p a = true) {l' : List α}
    (misses : ∀ b ∈ l', p b = false) : findLast? p (l ++ a :: l') = some a := by
  have none : l'.reverse.find? p = none := by simpa using misses
  simp [findLast?, List.find?_append, none, hit]

/-- A scan that only wants elements of a sublist can be made there. -/
theorem findLast?_filter {p q : α → Bool} (wanted : ∀ a, p a = true → q a = true) (l : List α) :
    findLast? p (l.filter q) = findLast? p l := by
  unfold findLast?
  rw [← List.filter_reverse, List.find?_filter]
  congr 1
  funext a
  by_cases hit : p a = true
  · simp [hit, wanted a hit]
  · simp [hit]

theorem modifyLast_eq_none {p : α → Bool} {f : α → α} {l : List α} :
    modifyLast p f l = none ↔ ∀ a ∈ l, p a = false := by
  induction l with
  | nil => simp [modifyLast]
  | cons a l ih =>
      cases rest : modifyLast p f l with
      | none =>
          rw [rest] at ih
          have none := ih.1 rfl
          by_cases hit : p a = true
          · simp [modifyLast, rest, hit]
          · simpa [modifyLast, rest, hit] using none
      | some l' =>
          rw [rest] at ih
          simp only [modifyLast, rest, List.forall_mem_cons, reduceCtorEq, false_iff, not_and]
          intro _ none
          exact absurd (ih.2 none) (by simp)

/-- **The rewrite is local.** -/
theorem modifyLast_split {p : α → Bool} {f : α → α} {l l' : List α}
    (rewritten : modifyLast p f l = some l') :
    ∃ before a after, l = before ++ a :: after ∧ l' = before ++ f a :: after ∧ p a = true ∧
      ∀ b ∈ after, p b = false := by
  induction l generalizing l' with
  | nil => simp [modifyLast] at rewritten
  | cons x l ih =>
      cases rest : modifyLast p f l with
      | none =>
          by_cases hit : p x = true
          · simp only [modifyLast, rest, hit, if_true, Option.some.injEq] at rewritten
            exact ⟨[], x, l, rfl, rewritten.symm, hit, modifyLast_eq_none.1 rest⟩
          · simp [modifyLast, rest, hit] at rewritten
      | some l₁ =>
          simp only [modifyLast, rest, Option.some.injEq] at rewritten
          obtain ⟨before, a, after, rfl, rfl, hit, none⟩ := ih rest
          exact ⟨x :: before, a, after, rfl, rewritten.symm, hit, none⟩

end Imf.Lib
