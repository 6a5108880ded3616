/-
# Imf.Lib.Separated -- fields between separators

Texts that are put together from fields and a separator.  `cut_first` and `cut_last` take the first
and the last field off again where the separator does not occur in it, whatever the rest is, so a
text with one field that is free can be read from both ends.

A number in decimal is such a field (`writeInt_clean`), and no two have the same digits
(`decimal_injective`).
-/
import Imf.Lib.Json

namespace Imf.Lib

set_option autoImplicit false

universe u

variable {α : Type u} {sep : α}

theorem cut_first {a b r s : List α} (clean : sep ∉ a) (clean' : sep ∉ b) :
    a ++ sep :: r = b ++ sep :: s ↔ a = b ∧ r = s := by
  constructor
  · intro same
    induction a generalizing b with
    | nil =>
        cases b with
        | nil => exact ⟨rfl, (List.cons.inj same).2⟩
        | cons y b => exact absurd (List.cons.inj same).1 fun head => clean' (head ▸ List.mem_cons_self)
    | cons x a ih =>
        cases b with
        | nil => exact absurd (List.cons.inj same).1 fun head => clean (head ▸ List.mem_cons_self)
        | cons y b =>
            obtain ⟨head, tail⟩ := List.cons.inj same
            have apart := ih (fun inside => clean (List.mem_cons_of_mem _ inside))
              (fun inside => clean' (List.mem_cons_of_mem _ inside)) tail
            exact ⟨by rw [head, apart.1], apart.2⟩
  · rintro ⟨rfl, rfl⟩
    rfl

theorem cut_last {a b r s : List α} (clean : sep ∉ a) (clean' : sep ∉ b) :
    r ++ sep :: a = s ++ sep :: b ↔ r = s ∧ a = b := by
  have back := @cut_first α sep a.reverse b.reverse r.reverse s.reverse
    (by simpa using clean) (by simpa using clean')
  rw [← List.reverse_inj]
  simp only [List.reverse_append, List.reverse_cons, List.append_assoc, List.singleton_append]
  rw [back, List.reverse_inj, List.reverse_inj]
  exact and_comm

/-! ## Numbers -/

/-- The decimal text of a number. -/
def decimal (n : Int) : String := String.ofList (Json.writeInt n)

theorem decimal_injective {m n : Int} (same : decimal m = decimal n) : m = n := by
  have digits : Json.writeInt m ++ [] = Json.writeInt n ++ [] := by
    rw [String.ofList_inj.1 same]
  have ends : Json.NoDigit [] := nofun
  have first := Json.readInt_writeInt m ends
  rw [digits, Json.readInt_writeInt n ends] at first
  cases first
  rfl

theorem writeInt_clean {c : Char} (noDigit : c.isDigit = false) (noSign : c ≠ '-') (n : Int) :
    c ∉ Json.writeInt n := by
  have digits : ∀ m : Nat, c ∉ Nat.toDigits 10 m := by
    intro m inside
    rw [Json.toDigits_digits m c inside] at noDigit
    cases noDigit
  cases n with
  | ofNat m => exact digits m
  | negSucc m =>
      intro inside
      rcases List.mem_cons.1 inside with sign | digit
      · exact noSign sign
      · exact digits _ digit

end Imf.Lib
