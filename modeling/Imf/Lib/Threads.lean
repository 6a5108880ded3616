/-
# Imf.Lib.Threads -- threads in a list, one of which goes on

An interleaving of threads is a list of what each of them does next.  A step picks one by its
index, which then does something else next or has ended (`goOn`); the others are what is left of
the list without it.
-/
import Mathlib.Data.List.Basic

namespace Imf.Lib

set_option autoImplicit false

universe u

variable {α : Type u}

/-- Thread `k` does `next` next, or has ended. -/
def goOn (threads : List α) (k : Nat) : Option α → List α
  | some next => threads.set k next
  | none => threads.eraseIdx k

section Members

variable {threads : List α} {k : Nat} {thread other : α} (picked : threads[k]? = some thread)

include picked

/-- A thread is the one that is picked, or one of the others. -/
theorem mem_threads_iff : other ∈ threads ↔ other = thread ∨ other ∈ threads.eraseIdx k := by
  rw [List.mem_eraseIdx_iff_getElem?, List.mem_iff_getElem?]
  constructor
  · rintro ⟨i, there⟩
    by_cases same : i = k
    · rw [same, picked] at there
      exact .inl (Option.some.inj there).symm
    · exact .inr ⟨i, same, there⟩
  · rintro (rfl | ⟨i, -, there⟩)
    · exact ⟨k, picked⟩
    · exact ⟨i, there⟩

theorem mem_goOn_iff {next : Option α} : other ∈ goOn threads k next ↔ next = some other ∨
    other ∈ threads.eraseIdx k := by
  cases next with
  | none => exact (or_iff_right nofun).symm
  | some next =>
      have inside : k < threads.length := (List.getElem?_eq_some_iff.1 picked).1
      have now : (threads.set k next)[k]? = some next := by
        rw [List.getElem?_set_self inside]
      rw [goOn, mem_threads_iff now, List.eraseIdx_set_eq, Option.some.injEq, eq_comm]

/-- A thread is what the picked one does next, or was there before. -/
theorem next_or_mem {next : Option α} (member : other ∈ goOn threads k next) :
    next = some other ∨ other ∈ threads := by
  rcases (mem_goOn_iff picked).1 member with on | rest
  · exact .inl on
  · exact .inr ((mem_threads_iff picked).2 (.inr rest))

/-- What holds of all threads, and of what the picked one does next, holds of all afterwards. -/
theorem forall_mem_goOn {p : α → Prop} {next : Option α} (on : ∀ later ∈ next, p later)
    (all : ∀ other ∈ threads, p other) : ∀ other ∈ goOn threads k next, p other := by
  intro other member
  rcases next_or_mem picked member with later | before
  · exact on other later
  · exact all other before

/-- One of the threads still is as it was, when the picked one goes on to be so. -/
theorem exists_mem_goOn {p : α → Prop} {next : Option α} (there : ∃ other ∈ threads, p other)
    (goesOn : p thread → ∃ other, next = some other ∧ p other) :
    ∃ other ∈ goOn threads k next, p other := by
  obtain ⟨other, member, holds⟩ := there
  rcases (mem_threads_iff picked).1 member with rfl | rest
  · obtain ⟨other, on, holds⟩ := goesOn holds
    exact ⟨other, (mem_goOn_iff picked).2 (.inl on), holds⟩
  · exact ⟨other, (mem_goOn_iff picked).2 (.inr rest), holds⟩

end Members

end Imf.Lib
