/-
# Imf.Lib.Swap -- two lists that trade places with every append

A double-buffered queue that appends each incoming block to its spare list and
then swaps the two lists.  Blocks are kept newest first.  `swapped_order` says
exactly when reading the spare list and then the active one gives the blocks in
the order of their arrival.
-/
import Mathlib.Data.List.Basic
import Mathlib.Tactic.ByContra

namespace Imf.Lib

set_option autoImplicit false

universe u

variable {α : Type u}

/-- The active and the spare list after the given blocks, newest first. -/
def swapped : List (List α) → List α × List α
  | [] => ([], [])
  | block :: blocks => ((swapped blocks).2 ++ block, (swapped blocks).1)

/-- No nonempty block at an even position behind a nonempty one at an odd position, when
positions are counted from `k`. -/
def InStep (k : Nat) (blocks : List (List α)) : Prop :=
  ∀ p q b c, p < q → blocks[p]? = some b → blocks[q]? = some c → b ≠ [] → c ≠ [] →
    ¬ ((p + k) % 2 = 1 ∧ (q + k) % 2 = 0)

theorem inStep_add_two (k : Nat) (blocks : List (List α)) :
    InStep (k + 2) blocks ↔ InStep k blocks := by
  have same : ∀ p, (p + (k + 2)) % 2 = (p + k) % 2 := fun p => by omega
  simp only [InStep, same]

theorem inStep_cons (k : Nat) (block : List α) (blocks : List (List α)) :
    InStep k (block :: blocks) ↔ InStep (k + 1) blocks ∧
      (block ≠ [] → k % 2 = 1 → ∀ q c, blocks[q]? = some c → c ≠ [] → (q + 1 + k) % 2 ≠ 0) := by
  constructor
  · intro inStep
    constructor
    · intro p q b c lt atP atQ
      have shifted := inStep (p + 1) (q + 1) b c (by omega) (by simpa using atP) (by simpa using atQ)
      rwa [Nat.add_right_comm, Nat.add_right_comm q 1 k, Nat.add_assoc, Nat.add_assoc] at shifted
    · intro nonempty odd q c atQ left even
      exact inStep 0 (q + 1) block c (by omega) rfl (by simpa using atQ) nonempty left
        ⟨by omega, even⟩
  · rintro ⟨behind, first⟩ p q b c lt atP atQ left right ⟨odd, even⟩
    obtain ⟨q, rfl⟩ : ∃ q', q = q' + 1 := ⟨q - 1, by omega⟩
    rw [List.getElem?_cons_succ] at atQ
    cases p with
    | zero =>
        cases Option.some.inj atP
        exact first left (by omega) q c atQ right even
    | succ p =>
        rw [List.getElem?_cons_succ] at atP
        exact behind p q b c (by omega) atP atQ left right ⟨by omega, by omega⟩

/-- The active list holds the blocks at even positions, the spare list the others. -/
theorem swapped_nil (blocks : List (List α)) :
    ((swapped blocks).1 = [] ↔ ∀ q c, blocks[q]? = some c → q % 2 = 0 → c = []) ∧
      ((swapped blocks).2 = [] ↔ ∀ q c, blocks[q]? = some c → q % 2 = 1 → c = []) := by
  induction blocks with
  | nil => simp [swapped]
  | cons block blocks ih =>
      constructor
      · rw [swapped, List.append_eq_nil_iff, ih.2]
        constructor
        · rintro ⟨older, rfl⟩ q c atQ even
          cases q with
          | zero => exact (Option.some.inj atQ).symm
          | succ q => exact older q c (by simpa using atQ) (by omega)
        · intro all
          exact ⟨fun q c atQ odd => all (q + 1) c (by simpa using atQ) (by omega),
            all 0 block rfl rfl⟩
      · rw [swapped, ih.1]
        constructor
        · intro older q c atQ odd
          cases q with
          | zero => cases odd
          | succ q => exact older q c (by simpa using atQ) (by omega)
        · intro all q c atQ even
          exact all (q + 1) c (by simpa using atQ) (by omega)

theorem swapped_perm (blocks : List (List α)) :
    ((swapped blocks).1 ++ (swapped blocks).2).Perm blocks.reverse.flatten := by
  induction blocks with
  | nil => exact .refl _
  | cons block blocks ih =>
      simp only [swapped, List.reverse_cons, List.flatten_append, List.flatten_cons,
        List.flatten_nil, List.append_nil]
      calc ((swapped blocks).2 ++ block) ++ (swapped blocks).1
          |>.Perm ((swapped blocks).1 ++ ((swapped blocks).2 ++ block)) := List.perm_append_comm
        _ = ((swapped blocks).1 ++ (swapped blocks).2) ++ block := (List.append_assoc _ _ _).symm
        _ |>.Perm (blocks.reverse.flatten ++ block) := ih.append_right block

/-- Two lists that end in different lists of a duplicate-free whole. -/
theorem append_right_nil {xs ys zs block : List α} (distinct : (xs ++ block ++ ys).Nodup)
    (nonempty : block ≠ []) (same : xs ++ block ++ ys = zs ++ block) : ys = [] ∧ xs = zs := by
  have nil : ys = [] := by
    by_contra left
    have lastY : (xs ++ block ++ ys).getLast? = ys.getLast? := by
      rw [List.getLast?_append_of_ne_nil _ left]
    have lastB : (zs ++ block).getLast? = block.getLast? := by
      rw [List.getLast?_append_of_ne_nil _ nonempty]
    rw [same, lastB] at lastY
    have inBlock : block.getLast nonempty ∈ block := List.getLast_mem nonempty
    have inYs : block.getLast nonempty ∈ ys := by
      rw [List.getLast?_eq_some_getLast nonempty, List.getLast?_eq_some_getLast left] at lastY
      rw [Option.some.inj lastY]
      exact List.getLast_mem left
    exact (List.nodup_append.1 distinct).2.2 _ (List.mem_append_right _ inBlock) _ inYs rfl
  subst nil
  rw [List.append_nil] at same
  exact ⟨rfl, List.append_cancel_right same⟩

/-- **When the two lists read in order.**  The spare list and then the active one give the
blocks in their order of arrival exactly when no nonempty block at an even
distance from the newest one is older than a nonempty block at an odd distance; the
other way round with the parities exchanged. -/
theorem swapped_order (blocks : List (List α)) (distinct : blocks.reverse.flatten.Nodup) :
    ((swapped blocks).2 ++ (swapped blocks).1 = blocks.reverse.flatten ↔ InStep 0 blocks) ∧
      ((swapped blocks).1 ++ (swapped blocks).2 = blocks.reverse.flatten ↔ InStep 1 blocks) := by
  induction blocks with
  | nil => simp [swapped, InStep]
  | cons block blocks ih =>
      have whole : (block :: blocks).reverse.flatten = blocks.reverse.flatten ++ block := by simp
      rw [whole] at distinct ⊢
      obtain ⟨spareFirst, activeFirst⟩ := ih (List.nodup_append.1 distinct).1
      constructor
      · rw [inStep_cons, swapped, ← List.append_assoc, List.append_cancel_right_eq, activeFirst]
        simp
      · rw [inStep_cons, inStep_add_two, ← spareFirst, swapped]
        by_cases empty : block = []
        · simp [empty]
        · have distinct' : ((swapped blocks).2 ++ block ++ (swapped blocks).1).Nodup := by
            refine (List.Perm.nodup_iff ?_).2 distinct
            rw [← whole]
            exact swapped_perm (block :: blocks)
          have evens := (swapped_nil blocks).1
          constructor
          · intro same
            obtain ⟨nil, spare⟩ := append_right_nil distinct' empty same
            refine ⟨by rw [nil, List.append_nil, spare], fun _ _ q c atQ left even => ?_⟩
            exact left (evens.1 nil q c atQ (by omega))
          · rintro ⟨spare, older⟩
            have nil : (swapped blocks).1 = [] := by
              apply evens.2
              intro q c atQ even
              by_contra left
              exact older empty rfl q c atQ left (by omega)
            rw [nil, List.append_nil] at spare ⊢
            rw [spare]

end Imf.Lib
