/-
# Imf.Lib.Balance -- what comes in, what goes out and what is held

`along` adds up what the steps of a run come to.  `run_balance` is the rule of the books: where every
allowed step leaves as much held and gone as was held before and came in, so does every allowed run.
-/
import Mathlib.Algebra.Group.Basic
import Mathlib.Algebra.Group.Nat.Defs
import Imf.Lib.Run

namespace Imf.Lib

set_option autoImplicit false

universe u v w

variable {σ : Type u} {ε : Type v} {μ : Type w} [AddCommMonoid μ] {step : σ → ε → σ}

/-- What the steps of a run come to. -/
def along (step : σ → ε → σ) (measure : σ → ε → μ) : σ → List ε → μ
  | _, [] => 0
  | s, e :: es => measure s e + along step measure (step s e) es

/-- The number of events of a kind. -/
theorem along_count (step : σ → ε → σ) (p : ε → Bool) (s : σ) (es : List ε) :
    along step (fun _ e => if p e then 1 else 0) s es = es.countP p := by
  induction es generalizing s with
  | nil => rfl
  | cons e es ih => rw [along, ih, List.countP_cons, Nat.add_comm]

/-- **Books that every step balances are balanced by every run.** -/
theorem run_balance {ok : σ → ε → Prop} {held : σ → μ} {gain loss : σ → ε → μ}
    (balanced : ∀ s e, ok s e → held (step s e) + loss s e = held s + gain s e) {s : σ} {es : List ε}
    (allowed : Meets step ok s es) :
    held (run step s es) + along step loss s es = held s + along step gain s es := by
  induction es generalizing s with
  | nil => rfl
  | cons e es ih =>
      have first := balanced s e allowed.1
      have rest := ih allowed.2
      rw [run_cons, along, along]
      calc
        held (run step (step s e) es) + (loss s e + along step loss (step s e) es)
            = held (run step (step s e) es) + along step loss (step s e) es + loss s e := by
              rw [add_comm (loss s e), add_assoc]
        _ = held (step s e) + loss s e + along step gain (step s e) es := by
              rw [rest, add_right_comm]
        _ = held s + (gain s e + along step gain (step s e) es) := by
              rw [first, add_assoc]

end Imf.Lib
