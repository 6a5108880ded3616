/-
# Imf.Lib.Backed -- a value in memory and the text a store has of it

A `Codec` writes a value down and reads it back.  `Held` is a value that is written through to a
store after every change: the store may refuse, a restart loses the memory, and a load puts what the
store has in its place.  `Ledger` says what that is for, without texts: the value that is live, and
the value that a load would give.

* `run_agrees`: `Held` does what `Ledger` does, over every run of accesses.
* `run_accounted`: whatever is refused, both values come from the changes that were made.
* `current_changes`: where nothing is refused, the store stays up to date.
-/
import Imf.Lib.Run

namespace Imf.Lib

set_option autoImplicit false

universe u v

/-- `decode` reads a text into a memory, of which it may keep a part. -/
structure Codec (α : Type u) (τ : Type v) where
  fresh : α
  encode : α → τ
  decode : α → τ → Option α

/-- What is written down is read back, whatever the memory was. -/
def Codec.Lawful {α : Type u} {τ : Type v} (codec : Codec α τ) : Prop :=
  ∀ memory value, codec.decode memory (codec.encode value) = some value

inductive Access (α : Type u) where
  | change (f : α → α) (accepted : Bool)
  | restart
  | load (readable : Bool)

structure Held (α : Type u) (τ : Type v) where
  memory : α
  stored : Option τ
  deriving DecidableEq

structure Ledger (α : Type u) where
  live : α
  kept : α
  deriving DecidableEq

section Steps

variable {α : Type u} {τ : Type v}

/-- What a load makes of the store. -/
def Codec.reading (codec : Codec α τ) (memory : α) (stored : Option τ) : α :=
  (stored.bind (codec.decode memory)).getD codec.fresh

def Codec.step (codec : Codec α τ) (held : Held α τ) : Access α → Held α τ
  | .change f accepted =>
      { memory := f held.memory
        stored := if accepted then some (codec.encode (f held.memory)) else held.stored }
  | .restart => { held with memory := codec.fresh }
  | .load readable =>
      { held with memory := if readable then codec.reading held.memory held.stored else codec.fresh }

/-- `fresh`: what memory starts from. -/
def Ledger.step (fresh : α) (ledger : Ledger α) : Access α → Ledger α
  | .change f accepted =>
      { live := f ledger.live, kept := if accepted then f ledger.live else ledger.kept }
  | .restart => { ledger with live := fresh }
  | .load readable => { ledger with live := if readable then ledger.kept else fresh }

variable {codec : Codec α τ} {fresh : α} {ledger : Ledger α}

/-- The memory is the live value, and any memory that loads the store gets the kept one. -/
structure Agrees (codec : Codec α τ) (held : Held α τ) (ledger : Ledger α) : Prop where
  memory : held.memory = ledger.live
  stored : ∀ memory, codec.reading memory held.stored = ledger.kept

theorem agrees_empty (codec : Codec α τ) :
    Agrees codec ⟨codec.fresh, none⟩ ⟨codec.fresh, codec.fresh⟩ where
  memory := rfl
  stored _ := rfl

theorem reading_encode (lawful : codec.Lawful) (memory value : α) :
    codec.reading memory (some (codec.encode value)) = value := by
  simp [Codec.reading, lawful memory value]

theorem Agrees.step (lawful : codec.Lawful) {held : Held α τ} (agrees : Agrees codec held ledger)
    (access : Access α) : Agrees codec (codec.step held access) (ledger.step codec.fresh access) := by
  obtain ⟨same, stored⟩ := agrees
  cases access with
  | change f accepted =>
      refine ⟨congrArg f same, fun memory => ?_⟩
      cases accepted with
      | false => exact stored memory
      | true =>
          have written := reading_encode lawful memory (f held.memory)
          simpa [Codec.step, Ledger.step, same] using written
  | restart => exact ⟨rfl, stored⟩
  | load readable =>
      refine ⟨?_, stored⟩
      cases readable with
      | false => rfl
      | true => exact stored held.memory

/-- **Whatever is refused or lost on the way, the store reads as the ledger says.** -/
theorem run_agrees (lawful : codec.Lawful) {held : Held α τ} (agrees : Agrees codec held ledger)
    (accesses : List (Access α)) :
    Agrees codec (run codec.step held accesses) (run (Ledger.step codec.fresh) ledger accesses) := by
  induction accesses generalizing held ledger with
  | nil => exact agrees
  | cons access accesses ih => exact ih (agrees.step lawful access)

/-- Both values of a ledger. -/
def Ledger.Both (P : α → Prop) (ledger : Ledger α) : Prop := P ledger.live ∧ P ledger.kept

theorem Ledger.Both.step {P : α → Prop} (start : P fresh) (both : ledger.Both P) {access : Access α}
    (changes : ∀ f accepted, access = .change f accepted → P ledger.live → P (f ledger.live)) :
    (ledger.step fresh access).Both P := by
  obtain ⟨live, kept⟩ := both
  cases access with
  | change f accepted =>
      have changed := changes f accepted rfl live
      refine ⟨changed, ?_⟩
      cases accepted with
      | false => exact kept
      | true => exact changed
  | restart => exact ⟨start, kept⟩
  | load readable =>
      refine ⟨?_, kept⟩
      cases readable with
      | false => exact start
      | true => exact kept

/-- What the changes keep holds of the value that is live and of the one that would be loaded. -/
theorem run_accounted {P : α → Prop} (start : P fresh) {accesses : List (Access α)}
    (changes : ∀ f accepted, Access.change f accepted ∈ accesses → ∀ value, P value → P (f value))
    (both : ledger.Both P) : (run (Ledger.step fresh) ledger accesses).Both P :=
  run_members
    (fun _ _ member both => both.step start fun f accepted same live =>
      changes f accepted (same ▸ member) _ live) both

/-- Nothing that was written is missing from the store. -/
def Ledger.Current (ledger : Ledger α) : Prop := ledger.kept = ledger.live

theorem current_changes {accesses : List (Access α)}
    (accepted : ∀ access ∈ accesses, ∃ f, access = .change f true) (current : ledger.Current) :
    (run (Ledger.step fresh) ledger accesses).Current := by
  refine run_members (fun ledger access member current => ?_) current
  obtain ⟨f, rfl⟩ := accepted access member
  rfl

end Steps

end Imf.Lib
