/-
# Imf.Ipc.PrivateCommand -- which private commands are valid

A private command is a map of a few entries.  `IsPrivateCommandValid` counts them and adds up their
sizes; a system command, one that maps `sys_cmd` to 1, is to have one entry more than others.  But
`IsSystemPrivateCommand`, which says what a system command is, has a limit of its own, the smaller
one, and so says no to every map for which the larger limit would matter.

`valid_as_intended_iff` says that the two predicates together do what each of them is for on every
map except the system commands of six entries, and that no command of five entries can be made
longer.  `sixth_entry_refused` is such a command.
-/
import Imf.Ipc.ClientInfo
import Mathlib.Algebra.GroupWithZero.Nat

namespace Imf.Ipc

set_option autoImplicit false

open Lib (EntryMap)

/-! ## The predicates -/

def MAX_PRIVATE_COMMAND_SIZE : Nat := 32 * 1024

def MAX_PRIVATE_COMMAND_COUNT : Nat := 5

def MAX_SYS_PRIVATE_COMMAND_COUNT : Nat := MAX_PRIVATE_COMMAND_COUNT + 1

/-- The bytes of `sys_cmd`. -/
def SYSTEM_CMD_KEY : Str := [115, 121, 115, 95, 99, 109, 100]

/-- `valueSize`, the size of a value by its type. -/
def PrivateDataValue.size : PrivateDataValue → Nat
  | .string value => value.length
  | .bool _ => 1
  | .number _ => 4

/-- `totalSize`.  The entries are in memory together, so the sum does not wrap. -/
def totalSize (privateCommand : ValueMap) : Nat :=
  privateCommand.entries.foldl (fun totalSize iter => totalSize + iter.1.length + iter.2.size) 0

def isSystemPrivateCommand (privateCommand : ValueMap) : Bool :=
  let privateCommandSize := privateCommand.entries.length
  if privateCommandSize = 0 ∨ privateCommandSize > MAX_PRIVATE_COMMAND_COUNT then false
  else
    match privateCommand.find SYSTEM_CMD_KEY with
    | some (.number numberValue) => numberValue == 1
    | _ => false

def isPrivateCommandValid (privateCommand : ValueMap) : Bool :=
  let privateCommandSize := privateCommand.entries.length
  let maxSize := if isSystemPrivateCommand privateCommand then MAX_SYS_PRIVATE_COMMAND_COUNT
    else MAX_PRIVATE_COMMAND_COUNT
  if privateCommandSize = 0 ∨ privateCommandSize > maxSize then false
  else if totalSize privateCommand > MAX_PRIVATE_COMMAND_SIZE then false
  else true

/-! ## What they are for -/

/-- The command is a system command, whatever its length. -/
def NamesSystem (privateCommand : ValueMap) :
    Prop := privateCommand.find SYSTEM_CMD_KEY = some (.number 1)

instance (privateCommand : ValueMap) : Decidable (NamesSystem privateCommand) :=
  inferInstanceAs (Decidable (_ = _))

/-- The keys and values are 32 KB at most. -/
def FitsSize (privateCommand : ValueMap) : Prop :=
  (privateCommand.entries.map fun entry => entry.1.length + entry.2.size).sum ≤ MAX_PRIVATE_COMMAND_SIZE

instance (privateCommand : ValueMap) : Decidable (FitsSize privateCommand) :=
  inferInstanceAs (Decidable (_ ≤ _))

/-- A command that is not empty, within the limit of its kind and not too large. -/
def Intended (privateCommand : ValueMap) : Prop :=
  0 < privateCommand.entries.length ∧
    privateCommand.entries.length ≤
      (if NamesSystem privateCommand then MAX_SYS_PRIVATE_COMMAND_COUNT
        else MAX_PRIVATE_COMMAND_COUNT) ∧
    FitsSize privateCommand

instance (privateCommand : ValueMap) : Decidable (Intended privateCommand) :=
  inferInstanceAs (Decidable (_ ∧ _ ∧ _))

theorem foldl_size (entries : List (Str × PrivateDataValue)) (start : Nat) :
    entries.foldl (fun totalSize iter => totalSize + iter.1.length + iter.2.size) start =
      start + (entries.map fun entry => entry.1.length + entry.2.size).sum := by
  induction entries generalizing start with
  | nil => rfl
  | cons entry entries ih =>
      rw [List.foldl_cons, ih, List.map_cons, List.sum_cons]
      omega

theorem totalSize_le_iff (privateCommand : ValueMap) :
    totalSize privateCommand ≤ MAX_PRIVATE_COMMAND_SIZE ↔ FitsSize privateCommand := by
  rw [totalSize, foldl_size, Nat.zero_add, FitsSize]

/-- The classifier admits a system command up to the smaller limit only. -/
theorem isSystemPrivateCommand_iff (privateCommand : ValueMap) :
    isSystemPrivateCommand privateCommand = true ↔
      NamesSystem privateCommand ∧ privateCommand.entries.length ≤ MAX_PRIVATE_COMMAND_COUNT := by
  have nonempty : NamesSystem privateCommand → 0 < privateCommand.entries.length := by
    intro system
    exact List.length_pos_of_mem (EntryMap.find_eq_some.1 system)
  unfold isSystemPrivateCommand
  dsimp only
  split
  · rename_i outside
    refine iff_of_false Bool.false_ne_true ?_
    rintro ⟨system, short⟩
    have := nonempty system
    omega
  · rename_i inside
    have short : privateCommand.entries.length ≤ MAX_PRIVATE_COMMAND_COUNT := by omega
    rw [and_iff_left short, NamesSystem]
    split
    · rename_i numberValue found
      rw [found, beq_iff_eq, Option.some.injEq, PrivateDataValue.number.injEq]
    · rename_i other
      exact iff_of_false Bool.false_ne_true fun found => other 1 found

/-- The larger limit never applies. -/
theorem isPrivateCommandValid_iff (privateCommand : ValueMap) :
    isPrivateCommandValid privateCommand = true ↔
      0 < privateCommand.entries.length ∧ privateCommand.entries.length ≤ MAX_PRIVATE_COMMAND_COUNT ∧
        FitsSize privateCommand := by
  have limit : privateCommand.entries.length ≤ (if isSystemPrivateCommand privateCommand then
      MAX_SYS_PRIVATE_COMMAND_COUNT else MAX_PRIVATE_COMMAND_COUNT) ↔
      privateCommand.entries.length ≤ MAX_PRIVATE_COMMAND_COUNT := by
    split
    · rename_i system
      have short := ((isSystemPrivateCommand_iff privateCommand).1 system).2
      exact iff_of_true (Nat.le_succ_of_le short) short
    · rfl
  rw [← totalSize_le_iff, ← limit]
  unfold isPrivateCommandValid
  dsimp only
  generalize (if isSystemPrivateCommand privateCommand then MAX_SYS_PRIVATE_COMMAND_COUNT
    else MAX_PRIVATE_COMMAND_COUNT) = maxSize
  split
  · refine iff_of_false Bool.false_ne_true ?_
    omega
  · split
    · refine iff_of_false Bool.false_ne_true ?_
      omega
    · refine iff_of_true rfl ?_
      omega

/-- **A private command is judged as intended unless it is a system command of six entries.**  And no
command of five entries stays valid when an entry is added, a system command or not. -/
theorem valid_as_intended_iff (privateCommand : ValueMap) :
    ((isPrivateCommandValid privateCommand = true ↔ Intended privateCommand) ↔
        ¬ (privateCommand.entries.length = MAX_SYS_PRIVATE_COMMAND_COUNT ∧ NamesSystem privateCommand ∧
          FitsSize privateCommand)) ∧
      (privateCommand.entries.length = MAX_PRIVATE_COMMAND_COUNT → ∀ key value,
        privateCommand.find key = none →
        isPrivateCommandValid (privateCommand.insert key value) = false) := by
  refine ⟨?_, ?_⟩
  · rw [isPrivateCommandValid_iff, Intended, MAX_SYS_PRIVATE_COMMAND_COUNT]
    by_cases system : NamesSystem privateCommand
    · rw [if_pos system]
      by_cases fits : FitsSize privateCommand
      · simp only [system, fits, and_true]
        omega
      · simp [fits]
    · simp [system]
  · intro five key value absent
    have grown := EntryMap.insert_entries (EntryMap.find_eq_none.1 absent) value
    rw [Bool.eq_false_iff, Ne, isPrivateCommandValid_iff, grown, List.length_append,
      List.length_singleton, five]
    rintro ⟨-, short, -⟩
    exact absurd short (Nat.not_succ_le_self _)

/-! ## Poles -/

/-- A system command with five entries. -/
def systemCommand : ValueMap :=
  ⟨[(SYSTEM_CMD_KEY, .number 1), ([97], .string [98]), ([99], .bool true), ([100], .number 2),
    ([101], .string [])],
    by decide⟩

/-- **A system command with a sixth entry is refused.**  With five it is valid and a system command. -/
theorem sixth_entry_refused :
    isPrivateCommandValid systemCommand = true ∧ isSystemPrivateCommand systemCommand = true ∧
      Intended (systemCommand.insert [102] (.bool true)) ∧
      isPrivateCommandValid (systemCommand.insert [102] (.bool true)) = false := by
  decide

end Imf.Ipc
