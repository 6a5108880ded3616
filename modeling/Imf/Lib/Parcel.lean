/-
# Imf.Lib.Parcel -- a parcel as a typed first-in first-out queue

A parcel is the list of the items written to it, each with its type.  A reader takes items
off the front; at an item of another type it returns the type's default and takes nothing,
and a remote object read where none stands is null.

`Decodes reader written value` says that the reader turns what was written into the value and
stops exactly behind it, whatever follows.  The leaves are one lemma for each type, `bind` puts
two of them in sequence, `parcelable` nests one in another and `times` is the rule for a loop
over a list that was written element by element.
-/
import Mathlib.Init

namespace Imf.Lib.Parcel

set_option autoImplicit false

inductive Item where
  | int32 (value : Int32)
  | uint32 (value : UInt32)
  | uint64 (value : UInt64)
  | bool (value : Bool)
  /-- A double, as its bits. -/
  | double (bits : UInt64)
  | string (bytes : List UInt8)
  | string16 (units : List UInt16)
  | object (handle : Nat)
  deriving DecidableEq, Repr

end Imf.Lib.Parcel

namespace Imf.Lib

abbrev Parcel := List Parcel.Item

end Imf.Lib

namespace Imf.Lib.Parcel

/-- `none` is a decoder that returned false: what is left in the parcel is not looked at. -/
abbrev Reader := StateT Parcel Option

/-! ## Items -/

section Items

variable {α : Type}

/-- Take the front item if it is of the wanted type, else return the default. -/
def readItem (wanted : Item → Option α) (default : α) : Reader α := fun parcel =>
  match parcel with
  | [] => some (default, [])
  | item :: rest =>
      match wanted item with
      | some value => some (value, rest)
      | none => some (default, item :: rest)

theorem readItem_skipped {wanted : Item → Option α} {default : α} {item : Item}
    (other : wanted item = none) (rest : Parcel) :
    readItem wanted default (item :: rest) = some (default, item :: rest) := by
  simp [readItem, other]

end Items

def writeInt32 (value : Int32) : Parcel := [.int32 value]
def writeUint32 (value : UInt32) : Parcel := [.uint32 value]
def writeUint64 (value : UInt64) : Parcel := [.uint64 value]
def writeBool (value : Bool) : Parcel := [.bool value]
def writeDouble (bits : UInt64) : Parcel := [.double bits]
def writeString (bytes : List UInt8) : Parcel := [.string bytes]
def writeString16 (units : List UInt16) : Parcel := [.string16 units]
def writeRemoteObject (handle : Nat) : Parcel := [.object handle]

def readInt32 : Reader Int32 := readItem (fun | .int32 value => some value | _ => none) 0
def readUint32 : Reader UInt32 := readItem (fun | .uint32 value => some value | _ => none) 0
def readUint64 : Reader UInt64 := readItem (fun | .uint64 value => some value | _ => none) 0
def readBool : Reader Bool := readItem (fun | .bool value => some value | _ => none) false
def readDouble : Reader UInt64 := readItem (fun | .double bits => some bits | _ => none) 0
def readString : Reader (List UInt8) := readItem (fun | .string bytes => some bytes | _ => none) []
def readString16 : Reader (List UInt16) :=
  readItem (fun | .string16 units => some units | _ => none) []

/-- Null where no object stands. -/
def readRemoteObject : Reader (Option Nat) :=
  readItem (fun | .object handle => some (some handle) | _ => none) none

/-! ## Nested objects and loops -/

/-- A mark that the object is there, and the object. -/
def writeParcelable (object : Parcel) : Parcel := writeInt32 1 ++ object

/-- Null, and with it a failed decoder, where the mark is zero. -/
def readParcelable {α : Type} (unmarshalling : Reader α) : Reader α := do
  let size ← readInt32
  if size = 0 then failure else unmarshalling

/-- The same step again and again, on what the steps before it made. -/
def readTimes {α : Type} (step : α → Reader α) : Nat → α → Reader α
  | 0, made => pure made
  | n + 1, made => step made >>= readTimes step n

/-! ## Decoding what was written -/

section Decoding

variable {α β : Type}

/-- Whatever follows, the reader makes the value of what was written and leaves what follows. -/
def Decodes (reader : Reader α) (written : Parcel) (value : α) : Prop :=
  ∀ rest, reader (written ++ rest) = some (value, rest)

theorem decodes_pure (value : α) : Decodes (pure value) [] value := fun _ => rfl

theorem Decodes.bind {reader : Reader α} {next : α → Reader β} {first second : Parcel} {value : α}
    {result : β} (decoded : Decodes reader first value) (after : Decodes (next value) second result) :
    Decodes (reader >>= next) (first ++ second) result := by
  intro rest
  rw [List.append_assoc]
  change (reader (first ++ (second ++ rest))).bind _ = _
  rw [decoded]
  exact after rest

theorem Decodes.wrap {reader : Reader α} {written : Parcel} {value : α}
    (decoded : Decodes reader written value)
    (make : α → β) : Decodes (do return make (← reader)) written (make value) := by
  have made : Decodes (do return make (← reader)) (written ++ []) (make value) :=
    decoded.bind (decodes_pure (make value))
  rwa [List.append_nil] at made

/-- Null is read where the next item is no object, and the next item is read after it. -/
theorem decodes_null {next : Option Nat → Reader β} {item : Item} {second : Parcel} {result : β}
    (other : ∀ handle, item ≠ .object handle) (after : Decodes (next none) (item :: second) result) :
    Decodes (readRemoteObject >>= next) (item :: second) result := by
  intro rest
  have null : readRemoteObject (item :: (second ++ rest)) = some (none, item :: (second ++ rest)) := by
    refine readItem_skipped ?_ _
    cases item with
    | object handle => exact absurd rfl (other handle)
    | _ => rfl
  change (readRemoteObject (item :: (second ++ rest))).bind _ = _
  rw [null]
  exact after rest

/-- A loop over a list that was written element by element. -/
theorem decodes_times {step : α → Reader α} {block : β → Parcel} {put : α → β → α}
    (once : ∀ made item, Decodes (step made) (block item) (put made item)) (items : List β) (made : α) :
    Decodes (readTimes step items.length made) (items.flatMap block) (items.foldl put made) := by
  induction items generalizing made with
  | nil => exact decodes_pure made
  | cons item items ih => exact (once made item).bind (ih _)

theorem decodes_int32 (value : Int32) : Decodes readInt32 (writeInt32 value) value := fun _ => rfl
theorem decodes_uint32 (value : UInt32) : Decodes readUint32 (writeUint32 value) value := fun _ => rfl
theorem decodes_uint64 (value : UInt64) : Decodes readUint64 (writeUint64 value) value := fun _ => rfl
theorem decodes_bool (value : Bool) : Decodes readBool (writeBool value) value := fun _ => rfl
theorem decodes_double (bits : UInt64) : Decodes readDouble (writeDouble bits) bits := fun _ => rfl
theorem decodes_string (bytes : List UInt8) :
    Decodes readString (writeString bytes) bytes := fun _ => rfl
theorem decodes_string16 (units : List UInt16) : Decodes readString16 (writeString16 units) units :=
  fun _ => rfl
theorem decodes_object (handle : Nat) :
    Decodes readRemoteObject (writeRemoteObject handle) (some handle) :=
  fun _ => rfl

theorem Decodes.parcelable {unmarshalling : Reader α} {written : Parcel} {value : α}
    (decoded : Decodes unmarshalling written value) :
    Decodes (readParcelable unmarshalling) (writeParcelable written) value :=
  (decodes_int32 1).bind decoded

end Decoding

end Imf.Lib.Parcel
