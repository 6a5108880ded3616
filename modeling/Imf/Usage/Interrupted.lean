/-
# Imf.Usage.Interrupted -- a write of the events file that breaks off

`WriteEvents` rewrites the file in place: `FileOperator::Write` opens it with truncation and then writes
the text, so that a write that fails or is interrupted leaves what had reached the file by then.  The
text of the file is its bytes here, one a character.

`LoadEvents` starts fresh when the file is empty or does not parse, and no proper prefix of the text
parses.  So the history survives an interrupted write exactly when the file was not opened or all of
the text had reached it, or when it is that of a fresh store (`interrupted_write_survives_iff`).
-/
import Imf.Usage.FileStore
import Imf.Lib.JsonPrefix

namespace Imf.Usage

set_option autoImplicit false

open Lib (Json)
open Imf.Json

/-! ## cJSON and a text that breaks off -/

/-- What breaks off before the brace of an object is not parsed. -/
def CJson.Strict (cjson : CJson) : Prop :=
  ∀ fields text, text.toList <+: (cjson.print (.obj fields)).toList → text ≠ cjson.print (.obj fields) →
    cjson.parse text = none

theorem compact_strict : CJson.Strict compact := by
  intro fields text before proper
  have whole : (compact.print (.obj fields)).toList = Json.write (.obj fields) := String.toList_ofList
  rw [whole] at before
  refine Json.read_prefix_obj fields before fun same => proper ?_
  show text = String.ofList (Json.write (.obj fields))
  rw [← same, String.ofList_toList]

/-! ## The write -/

/-- Where a `WriteEvents` that does not return success has come to. -/
inductive Stage where
  /-- The store is not ready. -/
  | notReady
  /-- The rows do not marshal. -/
  | marshalling
  /-- The path is refused, or `fopen` fails. -/
  | opening
  /-- The file is open, and so many characters have reached it: `fwrite` falls short, or the process
  dies. -/
  | writing (reached : Nat)
  deriving DecidableEq, Repr

section Write

variable (cjson : CJson)

/-- The text in the file then. -/
def Stage.left (stored : String) (next : EventsFile) : Stage → String
  | .notReady => stored
  | .marshalling => stored
  | .opening => stored
  | .writing reached => String.ofList ((writeEvents cjson next).toList.take reached)

/-- The condition: the file was not opened, or all of the new text has reached it. -/
def Stage.Whole (next : EventsFile) : Stage → Prop
  | .notReady => True
  | .marshalling => True
  | .opening => True
  | .writing reached => (writeEvents cjson next).length ≤ reached

end Write

/-! ## What is loaded afterwards -/

section Load

variable {cjson : CJson}

/-- A text that breaks off is that of a fresh store. -/
theorem loadEvents_prefix (lawful : cjson.Lawful) (strict : CJson.Strict cjson)
    (file : EventsFile) {text : String} (before : text.toList <+: (writeEvents cjson file).toList)
    (proper : text ≠ writeEvents cjson file) :
    loadEvents cjson (some text) = {} := by
  have printable : ∀ c ∈ text.toList, 32 ≤ c.toNat := fun c member =>
    lawful.printable (.obj file.marshal) c (before.subset member)
  have same : readFile text = text := by
    have all : text.toList.filter (fun c => c != '\n') = text.toList := by
      refine List.filter_eq_self.2 fun c member => ?_
      have other : c ≠ '\n' := by
        rintro rfl
        exact absurd (printable _ member) (by decide)
      simpa using other
    rw [readFile, all, String.ofList_toList]
  have whole : cStr text = text := by
    refine cStr_eq fun c member => ?_
    rintro rfl
    exact absurd (printable _ member) (by decide)
  unfold loadEvents
  dsimp only
  rw [same]
  split
  · rfl
  · rw [whole, strict file.marshal text before proper]
    rfl

/-- A write that breaks off after the file was opened and before its text is complete leaves a fresh
store. -/
theorem loadEvents_writing (lawful : cjson.Lawful) (strict : CJson.Strict cjson) (stored : String)
    (next : EventsFile) {reached : Nat} (cut : ¬ (writeEvents cjson next).length ≤ reached) :
    loadEvents cjson (some ((Stage.writing reached).left cjson stored next)) = {} := by
  refine loadEvents_prefix lawful strict next ?_ fun same => cut ?_
  · rw [Stage.left, String.toList_ofList]
    exact List.take_prefix reached _
  · have length := congrArg String.length same
    rw [Stage.left, String.length_ofList, List.length_take, String.length_toList] at length
    omega

/-- **The history survives exactly when nothing was cut off.**  Whatever was stored by a
`WriteEvents` that succeeded, and wherever the next one breaks off: loading the file gives what was
stored or what was to be stored if and only if the file was not opened, or all of the new text has
reached it, or one of the two is a fresh store.  When their integers are exact doubles and their
names C strings, what was stored and what was to be stored are the rows, `nextId` and report time
that were given to the two writes. -/
theorem interrupted_write_survives_iff (lawful : cjson.Lawful) (strict : CJson.Strict cjson)
    (old next : EventsFile) (stage : Stage) :
    let previous := loadEvents cjson (some (writeEvents cjson old))
    let renewed := loadEvents cjson (some (writeEvents cjson next))
    let loaded := loadEvents cjson (some (stage.left cjson (writeEvents cjson old) next))
    (loaded = previous ∨ loaded = renewed ↔ stage.Whole cjson next ∨ previous = {} ∨ renewed = {}) ∧
      (old.Fits → next.Fits →
        (loaded = old ∨ loaded = next ↔ stage.Whole cjson next ∨ old = {} ∨ next = {})) := by
  intro previous renewed loaded
  have exactly : loaded = previous ∨ loaded = renewed ↔ stage.Whole cjson next ∨ previous = {} ∨
    renewed = {} := by
    cases stage with
    | notReady => exact iff_of_true (.inl rfl) (.inl trivial)
    | marshalling => exact iff_of_true (.inl rfl) (.inl trivial)
    | opening => exact iff_of_true (.inl rfl) (.inl trivial)
    | writing reached =>
        by_cases whole : (writeEvents cjson next).length ≤ reached
        · refine iff_of_true (.inr ?_) (.inl whole)
          show loadEvents cjson (some (String.ofList _)) = renewed
          rw [List.take_of_length_le (by rwa [String.length_toList]), String.ofList_toList]
        · have fresh : loaded = {} := loadEvents_writing lawful strict _ next whole
          rw [fresh, eq_comm, @eq_comm _ {} renewed]
          exact ⟨.inr, fun survives => survives.resolve_left whole⟩
  refine ⟨exactly, fun oldFits nextFits => ?_⟩
  have stored : previous = old := load_after_write lawful oldFits
  have restored : renewed = next := load_after_write lawful nextFits
  rwa [stored, restored] at exactly

end Load

/-! ## Poles -/

/-- The two rows after an event more: a new id and a new report time. -/
def laterRows : EventsFile := { twoRows with nextId := 7, lastReportTime := 3000 }

theorem laterRows_fits : laterRows.Fits := ⟨twoRows_fits.events, by decide, by decide⟩

/-- The process dies when the last character has reached the file: the new rows are loaded. -/
theorem all_of_the_text_reached :
    let last := Stage.writing (writeEvents compact laterRows).length
    let loaded := loadEvents compact (some (last.left compact (writeEvents compact twoRows) laterRows))
    loaded = twoRows ∨ loaded = laterRows :=
  ((interrupted_write_survives_iff compact_lawful compact_strict twoRows laterRows _).2 twoRows_fits
    laterRows_fits).2 (.inl (le_refl (writeEvents compact laterRows).length))

/-- The file has just been truncated when the write fails: neither the old rows nor the new ones are
loaded. -/
theorem truncated_file_starts_fresh :
    ¬ ∀ old next : EventsFile, ∀ stage : Stage, old.Fits → next.Fits →
      let loaded := loadEvents compact (some (stage.left compact (writeEvents compact old) next))
      loaded = old ∨ loaded = next := by
  intro survives
  have empty : ¬ (writeEvents compact laterRows).length ≤ 0 := fun none =>
    compact_lawful.nonempty _ (String.length_eq_zero_iff.1 (Nat.le_zero.1 none))
  have fresh := loadEvents_writing compact_lawful compact_strict
    (writeEvents compact twoRows) laterRows empty
  have either := survives twoRows laterRows (.writing 0) twoRows_fits laterRows_fits
  dsimp only at either
  rw [fresh] at either
  exact absurd either (by decide)

end Imf.Usage
