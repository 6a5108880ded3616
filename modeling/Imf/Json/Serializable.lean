/-
# Imf.Json.Serializable -- reading and writing fields of JSON objects

`services/json/src/serializable.cpp` and `serializable.h`.  cJSON is not part of the
repository: printing and parsing are parameters (`CJson`), with what the code relies on as
named properties (`CJson.Lawful`).  `compact` is the reader and writer of `Imf.Lib.Json` as
such a pair.

A number node holds a double.  Every number that is read here is truncated to an integer
first, so a node stands for its integer part; what is written goes through
`static_cast<double>` (`toDouble`).  Strings are C strings: they end at the first NUL
(`cStr`).  Allocations succeed.
-/
import Imf.Lib.Json
import Mathlib.Data.List.TakeWhile

namespace Imf.Json

set_option autoImplicit false

open Lib (Json)

/-! ## C values -/

/-- What is left of a string that goes through `c_str()`. -/
def cStr (s : String) : String := String.ofList (s.toList.takeWhile fun c => c != '\x00')

/-- A string without NUL. -/
def NulFree (s : String) : Prop := ∀ c ∈ s.toList, c ≠ '\x00'

instance (s : String) : Decidable (NulFree s) :=
  List.decidableBAll (fun c => c ≠ '\x00') s.toList

theorem cStr_eq {s : String} (nulFree : NulFree s) : cStr s = s := by
  have whole : s.toList.takeWhile (fun c => c != '\x00') = s.toList :=
    List.takeWhile_eq_self_iff.2 fun c member => by simpa using nulFree c member
  rw [cStr, whole, String.ofList_toList]

theorem cStr_nulFree (s : String) : NulFree (cStr s) := by
  intro c member
  rw [cStr, String.toList_ofList] at member
  simpa using List.mem_takeWhile_imp member

/-- `static_cast<double>` of an integer: 53 bits, to the nearest, ties to even. -/
def toDouble (n : Int) : Int :=
  if n.natAbs ≤ 2 ^ 53 then n
  else
    let unit := 2 ^ (Nat.log2 n.natAbs - 52)
    let q := n.natAbs / unit
    let r := n.natAbs % unit
    let rounded := if 2 * r < unit ∨ (2 * r = unit ∧ q % 2 = 0) then q else q + 1
    n.sign * (rounded * unit : Nat)

theorem toDouble_eq {n : Int} (small : n.natAbs ≤ 2 ^ 53) : toDouble n = n := if_pos small

/-- `valueint` of a number node: clamped to `int`. -/
def valueInt (n : Int) : Int := max (-(2 ^ 31)) (min (2 ^ 31 - 1) n)

theorem valueInt_eq {n : Int} (low : -(2 ^ 31) ≤ n) (high : n < 2 ^ 31) : valueInt n = n := by
  unfold valueInt
  omega

/-! ## cJSON -/

mutual

/-- A tree that cJSON can hold: its strings are C strings and its numbers doubles. -/
def Plain : Json → Prop
  | .num n => toDouble n = n
  | .str s => NulFree s
  | .arr items => PlainItems items
  | .obj fields => PlainFields fields
  | .null => True
  | .bool _ => True

def PlainItems : List Json → Prop
  | [] => True
  | item :: items => Plain item ∧ PlainItems items

def PlainFields : List (String × Json) → Prop
  | [] => True
  | (key, value) :: fields => NulFree key ∧ Plain value ∧ PlainFields fields

end

theorem plainItems_iff {items : List Json} : PlainItems items ↔ ∀ item ∈ items, Plain item := by
  induction items with
  | nil => simp [PlainItems]
  | cons item items ih => simp [PlainItems, ih]

theorem plainFields_iff {fields : List (String × Json)} :
    PlainFields fields ↔ ∀ field ∈ fields, NulFree field.1 ∧ Plain field.2 := by
  induction fields with
  | nil => simp [PlainFields]
  | cons field fields ih => simp [PlainFields, ih, and_assoc]

/-- `cJSON_PrintUnformatted` and `cJSON_Parse`. -/
structure CJson where
  print : Json → String
  parse : String → Option Json

/-- What is printed is parsed to an equal tree, and has no control characters; an empty text
is no tree. -/
structure CJson.Lawful (cjson : CJson) : Prop where
  parse_print : ∀ tree, Plain tree → cjson.parse (cjson.print tree) = some tree
  parse_empty : cjson.parse "" = none
  printable : ∀ tree, ∀ c ∈ (cjson.print tree).toList, 32 ≤ c.toNat
  nonempty : ∀ tree, cjson.print tree ≠ ""

/-- Keys and strings are printed as they are, quotes, backslashes and control characters
apart, and nothing else has the letters of the word: it is in the text exactly when the tree
mentions it. -/
def CJson.Verbatim (cjson : CJson) (word : String) : Prop :=
  ∀ tree, word.toList <:+: (cjson.print tree).toList ↔ tree.Mentions word.toList

/-- The compact text of `Imf.Lib.Json`. -/
def compact : CJson where
  print tree := String.ofList tree.write
  parse text := Json.read text.toList

theorem compact_lawful : compact.Lawful where
  parse_print tree _ := by
    show Json.read (String.ofList tree.write).toList = some tree
    rw [String.toList_ofList, Json.read_write]
  parse_empty := rfl
  printable tree := by
    show ∀ c ∈ (String.ofList tree.write).toList, _
    rw [String.toList_ofList]
    exact Json.write_printable tree
  nonempty tree := by
    intro empty
    obtain ⟨c, cs, split, -⟩ := Json.write_head tree
    have same : tree.write = [] := by
      rw [← String.toList_ofList (l := tree.write)]
      exact congrArg String.toList empty
    rw [split] at same
    cases same

theorem compact_verbatim {word : String} {first : Char} {rest : List Char}
    (letters : word.toList = first :: rest) (isWord : Json.Word first rest) :
    compact.Verbatim word := by
  intro tree
  show word.toList <:+: (String.ofList tree.write).toList ↔ _
  rw [String.toList_ofList, letters]
  have found := Json.infix_write isWord tree []
  rw [List.append_nil] at found
  rw [found]
  simp

/-- `FileOperator::Read`: the lines of the file, one after the other. -/
def readFile (text : String) : String := String.ofList (text.toList.filter fun c => c != '\n')

section Text

variable {cjson : CJson}

/-- A printed text is its own C string. -/
theorem CJson.Lawful.cStr_print (lawful : cjson.Lawful) (tree : Json) :
    cStr (cjson.print tree) = cjson.print tree := by
  apply cStr_eq
  rintro c member rfl
  exact absurd (lawful.printable tree _ member) (by decide)

/-- Printed text has no line breaks to lose. -/
theorem CJson.Lawful.readFile_print (lawful : cjson.Lawful) (tree : Json) :
    readFile (cjson.print tree) = cjson.print tree := by
  have all : (cjson.print tree).toList.filter (fun c => c != '\n') = (cjson.print tree).toList := by
    rw [List.filter_eq_self]
    intro c member
    have printable := lawful.printable tree c member
    have other : c ≠ '\n' := by
      rintro rfl
      exact absurd printable (by decide)
    simpa using other
  rw [readFile, all, String.ofList_toList]

end Text

/-! ## Nodes -/

/-- `cJSON_GetObjectItem` compares keys without case. -/
def sameKey (a b : String) : Bool := a.toList.map Char.toLower == b.toList.map Char.toLower

/-- `GetSubNode`; `none` is its `nullptr`. -/
def getSubNode (node : Json) (name : String) : Option Json :=
  if name = "" then some node
  else
    match node with
    | .obj fields => (fields.find? fun field => sameKey field.1 name).map Prod.snd
    | _ => none

/-! ## GetValue -/

def getString (node : Json) (name : String) : Option String :=
  match getSubNode node name with
  | some (.str s) => some (cStr s)
  | _ => none

def getInt32 (node : Json) (name : String) : Option Int32 :=
  match getSubNode node name with
  | some (.num n) => some (Int32.ofInt (valueInt n))
  | _ => none

def getInt64 (node : Json) (name : String) : Option Int64 :=
  match getSubNode node name with
  | some (.num n) => some (Int64.ofInt n)
  | _ => none

def getUInt32 (node : Json) (name : String) : Option UInt32 :=
  match getSubNode node name with
  | some (.num n) => if valueInt n < 0 then none else some (UInt32.ofNat (valueInt n).toNat)
  | _ => none

def getBool (node : Json) (name : String) : Option Bool :=
  match getSubNode node name with
  | some (.bool b) => some b
  | _ => none

/-- A nested `Serializable`, with its own `Unmarshal`. -/
def getObject {α : Type} (unmarshal : Json → Option α) (node : Json) (name : String) : Option α :=
  match getSubNode node name with
  | some (.obj fields) => unmarshal (.obj fields)
  | _ => none

/-- The loop over the items of a `std::vector<std::string>`. -/
def stringItems : List Json → Option (List String)
  | [] => some []
  | .str s :: items => (stringItems items).map fun values => cStr s :: values
  | _ :: _ => none

def getStrings (node : Json) (name : String) : Option (List String) :=
  match getSubNode node name with
  | some (.arr items) => stringItems items
  | _ => none

/-- The loop over the items of a `std::vector<uint64_t>`. -/
def uint64Items : List Json → Option (List UInt64)
  | [] => some []
  | .num n :: items => (uint64Items items).map fun values => UInt64.ofNat n.toNat :: values
  | _ :: _ => none

def getUInt64s (node : Json) (name : String) : Option (List UInt64) :=
  match getSubNode node name with
  | some (.arr items) => uint64Items items
  | _ => none

/-! ## SetValue -/

def ofString (value : String) : Json := .str (cStr value)

def ofStrings (values : List String) : Json := .arr (values.map ofString)

def ofInt32 (value : Int32) : Json := .num (toDouble value.toInt)

def ofInt64 (value : Int64) : Json := .num (toDouble value.toInt)

def ofUInt32 (value : UInt32) : Json := .num (toDouble value.toNat)

def ofUInt64 (value : UInt64) : Json := .num (toDouble value.toNat)

def ofUInt64s (values : List UInt64) : Json := .arr (values.map ofUInt64)

/-! ## What is written is plain -/

theorem plain_num {n : Int} (small : n.natAbs ≤ 2 ^ 53) : Plain (.num (toDouble n)) := by
  rw [toDouble_eq small]
  exact toDouble_eq small

theorem plain_ofString (value : String) : Plain (ofString value) := cStr_nulFree value

theorem plain_ofInt32 (value : Int32) : Plain (ofInt32 value) :=
  plain_num (by have low := value.le_toInt; have high := value.toInt_lt; omega)

theorem plain_ofInt64 {value : Int64} (small : value.toInt.natAbs ≤ 2 ^ 53) : Plain (ofInt64 value) :=
  plain_num small

theorem plain_ofUInt32 (value : UInt32) : Plain (ofUInt32 value) :=
  plain_num (by have high := value.toNat_lt; omega)

theorem plain_ofUInt64s {values : List UInt64} (small : ∀ n ∈ values, n.toNat ≤ 2 ^ 53) :
    Plain (ofUInt64s values) := by
  show PlainItems (values.map ofUInt64)
  rw [plainItems_iff]
  intro item member
  obtain ⟨n, inside, rfl⟩ := List.mem_map.1 member
  exact plain_num (by simpa using small n inside)

section Fields

variable {fields : List (String × Json)} {name : String}

/-- The field that is found first. -/
theorem getSubNode_of_find {node : Json} (named : name ≠ "")
    (found : (fields.find? fun field => sameKey field.1 name).map Prod.snd = some node) :
    getSubNode (.obj fields) name = some node := by
  rw [getSubNode, if_neg named]
  exact found

theorem getSubNode_of_missing (named : name ≠ "")
    (missing : (fields.find? fun field => sameKey field.1 name) = none) :
    getSubNode (.obj fields) name = none := by
  rw [getSubNode, if_neg named, missing]
  rfl

variable {node : Json}

theorem getString_of {s : String} (found : getSubNode node name = some (ofString s))
    (nulFree : NulFree s) : getString node name = some s := by
  simp only [getString, found, ofString, cStr_eq nulFree]

theorem stringItems_of (values : List String) :
    stringItems (values.map ofString) = some (values.map cStr) := by
  induction values with
  | nil => rfl
  | cons s values ih =>
      simp only [List.map_cons, ofString, stringItems, cStr_eq (cStr_nulFree s)]
      show (stringItems (values.map ofString)).map _ = _
      rw [ih]
      rfl

theorem stringItems_nulFree {items : List Json} {values : List String}
    (read : stringItems items = some values) : ∀ s ∈ values, NulFree s := by
  induction items generalizing values with
  | nil =>
      cases read
      simp
  | cons item items ih =>
      cases item with
      | str s =>
          obtain ⟨rest, tail, rfl⟩ := Option.map_eq_some_iff.1 read
          rw [List.forall_mem_cons]
          exact ⟨cStr_nulFree s, ih tail⟩
      | null => cases read
      | bool => cases read
      | num => cases read
      | arr => cases read
      | obj => cases read

theorem getInt32_of {n : Int32} (found : getSubNode node name = some (ofInt32 n)) :
    getInt32 node name = some n := by
  have low := n.le_toInt
  have high := n.toInt_lt
  have exact : toDouble n.toInt = n.toInt := toDouble_eq (by omega)
  simp only [getInt32, found, ofInt32, exact, valueInt_eq low high, Int32.ofInt_toInt]

theorem getInt64_of {n : Int64} (found : getSubNode node name = some (ofInt64 n))
    (small : n.toInt.natAbs ≤ 2 ^ 53) : getInt64 node name = some n := by
  simp only [getInt64, found, ofInt64, toDouble_eq small, Int64.ofInt_toInt]

theorem getUInt32_of {n : UInt32} (found : getSubNode node name = some (ofUInt32 n))
    (small : n.toNat < 2 ^ 31) : getUInt32 node name = some n := by
  have exact : toDouble (n.toNat : Int) = n.toNat := toDouble_eq (by omega)
  have clamped : valueInt (n.toNat : Int) = n.toNat := valueInt_eq (by omega) (by omega)
  have nonneg : ¬ (n.toNat : Int) < 0 := by omega
  simp only [getUInt32, found, ofUInt32, exact, clamped, nonneg, if_false, Int.toNat_natCast,
    UInt32.ofNat_toNat]

theorem uint64Items_of {values : List UInt64} (small : ∀ n ∈ values, n.toNat ≤ 2 ^ 53) :
    uint64Items (values.map ofUInt64) = some values := by
  induction values with
  | nil => rfl
  | cons n values ih =>
      rw [List.forall_mem_cons] at small
      have exact : toDouble (n.toNat : Int) = n.toNat := toDouble_eq (by simpa using small.1)
      simp only [List.map_cons, ofUInt64, uint64Items, exact, Int.toNat_natCast, UInt64.ofNat_toNat]
      show (uint64Items (values.map ofUInt64)).map _ = _
      rw [ih small.2]
      rfl

theorem getUInt64s_of {values : List UInt64} (found : getSubNode node name = some (ofUInt64s values))
    (small : ∀ n ∈ values, n.toNat ≤ 2 ^ 53) : getUInt64s node name = some values := by
  simp only [getUInt64s, found, ofUInt64s, uint64Items_of small]

end Fields

end Imf.Json
