/-
# Imf.Lib.Json -- JSON trees, their compact text and its reader

Trees whose numbers are integers, the text without blanks that stands for a tree
(`write`), and a reader with fuel.  `read_write` is the round trip.  `infix_write` says
which words occur in a text: a word that no punctuation, literal or escape begins with is
in the text exactly when it is in one of the keys or strings of the tree.

Both are proved with whatever follows in the text, which is what lets them go through
arrays and objects by recursion on the tree.
-/
import Mathlib.Data.List.Infix
import Mathlib.Tactic.IntervalCases

namespace Imf.Lib

set_option autoImplicit false

/-- A JSON value. -/
inductive Json where
  | null
  | bool (value : Bool)
  | num (value : Int)
  | str (value : String)
  | arr (items : List Json)
  | obj (fields : List (String × Json))

namespace Json

/-- A property of every character of a text, by going through it. -/
theorem checked {p : Char → Prop} [DecidablePred p] {text : List Char}
    (all : (text.all fun c => decide (p c)) = true) : ∀ c ∈ text, p c := by
  intro c member
  exact of_decide_eq_true (List.all_eq_true.1 all c member)

/-! ## Text -/

/-- The letter behind the backslash of a short escape. -/
def shortEscape (c : Char) : Option Char :=
  if c = '"' then some '"'
  else if c = '\\' then some '\\'
  else if c = '\x08' then some 'b'
  else if c = '\x0c' then some 'f'
  else if c = '\n' then some 'n'
  else if c = '\r' then some 'r'
  else if c = '\t' then some 't'
  else none

/-- A character inside a string: control characters are escaped. -/
def escapeChar (c : Char) : List Char :=
  match shortEscape c with
  | some letter => ['\\', letter]
  | none =>
      if c.toNat < 32 then
        ['\\', 'u', '0', '0', Nat.digitChar (c.toNat / 16), Nat.digitChar (c.toNat % 16)]
      else [c]

def quote (s : String) : List Char := '"' :: (s.toList.flatMap escapeChar ++ ['"'])

def writeInt : Int → List Char
  | .ofNat n => Nat.toDigits 10 n
  | .negSucc n => '-' :: Nat.toDigits 10 (n + 1)

mutual

/-- The text of a value, without blanks. -/
def write : Json → List Char
  | .null => ['n', 'u', 'l', 'l']
  | .bool true => ['t', 'r', 'u', 'e']
  | .bool false => ['f', 'a', 'l', 's', 'e']
  | .num n => writeInt n
  | .str s => quote s
  | .arr [] => ['[', ']']
  | .arr (item :: items) => '[' :: (write item ++ writeItems items)
  | .obj [] => ['\x7b', '\x7d']
  | .obj ((key, value) :: fields) => '\x7b' :: (quote key ++ ':' :: (write value ++ writeFields fields))

/-- The rest of an array after an item. -/
def writeItems : List Json → List Char
  | [] => [']']
  | item :: items => ',' :: (write item ++ writeItems items)

/-- The rest of an object after a field. -/
def writeFields : List (String × Json) → List Char
  | [] => ['\x7d']
  | (key, value) :: fields => ',' :: (quote key ++ ':' :: (write value ++ writeFields fields))

end

/-! ## The reader -/

def readEscape (letter : Char) : Option Char :=
  if letter = '"' then some '"'
  else if letter = '\\' then some '\\'
  else if letter = '/' then some '/'
  else if letter = 'b' then some '\x08'
  else if letter = 'f' then some '\x0c'
  else if letter = 'n' then some '\n'
  else if letter = 'r' then some '\r'
  else if letter = 't' then some '\t'
  else none

def readHexDigit (c : Char) : Option Nat :=
  if '0' ≤ c ∧ c ≤ '9' then some (c.toNat - '0'.toNat)
  else if 'a' ≤ c ∧ c ≤ 'f' then some (c.toNat - 'a'.toNat + 10)
  else if 'A' ≤ c ∧ c ≤ 'F' then some (c.toNat - 'A'.toNat + 10)
  else none

/-- The character of four hexadecimal digits. -/
def readHex (a b c d : Char) : Option Char := do
  let a ← readHexDigit a
  let b ← readHexDigit b
  let c ← readHexDigit c
  let d ← readHexDigit d
  some (Char.ofNat (((a * 16 + b) * 16 + c) * 16 + d))

/-- The characters of a string up to its closing quote, and what follows it. -/
def readString : List Char → Option (List Char × List Char)
  | [] => none
  | c :: text =>
      if c = '"' then some ([], text)
      else if c ≠ '\\' then (readString text).map fun read => (c :: read.1, read.2)
      else
        match text with
        | 'u' :: h₁ :: h₂ :: h₃ :: h₄ :: text =>
            (readHex h₁ h₂ h₃ h₄).bind fun c =>
              (readString text).map fun read => (c :: read.1, read.2)
        | letter :: text =>
            (readEscape letter).bind fun c =>
              (readString text).map fun read => (c :: read.1, read.2)
        | [] => none

def readInt (text : List Char) : Option (Int × List Char) :=
  let digits (text : List Char) : Option (Nat × List Char) :=
    match text.takeWhile Char.isDigit with
    | [] => none
    | c :: cs => some (Nat.ofDigitChars 10 (c :: cs) 0, text.dropWhile Char.isDigit)
  if text.head? = some '-' then (digits text.tail).map fun read => (-(read.1 : Int), read.2)
  else (digits text).map fun read => ((read.1 : Int), read.2)

/-- What follows the characters of a word. -/
def skip : List Char → List Char → Option (List Char)
  | [], text => some text
  | c :: word, d :: text => if c = d then skip word text else none
  | _ :: _, [] => none

mutual

/-- A value at the head of the text, and what follows it. -/
def readValue : Nat → List Char → Option (Json × List Char)
  | 0, _ => none
  | _, [] => none
  | fuel + 1, c :: text =>
      if c = 'n' then (skip ['u', 'l', 'l'] text).map fun text => (.null, text)
      else if c = 't' then (skip ['r', 'u', 'e'] text).map fun text => (.bool true, text)
      else if c = 'f' then (skip ['a', 'l', 's', 'e'] text).map fun text => (.bool false, text)
      else if c = '"' then (readString text).map fun read => (.str (String.ofList read.1), read.2)
      else if c = '[' then
        if text.head? = some ']' then some (.arr [], text.tail)
        else
          (readValue fuel text).bind fun item =>
            (readItems fuel item.2).map fun items => (.arr (item.1 :: items.1), items.2)
      else if c = '\x7b' then
        if text.head? = some '\x7d' then some (.obj [], text.tail)
        else
          (readField fuel text).bind fun field =>
            (readFields fuel field.2).map fun fields => (.obj (field.1 :: fields.1), fields.2)
      else (readInt (c :: text)).map fun read => (.num read.1, read.2)

def readItems : Nat → List Char → Option (List Json × List Char)
  | 0, _ => none
  | _, [] => none
  | fuel + 1, c :: text =>
      if c = ']' then some ([], text)
      else if c = ',' then
        (readValue fuel text).bind fun item =>
          (readItems fuel item.2).map fun items => (item.1 :: items.1, items.2)
      else none

def readField : Nat → List Char → Option ((String × Json) × List Char)
  | 0, _ => none
  | _, [] => none
  | fuel + 1, c :: text =>
      if c = '"' then
        (readString text).bind fun key =>
          (skip [':'] key.2).bind fun text =>
            (readValue fuel text).map fun value => ((String.ofList key.1, value.1), value.2)
      else none

def readFields : Nat → List Char → Option (List (String × Json) × List Char)
  | 0, _ => none
  | _, [] => none
  | fuel + 1, c :: text =>
      if c = '\x7d' then some ([], text)
      else if c = ',' then
        (readField fuel text).bind fun field =>
          (readFields fuel field.2).map fun fields => (field.1 :: fields.1, fields.2)
      else none

end

/-- The value of a text; nothing may follow it. -/
def read (text : List Char) : Option Json :=
  match readValue text.length text with
  | some (value, []) => some value
  | _ => none

/-! ## The round trip -/

/-- The characters with an escape of one letter, and the letters. -/
def shortEscapes : List (Char × Char) :=
  [('"', '"'), ('\\', '\\'), ('\x08', 'b'), ('\x0c', 'f'), ('\n', 'n'), ('\r', 'r'), ('\t', 't')]

theorem shortEscape_mem {c letter : Char} (short : shortEscape c = some letter) :
    (c, letter) ∈ shortEscapes := by
  unfold shortEscape at short
  split_ifs at short with h₁ h₂ h₃ h₄ h₅ h₆ h₇
  all_goals
    obtain rfl := Option.some.inj short
    subst_vars
    decide

theorem shortEscape_read {c letter : Char} (short : shortEscape c = some letter) :
    readEscape letter = some c ∧ letter ≠ 'u' := by
  have all : ∀ pair ∈ shortEscapes, readEscape pair.2 = some pair.1 ∧ pair.2 ≠ 'u' := by decide
  exact all (c, letter) (shortEscape_mem short)

theorem readString_short {letter : Char} (short : letter ≠ 'u') (text : List Char) :
    readString ('\\' :: letter :: text) = (readEscape letter).bind fun c =>
      (readString text).map fun read => (c :: read.1, read.2) := by
  rw [readString.eq_def]
  simp only [Char.reduceEq, if_false, ne_eq, not_true_eq_false]
  split
  · rename_i same
    exact absurd (List.cons.inj same).1 short
  · rename_i same
    obtain ⟨rfl, rfl⟩ := List.cons.inj same
    rfl
  · rename_i same
    cases same

theorem readHex_control {n : Nat} (control : n < 32) :
    readHex '0' '0' (Nat.digitChar (n / 16)) (Nat.digitChar (n % 16)) = some (Char.ofNat n) := by
  interval_cases n <;> decide

theorem readString_raw {c : Char} (raw : shortEscape c = none) (text : List Char) :
    readString (c :: text) = (readString text).map fun read => (c :: read.1, read.2) := by
  have other : c ≠ '"' ∧ c ≠ '\\' := by
    constructor
    · rintro rfl
      cases raw
    · rintro rfl
      cases raw
  rw [readString.eq_def]
  simp only [other.1, other.2, if_false, ne_eq, not_false_eq_true, if_true]

/-- A character is read back. -/
theorem readString_escapeChar (c : Char) (text : List Char) :
    readString (escapeChar c ++ text) =
      (readString text).map fun read => (c :: read.1, read.2) := by
  unfold escapeChar
  cases short : shortEscape c with
  | some letter =>
      obtain ⟨read, notHex⟩ := shortEscape_read short
      show readString ('\\' :: letter :: text) = _
      rw [readString_short notHex, read]
      rfl
  | none =>
      by_cases control : c.toNat < 32
      · simp only [control, if_true]
        show readString ('\\' :: 'u' :: '0' :: '0' :: _ :: _ :: text) = _
        rw [readString.eq_def]
        simp only [Char.reduceEq, if_false, ne_eq, not_true_eq_false, readHex_control control,
          Char.ofNat_toNat, Option.bind_some]
      · simp only [control, if_false]
        exact readString_raw short text

theorem readString_quoted (s text : List Char) :
    readString (s.flatMap escapeChar ++ '"' :: text) = some (s, text) := by
  induction s with
  | nil =>
      show readString ('"' :: text) = _
      rw [readString.eq_def]
      simp
  | cons c s ih =>
      rw [List.flatMap_cons, List.append_assoc, readString_escapeChar, ih]
      rfl

/-- No digit follows: where a number has to end. -/
def NoDigit (text : List Char) : Prop := ∀ c ∈ text.head?, c.isDigit = false

theorem takeDigits {digits text : List Char} (all : ∀ c ∈ digits, c.isDigit = true)
    (ends : NoDigit text) :
    (digits ++ text).takeWhile Char.isDigit = digits ∧
      (digits ++ text).dropWhile Char.isDigit = text := by
  induction digits with
  | nil =>
      cases text with
      | nil => simp
      | cons c text =>
          have stop := ends c rfl
          simp [stop]
  | cons d digits ih =>
      rw [List.forall_mem_cons] at all
      obtain ⟨taken, dropped⟩ := ih all.2
      simp [all.1, taken, dropped]

theorem toDigits_digits (n : Nat) : ∀ c ∈ Nat.toDigits 10 n, c.isDigit = true :=
  fun _ member => Nat.isDigit_of_mem_toDigits (by decide) (by decide) member

theorem toDigits_cons (n : Nat) :
    ∃ c cs, Nat.toDigits 10 n = c :: cs ∧ c.isDigit = true := by
  cases digits : Nat.toDigits 10 n with
  | nil => exact absurd digits Nat.toDigits_ne_nil
  | cons c cs => exact ⟨c, cs, rfl, toDigits_digits n c (by simp [digits])⟩

theorem readInt_writeInt (n : Int) {text : List Char} (ends : NoDigit text) :
    readInt (writeInt n ++ text) = some (n, text) := by
  have number : ∀ m : Nat, ∃ c cs, Nat.toDigits 10 m = c :: cs ∧ c.isDigit = true ∧
      (Nat.toDigits 10 m ++ text).takeWhile Char.isDigit = c :: cs ∧
      (Nat.toDigits 10 m ++ text).dropWhile Char.isDigit = text := by
    intro m
    obtain ⟨c, cs, digits, digit⟩ := toDigits_cons m
    obtain ⟨taken, dropped⟩ := takeDigits (toDigits_digits m) ends
    exact ⟨c, cs, digits, digit, taken.trans digits, dropped⟩
  cases n with
  | ofNat m =>
      obtain ⟨c, cs, digits, digit, taken, dropped⟩ := number m
      have notMinus : c ≠ '-' := by
        rintro rfl
        cases digit
      have value : Nat.ofDigitChars 10 (c :: cs) 0 = m := by
        rw [← digits]
        exact Nat.ofDigitChars_ten_toDigits
      show readInt (Nat.toDigits 10 m ++ text) = _
      have head : (Nat.toDigits 10 m ++ text).head? ≠ some '-' := by
        rw [digits]
        exact fun same => notMinus (Option.some.inj same)
      unfold readInt
      dsimp only
      rw [if_neg head, taken, dropped]
      simp [value]
  | negSucc m =>
      obtain ⟨c, cs, digits, digit, taken, dropped⟩ := number (m + 1)
      have value : Nat.ofDigitChars 10 (c :: cs) 0 = m + 1 := by
        rw [← digits]
        exact Nat.ofDigitChars_ten_toDigits
      show readInt ('-' :: (Nat.toDigits 10 (m + 1) ++ text)) = _
      unfold readInt
      dsimp only
      rw [List.head?_cons, if_pos rfl, List.tail_cons, taken, dropped]
      simp only [value, Option.map_some]
      rfl

/-- Where a value starts. -/
theorem write_head (j : Json) : ∃ c cs, write j = c :: cs ∧ c ≠ ']' := by
  cases j with
  | null => exact ⟨_, _, rfl, by decide⟩
  | bool value => cases value <;> exact ⟨_, _, rfl, by decide⟩
  | num n =>
      cases n with
      | ofNat m =>
          obtain ⟨c, cs, digits, digit⟩ := toDigits_cons m
          refine ⟨c, cs, digits, ?_⟩
          rintro rfl
          cases digit
      | negSucc m => exact ⟨_, _, rfl, by decide⟩
  | str s => exact ⟨_, _, rfl, by decide⟩
  | arr items => cases items <;> exact ⟨_, _, rfl, by decide⟩
  | obj fields => cases fields <;> exact ⟨_, _, rfl, by decide⟩

theorem noDigit_items (items : List Json) (rest : List Char) : NoDigit (writeItems items ++ rest) := by
  cases items with
  | nil => rintro c ⟨⟩; rfl
  | cons => rintro c ⟨⟩; rfl

theorem noDigit_fields (fields : List (String × Json)) (rest : List Char) :
    NoDigit (writeFields fields ++ rest) := by
  cases fields with
  | nil => rintro c ⟨⟩; rfl
  | cons => rintro c ⟨⟩; rfl

theorem quote_append (s : String) (rest : List Char) :
    quote s ++ rest = '"' :: (s.toList.flatMap escapeChar ++ '"' :: rest) := by
  simp [quote]

/-- A field is read back when its value is. -/
theorem readField_write (key : String) {value : Json} {fuel : Nat} {rest : List Char}
    (inner : readValue fuel (write value ++ rest) = some (value, rest)) :
    readField (fuel + 1) (quote key ++ ':' :: (write value ++ rest)) = some ((key, value), rest) := by
  rw [quote_append, readField.eq_def]
  simp only [if_true, readString_quoted, Option.bind_some, skip, inner, Option.map_some,
    String.ofList_toList]

theorem readValue_number (n : Int) (fuel : Nat) {rest : List Char} (ends : NoDigit rest) :
    readValue (fuel + 1) (writeInt n ++ rest) = some (.num n, rest) := by
  have number := readInt_writeInt n ends
  obtain ⟨c, cs, split, other⟩ : ∃ c cs, writeInt n = c :: cs ∧ (c.isDigit = true ∨ c = '-') := by
    cases n with
    | ofNat m =>
        obtain ⟨c, cs, digits, digit⟩ := toDigits_cons m
        exact ⟨c, cs, digits, .inl digit⟩
    | negSucc m => exact ⟨_, _, rfl, .inr rfl⟩
  have start : c ≠ 'n' ∧ c ≠ 't' ∧ c ≠ 'f' ∧ c ≠ '"' ∧ c ≠ '[' ∧ c ≠ '\x7b' := by
    refine ⟨?_, ?_, ?_, ?_, ?_, ?_⟩
    all_goals
      rintro rfl
      revert other
      decide
  rw [split] at number ⊢
  rw [List.cons_append, readValue.eq_def]
  rw [List.cons_append] at number
  simp only [start, if_false, number, Option.map_some]

mutual

theorem readValue_write : ∀ (j : Json) (fuel : Nat) (rest : List Char),
    (write j).length ≤ fuel → NoDigit rest → readValue fuel (write j ++ rest) = some (j, rest)
  | j, 0, _, enough, _ => by
      obtain ⟨c, cs, split, -⟩ := write_head j
      simp [split] at enough
  | .null, fuel + 1, rest, _, _ => by
      show readValue (fuel + 1) ('n' :: 'u' :: 'l' :: 'l' :: rest) = _
      rw [readValue.eq_def]
      rfl
  | .bool true, fuel + 1, rest, _, _ => by
      show readValue (fuel + 1) ('t' :: 'r' :: 'u' :: 'e' :: rest) = _
      rw [readValue.eq_def]
      rfl
  | .bool false, fuel + 1, rest, _, _ => by
      show readValue (fuel + 1) ('f' :: 'a' :: 'l' :: 's' :: 'e' :: rest) = _
      rw [readValue.eq_def]
      rfl
  | .num n, fuel + 1, rest, _, ends => by
      rw [write]
      exact readValue_number n fuel ends
  | .str s, fuel + 1, rest, _, _ => by
      rw [write, quote_append, readValue.eq_def]
      simp only [Char.reduceEq, if_false, if_true, readString_quoted, Option.map_some,
        String.ofList_toList]
  | .arr [], fuel + 1, rest, _, _ => by
      show readValue (fuel + 1) ('[' :: ']' :: rest) = _
      rw [readValue.eq_def]
      rfl
  | .arr (item :: items), fuel + 1, rest, enough, _ => by
      rw [write, List.length_cons, List.length_append] at enough
      have first := readValue_write item fuel (writeItems items ++ rest) (by omega)
        (noDigit_items items rest)
      have others := readItems_write items fuel rest (by omega)
      obtain ⟨c, cs, split, notEmpty⟩ := write_head item
      have head : (write item ++ (writeItems items ++ rest)).head? ≠ some ']' := by
        rw [split]
        exact fun same => notEmpty (Option.some.inj same)
      rw [write, List.cons_append, List.append_assoc, readValue.eq_def]
      simp only [Char.reduceEq, if_false, if_true, head, first, Option.bind_some, others,
        Option.map_some]
  | .obj [], fuel + 1, rest, _, _ => by
      show readValue (fuel + 1) ('\x7b' :: '\x7d' :: rest) = _
      rw [readValue.eq_def]
      rfl
  | .obj ((key, value) :: fields), fuel + 1, rest, enough, _ => by
      rw [write, List.length_cons, List.length_append, List.length_cons, List.length_append,
        quote, List.length_cons] at enough
      obtain ⟨fuel, rfl⟩ : ∃ f, fuel = f + 1 := ⟨fuel - 1, by omega⟩
      have first := readField_write key (readValue_write value fuel
        (writeFields fields ++ rest) (by omega) (noDigit_fields fields rest))
      have others := readFields_write fields (fuel + 1) rest (by omega)
      have head : (quote key ++ ':' :: (write value ++ (writeFields fields ++ rest))).head? ≠
          some '\x7d' := by
        rw [quote_append]
        exact fun same => absurd (Option.some.inj same) (by decide)
      rw [write, List.cons_append, List.append_assoc, List.cons_append, List.append_assoc,
        readValue.eq_def]
      simp only [Char.reduceEq, if_false, if_true, head, first, Option.bind_some, others,
        Option.map_some]

theorem readItems_write : ∀ (items : List Json) (fuel : Nat) (rest : List Char),
    (writeItems items).length ≤ fuel → readItems fuel (writeItems items ++ rest) = some (items, rest)
  | [], 0, _, enough => by simp [writeItems] at enough
  | _ :: _, 0, _, enough => by simp [writeItems] at enough
  | [], fuel + 1, rest, _ => by
      show readItems (fuel + 1) (']' :: rest) = _
      rw [readItems.eq_def]
      rfl
  | item :: items, fuel + 1, rest, enough => by
      rw [writeItems, List.length_cons, List.length_append] at enough
      have first := readValue_write item fuel (writeItems items ++ rest) (by omega)
        (noDigit_items items rest)
      have others := readItems_write items fuel rest (by omega)
      rw [writeItems, List.cons_append, List.append_assoc, readItems.eq_def]
      simp only [Char.reduceEq, if_false, if_true, first, Option.bind_some, others, Option.map_some]

theorem readFields_write : ∀ (fields : List (String × Json)) (fuel : Nat) (rest : List Char),
    (writeFields fields).length ≤ fuel →
      readFields fuel (writeFields fields ++ rest) = some (fields, rest)
  | [], 0, _, enough => by simp [writeFields] at enough
  | _ :: _, 0, _, enough => by simp [writeFields] at enough
  | [], fuel + 1, rest, _ => by
      show readFields (fuel + 1) ('\x7d' :: rest) = _
      rw [readFields.eq_def]
      rfl
  | (key, value) :: fields, fuel + 1, rest, enough => by
      rw [writeFields, List.length_cons, List.length_append, List.length_cons, List.length_append,
        quote, List.length_cons] at enough
      obtain ⟨fuel, rfl⟩ : ∃ f, fuel = f + 1 := ⟨fuel - 1, by omega⟩
      have first := readField_write key (readValue_write value fuel
        (writeFields fields ++ rest) (by omega) (noDigit_fields fields rest))
      have others := readFields_write fields (fuel + 1) rest (by omega)
      rw [writeFields, List.cons_append, List.append_assoc, List.cons_append, List.append_assoc,
        readFields.eq_def]
      simp only [Char.reduceEq, if_false, if_true, first, Option.bind_some, others, Option.map_some]

end

/-- **What is written is read back.** -/
theorem read_write (j : Json) : read (write j) = some j := by
  have whole := readValue_write j (write j).length [] le_rfl (by rintro c ⟨⟩)
  rw [List.append_nil] at whole
  rw [read, whole]

/-! ## Words of a text -/

/-- The characters outside of strings. -/
def markup : List Char := "-0123456789,:[]\x7b\x7dnulltruefalse".toList

/-- A word that only strings can begin: its characters stand for themselves in a string, and
its first is in no punctuation, number, literal or escape. -/
structure Word (first : Char) (word : List Char) : Prop where
  plain : ∀ c ∈ first :: word, c ≠ '"' ∧ escapeChar c = [c]
  apart : first ∉ markup ∧ ∀ c, escapeChar c ≠ [c] → first ∉ escapeChar c

mutual

/-- The word is in a string or a key of the value. -/
def Mentions (word : List Char) : Json → Prop
  | .str s => word <:+: s.toList
  | .arr items => ItemsMention word items
  | .obj fields => FieldsMention word fields
  | .null => False
  | .bool _ => False
  | .num _ => False

def ItemsMention (word : List Char) : List Json → Prop
  | [] => False
  | item :: items => Mentions word item ∨ ItemsMention word items

def FieldsMention (word : List Char) : List (String × Json) → Prop
  | [] => False
  | (key, value) :: fields => word <:+: key.toList ∨ Mentions word value ∨ FieldsMention word fields

end

theorem itemsMention_iff {word : List Char} {items : List Json} :
    ItemsMention word items ↔ ∃ item ∈ items, Mentions word item := by
  induction items with
  | nil => simp [ItemsMention]
  | cons item items ih => simp [ItemsMention, ih]

theorem fieldsMention_iff {word : List Char} {fields : List (String × Json)} :
    FieldsMention word fields ↔
      ∃ field ∈ fields, word <:+: field.1.toList ∨ Mentions word field.2 := by
  induction fields with
  | nil => simp [FieldsMention]
  | cons field fields ih => simp [FieldsMention, ih, or_assoc]

/-- An occurrence starts with its first character. -/
theorem infix_append_of_not_mem {c : Char} {word before rest : List Char} (absent : c ∉ before) :
    (c :: word) <:+: before ++ rest ↔ (c :: word) <:+: rest := by
  induction before with
  | nil => rfl
  | cons d before ih =>
      rw [List.mem_cons, not_or] at absent
      rw [List.cons_append, List.infix_cons_iff, ih absent.2]
      constructor
      · rintro (start | later)
        · exact absurd (List.cons_prefix_cons.1 start).1 absent.1
        · exact later
      · exact .inr

/-- An occurrence without the separator is on one side of it. -/
theorem infix_append_separator {q : Char} {word before rest : List Char} (absent : q ∉ word) :
    word <:+: before ++ q :: rest ↔ word <:+: before ∨ word <:+: rest := by
  constructor
  · rintro ⟨s, t, split⟩
    rw [List.append_assoc] at split
    rcases List.append_eq_append_iff.1 split with ⟨middle, rfl, rest'⟩ | ⟨middle, rfl, rest'⟩
    · rcases List.append_eq_append_iff.1 rest' with ⟨last, rfl, -⟩ | ⟨last, wordEq, after⟩
      · left
        exact ⟨s, last, by simp⟩
      · cases last with
        | nil =>
            left
            rw [List.append_nil] at wordEq
            rw [wordEq]
            exact ⟨s, [], by simp⟩
        | cons d last =>
            have same := (List.cons.inj after).1
            rw [wordEq, same] at absent
            simp at absent
    · cases middle with
      | nil =>
          cases word with
          | nil => exact .inl (List.nil_infix)
          | cons d word =>
              have same := (List.cons.inj rest').1
              rw [same] at absent
              simp at absent
      | cons d middle =>
          right
          rw [(List.cons.inj rest').2]
          exact ⟨middle, t, by simp⟩
  · rintro (left | right)
    · exact left.trans (List.prefix_append _ _).isInfix
    · exact right.trans ((List.suffix_cons _ _).trans (List.suffix_append _ _)).isInfix

theorem escapeChar_cases (c : Char) :
    escapeChar c = [c] ∨ escapeChar c ≠ [c] ∧ ∃ tail, escapeChar c = '\\' :: tail := by
  by_cases plain : escapeChar c = [c]
  · exact .inl plain
  · refine .inr ⟨plain, ?_⟩
    unfold escapeChar at plain ⊢
    cases short : shortEscape c with
    | some letter => exact ⟨_, rfl⟩
    | none =>
        rw [short] at plain
        by_cases control : c.toNat < 32
        · simp only [control, if_true]
          exact ⟨_, rfl⟩
        · simp [control] at plain

/-- The characters of escapes. -/
def escapeLetters : List Char := "\\\"bfnrtu0123456789abcdef".toList

theorem digitChar_letters : ∀ n < 16, Nat.digitChar n ∈ escapeLetters := by decide

theorem escapeChar_letters {c : Char} (escaped : escapeChar c ≠ [c]) :
    ∀ d ∈ escapeChar c, d ∈ escapeLetters := by
  unfold escapeChar at escaped ⊢
  cases short : shortEscape c with
  | some letter =>
      have all : ∀ pair ∈ shortEscapes, pair.2 ∈ escapeLetters := by decide
      intro d member
      rcases List.mem_cons.1 member with rfl | last
      · decide
      · rw [List.mem_singleton.1 last]
        exact all (c, letter) (shortEscape_mem short)
  | none =>
      rw [short] at escaped
      by_cases control : c.toNat < 32
      · simp only [control, if_true, List.forall_mem_cons]
        refine ⟨by decide, by decide, by decide, by decide, ?_, ?_, fun _ none =>
          absurd none List.not_mem_nil⟩
        · exact digitChar_letters _ (by omega)
        · exact digitChar_letters _ (by omega)
      · simp [control] at escaped

section Words

variable {first : Char} {word : List Char}

/-- Words are recognised by their letters. -/
theorem Word.of_letters (plain : ∀ c ∈ first :: word, c ≠ '"' ∧ escapeChar c = [c])
    (outside : first ∉ markup) (unescaped : first ∉ escapeLetters) : Word first word :=
  ⟨plain, outside, fun _ escaped member => unescaped (escapeChar_letters escaped first member)⟩

/-- Characters that stand for themselves are found where they were. -/
theorem prefix_escape {word : List Char} (plain : ∀ c ∈ word, c ≠ '"' ∧ escapeChar c = [c])
    (s : List Char) : word <+: s.flatMap escapeChar ↔ word <+: s := by
  induction word generalizing s with
  | nil => simp
  | cons d word ih =>
      rw [List.forall_mem_cons] at plain
      cases s with
      | nil => rfl
      | cons c s =>
          rw [List.flatMap_cons]
          rcases escapeChar_cases c with raw | ⟨escaped, tail, text⟩
          · rw [raw, List.singleton_append, List.cons_prefix_cons, List.cons_prefix_cons,
              ih plain.2 s]
          · rw [text, List.cons_append, List.cons_prefix_cons, List.cons_prefix_cons]
            constructor
            · rintro ⟨rfl, -⟩
              exact absurd plain.1.2 (by decide)
            · rintro ⟨rfl, -⟩
              exact absurd plain.1.2 escaped

theorem infix_escape (isWord : Word first word) (s : List Char) :
    (first :: word) <:+: s.flatMap escapeChar ↔ (first :: word) <:+: s := by
  induction s with
  | nil => rfl
  | cons c s ih =>
      rw [List.flatMap_cons, List.infix_cons_iff, ← ih]
      rcases escapeChar_cases c with raw | ⟨escaped, -⟩
      · have start := prefix_escape isWord.plain (c :: s)
        rw [List.flatMap_cons, raw, List.singleton_append] at start
        rw [raw, List.singleton_append, List.infix_cons_iff, start]
      · rw [infix_append_of_not_mem (isWord.apart.2 c escaped)]
        refine ⟨.inr, fun found => found.resolve_left fun start => ?_⟩
        obtain ⟨rfl, -⟩ := List.cons_prefix_cons.1 start
        exact escaped (isWord.plain first (by simp)).2

theorem infix_quote (isWord : Word first word) (s : String) (rest : List Char) :
    (first :: word) <:+: quote s ++ rest ↔
      (first :: word) <:+: s.toList ∨ (first :: word) <:+: rest := by
  have noQuote : '"' ∉ first :: word := fun member => (isWord.plain '"' member).1 rfl
  have other : first ∉ ['"'] := by
    rintro member
    rw [List.mem_singleton.1 member] at noQuote
    simp at noQuote
  have opening : (first :: word) <:+: ['"'] ++ (s.toList.flatMap escapeChar ++ '"' :: rest) ↔ _ :=
    infix_append_of_not_mem other
  rw [quote_append]
  refine opening.trans ?_
  rw [infix_append_separator noQuote, infix_escape isWord]

/-- Punctuation, numbers and literals are no part of a word. -/
theorem Word.skips (isWord : Word first word) {before : List Char} (rest : List Char)
    (outside : ∀ c ∈ before, c ∈ markup) :
    (first :: word) <:+: before ++ rest ↔ (first :: word) <:+: rest :=
  infix_append_of_not_mem fun member => isWord.apart.1 (outside first member)

theorem Word.cons (isWord : Word first word) {c : Char} (outside : c ∈ markup) (rest : List Char) :
    (first :: word) <:+: c :: rest ↔ (first :: word) <:+: rest :=
  isWord.skips rest fun _ member => List.mem_singleton.1 member ▸ outside

theorem writeInt_markup (n : Int) : ∀ c ∈ writeInt n, c ∈ markup := by
  have digits : ∀ c : Char, c.isDigit = true → c ∈ markup := by
    intro c digit
    simp only [Char.isDigit, Bool.and_eq_true, decide_eq_true_eq] at digit
    obtain ⟨low, high⟩ : 48 ≤ c.toNat ∧ c.toNat ≤ 57 := digit
    rw [← Char.ofNat_toNat c]
    generalize c.toNat = code at low high
    interval_cases code <;> decide
  intro c member
  cases n with
  | ofNat m => exact digits c (toDigits_digits m c member)
  | negSucc m =>
      rcases List.mem_cons.1 member with rfl | later
      · decide
      · exact digits c (toDigits_digits (m + 1) c later)

mutual

/-- **A word is in the text of a value exactly when the value mentions it.** -/
theorem infix_write (isWord : Word first word) : ∀ (j : Json) (rest : List Char),
    (first :: word) <:+: write j ++ rest ↔
      j.Mentions (first :: word) ∨ (first :: word) <:+: rest
  | .null, rest => by
      rw [write, isWord.skips rest (checked (by decide)), Mentions, false_or]
  | .bool true, rest => by
      rw [write, isWord.skips rest (checked (by decide)), Mentions, false_or]
  | .bool false, rest => by
      rw [write, isWord.skips rest (checked (by decide)), Mentions, false_or]
  | .num n, rest => by
      rw [write, isWord.skips rest (writeInt_markup n), Mentions, false_or]
  | .str s, rest => by
      rw [write, infix_quote isWord, Mentions]
  | .arr [], rest => by
      rw [write, isWord.skips rest (checked (by decide)), Mentions, ItemsMention, false_or]
  | .arr (item :: items), rest => by
      rw [write, List.cons_append, List.append_assoc, isWord.cons (c := '[') (by decide),
        infix_write isWord item, infix_writeItems isWord items, Mentions, ItemsMention, or_assoc]
  | .obj [], rest => by
      rw [write, isWord.skips rest (checked (by decide)), Mentions, FieldsMention, false_or]
  | .obj ((key, value) :: fields), rest => by
      rw [write, List.cons_append, List.append_assoc, List.cons_append, List.append_assoc,
        isWord.cons (c := '\x7b') (by decide), infix_quote isWord,
        isWord.cons (c := ':') (by decide), infix_write isWord value,
        infix_writeFields isWord fields, Mentions, FieldsMention, or_assoc, or_assoc]

theorem infix_writeItems (isWord : Word first word) : ∀ (items : List Json) (rest : List Char),
    (first :: word) <:+: writeItems items ++ rest ↔
      ItemsMention (first :: word) items ∨ (first :: word) <:+: rest
  | [], rest => by
      rw [writeItems, isWord.skips rest (checked (by decide)), ItemsMention, false_or]
  | item :: items, rest => by
      rw [writeItems, List.cons_append, List.append_assoc, isWord.cons (c := ',') (by decide),
        infix_write isWord item, infix_writeItems isWord items, ItemsMention, or_assoc]

theorem infix_writeFields (isWord : Word first word) :
    ∀ (fields : List (String × Json)) (rest : List Char),
    (first :: word) <:+: writeFields fields ++ rest ↔
      FieldsMention (first :: word) fields ∨ (first :: word) <:+: rest
  | [], rest => by
      rw [writeFields, isWord.skips rest (checked (by decide)), FieldsMention, false_or]
  | (key, value) :: fields, rest => by
      rw [writeFields, List.cons_append, List.append_assoc, List.cons_append, List.append_assoc,
        isWord.cons (c := ',') (by decide), infix_quote isWord,
        isWord.cons (c := ':') (by decide), infix_write isWord value,
        infix_writeFields isWord fields, FieldsMention, or_assoc, or_assoc]

end

end Words

/-! ## Control characters -/

theorem escapeChar_control {c : Char} (control : c.toNat < 32) : escapeChar c ≠ [c] := by
  unfold escapeChar
  cases shortEscape c with
  | some letter => exact fun same => List.cons_ne_nil letter [] (List.cons.inj same).2
  | none =>
      dsimp only
      rw [if_pos control]
      exact fun same => List.cons_ne_nil _ _ (List.cons.inj same).2

theorem escapeChar_printable (c : Char) : ∀ d ∈ escapeChar c, 32 ≤ d.toNat := by
  have printable : ∀ d ∈ escapeLetters, 32 ≤ d.toNat := checked (by decide)
  intro d member
  by_cases plain : escapeChar c = [c]
  · rw [plain] at member
    rw [List.mem_singleton.1 member]
    by_contra control
    exact escapeChar_control (not_le.1 control) plain
  · exact printable d (escapeChar_letters plain d member)

theorem quote_printable (s : String) : ∀ d ∈ quote s, 32 ≤ d.toNat := by
  intro d member
  rw [quote] at member
  rcases List.mem_cons.1 member with rfl | member
  · decide
  · rcases List.mem_append.1 member with inner | last
    · obtain ⟨c, -, here⟩ := List.mem_flatMap.1 inner
      exact escapeChar_printable c d here
    · rw [List.mem_singleton.1 last]
      decide

theorem writeInt_printable (n : Int) : ∀ d ∈ writeInt n, 32 ≤ d.toNat := by
  intro d member
  have all : ∀ c ∈ markup, 32 ≤ c.toNat := checked (by decide)
  exact all d (writeInt_markup n d member)

mutual

/-- **A text has no control characters**, line breaks among them. -/
theorem write_printable : ∀ (j : Json), ∀ d ∈ write j, 32 ≤ d.toNat
  | .null => by rw [write]; exact checked (by decide)
  | .bool true => by rw [write]; exact checked (by decide)
  | .bool false => by rw [write]; exact checked (by decide)
  | .num n => by rw [write]; exact writeInt_printable n
  | .str s => by rw [write]; exact quote_printable s
  | .arr [] => by rw [write]; exact checked (by decide)
  | .arr (item :: items) => by
      rw [write, List.forall_mem_cons, List.forall_mem_append]
      exact ⟨by decide, write_printable item, writeItems_printable items⟩
  | .obj [] => by rw [write]; exact checked (by decide)
  | .obj ((key, value) :: fields) => by
      rw [write, List.forall_mem_cons, List.forall_mem_append, List.forall_mem_cons,
        List.forall_mem_append]
      exact ⟨by decide, quote_printable key, by decide, write_printable value,
        writeFields_printable fields⟩

theorem writeItems_printable : ∀ (items : List Json), ∀ d ∈ writeItems items, 32 ≤ d.toNat
  | [] => by rw [writeItems]; exact checked (by decide)
  | item :: items => by
      rw [writeItems, List.forall_mem_cons, List.forall_mem_append]
      exact ⟨by decide, write_printable item, writeItems_printable items⟩

theorem writeFields_printable : ∀ (fields : List (String × Json)), ∀ d ∈ writeFields fields,
    32 ≤ d.toNat
  | [] => by rw [writeFields]; exact checked (by decide)
  | (key, value) :: fields => by
      rw [writeFields, List.forall_mem_cons, List.forall_mem_append, List.forall_mem_cons,
        List.forall_mem_append]
      exact ⟨by decide, quote_printable key, by decide, write_printable value,
        writeFields_printable fields⟩

end

end Json

end Imf.Lib
