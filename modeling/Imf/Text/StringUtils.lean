/-
# Imf.Text.StringUtils -- counting and truncating UTF-16 text

`TruncateUtf16String` cuts a text to a number of code points, `CountUtf16Chars` counts them.  The
first walks over the code units with `U16_NEXT`, the second leaves the count to `u_countChar32`;
both are of ICU and are given here by what is documented of them (`Icu.Lawful`): a surrogate pair
is one code point, and so is every other unit, an unpaired surrogate too.

`truncates_to_longest` says that the text is cut at the last place that it can be cut at without
splitting a pair, and what the two functions make of the result.
-/
import Imf.Lib.Pairs
import Mathlib.Algebra.Group.Nat.Defs

namespace Imf.Text

set_option autoImplicit false

open Lib (Splits chars chars_le_length chars_take_cut cut cut_eq_length cut_le le_cut
  not_splits_cut width width_le
  width_pair width_pos width_single)

/-! ## Code units -/

def isLead (unit : UInt16) : Bool := decide (0xD800 ≤ unit ∧ unit ≤ 0xDBFF)

def isTrail (unit : UInt16) : Bool := decide (0xDC00 ≤ unit ∧ unit ≤ 0xDFFF)

/-- Two units that are one code point. -/
def surrogatePair (lead trail : UInt16) : Bool := isLead lead && isTrail trail

def supplementary (lead trail : UInt16) : Int :=
  0x10000 + ((lead.toNat - 0xD800 : Nat) * 0x400 + (trail.toNat - 0xDC00 : Nat))

def codePoints (text : List UInt16) : Nat := chars surrogatePair text

theorem surrogatePair_apart (a b c : UInt16) (paired : surrogatePair a b = true) :
    surrogatePair b c = false := by
  simp only [surrogatePair, isLead, isTrail, Bool.and_eq_true, decide_eq_true_eq,
    UInt16.le_iff_toNat_le] at paired
  simp only [surrogatePair, isLead, Bool.and_eq_false_iff, decide_eq_false_iff_not,
    UInt16.le_iff_toNat_le]
  have trail : 0xDC00 ≤ b.toNat := paired.2.1
  refine .inl ?_
  rintro ⟨-, lead⟩
  have lead : b.toNat ≤ 0xDBFF := lead
  omega

/-! ## The functions -/

/-- What is used of ICU: `U16_NEXT` on the text, the offset and the length, with the new offset and the
code point, and `u_countChar32`. -/
structure Icu where
  u16Next : List UInt16 → Nat → Nat → Nat × Int
  uCountChar32 : List UInt16 → Int32 → Int32

def U_SENTINEL : Int := -1

variable (icu : Icu)

def countUtf16Chars (text : List UInt16) : Int32 := icu.uCountChar32 text (Int32.ofNat text.length)

/-- The loop of `TruncateUtf16String`, with the rounds it may have. -/
def truncateLoop (src : List UInt16) (srcLen : Nat) (maxChars : Int32) :
    Nat → Nat → Int32 → Option (Nat × Int32)
  | 0, _, _ => none
  | rounds + 1, offset, count =>
      if offset < srcLen ∧ count < maxChars then
        let (offset, c) := icu.u16Next src offset srcLen
        if c = U_SENTINEL then some (offset, count)
        else truncateLoop src srcLen maxChars rounds offset (count + 1)
      else some (offset, count)

/-- `TruncateUtf16String`, with what it leaves in `in`.  The loop ends within a round for every unit and
one more, or nothing is said of the result. -/
def truncateUtf16String (text : List UInt16) (maxChars : Int32) : Option (List UInt16) :=
  let srcLen := text.length
  if maxChars < 0 ∨ Int32.ofNat srcLen ≤ maxChars then some text
  else
    (truncateLoop icu text srcLen maxChars (srcLen + 1) 0 0).map fun (offset, _) =>
      if offset < srcLen then text.take offset else text

/-- What is documented of ICU. -/
structure Icu.Lawful (icu : Icu) : Prop where
  next_pair : ∀ text i lead trail, text[i]? = some lead → text[i + 1]? = some trail →
    surrogatePair lead trail = true → icu.u16Next text i text.length = (i + 2, supplementary lead trail)
  next_single : ∀ text i unit, text[i]? = some unit →
    (∀ trail, text[i + 1]? = some trail → surrogatePair unit trail = false) →
    icu.u16Next text i text.length = (i + 1, (unit.toNat : Int))
  count : ∀ text, text.length < 2 ^ 31 → icu.uCountChar32 text (Int32.ofNat text.length) =
    Int32.ofNat (codePoints text)

/-! ## The loop -/

variable {icu} {text : List UInt16} {maxChars : Int32}

/-- `U16_NEXT` goes over one character, and its code point is not the sentinel. -/
theorem Icu.Lawful.next (lawful : icu.Lawful) {offset : Nat} (inside : offset < text.length) :
    (icu.u16Next text offset text.length).1 = offset + width surrogatePair (text.drop offset) ∧
      (icu.u16Next text offset text.length).2 ≠ U_SENTINEL := by
  have first := List.getElem?_eq_getElem inside
  have shape := List.drop_eq_getElem_cons inside
  cases second : text[offset + 1]? with
  | none =>
      have last : text.drop (offset + 1) = [] :=
        List.drop_eq_nil_of_le (List.getElem?_eq_none_iff.1 second)
      rw [lawful.next_single text offset _ first (by simp [second]), shape, last]
      refine ⟨rfl, ?_⟩
      dsimp only [U_SENTINEL]
      omega
  | some trail =>
      obtain ⟨more, rfl⟩ := List.getElem?_eq_some_iff.1 second
      rw [shape, List.drop_eq_getElem_cons more]
      cases paired : surrogatePair text[offset] text[offset + 1] with
      | true =>
          rw [lawful.next_pair text offset _ _ first second paired, width_pair paired]
          refine ⟨rfl, ?_⟩
          dsimp only [supplementary, U_SENTINEL]
          omega
      | false =>
          rw [lawful.next_single text offset _ first (by rw [second]; rintro _ ⟨⟩; exact paired),
            width_single paired]
          refine ⟨rfl, ?_⟩
          dsimp only [U_SENTINEL]
          omega

/-- **The loop stops behind as many characters as are left to count.** -/
theorem truncateLoop_spec (lawful : icu.Lawful) (rounds : Nat) {offset counted limit : Nat}
    (max : maxChars.toInt = limit) (inside : offset ≤ text.length)
    (enough : text.length - offset < rounds) (below : counted ≤ limit) :
    ∃ count, truncateLoop icu text text.length maxChars rounds offset (Int32.ofNat counted) =
      some (offset + cut surrogatePair (limit - counted) (text.drop offset), count) := by
  induction rounds generalizing offset counted with
  | zero => omega
  | succ rounds ih =>
      have range : limit < 2 ^ 31 := by
        have bound := maxChars.toInt_lt
        omega
      have less : Int32.ofNat counted < maxChars ↔ counted < limit := by
        rw [Int32.lt_iff_toInt_lt, Int32.toInt_ofNat_of_lt (by omega), max]
        omega
      unfold truncateLoop
      by_cases again : offset < text.length ∧ counted < limit
      · obtain ⟨more, few⟩ := again
        obtain ⟨next, proper⟩ := lawful.next more
        rw [if_pos ⟨more, less.2 few⟩]
        dsimp only
        rw [if_neg proper, next]
        have nonempty : text.drop offset ≠ [] := by
          rw [Ne, List.drop_eq_nil_iff]
          omega
        have pos := width_pos surrogatePair nonempty
        have fits := width_le surrogatePair (text.drop offset)
        rw [List.length_drop] at fits
        have counts : Int32.ofNat counted + 1 = Int32.ofNat (counted + 1) :=
          (Int32.ofNat_add counted 1).symm
        obtain ⟨count, rest⟩ := @ih (offset + width surrogatePair (text.drop offset)) (counted + 1)
          (by omega) (by omega)
          (by omega)
        have left : limit - counted = limit - (counted + 1) + 1 := by omega
        rw [counts, rest, left, cut, List.drop_drop]
        exact ⟨count, by rw [Nat.add_assoc]⟩
      · refine ⟨Int32.ofNat counted, ?_⟩
        rw [if_neg fun both => again ⟨both.1, less.1 both.2⟩]
        have nothing : cut surrogatePair (limit - counted) (text.drop offset) = 0 := by
          rcases Nat.lt_or_ge offset text.length with more | done
          · have full : limit - counted = 0 := by omega
            rw [full]
            rfl
          · have least := cut_le surrogatePair (limit - counted) (text.drop offset)
            rw [List.length_drop] at least
            omega
        rw [nothing, Nat.add_zero]

/-! ## The result -/

/-- What is left is the first `maxChars` code points. -/
theorem truncateUtf16String_eq (lawful : icu.Lawful) (short : text.length < 2 ^ 31) {limit : Nat}
    (max : maxChars.toInt = limit) :
    truncateUtf16String icu text maxChars = some (text.take (cut surrogatePair limit text)) := by
  have natural : ¬ maxChars < 0 := by
    rw [Int32.lt_iff_toInt_lt, max, Int32.toInt_zero]
    omega
  have least := cut_le surrogatePair limit text
  unfold truncateUtf16String
  dsimp only
  split
  · rename_i early
    have few : text.length ≤ limit := by
      have fits := early.resolve_left natural
      rw [Int32.le_iff_toInt_le, Int32.toInt_ofNat_of_lt short, max] at fits
      omega
    rw [cut_eq_length (Nat.le_trans (chars_le_length text) few), List.take_length]
  · obtain ⟨count, ends⟩ := @truncateLoop_spec icu text maxChars lawful (text.length + 1) 0 0 limit max
      (Nat.zero_le _) (by omega) (Nat.zero_le _)
    rw [List.drop_zero, Nat.zero_add, Nat.sub_zero] at ends
    rw [show (0 : Int32) = Int32.ofNat 0 from rfl, ends, Option.map_some]
    dsimp only
    split
    · rfl
    · rename_i whole
      rw [List.take_of_length_le (by omega)]

theorem countUtf16Chars_toInt (lawful : icu.Lawful) (short : text.length < 2 ^ 31) :
    (countUtf16Chars icu text).toInt = codePoints text := by
  have few : codePoints text ≤ text.length := chars_le_length text
  rw [countUtf16Chars, lawful.count text short, Int32.toInt_ofNat_of_lt (by omega)]

/-- **The text is cut to the longest prefix that holds so many code points and splits no
pair.**  Counted again it has the lesser of its code points and the limit, and truncated again it
stays as it is.  A negative limit leaves it as it is. -/
theorem truncates_to_longest (lawful : icu.Lawful) (text : List UInt16) (short : text.length < 2 ^ 31)
    (maxChars : Int32) :
    (maxChars < 0 → truncateUtf16String icu text maxChars = some text) ∧
      (0 ≤ maxChars → ∃ n,
        n ≤ text.length ∧ truncateUtf16String icu text maxChars = some (text.take n) ∧
        ¬ Splits surrogatePair text n ∧ (codePoints (text.take n) : Int) ≤ maxChars.toInt ∧
        (∀ k, k ≤ text.length → ¬ Splits surrogatePair text k →
          (codePoints (text.take k) : Int) ≤ maxChars.toInt → k ≤ n) ∧
        (countUtf16Chars icu (text.take n)).toInt =
          min (countUtf16Chars icu text).toInt maxChars.toInt ∧
        truncateUtf16String icu (text.take n) maxChars = some (text.take n)) := by
  refine ⟨?_, ?_⟩
  · intro negative
    exact if_pos (.inl negative)
  · intro natural
    rw [Int32.le_iff_toInt_le, Int32.toInt_zero] at natural
    obtain ⟨limit, max⟩ := Int.eq_ofNat_of_zero_le natural
    let n := cut surrogatePair limit text
    have prefixShort : (text.take n).length < 2 ^ 31 := by
      rw [List.length_take]
      omega
    have counted : codePoints (text.take n) = min (codePoints text) limit := chars_take_cut limit text
    have few : codePoints (text.take n) ≤ limit := by omega
    refine ⟨n, cut_le surrogatePair limit text, truncateUtf16String_eq lawful short max,
      not_splits_cut surrogatePair_apart limit text, by omega, ?_, ?_, ?_⟩
    · intro k inside whole fewer
      rw [max] at fewer
      exact le_cut inside whole (Int.ofNat_le.1 fewer)
    · rw [countUtf16Chars_toInt lawful short, countUtf16Chars_toInt lawful prefixShort, max, counted]
      omega
    · rw [truncateUtf16String_eq lawful prefixShort max, cut_eq_length few, List.take_length]

/-! ## ICU as it is documented -/

/-- ICU, as far as it is used. -/
def icuModel : Icu where
  u16Next text i _ :=
    match text[i]?, text[i + 1]? with
    | none, _ => (i, U_SENTINEL)
    | some unit, none => (i + 1, unit.toNat)
    | some unit, some next =>
        if surrogatePair unit next then (i + 2, supplementary unit next) else (i + 1, unit.toNat)
  uCountChar32 text _ := Int32.ofNat (codePoints text)

theorem icuModel_lawful : icuModel.Lawful where
  next_pair text i lead trail first second paired := by
    simp [icuModel, first, second, paired]
  next_single text i unit first single := by
    cases second : text[i + 1]? with
    | none => simp [icuModel, first, second]
    | some trail => simp [icuModel, first, second, single trail second]
  count text _ := rfl

/-! ## Poles -/

/-- An unpaired trail, a pair and an unpaired lead are three code points; cut to two they lose the
last. -/
theorem unpaired_lead_cut :
    truncateUtf16String icuModel [0xDE00, 0xD83D, 0xDE00, 0xD83D] 2 = some [0xDE00, 0xD83D, 0xDE00] ∧
      ∃ n, truncateUtf16String icuModel [0xDE00, 0xD83D, 0xDE00, 0xD83D] 2 =
          some ([0xDE00, 0xD83D, 0xDE00, 0xD83D].take n) ∧
        ¬ Splits surrogatePair [0xDE00, 0xD83D, 0xDE00, 0xD83D] n := by
  refine ⟨by decide, ?_⟩
  obtain ⟨n, -, cutAt, whole, -⟩ :=
    (truncates_to_longest icuModel_lawful [0xDE00, 0xD83D, 0xDE00, 0xD83D] (by decide)
    2).2 (by decide)
  exact ⟨n, cutAt, whole⟩

end Imf.Text
