/-
# Imf.Lib.JsonPrefix -- a text that breaks off

The reader of `Imf.Lib.Json` stops behind what it has read: whatever follows in the text is left as
it is (`readValue_append`, one lemma for each reader).  Numbers are the exception, since digits that
follow belong to them; so the lemmas ask for something behind a value, unless it is an object.

An object ends with its brace.  A prefix that the reader took for a value would be read the same way
within the whole text, and something would be left over there: no proper prefix is read
(`read_prefix_obj`).
-/
import Imf.Lib.Json

namespace Imf.Lib.Json

set_option autoImplicit false

/-! ## Behind what is read -/

theorem skip_append (word : List Char) {text rest : List Char} (found : skip word text = some rest)
    (more : List Char) :
    skip word (text ++ more) = some (rest ++ more) := by
  induction word generalizing text with
  | nil =>
      obtain rfl := Option.some.inj found
      rfl
  | cons c word ih =>
      cases text with
      | nil => cases found
      | cons d text =>
          rw [skip] at found
          split at found
          · rw [List.cons_append, skip, if_pos ‹_›]
            exact ih found
          · cases found

/-- One more character of a string. -/
theorem readString_next {c : Char} {text s rest : List Char}
    (found : ((readString text).map fun read => (c :: read.1, read.2)) = some (s, rest)) :
    ∃ s', s = c :: s' ∧ readString text = some (s', rest) := by
  obtain ⟨⟨s', rest'⟩, inner, same⟩ := Option.map_eq_some_iff.1 found
  cases same
  exact ⟨s', rfl, inner⟩

theorem readString_append {text s rest : List Char} (found : readString text = some (s, rest))
    (more : List Char) :
    readString (text ++ more) = some (s, rest ++ more) := by
  induction text using readString.induct generalizing s with
  | case1 => cases found
  | case2 text =>
      rw [readString.eq_def] at found ⊢
      cases found
      rfl
  | case3 c text quoted plain ih =>
      rw [readString.eq_def] at found
      simp only [if_neg quoted, if_pos plain] at found
      obtain ⟨s', rfl, inner⟩ := readString_next found
      rw [List.cons_append, readString.eq_def]
      simp only [if_neg quoted, if_pos plain, ih inner, Option.map_some]
  | case4 c quoted plain h₁ h₂ h₃ h₄ text ih =>
      rw [readString.eq_def] at found
      simp only [if_neg quoted, if_neg plain] at found
      obtain ⟨letter, hex, found⟩ := Option.bind_eq_some_iff.1 found
      obtain ⟨s', rfl, inner⟩ := readString_next found
      simp only [List.cons_append]
      rw [readString.eq_def]
      simp only [if_neg quoted, if_neg plain, hex, Option.bind_some, ih inner, Option.map_some]
  | case5 c quoted plain letter text short ih =>
      obtain rfl : c = '\\' := by simpa using plain
      rw [readString.eq_def] at found
      simp only [if_neg quoted, if_neg plain] at found
      obtain ⟨char, escape, found⟩ := Option.bind_eq_some_iff.1 found
      obtain ⟨s', rfl, inner⟩ := readString_next found
      have other : letter ≠ 'u' := by
        rintro rfl
        cases escape
      simp only [List.cons_append]
      rw [readString_short other, escape, Option.bind_some, ih inner, Option.map_some]
  | case6 c quoted plain =>
      rw [readString.eq_def] at found
      simp only [if_neg quoted, if_neg plain] at found
      cases found

/-- The digits of a number end where something else follows. -/
theorem digits_append {text : List Char} (ends : text.dropWhile Char.isDigit ≠ []) (more : List Char) :
    (text ++ more).takeWhile Char.isDigit = text.takeWhile Char.isDigit ∧
      (text ++ more).dropWhile Char.isDigit = text.dropWhile Char.isDigit ++ more := by
  induction text with
  | nil => exact absurd rfl ends
  | cons c text ih =>
      by_cases digit : c.isDigit = true
      · rw [List.dropWhile_cons_of_pos digit] at ends
        obtain ⟨taken, dropped⟩ := ih ends
        simp [digit, taken, dropped]
      · simp [digit]

theorem readInt_append {text rest : List Char} {n : Int} (found : readInt text = some (n, rest))
    (ends : rest ≠ []) (more : List Char) : readInt (text ++ more) = some (n, rest ++ more) := by
  cases text with
  | nil => cases found
  | cons c text =>
      unfold readInt at found ⊢
      dsimp only at found ⊢
      by_cases minus : (c :: text).head? = some '-'
      · have minus' : (c :: text ++ more).head? = some '-' := minus
        rw [if_pos minus] at found
        rw [if_pos minus', List.cons_append, List.tail_cons]
        obtain ⟨⟨m, after⟩, digits, same⟩ := Option.map_eq_some_iff.1 found
        split at digits
        · cases digits
        · rename_i first others taken
          cases digits
          cases same
          obtain ⟨taken', dropped⟩ := digits_append ends more
          rw [List.tail_cons] at taken' dropped taken
          rw [taken', dropped, taken]
          rfl
      · have minus' : (c :: text ++ more).head? ≠ some '-' := minus
        rw [if_neg minus] at found
        rw [if_neg minus']
        obtain ⟨⟨m, after⟩, digits, same⟩ := Option.map_eq_some_iff.1 found
        split at digits
        · cases digits
        · rename_i first others taken
          cases digits
          cases same
          obtain ⟨taken', dropped⟩ := digits_append ends more
          rw [taken', dropped, taken]
          rfl

/-- Behind an item there is something. -/
theorem readItems_rest {fuel : Nat} {text : List Char} {read : List Json × List Char}
    (found : readItems fuel text = some read) : text ≠ [] := by
  rintro rfl
  cases fuel <;> cases found

theorem readFields_rest {fuel : Nat} {text : List Char} {read : List (String × Json) × List Char}
    (found : readFields fuel text = some read) : text ≠ [] := by
  rintro rfl
  cases fuel <;> cases found

/-- The rest of a literal. -/
theorem literal_append {word text rest : List Char} {literal value : Json}
    (found : ((skip word text).map fun text => (literal, text)) = some (value, rest))
    (more : List Char) :
    ((skip word (text ++ more)).map fun text => (literal, text)) = some (value, rest ++ more) := by
  obtain ⟨after, skipped, same⟩ := Option.map_eq_some_iff.1 found
  cases same
  rw [skip_append _ skipped more, Option.map_some]

mutual

theorem readValue_append : ∀ (fuel : Nat) {text rest : List Char} {value : Json},
    readValue fuel text = some (value, rest) → (rest ≠ [] ∨ text.head? = some '\x7b') →
      ∀ {fuel' : Nat}, fuel ≤ fuel' →
      ∀ more, readValue fuel' (text ++ more) = some (value, rest ++ more)
  | 0, _, _, _, found, _, _, _, _ => by cases found
  | _ + 1, [], _, _, found, _, _, _, _ => by cases found
  | _ + 1, _ :: _, _, _, _, _, 0, enough, _ => absurd enough (by omega)
  | fuel + 1, c :: text, rest, value, found, ends, fuel' + 1, enough, more => by
      have fewer : fuel ≤ fuel' := by omega
      rw [readValue.eq_def] at found
      rw [List.cons_append, readValue.eq_def]
      dsimp only at found ⊢
      by_cases null : c = 'n'
      · rw [if_pos null] at found ⊢
        exact literal_append found more
      rw [if_neg null] at found ⊢
      by_cases yes : c = 't'
      · rw [if_pos yes] at found ⊢
        exact literal_append found more
      rw [if_neg yes] at found ⊢
      by_cases no : c = 'f'
      · rw [if_pos no] at found ⊢
        exact literal_append found more
      rw [if_neg no] at found ⊢
      by_cases quoted : c = '"'
      · rw [if_pos quoted] at found ⊢
        obtain ⟨⟨s, after⟩, string, same⟩ := Option.map_eq_some_iff.1 found
        cases same
        rw [readString_append string more, Option.map_some]
      rw [if_neg quoted] at found ⊢
      by_cases array : c = '['
      · rw [if_pos array] at found ⊢
        by_cases none : text.head? = some ']'
        · obtain ⟨text, rfl⟩ : ∃ t, text = ']' :: t := ⟨text.tail, (List.cons_head?_tail none).symm⟩
          cases found
          rfl
        · rw [if_neg none] at found
          obtain ⟨⟨item, after⟩, first, found⟩ := Option.bind_eq_some_iff.1 found
          obtain ⟨⟨items, after'⟩, others, same⟩ := Option.map_eq_some_iff.1 found
          cases same
          have head : (text ++ more).head? ≠ some ']' := by
            cases text with
            | nil => cases fuel <;> cases first
            | cons d text => exact none
          rw [if_neg head, readValue_append fuel first (.inl (readItems_rest others)) fewer more,
            Option.bind_some,
            readItems_append fuel others fewer more, Option.map_some]
      rw [if_neg array] at found ⊢
      by_cases object : c = '\x7b'
      · rw [if_pos object] at found ⊢
        by_cases none : text.head? = some '\x7d'
        · obtain ⟨text, rfl⟩ : ∃ t, text = '\x7d' :: t := ⟨text.tail, (List.cons_head?_tail none).symm⟩
          cases found
          rfl
        · rw [if_neg none] at found
          obtain ⟨⟨field, after⟩, first, found⟩ := Option.bind_eq_some_iff.1 found
          obtain ⟨⟨fields, after'⟩, others, same⟩ := Option.map_eq_some_iff.1 found
          cases same
          have head : (text ++ more).head? ≠ some '\x7d' := by
            cases text with
            | nil => cases fuel <;> cases first
            | cons d text => exact none
          rw [if_neg head, readField_append fuel first (readFields_rest others) fewer more,
            Option.bind_some,
            readFields_append fuel others fewer more, Option.map_some]
      rw [if_neg object] at found ⊢
      obtain ⟨⟨n, after⟩, number, same⟩ := Option.map_eq_some_iff.1 found
      cases same
      have more' : after ≠ [] := ends.resolve_right fun head => object (Option.some.inj head)
      have read := readInt_append number more' more
      rw [List.cons_append] at read
      rw [read, Option.map_some]

theorem readItems_append : ∀ (fuel : Nat) {text rest : List Char} {items : List Json},
    readItems fuel text = some (items, rest) → ∀ {fuel' : Nat}, fuel ≤ fuel' →
      ∀ more, readItems fuel' (text ++ more) = some (items, rest ++ more)
  | 0, _, _, _, found, _, _, _ => by cases found
  | _ + 1, [], _, _, found, _, _, _ => by cases found
  | _ + 1, _ :: _, _, _, _, 0, enough, _ => absurd enough (by omega)
  | fuel + 1, c :: text, rest, items, found, fuel' + 1, enough, more => by
      have fewer : fuel ≤ fuel' := by omega
      rw [readItems.eq_def] at found
      rw [List.cons_append, readItems.eq_def]
      dsimp only at found ⊢
      by_cases closed : c = ']'
      · rw [if_pos closed] at found ⊢
        cases found
        rfl
      rw [if_neg closed] at found ⊢
      by_cases comma : c = ','
      · rw [if_pos comma] at found ⊢
        obtain ⟨⟨item, after⟩, first, found⟩ := Option.bind_eq_some_iff.1 found
        obtain ⟨⟨items, after'⟩, others, same⟩ := Option.map_eq_some_iff.1 found
        cases same
        rw [readValue_append fuel first (.inl (readItems_rest others)) fewer more, Option.bind_some,
          readItems_append fuel others fewer more, Option.map_some]
      · rw [if_neg comma] at found
        cases found

theorem readField_append : ∀ (fuel : Nat) {text rest : List Char} {field : String × Json},
    readField fuel text = some (field, rest) → rest ≠ [] → ∀ {fuel' : Nat}, fuel ≤ fuel' →
      ∀ more, readField fuel' (text ++ more) = some (field, rest ++ more)
  | 0, _, _, _, found, _, _, _, _ => by cases found
  | _ + 1, [], _, _, found, _, _, _, _ => by cases found
  | _ + 1, _ :: _, _, _, _, _, 0, enough, _ => absurd enough (by omega)
  | fuel + 1, c :: text, rest, field, found, ends, fuel' + 1, enough, more => by
      have fewer : fuel ≤ fuel' := by omega
      rw [readField.eq_def] at found
      rw [List.cons_append, readField.eq_def]
      dsimp only at found ⊢
      by_cases quoted : c = '"'
      · rw [if_pos quoted] at found ⊢
        obtain ⟨⟨key, after⟩, string, found⟩ := Option.bind_eq_some_iff.1 found
        obtain ⟨after', colon, found⟩ := Option.bind_eq_some_iff.1 found
        obtain ⟨⟨value, rest'⟩, inner, same⟩ := Option.map_eq_some_iff.1 found
        cases same
        rw [readString_append string more, Option.bind_some, skip_append _ colon more, Option.bind_some,
          readValue_append fuel inner (.inl ends) fewer more, Option.map_some]
      · rw [if_neg quoted] at found
        cases found

theorem readFields_append : ∀ (fuel : Nat) {text rest : List Char} {fields : List (String × Json)},
    readFields fuel text = some (fields, rest) → ∀ {fuel' : Nat}, fuel ≤ fuel' →
      ∀ more, readFields fuel' (text ++ more) = some (fields, rest ++ more)
  | 0, _, _, _, found, _, _, _ => by cases found
  | _ + 1, [], _, _, found, _, _, _ => by cases found
  | _ + 1, _ :: _, _, _, _, 0, enough, _ => absurd enough (by omega)
  | fuel + 1, c :: text, rest, fields, found, fuel' + 1, enough, more => by
      have fewer : fuel ≤ fuel' := by omega
      rw [readFields.eq_def] at found
      rw [List.cons_append, readFields.eq_def]
      dsimp only at found ⊢
      by_cases closed : c = '\x7d'
      · rw [if_pos closed] at found ⊢
        cases found
        rfl
      rw [if_neg closed] at found ⊢
      by_cases comma : c = ','
      · rw [if_pos comma] at found ⊢
        obtain ⟨⟨field, after⟩, first, found⟩ := Option.bind_eq_some_iff.1 found
        obtain ⟨⟨fields, after'⟩, others, same⟩ := Option.map_eq_some_iff.1 found
        cases same
        rw [readField_append fuel first (readFields_rest others) fewer more, Option.bind_some,
          readFields_append fuel others fewer more, Option.map_some]
      · rw [if_neg comma] at found
        cases found

end

theorem write_obj_head (fields : List (String × Json)) : (write (.obj fields)).head? = some '\x7b' := by
  cases fields with
  | nil => rfl
  | cons field fields => rfl

/-- **What breaks off is not read.**  No proper prefix of the text of an object is the text of a
value. -/
theorem read_prefix_obj (fields : List (String × Json)) {text : List Char}
    (before : text <+: write (.obj fields))
    (proper : text ≠ write (.obj fields)) : read text = none := by
  obtain ⟨more, whole⟩ := before
  unfold read
  split
  · rename_i value found
    have head : text.head? = some '\x7b' := by
      cases text with
      | nil => cases found
      | cons c text =>
          have first := write_obj_head fields
          rw [← whole] at first
          exact first
    have longer : text.length ≤ (text ++ more).length := by simp
    have further := readValue_append _ found (.inr head) longer more
    have all := readValue_write (.obj fields) (write (.obj fields)).length [] le_rfl (by rintro c ⟨⟩)
    rw [List.append_nil, ← whole, further] at all
    have none : more = [] := congrArg Prod.snd (Option.some.inj all)
    rw [none, List.append_nil] at whole
    exact absurd whole proper
  · rfl

end Imf.Lib.Json
