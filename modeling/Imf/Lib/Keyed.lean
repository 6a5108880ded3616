/-
# Imf.Lib.Keyed -- lists searched by a key

Lists whose elements are found by a key and changed where the search stopped, the way a
vector is used with `find_if` and an iterator.  An iterator is an index, the end is the
length, and changing the element at the end changes nothing.

`lookup` is what a search finds, `modifyFirst` changes it, `upsert` changes it or appends.
Nothing here needs the keys to be distinct; `lookup` of the result is always `lookup` of
the list, changed at one key.  `AtMostOne` says that no two positions are marked, and
`atMostOne_move` is the rule for moving a mark between two iterators that may coincide.
-/
import Mathlib.Data.List.Nodup

namespace Imf.Lib

set_option autoImplicit false

universe u v

variable {α : Type u} {κ : Type v}

/-! ## Search and change -/

/-- Change the first element that satisfies `p`, if there is one. -/
def modifyFirst (p : α → Bool) (f : α → α) (l : List α) : List α := l.modify (l.findIdx p) f

/-- Change the first element that satisfies `p`, or append `fresh`. -/
def upsert (p : α → Bool) (f : α → α) (fresh : α) (l : List α) : List α :=
  if l.any p then modifyFirst p f l else l ++ [fresh]

@[simp] theorem modifyFirst_nil (p : α → Bool) (f : α → α) : modifyFirst p f [] = [] := rfl

theorem modifyFirst_cons (p : α → Bool) (f : α → α) (x : α) (l : List α) :
    modifyFirst p f (x :: l) = if p x then f x :: l else x :: modifyFirst p f l := by
  unfold modifyFirst
  rw [List.findIdx_cons]
  cases p x <;> rfl

/-- The element at the iterator of a search is the one the search finds. -/
theorem getElem?_findIdx (p : α → Bool) (l : List α) : l[l.findIdx p]? = l.find? p := by
  induction l with
  | nil => rfl
  | cons x l ih =>
      rw [List.findIdx_cons, List.find?_cons]
      cases p x with
      | true => rfl
      | false =>
          rw [cond_false, List.getElem?_cons_succ]
          exact ih

theorem mem_modify_of_mem {f : α → α} {l : List α} {x : α} (i : Nat) (inside : x ∈ l) :
    x ∈ l.modify i f ∨ f x ∈ l.modify i f := by
  obtain ⟨n, there⟩ := List.getElem?_of_mem inside
  have changed : (l.modify i f)[n]? = some (if i = n then f x else x) := by
    rw [List.getElem?_modify, there]
    rfl
  split at changed
  · exact .inr (List.mem_of_getElem? changed)
  · exact .inl (List.mem_of_getElem? changed)

theorem mem_upsert_of_mem {p : α → Bool} {f : α → α} {fresh : α} {l : List α} {x : α} (inside : x ∈ l) :
    x ∈ upsert p f fresh l ∨ f x ∈ upsert p f fresh l := by
  unfold upsert
  split
  · exact mem_modify_of_mem _ inside
  · exact .inl (List.mem_append_left _ inside)

theorem mem_modify {f : α → α} {l : List α} {i : Nat} {y : α} (member : y ∈ l.modify i f) :
    y ∈ l ∨ ∃ x ∈ l, y = f x := by
  obtain ⟨n, found⟩ := List.getElem?_of_mem member
  rw [List.getElem?_modify] at found
  obtain ⟨x, there, rfl⟩ := Option.map_eq_some_iff.1 found
  have inside := List.mem_of_getElem? there
  split
  · exact .inr ⟨x, inside, rfl⟩
  · exact .inl inside

theorem mem_upsert {p : α → Bool} {f : α → α} {fresh : α} {l : List α} {y : α}
    (member : y ∈ upsert p f fresh l) : y ∈ l ∨ (∃ x ∈ l, y = f x) ∨ y = fresh := by
  unfold upsert at member
  split at member
  · exact (mem_modify member).imp_right .inl
  · rcases List.mem_append.1 member with old | new
    · exact .inl old
    · exact .inr (.inr (List.mem_singleton.1 new))

/-- Erasing depends on the condition at the elements alone. -/
theorem eraseP_congr {p q : α → Bool} {l : List α} (same : ∀ x ∈ l, p x = q x) :
    l.eraseP p = l.eraseP q := by
  induction l with
  | nil => rfl
  | cons x l ih =>
      rw [List.eraseP_cons, List.eraseP_cons, same x List.mem_cons_self,
        ih fun y inside => same y (List.mem_cons_of_mem _ inside)]

/-! ## Keys -/

section Keys

variable {key : α → κ} {f : α → α}

/-- Changing elements without their key leaves the list of keys. -/
theorem map_modify (same : ∀ x, key (f x) = key x) (l : List α) (i : Nat) :
    (l.modify i f).map key = l.map key := by
  apply List.ext_getElem?
  intro n
  rw [List.getElem?_map, List.getElem?_modify, List.getElem?_map, Option.map_eq_map, Option.map_map]
  congr 1
  funext x
  show key (if i = n then f x else x) = key x
  split
  · exact same x
  · rfl

theorem map_map_same {l : List α} (same : ∀ x, key (f x) = key x) : (l.map f).map key = l.map key := by
  rw [List.map_map]
  exact List.map_congr_left fun x _ => same x

variable [DecidableEq κ]

/-- The element that a search for the key finds. -/
def lookup (key : α → κ) (k : κ) (l : List α) : Option α := l.find? fun x => decide (key x = k)

/-- Searching for a key, then changing or appending: the keys. -/
theorem map_upsert {k : κ} {fresh : α} (same : ∀ x, key (f x) = key x) (named : key fresh = k)
    (l : List α) :
    (upsert (fun x => decide (key x = k)) f fresh l).map key =
      if k ∈ l.map key then l.map key else l.map key ++ [k] := by
  unfold upsert
  split
  · rename_i found
    obtain ⟨x, inside, isKey⟩ := List.any_eq_true.1 found
    rw [if_pos (List.mem_map.2 ⟨x, inside, of_decide_eq_true isKey⟩), modifyFirst, map_modify same]
  · rename_i absent
    rw [if_neg, List.map_append, List.map_singleton, named]
    rintro member
    obtain ⟨x, inside, isKey⟩ := List.mem_map.1 member
    exact absent (List.any_eq_true.2 ⟨x, inside, decide_eq_true isKey⟩)

theorem nodup_upsert {k : κ} {fresh : α} {l : List α} (same : ∀ x, key (f x) = key x)
    (named : key fresh = k) (distinct : (l.map key).Nodup) :
    ((upsert (fun x => decide (key x = k)) f fresh l).map key).Nodup := by
  rw [map_upsert same named]
  split
  · exact distinct
  · rename_i absent
    exact List.nodup_append.2
      ⟨distinct, by simp, by rintro a old b new rfl; exact absent (List.mem_singleton.1 new ▸ old)⟩

theorem mem_map_upsert {k n : κ} {fresh : α} {l : List α} (same : ∀ x, key (f x) = key x)
    (named : key fresh = k) (member : n ∈ (upsert (fun x => decide (key x = k)) f fresh l).map key) :
    n ∈ l.map key ∨ n = k := by
  rw [map_upsert same named] at member
  split at member
  · exact .inl member
  · exact (List.mem_append.1 member).imp_right List.mem_singleton.1

theorem lookup_mem {k : κ} {l : List α} {x : α} (found : lookup key k l = some x) :
    x ∈ l ∧ key x = k :=
  ⟨List.mem_of_find?_eq_some found, by simpa using List.find?_some found⟩

theorem lookup_none {k : κ} {l : List α} : lookup key k l = none ↔ k ∉ l.map key := by
  rw [lookup, List.find?_eq_none]
  constructor
  · intro absent member
    obtain ⟨x, inside, rfl⟩ := List.mem_map.1 member
    exact absent x inside (decide_eq_true rfl)
  · intro absent x inside same
    rw [decide_eq_true_eq] at same
    exact absent (List.mem_map.2 ⟨x, inside, same⟩)

/-- With distinct keys a search finds every element. -/
theorem lookup_of_mem {l : List α} {x : α} (distinct : (l.map key).Nodup) (inside : x ∈ l) :
    lookup key (key x) l = some x := by
  cases found : lookup key (key x) l with
  | none => exact absurd (List.mem_map_of_mem inside) (lookup_none.1 found)
  | some y =>
      obtain ⟨member, same⟩ := lookup_mem found
      rw [List.inj_on_of_nodup_map distinct member inside same]

theorem any_iff_lookup {k : κ} {l : List α} :
    (l.any fun x => decide (key x = k)) = (lookup key k l).isSome := by
  rw [Bool.eq_iff_iff, lookup, List.find?_isSome, List.any_eq_true]

/-- With distinct keys, erasing what a search for `k` found erases all of `k`. -/
theorem eraseP_key {l : List α} (distinct : (l.map key).Nodup) (k : κ) :
    l.eraseP (fun x => decide (key x = k)) = l.filter fun x => decide (key x ≠ k) := by
  induction l with
  | nil => rfl
  | cons x l ih =>
      rw [List.map_cons, List.nodup_cons] at distinct
      by_cases here : key x = k
      · rw [List.eraseP_cons_of_pos (by simpa using here),
          List.filter_cons_of_neg (by simpa using here)]
        symm
        rw [List.filter_eq_self]
        intro y inside
        refine decide_eq_true fun same => distinct.1 ?_
        rw [here, ← same]
        exact List.mem_map_of_mem inside
      · rw [List.eraseP_cons_of_neg (by simpa using here),
          List.filter_cons_of_pos (by simpa using here),
          ih distinct.2]

/-- Erasing what a search for `k` found shows at `k` alone. -/
theorem lookup_eraseP {l : List α} (distinct : (l.map key).Nodup) (k n : κ) :
    lookup key n (l.eraseP fun x => decide (key x = k)) = if n = k then none else lookup key n l := by
  rw [eraseP_key distinct]
  split
  · rename_i asked
    rw [lookup_none]
    intro member
    obtain ⟨x, kept, same⟩ := List.mem_map.1 member
    exact of_decide_eq_true (List.mem_filter.1 kept).2 (same.trans asked)
  · rename_i other
    unfold lookup
    rw [List.find?_filter]
    congr 1
    funext x
    by_cases here : key x = n
    · simp [here, other]
    · simp [here]

/-- Changing what a search for `k` found shows at `k` alone. -/
theorem lookup_modifyFirst (same : ∀ x, key (f x) = key x) (k n : κ) (l : List α) :
    lookup key n (modifyFirst (fun x => decide (key x = k)) f l) =
      if n = k then (lookup key k l).map f else lookup key n l := by
  induction l with
  | nil => simp [lookup]
  | cons x l ih =>
      rw [modifyFirst_cons]
      by_cases here : key x = k
      · subst here
        by_cases asked : n = key x
        · subst asked
          simp [lookup, same]
        · have other : ¬ key x = n := fun equal => asked equal.symm
          simp [lookup, same, asked, other]
      · have skip : lookup key k (x :: l) = lookup key k l := by simp [lookup, here]
        rw [if_neg (by simpa using here), skip]
        by_cases asked : key x = n
        · have other : n ≠ k := fun equal => here (asked.trans equal)
          simp [lookup, asked, other]
        · have tail : ∀ m : List α, lookup key n (x :: m) = lookup key n m := by
            intro m
            simp [lookup, asked]
          rw [tail, tail, ih]

theorem lookup_append (n : κ) (l m : List α) :
    lookup key n (l ++ m) = (lookup key n l).or (lookup key n m) := by
  rw [lookup, List.find?_append]
  rfl

/-- Changing or appending at `k` shows at `k` alone. -/
theorem lookup_upsert (same : ∀ x, key (f x) = key x) {k : κ} {fresh : α} (named : key fresh = k)
    (n : κ) (l : List α) :
    lookup key n (upsert (fun x => decide (key x = k)) f fresh l) =
      if n = k then some (((lookup key k l).map f).getD fresh) else lookup key n l := by
  unfold upsert
  rw [any_iff_lookup]
  cases found : lookup key k l with
  | some x =>
      rw [if_pos (by rfl), lookup_modifyFirst same, found]
      rfl
  | none =>
      rw [if_neg (by simp), lookup_append]
      by_cases asked : n = k
      · subst asked
        rw [found, if_pos rfl]
        simp [lookup, named]
      · have other : ¬ key fresh = n := fun equal => asked (equal.symm.trans named)
        simp [lookup, other, asked]

/-- A list made from its keys. -/
theorem lookup_names {make : κ → α} (named : ∀ k, key (make k) = k) (n : κ) (names : List κ) :
    lookup key n (names.map make) = if n ∈ names then some (make n) else none := by
  induction names with
  | nil => rfl
  | cons name names ih =>
      rw [List.map_cons]
      by_cases here : name = n
      · simp [lookup, named, here]
      · have skip : lookup key n (make name :: names.map make) = lookup key n (names.map make) := by
          simp [lookup, named, here]
        have other : ¬ n = name := fun equal => here equal.symm
        rw [skip, ih]
        simp [other]

/-- What a search finds of `g` depends on the keys and on `g` alone. -/
theorem lookup_congr {γ : Type*} {g : α → γ} {l m : List α}
    (same : l.map (fun x => (key x, g x)) = m.map fun x => (key x, g x)) (n : κ) :
    (lookup key n l).map g = (lookup key n m).map g := by
  have through : ∀ l : List α, (lookup key n l).map g =
      ((l.map fun x => (key x, g x)).find? fun pair => decide (pair.1 = n)).map Prod.snd := by
    intro l
    rw [List.find?_map, Option.map_map]
    rfl
  rw [through, through, same]

/-- A loop that changes or appends once for each of distinct keys. -/
theorem lookup_foldl_upsert {β : Type*} {name : β → κ} {change : β → α → α} {fresh : β → α}
    (same : ∀ b x, key (change b x) = key x) (named : ∀ b, key (fresh b) = name b) {items : List β}
    (distinct : (items.map name).Nodup) (n : κ) (l : List α) :
    lookup key n (items.foldl
        (fun l b => upsert (fun x => decide (key x = name b)) (change b) (fresh b) l) l) =
      (lookup name n items).elim (lookup key n l) fun b =>
        some (((lookup key n l).map (change b)).getD (fresh b)) := by
  induction items generalizing l with
  | nil => rfl
  | cons b items ih =>
      rw [List.map_cons, List.nodup_cons] at distinct
      rw [List.foldl_cons, ih distinct.2, lookup_upsert (same b) (named b)]
      by_cases here : n = name b
      · subst here
        have rest : lookup name (name b) items = none := lookup_none.2 distinct.1
        have first : lookup name (name b) (b :: items) = some b := by simp [lookup]
        rw [rest, first, Option.elim_none, Option.elim_some, if_pos rfl]
      · have skip : lookup name n (b :: items) = lookup name n items := by
          have other : ¬ name b = n := fun equal => here equal.symm
          simp [lookup, other]
        rw [skip, if_neg here]

end Keys

/-! ## Marks -/

/-- No two positions of the list are marked. -/
def AtMostOne (p : α → Bool) (l : List α) : Prop :=
  ∀ (i j : Nat) (x y : α), l[i]? = some x → l[j]? = some y → p x = true → p y = true → i = j

section Marks

variable {p : α → Bool} {f g : α → α} {l : List α}

theorem atMostOne_of_none (unmarked : ∀ x ∈ l, p x = false) : AtMostOne p l := by
  intro i j x y first _ marked _
  rw [unmarked x (List.mem_of_getElem? first)] at marked
  cases marked

theorem atMostOne_cons {a : α} (unmarked : ∀ x ∈ l, p x = false) : AtMostOne p (a :: l) := by
  have head : ∀ (n : Nat) (y : α), (a :: l)[n]? = some y → p y = true → n = 0 := by
    intro n y found marked
    cases n with
    | zero => rfl
    | succ n =>
        rw [unmarked y (List.mem_of_getElem? (List.getElem?_cons_succ ▸ found))] at marked
        cases marked
  intro n m x y atN atM markedX markedY
  rw [head n x atN markedX, head m y atM markedY]

/-- One change to a list without marks. -/
theorem atMostOne_modify_of_none (unmarked : ∀ x ∈ l, p x = false) (i : Nat) :
    AtMostOne p (l.modify i f) := by
  have only : ∀ (n : Nat) (y : α), (l.modify i f)[n]? = some y → p y = true → n = i := by
    intro n y found marked
    rw [List.getElem?_modify] at found
    obtain ⟨x, there, rfl⟩ := Option.map_eq_some_iff.1 found
    by_contra elsewhere
    have other : ¬ i = n := fun equal => elsewhere equal.symm
    rw [if_neg other, unmarked x (List.mem_of_getElem? there)] at marked
    cases marked
  intro n m x y atN atM markedX markedY
  rw [only n x atN markedX, only m y atM markedY]

/-- Changes that mark nothing. -/
theorem AtMostOne.modify (one : AtMostOne p l) (i : Nat) (keeps : ∀ x, p (f x) = true → p x = true) :
    AtMostOne p (l.modify i f) := by
  intro n m x y atN atM markedX markedY
  rw [List.getElem?_modify] at atN atM
  obtain ⟨a, first, rfl⟩ := Option.map_eq_some_iff.1 atN
  obtain ⟨b, second, rfl⟩ := Option.map_eq_some_iff.1 atM
  refine one n m a b first second ?_ ?_
  · split at markedX
    · exact keeps a markedX
    · exact markedX
  · split at markedY
    · exact keeps b markedY
    · exact markedY

theorem AtMostOne.append_one (one : AtMostOne p l) {x : α} (unmarked : p x = false) :
    AtMostOne p (l ++ [x]) := by
  -- A marked position of the longer list lies in the old part.
  have old : ∀ (n : Nat) (y : α), (l ++ [x])[n]? = some y → p y = true → l[n]? = some y := by
    intro n y found marked
    rw [List.getElem?_append] at found
    split at found
    · exact found
    · have last : y ∈ [x] := List.mem_of_getElem? found
      obtain rfl := List.mem_singleton.1 last
      rw [unmarked] at marked
      cases marked
  intro n m y z atN atM markedY markedZ
  exact one n m y z (old n y atN markedY) (old m z atM markedZ) markedY markedZ

theorem AtMostOne.upsert (one : AtMostOne p l) {q : α → Bool} {fresh : α}
    (keeps : ∀ x, p (f x) = true → p x = true) (unmarked : p fresh = false) :
    AtMostOne p (upsert q f fresh l) := by
  unfold Lib.upsert
  split
  · exact one.modify _ keeps
  · exact one.append_one unmarked

/-- A map that marks only what `q` picks. -/
theorem AtMostOne.map {q : α → Bool} (one : AtMostOne q l) (picks : ∀ x, p (f x) = true → q x = true) :
    AtMostOne p (l.map f) := by
  intro n m x y atN atM markedX markedY
  rw [List.getElem?_map] at atN atM
  obtain ⟨a, first, rfl⟩ := Option.map_eq_some_iff.1 atN
  obtain ⟨b, second, rfl⟩ := Option.map_eq_some_iff.1 atM
  exact one n m a b first second (picks a markedX) (picks b markedY)

theorem atMostOne_key [DecidableEq κ] {key : α → κ} (distinct : (l.map key).Nodup) (k : κ) :
    AtMostOne (fun x => decide (key x = k)) l := by
  intro i j x y first second atX atY
  have same : (l.map key)[i]? = (l.map key)[j]? := by
    rw [List.getElem?_map, List.getElem?_map, first, second]
    show some (key x) = some (key y)
    rw [of_decide_eq_true atX, of_decide_eq_true atY]
  have inside : i < (l.map key).length := by
    rw [List.length_map]
    exact (List.getElem?_eq_some_iff.1 first).1
  exact (List.getElem?_inj inside distinct).1 same

theorem AtMostOne.imp {q : α → Bool} (one : AtMostOne q l) (fewer : ∀ x, p x = true → q x = true) :
    AtMostOne p l :=
  fun i j x y first second atX atY => one i j x y first second (fewer x atX) (fewer y atY)

/-- The first marked position, when there is one, is every marked position. -/
theorem AtMostOne.eq_findIdx (one : AtMostOne p l) {n : Nat} {x : α} (there : l[n]? = some x)
    (marked : p x = true) : n = l.findIdx p := by
  have inside : l.findIdx p < l.length :=
    List.findIdx_lt_length.2 ⟨x, List.mem_of_getElem? there, marked⟩
  exact one n (l.findIdx p) x l[l.findIdx p] there (List.getElem?_eq_getElem inside) marked
    (List.findIdx_getElem (w := inside))

/-- Where at most one element satisfies `p`, changing the first is changing all. -/
theorem AtMostOne.modifyFirst_eq_map (one : AtMostOne p l) :
    modifyFirst p f l = l.map fun x => if p x then f x else x := by
  refine List.ext_getElem? fun n => ?_
  rw [modifyFirst, List.getElem?_modify, List.getElem?_map, Option.map_eq_map]
  refine Option.map_congr fun x found => ?_
  by_cases here : l.findIdx p = n
  · subst here
    rw [if_pos rfl, if_pos (List.findIdx_of_getElem?_eq_some found)]
  · have unpicked : ¬ p x = true := fun picked => here (one.eq_findIdx found picked).symm
    rw [if_neg here, if_neg unpicked]

/-- Marking what a search for `p` found marks exactly what satisfies `p`. -/
theorem marked_modifyFirst {q : α → Bool} (one : AtMostOne p l) (unmarked : ∀ x ∈ l, q x = false)
    (marks : ∀ x, q (f x) = true) (keeps : ∀ x, p (f x) = p x) :
    ∀ y ∈ modifyFirst p f l, q y = p y := by
  intro y member
  rw [one.modifyFirst_eq_map] at member
  obtain ⟨x, inside, rfl⟩ := List.mem_map.1 member
  cases picked : p x with
  | true => rw [if_pos rfl, marks, keeps, picked]
  | false => rw [if_neg (by decide), unmarked x inside, picked]

/-- Change `j` in any way, then clear the first marked position: only `j` can be marked. -/
theorem AtMostOne.only_moved (one : AtMostOne p l) (j : Nat) (clears : ∀ x, p (g x) = false) {n : Nat}
    {y : α} (there : ((l.modify j f).modify (l.findIdx p) g)[n]? = some y) (marked : p y = true) :
    n = j ∧ n ≠ l.findIdx p := by
  rw [List.getElem?_modify, List.getElem?_modify, Option.map_eq_map, Option.map_eq_map,
    Option.map_map] at there
  obtain ⟨x, found, rfl⟩ := Option.map_eq_some_iff.1 there
  have kept : n ≠ l.findIdx p := by
    rintro rfl
    simp only [Function.comp_apply, if_true, clears] at marked
    cases marked
  refine ⟨?_, kept⟩
  by_contra elsewhere
  have other : ¬ j = n := fun equal => elsewhere equal.symm
  have spared : ¬ l.findIdx p = n := fun equal => kept equal.symm
  simp only [Function.comp_apply, other, spared, if_false] at marked
  exact kept (one.eq_findIdx found marked)

/-- Moving the mark, also onto its own place. -/
theorem atMostOne_move (one : AtMostOne p l) (j : Nat) (clears : ∀ x, p (g x) = false) :
    AtMostOne p ((l.modify j f).modify (l.findIdx p) g) := by
  intro n m x y atN atM markedX markedY
  rw [(one.only_moved j clears atN markedX).1, (one.only_moved j clears atM markedY).1]

end Marks

end Imf.Lib
