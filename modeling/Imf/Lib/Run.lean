/-
# Imf.Lib.Run -- runs of a step function and what they keep

A system here is a step function `step : σ → ε → σ` over events, and a run is its
fold.  `Meets` says that every step of a run starts in a state that satisfies a
side condition; `run_keeps` is the induction that every run theorem is an
instance of.  `steps_keep` is the same rule for a relation between states, and
`bind_eq_ok` takes a sequence of computations that can fail apart.
-/
import Mathlib.Data.List.Induction
import Mathlib.Logic.Relation

namespace Imf.Lib

set_option autoImplicit false

universe u v

variable {σ : Type u} {ε : Type v}

/-- The state after a list of events. -/
def run (step : σ → ε → σ) (s : σ) (es : List ε) : σ := es.foldl step s

@[simp] theorem run_nil (step : σ → ε → σ) (s : σ) : run step s [] = s := rfl

@[simp] theorem run_cons (step : σ → ε → σ) (s : σ) (e : ε) (es : List ε) :
    run step s (e :: es) = run step (step s e) es := rfl

theorem run_append (step : σ → ε → σ) (s : σ) (es fs : List ε) :
    run step s (es ++ fs) = run step (run step s es) fs :=
  List.foldl_append

/-- Every step of the run is taken from a state in which it is allowed. -/
def Meets (step : σ → ε → σ) (ok : σ → ε → Prop) : σ → List ε → Prop
  | _, [] => True
  | s, e :: es => ok s e ∧ Meets step ok (step s e) es

instance decidableMeets (step : σ → ε → σ) (ok : σ → ε → Prop) [∀ s e, Decidable (ok s e)] :
    ∀ s es, Decidable (Meets step ok s es)
  | _, [] => .isTrue trivial
  | s, e :: es =>
      have := decidableMeets step ok (step s e) es
      inferInstanceAs (Decidable (ok s e ∧ Meets step ok (step s e) es))

theorem meets_append {step : σ → ε → σ} {ok : σ → ε → Prop} {s : σ} {es fs : List ε} :
    Meets step ok s (es ++ fs) ↔ Meets step ok s es ∧ Meets step ok (run step s es) fs := by
  induction es generalizing s with
  | nil => simp [Meets]
  | cons e es ih => simp [Meets, ih, and_assoc]

theorem meets_and {step : σ → ε → σ} {ok ok' : σ → ε → Prop} {s : σ} {es : List ε} :
    Meets step (fun s e => ok s e ∧ ok' s e) s es ↔ Meets step ok s es ∧ Meets step ok' s es := by
  induction es generalizing s with
  | nil => simp [Meets]
  | cons e es ih =>
      simp only [Meets, ih]
      exact and_and_and_comm

/-- What every allowed step keeps holds at the end of every allowed run. -/
theorem run_keeps {step : σ → ε → σ} {ok : σ → ε → Prop} {P : σ → Prop}
    (keeps : ∀ s e, P s → ok s e → P (step s e)) {s : σ} {es : List ε} (start : P s)
    (allowed : Meets step ok s es) : P (run step s es) := by
  induction es generalizing s with
  | nil => exact start
  | cons e es ih => exact ih (keeps s e start allowed.1) allowed.2

/-- What every step keeps holds at the end of every run. -/
theorem run_always {step : σ → ε → σ} {P : σ → Prop} (keeps : ∀ s e, P s → P (step s e)) {s : σ}
    (start : P s) (es : List ε) : P (run step s es) := by
  induction es generalizing s with
  | nil => exact start
  | cons e es ih => exact ih (keeps s e start)

/-- Where a step keeps `P` exactly when it is allowed, the runs that stay in `P` are the allowed ones.
`I` is an invariant of the state and the events that are still to come. -/
theorem invariant_prefixes_iff_meets {step : σ → ε → σ} {ok : σ → ε → Prop} {P : σ → Prop}
    {I : σ → List ε → Prop} (keeps : ∀ s e es, I s (e :: es) → I (step s e) es)
    (exactly : ∀ s e es, I s (e :: es) → P s → (P (step s e) ↔ ok s e)) {s : σ}
    {es : List ε} (inv : I s es)
    (start : P s) : (∀ fs, fs <+: es → P (run step s fs)) ↔ Meets step ok s es := by
  induction es generalizing s with
  | nil =>
      refine ⟨fun _ => trivial, fun _ fs before => ?_⟩
      rw [List.prefix_nil.1 before]
      exact start
  | cons e es ih =>
      have later := keeps s e es inv
      constructor
      · intro all
        have next : P (step s e) := all [e] (by simp)
        refine ⟨(exactly s e es inv start).1 next, (ih later next).1 fun fs before => ?_⟩
        exact all (e :: fs) (List.cons_prefix_cons.2 ⟨rfl, before⟩)
      · rintro ⟨allowed, rest⟩ fs before
        cases fs with
        | nil => exact start
        | cons f fs =>
            obtain ⟨rfl, shorter⟩ := List.cons_prefix_cons.1 before
            exact (ih later ((exactly s f es inv start).2 allowed)).2 rest fs shorter

theorem prefixes_iff_meets {step : σ → ε → σ} {ok : σ → ε → Prop} {P : σ → Prop}
    (exactly : ∀ s e, P s → (P (step s e) ↔ ok s e)) {s : σ} {es : List ε} (start : P s) :
    (∀ fs, fs <+: es → P (run step s fs)) ↔ Meets step ok s es :=
  invariant_prefixes_iff_meets (I := fun _ _ => True) (fun _ _ _ _ => trivial)
    (fun s e _ _ => exactly s e) trivial start

/-- Two conditions that agree where an invariant holds allow the same runs, when one of them
keeps the invariant. -/
theorem meets_iff_meets {step : σ → ε → σ} {ok ok' : σ → ε → Prop} {P : σ → Prop}
    (keeps : ∀ s e, P s → ok s e → P (step s e)) (same : ∀ s e, P s → (ok s e ↔ ok' s e)) {s : σ}
    {es : List ε} (start : P s) : Meets step ok s es ↔ Meets step ok' s es := by
  induction es generalizing s with
  | nil => exact Iff.rfl
  | cons e es ih =>
      constructor
      · rintro ⟨allowed, later⟩
        exact ⟨(same s e start).1 allowed, (ih (keeps s e start allowed)).1 later⟩
      · rintro ⟨allowed, later⟩
        have allowed := (same s e start).2 allowed
        exact ⟨allowed, (ih (keeps s e start allowed)).2 later⟩

/-- Some event of the run met `begins`, and every event after it meets `goesOn`. -/
def Since (step : σ → ε → σ) (begins : σ → ε → Prop) (goesOn : ε → Prop) (s : σ) (es : List ε) : Prop :=
  ∃ before e after, es = before ++ e :: after ∧ begins (run step s before) e ∧ ∀ f ∈ after, goesOn f

theorem Since.concat {step : σ → ε → σ} {begins : σ → ε → Prop} {goesOn : ε → Prop} {s : σ}
    {es : List ε} {e : ε} (since : Since step begins goesOn s es) (on : goesOn e) :
    Since step begins goesOn s (es ++ [e]) := by
  obtain ⟨before, first, after, rfl, began, all⟩ := since
  refine ⟨before, first, after ++ [e], by simp, began, fun f member => ?_⟩
  rcases List.mem_append.1 member with earlier | last
  · exact all f earlier
  · rw [List.mem_singleton.1 last]
    exact on

/-- What holds only of states that a step has brought about, and lasts only through steps that
go on with it, goes back to such a step in every run. -/
theorem run_since {step : σ → ε → σ} {I P : σ → Prop} {begins : σ → ε → Prop} {goesOn : ε → Prop}
    (keeps : ∀ s e, I s → I (step s e))
    (traced : ∀ s e, I s → P (step s e) → begins s e ∨ (P s ∧ goesOn e)) {s : σ} (start : I s)
    (fresh : ¬ P s) (es : List ε) (holds : P (run step s es)) : Since step begins goesOn s es := by
  induction es using List.reverseRecOn with
  | nil => exact absurd holds fresh
  | append_singleton es e ih =>
      rw [run_append] at holds
      rcases traced _ e (run_always keeps start es) holds with began | ⟨earlier, on⟩
      · exact ⟨es, e, [], rfl, began, by simp⟩
      · exact (ih earlier).concat on

/-- Some event of the run met `begins`, and every step after it went on. -/
def Underway (step : σ → ε → σ) (begins goesOn : σ → ε → Prop) (s : σ) (es : List ε) : Prop :=
  ∃ before e after, es = before ++ e :: after ∧ begins (run step s before) e ∧
    Meets step goesOn (step (run step s before) e) after

/-- What only a step brings about, and lasts only through steps that go on with it, is under way. -/
theorem run_underway {step : σ → ε → σ} {P : σ → Prop} {begins goesOn : σ → ε → Prop}
    (traced : ∀ s e, P (step s e) → begins s e ∨ (P s ∧ goesOn s e)) {s : σ}
    (fresh : ¬ P s) (es : List ε)
    (holds : P (run step s es)) : Underway step begins goesOn s es := by
  induction es using List.reverseRecOn with
  | nil => exact absurd holds fresh
  | append_singleton es e ih =>
      rw [run_append] at holds
      rcases traced _ e holds with began | ⟨earlier, on⟩
      · exact ⟨es, e, [], rfl, began, trivial⟩
      · obtain ⟨before, first, after, rfl, began, all⟩ := ih earlier
        refine ⟨before, first, after ++ [e], by simp, began, meets_append.2 ⟨all, ?_, trivial⟩⟩
        rw [run_append, run_cons] at on
        exact on

/-- What holds after a step exactly when the step begins it or goes on with it, holds after a run
exactly when it is under way. -/
theorem run_iff_underway {step : σ → ε → σ} {P : σ → Prop} {begins goesOn : σ → ε → Prop}
    (exactly : ∀ s e, P (step s e) ↔ begins s e ∨ (P s ∧ goesOn s e)) {s : σ}
    (fresh : ¬ P s) (es : List ε) :
    P (run step s es) ↔ Underway step begins goesOn s es := by
  constructor
  · exact run_underway (fun s e => (exactly s e).1) fresh es
  · rintro ⟨before, e, after, rfl, began, allowed⟩
    rw [run_append, run_cons]
    exact run_keeps (fun s e holds on => (exactly s e).2 (.inr ⟨holds, on⟩))
      ((exactly _ e).2 (.inl began)) allowed

/-- What the steps of a list keep holds at its end. -/
theorem run_members {step : σ → ε → σ} {P : σ → Prop} {es : List ε}
    (keeps : ∀ s, ∀ e ∈ es, P s → P (step s e)) {s : σ} (start : P s) : P (run step s es) := by
  induction es generalizing s with
  | nil => exact start
  | cons e es ih =>
      rw [run_cons]
      refine ih (fun s e member => keeps s e (List.mem_cons_of_mem _ member)) ?_
      exact keeps s e List.mem_cons_self start

/-- What holds after a step exactly when the step begins it or goes on with it, holds after a run
exactly when some step of the run began it and all later ones went on. -/
theorem run_iff_since {step : σ → ε → σ} {I P : σ → Prop} {begins : σ → ε → Prop} {goesOn : ε → Prop}
    (keeps : ∀ s e, I s → I (step s e))
    (exactly : ∀ s e, I s → (P (step s e) ↔ begins s e ∨ (P s ∧ goesOn e))) {s : σ} (start : I s)
    (fresh : ¬ P s) (es : List ε) : P (run step s es) ↔ Since step begins goesOn s es := by
  constructor
  · exact run_since keeps (fun s e inv => (exactly s e inv).1) start fresh es
  · rintro ⟨before, e, after, rfl, began, on⟩
    rw [run_append, run_cons]
    have inv := run_always keeps start before
    refine (run_members (P := fun s => I s ∧ P s) (fun s f member holds => ?_)
      ⟨keeps _ e inv, (exactly _ e inv).2 (.inl began)⟩).2
    exact ⟨keeps s f holds.1, (exactly s f holds.1).2 (.inr ⟨holds.2, on f member⟩)⟩

/-- The same for runs whose every step is allowed. -/
theorem allowed_iff_since {step : σ → ε → σ} {ok : σ → ε → Prop} {I P : σ → Prop}
    {begins : σ → ε → Prop} {goesOn : ε → Prop} (keeps : ∀ s e, I s → ok s e → I (step s e))
    (exactly : ∀ s e, I s → ok s e → (P (step s e) ↔ begins s e ∨ (P s ∧ goesOn e)))
    {s : σ} (start : I s) (fresh : ¬ P s) {es : List ε} (allowed : Meets step ok s es) :
    P (run step s es) ↔ Since step begins goesOn s es := by
  induction es using List.reverseRecOn with
  | nil =>
      constructor
      · exact fun holds => absurd holds fresh
      · rintro ⟨before, e, after, empty, -, -⟩
        exact absurd (congrArg List.length empty) (by simp)
  | append_singleton es e ih =>
      obtain ⟨earlier, last, -⟩ := meets_append.1 allowed
      have inv := run_keeps keeps start earlier
      have step_iff := exactly _ e inv last
      have now : P (run step s (es ++ [e])) ↔ P (step (run step s es) e) := by
        rw [run_append, run_cons, run_nil]
      rw [now, step_iff, ih earlier]
      constructor
      · rintro (began | ⟨since, on⟩)
        · exact ⟨es, e, [], rfl, began, by simp⟩
        · exact since.concat on
      · rintro ⟨before, first, after, split, began, on⟩
        induction after using List.reverseRecOn with
        | nil =>
            obtain ⟨rfl, same⟩ := List.append_inj' split rfl
            rw [List.cons.injEq] at same
            rw [same.1]
            exact .inl began
        | append_singleton after f =>
            have shape : es ++ [e] = (before ++ first :: after) ++ [f] := by simpa using split
            obtain ⟨rfl, same⟩ := List.append_inj' shape rfl
            rw [List.cons.injEq] at same
            refine .inr ⟨⟨before, first, after, rfl, began, fun g member => ?_⟩, ?_⟩
            · exact on g (List.mem_append_left _ member)
            · rw [same.1]
              exact on f (List.mem_append_right _ (List.mem_singleton.2 rfl))

/-! ## Behind a filter -/

/-- What a filter with a state of its own lets through of a list of events. -/
def filtered {φ ε' : Type*} (filter : φ → ε → φ × Option ε') : φ → List ε → List ε'
  | _, [] => []
  | f, e :: es => (filter f e).2.toList ++ filtered filter (filter f e).1 es

/-- Two systems, one of them behind a filter, stay related through every run whose events each keep
the relation. -/
theorem run_filtered {φ ε' τ : Type*} {step : σ → ε → σ} {step' : τ → ε' → τ}
    {filter : φ → ε → φ × Option ε'} {R : φ → σ → τ → Prop} {ok : ε → Prop}
    (keeps : ∀ f s t e, ok e → R f s t →
      R (filter f e).1 (step s e) (run step' t (filter f e).2.toList))
    {f : φ} {s : σ} {t : τ} (start : R f s t) (es : List ε) (allowed : ∀ e ∈ es, ok e) :
    ∃ f', R f' (run step s es) (run step' t (filtered filter f es)) := by
  induction es generalizing f s t with
  | nil => exact ⟨f, start⟩
  | cons e es ih =>
      have next := keeps f s t e (allowed e List.mem_cons_self) start
      rw [filtered, run_append, run_cons]
      exact ih next fun later member => allowed later (List.mem_cons_of_mem _ member)

/-- What every related step keeps, every chain of them keeps. -/
theorem steps_keep {r : σ → σ → Prop} {P : σ → Prop} (keeps : ∀ a b, r a b → P a → P b) {a b : σ}
    (steps : Relation.ReflTransGen r a b) (start : P a) : P b := by
  induction steps with
  | refl => exact start
  | tail _ last ih => exact keeps _ _ last ih

/-- What is left of an ordered clock when readings are skipped. -/
theorem pairwise_skip {r : σ → σ → Prop} {a : σ} {skipped rest : List σ}
    (ordered : (a :: (skipped ++ rest)).Pairwise r) : (a :: rest).Pairwise r :=
  ordered.sublist ((List.sublist_append_right skipped rest).cons_cons a)

/-- A sequence succeeds when both of its computations do. -/
theorem bind_eq_ok {ε α β : Type} {first : Except ε α} {next : α → Except ε β} {result : β} :
    first >>= next = .ok result ↔ ∃ value, first = .ok value ∧ next value = .ok result := by
  cases first with
  | error e => exact ⟨nofun, fun ⟨_, impossible, _⟩ => nomatch impossible⟩
  | ok value =>
      constructor
      · intro ran
        exact ⟨value, rfl, ran⟩
      · rintro ⟨_, same, ran⟩
        cases same
        exact ran

end Imf.Lib
