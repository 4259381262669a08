import Mathlib.Data.List.Forall2

/-!
# Steps that may fail

When a chain of steps gives a value and when it fails. A list of steps gives values exactly when
every step does (`mapM_eq_ok_iff`), and otherwise fails like the first step that fails, everything
before it having succeeded (`mapM_eq_error_iff`). `FirstPast` is how the first of a list to fail a
condition is spoken of.
-/

namespace OnnxCorpus

/-- An element of a list with nothing before it that fails a condition. -/
def FirstPast {α : Type} (p : α → Prop) (xs : List α) (x : α) : Prop :=
  ∃ before after, xs = before ++ x :: after ∧ ∀ y ∈ before, p y

theorem FirstPast.mem {α : Type} {p : α → Prop} {xs : List α} {x : α}
    (first : FirstPast p xs x) : x ∈ xs := by
  obtain ⟨before, after, rfl, -⟩ := first
  simp

theorem firstPast_cons_iff {α : Type} {p : α → Prop} {y x : α} {xs : List α} :
    FirstPast p (y :: xs) x ↔ y = x ∨ (p y ∧ FirstPast p xs x) := by
  constructor
  · rintro ⟨_ | ⟨z, before⟩, after, split, earlier⟩
    · exact .inl (List.cons.inj split).1
    · obtain ⟨rfl, rfl⟩ := List.cons.inj split
      obtain ⟨here, earlier⟩ := List.forall_mem_cons.1 earlier
      exact .inr ⟨here, before, after, rfl, earlier⟩
  · rintro (rfl | ⟨here, before, after, rfl, earlier⟩)
    · exact ⟨[], xs, rfl, List.forall_mem_nil _⟩
    · exact ⟨y :: before, after, rfl, List.forall_mem_cons.2 ⟨here, earlier⟩⟩

theorem findSome?_eq_some_iff_firstPast {α γ : Type} {f : α → Option γ} {p : α → Prop}
    (passed : ∀ x, f x = none ↔ p x) {xs : List α} {c : γ} :
    xs.findSome? f = some c ↔ ∃ x, FirstPast p xs x ∧ f x = some c := by
  rw [List.findSome?_eq_some_iff]
  constructor
  · rintro ⟨before, x, after, split, found, earlier⟩
    exact ⟨x, ⟨before, after, split, fun y member => (passed y).1 (earlier y member)⟩, found⟩
  · rintro ⟨x, ⟨before, after, split, earlier⟩, found⟩
    exact ⟨before, x, after, split, found, fun y member => (passed y).2 (earlier y member)⟩

theorem find?_eq_some_iff_firstPast {α : Type} {p : α → Prop} [DecidablePred p] {xs : List α}
    {x : α} : xs.find? (fun y => ¬p y) = some x ↔ FirstPast p xs x ∧ ¬p x := by
  rw [List.find?_eq_some_iff_append]
  constructor
  · rintro ⟨fails, before, after, split, earlier⟩
    refine ⟨⟨before, after, split, fun y member => ?_⟩, by simpa using fails⟩
    simpa using earlier y member
  · rintro ⟨⟨before, after, split, earlier⟩, fails⟩
    exact ⟨by simpa using fails, before, after, split, fun y member => by
      simpa using earlier y member⟩

namespace Fallible

variable {ε α β : Type}

@[simp] theorem ok_bind (a : α) (f : α → Except ε β) : (Except.ok a >>= f) = f a := rfl

@[simp] theorem error_bind (e : ε) (f : α → Except ε β) :
    (Except.error e >>= f) = .error e := rfl

@[simp] theorem pure_eq_ok (a : α) : (pure a : Except ε α) = .ok a := rfl

theorem bind_eq_ok_iff {x : Except ε α} {f : α → Except ε β} {b : β} :
    (x >>= f) = .ok b ↔ ∃ a, x = .ok a ∧ f a = .ok b := by
  cases x <;> simp

theorem bind_unit_eq_ok_iff {x : Except ε Unit} {f : Unit → Except ε β} {b : β} :
    (x >>= f) = .ok b ↔ x = .ok () ∧ f () = .ok b := by
  cases x <;> simp

theorem bind_eq_error_iff {x : Except ε α} {f : α → Except ε β} {e : ε} :
    (x >>= f) = .error e ↔ x = .error e ∨ ∃ a, x = .ok a ∧ f a = .error e := by
  cases x <;> simp

theorem bind_unit_eq_error_iff {x : Except ε Unit} {f : Unit → Except ε β} {e : ε} :
    (x >>= f) = .error e ↔ x = .error e ∨ x = .ok () ∧ f () = .error e := by
  cases x <;> simp

theorem mapError_eq_ok_iff {δ : Type} {x : Except ε α} {f : ε → δ} {a : α} :
    x.mapError f = .ok a ↔ x = .ok a := by
  cases x <;> simp [Except.mapError]

/-! ### What a step fails with -/

/-- All that a step fails with satisfies a condition. -/
def FailsOnly (p : ε → Prop) (x : Except ε α) : Prop := ∀ e, x = .error e → p e

variable {p : ε → Prop}

theorem failsOnly_ok (a : α) : FailsOnly p (Except.ok a) := fun _ failed => nomatch failed

theorem failsOnly_error {e : ε} (holds : p e) : FailsOnly p (.error e : Except ε α) := by
  rintro _ ⟨⟩
  exact holds

theorem FailsOnly.bind {x : Except ε α} {f : α → Except ε β} (first : FailsOnly p x)
    (second : ∀ a, x = .ok a → FailsOnly p (f a)) : FailsOnly p (x >>= f) := by
  intro e failed
  rcases bind_eq_error_iff.1 failed with here | ⟨a, done, later⟩
  · exact first e here
  · exact second a done e later

theorem FailsOnly.mono {q : ε → Prop} {x : Except ε α} (only : FailsOnly p x)
    (weaker : ∀ e, p e → q e) : FailsOnly q x :=
  fun e failed => weaker e (only e failed)

/-! ### Lists of steps -/

variable {f : α → Except ε β}

theorem mapM_eq_ok_iff {xs : List α} {ys : List β} :
    xs.mapM f = .ok ys ↔ List.Forall₂ (fun x y => f x = .ok y) xs ys := by
  induction xs generalizing ys with
  | nil =>
    rw [List.forall₂_nil_left_iff]
    simp [eq_comm]
  | cons x rest ih =>
    simp only [List.mapM_cons, bind_eq_ok_iff, List.forall₂_cons_left_iff, ih, pure_eq_ok,
      Except.ok.injEq]
    grind

theorem exists_mem_of_forall₂ {R : α → β → Prop} {xs : List α} {ys : List β}
    (pairs : List.Forall₂ R xs ys) {y : β} (member : y ∈ ys) : ∃ x ∈ xs, R x y := by
  induction pairs with
  | nil => cases member
  | @cons x z xs ys here _ ih =>
    rcases List.mem_cons.1 member with rfl | later
    · exact ⟨x, List.mem_cons_self, here⟩
    · obtain ⟨x, among, pair⟩ := ih later
      exact ⟨x, List.mem_cons_of_mem _ among, pair⟩

/-- Every value was given by a step. -/
theorem exists_mem_of_mapM_eq_ok {xs : List α} {ys : List β} (done : xs.mapM f = .ok ys) {y : β}
    (member : y ∈ ys) : ∃ x ∈ xs, f x = .ok y :=
  exists_mem_of_forall₂ (mapM_eq_ok_iff.1 done) member

/-- A step on each of a list is taken on one of them: the step succeeds on those before it. -/
def Reached (f : α → Except ε β) (xs : List α) (x : α) : Prop :=
  ∃ before after, xs = before ++ x :: after ∧ ∃ ys, before.mapM f = .ok ys

theorem Reached.mem {xs : List α} {x : α} (reached : Reached f xs x) : x ∈ xs := by
  obtain ⟨before, after, rfl, -⟩ := reached
  simp

theorem mapM_eq_error_iff {xs : List α} {e : ε} :
    xs.mapM f = .error e ↔ ∃ x, Reached f xs x ∧ f x = .error e := by
  induction xs with
  | nil => simp [Reached]
  | cons x rest ih =>
    rw [List.mapM_cons, bind_eq_error_iff]
    constructor
    · rintro (failed | ⟨y, done, failed⟩)
      · exact ⟨x, ⟨[], rest, rfl, [], rfl⟩, failed⟩
      · have later : rest.mapM f = .error e := by simpa [bind_eq_error_iff] using failed
        obtain ⟨z, ⟨before, after, rfl, ys, passed⟩, stopped⟩ := ih.1 later
        exact ⟨z, ⟨x :: before, after, rfl, y :: ys, by simp [done, passed]⟩, stopped⟩
    · rintro ⟨z, ⟨_ | ⟨w, before⟩, after, split, ys, passed⟩, failed⟩
      · obtain ⟨rfl, rfl⟩ := List.cons.inj split
        exact .inl failed
      · obtain ⟨rfl, rfl⟩ := List.cons.inj split
        simp only [List.mapM_cons, bind_eq_ok_iff] at passed
        obtain ⟨y, done, zs, passed, -⟩ := passed
        refine .inr ⟨y, done, ?_⟩
        rw [ih.2 ⟨z, ⟨before, after, rfl, zs, passed⟩, failed⟩]
        rfl

theorem failsOnly_mapM {xs : List α} (each : ∀ x ∈ xs, FailsOnly p (f x)) :
    FailsOnly p (xs.mapM f) := by
  intro e failed
  obtain ⟨x, reached, stopped⟩ := mapM_eq_error_iff.1 failed
  exact each x reached.mem e stopped

theorem exists_mapM_eq_ok_iff {xs : List α} :
    (∃ ys, xs.mapM f = .ok ys) ↔ ∀ x ∈ xs, ∃ y, f x = .ok y := by
  induction xs with
  | nil => simp
  | cons x rest ih =>
    rw [List.forall_mem_cons, ← ih]
    simp [List.mapM_cons, bind_eq_ok_iff]

/-- Steps that each give the values in a relation to what they are taken on, if they give one. -/
theorem mapM_eq_ok_iff_forall₂ {R : α → β → Prop}
    (step : ∀ x y, f x = .ok y ↔ (∃ z, f x = .ok z) ∧ R x y) {xs : List α} {ys : List β} :
    xs.mapM f = .ok ys ↔ (∃ zs, xs.mapM f = .ok zs) ∧ List.Forall₂ R xs ys := by
  rw [mapM_eq_ok_iff, exists_mapM_eq_ok_iff, ← List.forall₂_and_left]
  simp only [← step]

/-- A step is taken on the elements before which it succeeds on all. -/
theorem reached_iff_firstPast {p : α → Prop} (passed : ∀ x, (∃ y, f x = .ok y) ↔ p x)
    {xs : List α} {x : α} : Reached f xs x ↔ FirstPast p xs x := by
  unfold Reached FirstPast
  simp only [exists_mapM_eq_ok_iff, passed]

/-- Steps that each give one value under one condition. -/
theorem mapM_eq_ok_iff_forall {xs : List α} {ys : List β} {p : α → Prop} {g : α → β}
    (step : ∀ x ∈ xs, ∀ y, f x = .ok y ↔ p x ∧ y = g x) :
    xs.mapM f = .ok ys ↔ (∀ x ∈ xs, p x) ∧ ys = xs.map g := by
  induction xs generalizing ys with
  | nil => simp [eq_comm]
  | cons x rest ih =>
    have later (zs : List β) : rest.mapM f = .ok zs ↔ (∀ z ∈ rest, p z) ∧ zs = rest.map g :=
      ih fun z member => step z (List.mem_cons_of_mem _ member)
    simp only [List.mapM_cons, bind_eq_ok_iff, step x List.mem_cons_self, later, pure_eq_ok,
      Except.ok.injEq, List.forall_mem_cons, List.map_cons]
    grind

theorem mapM_congr {xs : List α} {g : α → Except ε β} (step : ∀ x ∈ xs, f x = g x) :
    xs.mapM f = xs.mapM g := by
  induction xs with
  | nil => rfl
  | cons x rest ih =>
    rw [List.mapM_cons, List.mapM_cons, step x List.mem_cons_self,
      ih fun y member => step y (List.mem_cons_of_mem _ member)]

end Fallible

end OnnxCorpus
