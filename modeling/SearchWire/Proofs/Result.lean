import Mathlib
import SearchWire.Error

/-!
# Results

When a computation that can fail gives a value: one step after another (`bind_eq_ok_iff`), seen
from the parent (`within_eq_ok_iff`), and over a list (`mapM_eq_ok_iff`). And when it fails, and
with which error: that of the first step that fails (`bind_eq_error_iff`, `mapM_eq_error_iff`), one
step farther away where the parent sees it (`within_eq_error_iff`).
-/

namespace SearchWire.Result

variable {α β : Type}

/-- Two steps give a value exactly when the first does and the second does from there. -/
lemma bind_eq_ok_iff {x : Result α} {f : α → Result β} {b : β} :
    (x >>= f) = .ok b ↔ ∃ a, x = .ok a ∧ f a = .ok b := by
  cases x <;> simp [bind, Except.bind]

lemma pure_eq_ok_iff {a b : α} : (pure a : Result α) = .ok b ↔ a = b := by
  simp [pure, Except.pure]

lemma throw_ne_ok {e : Error} {a : α} : (throw e : Result α) ≠ .ok a := by
  simp [throw, throwThe, MonadExceptOf.throw]

/-- A refusal under a condition is passed exactly where the condition fails. -/
lemma if_throw_eq_ok_iff {c : Prop} [Decidable c] {e : Error} :
    (if c then throw e else pure () : Result Unit) = .ok () ↔ ¬ c := by
  by_cases h : c
  · simp [h, throw_ne_ok]
  · simp [h, pure_eq_ok_iff]

lemma within_eq_ok_iff {s : Segment} {x : Result α} {a : α} :
    Result.within s x = .ok a ↔ x = .ok a := by
  cases x <;> simp [Result.within]

lemma isOk_iff {x : Result α} : x.isOk = true ↔ ∃ a, x = .ok a := by
  cases x <;> simp [Except.isOk, Except.toBool]

/-- A step is taken over a list exactly when it is taken from each member. -/
lemma mapM_eq_ok_iff {f : α → Result β} {xs : List α} {ys : List β} :
    xs.mapM f = .ok ys ↔ List.Forall₂ (fun x y => f x = .ok y) xs ys := by
  induction xs generalizing ys with
  | nil =>
    rw [List.mapM_nil, pure_eq_ok_iff, List.forall₂_nil_left_iff]
    exact eq_comm
  | cons x xs ih =>
    simp only [List.mapM_cons, bind_eq_ok_iff, pure_eq_ok_iff, ih, List.forall₂_cons_left_iff]
    constructor
    · rintro ⟨y, hy, zs, hzs, rfl⟩
      exact ⟨y, zs, hy, hzs, rfl⟩
    · rintro ⟨y, zs, hy, hzs, rfl⟩
      exact ⟨y, hy, zs, hzs, rfl⟩

/-- Every member of the list behind a relation stands behind a member of the list before it. -/
lemma exists_of_mem_right {R : α → β → Prop} {xs : List α} {ys : List β}
    (h : List.Forall₂ R xs ys) {y : β} (hy : y ∈ ys) : ∃ x ∈ xs, R x y := by
  induction h with
  | nil => exact absurd hy List.not_mem_nil
  | cons hxy _ ih =>
    rcases List.mem_cons.mp hy with rfl | hy
    · exact ⟨_, List.mem_cons_self, hxy⟩
    · obtain ⟨x, hx, hxy⟩ := ih hy
      exact ⟨x, List.mem_cons_of_mem _ hx, hxy⟩

/-- Some list stands behind a relation exactly when something stands behind every member. -/
lemma exists_forall₂_iff {R : α → β → Prop} {xs : List α} :
    (∃ ys, List.Forall₂ R xs ys) ↔ ∀ x ∈ xs, ∃ y, R x y := by
  induction xs with
  | nil => simp
  | cons x xs ih =>
    simp only [List.forall₂_cons_left_iff, List.forall_mem_cons, ← ih]
    constructor
    · rintro ⟨_, y, zs, hy, hzs, _⟩
      exact ⟨⟨y, hy⟩, zs, hzs⟩
    · rintro ⟨⟨y, hy⟩, zs, hzs⟩
      exact ⟨y :: zs, y, zs, hy, hzs, rfl⟩

/-- What a relation relates in two steps, the second of which is a function, is the image of what
it relates in the first. -/
lemma exists_map_of_forall₂ {γ : Type} {R : α → β → Prop} {g : β → γ} {xs : List α} {zs : List γ}
    (h : List.Forall₂ (fun x z => ∃ y, R x y ∧ g y = z) xs zs) :
    ∃ ys, List.Forall₂ R xs ys ∧ zs = ys.map g := by
  induction h with
  | nil => exact ⟨[], .nil, rfl⟩
  | cons hxz _ ih =>
    obtain ⟨y, hxy, rfl⟩ := hxz
    obtain ⟨ys, hys, rfl⟩ := ih
    exact ⟨y :: ys, .cons hxy hys, rfl⟩

/-- A step is taken over some list exactly when it is taken from every member. -/
lemma exists_mapM_eq_ok_iff {f : α → Result β} {xs : List α} :
    (∃ ys, xs.mapM f = .ok ys) ↔ ∀ x ∈ xs, ∃ y, f x = .ok y := by
  simp only [mapM_eq_ok_iff, exists_forall₂_iff]

/-! ### Errors -/

/-- Two steps fail exactly when the first does, or the second does from where the first leads. -/
lemma bind_eq_error_iff {x : Result α} {f : α → Result β} {e : Error} :
    (x >>= f) = .error e ↔ x = .error e ∨ ∃ a, x = .ok a ∧ f a = .error e := by
  cases x <;> simp [bind, Except.bind]

lemma pure_ne_error {a : α} {e : Error} : (pure a : Result α) ≠ .error e := by
  simp [pure, Except.pure]

/-- A last step that cannot fail does not change when the whole fails. -/
lemma bind_pure_eq_error_iff {x : Result α} {f : α → β} {e : Error} :
    (x >>= fun a => pure (f a)) = .error e ↔ x = .error e := by
  simp only [bind_eq_error_iff, pure_ne_error, and_false, exists_false, or_false]

lemma within_eq_error_iff {s : Segment} {x : Result α} {e : Error} :
    Result.within s x = .error e ↔ ∃ e', x = .error e' ∧ e'.within s = e := by
  cases x <;> simp [Result.within]

/-- A step fails over a list exactly when it fails from some member, and is taken from each member
in front of that one. -/
lemma mapM_eq_error_iff {f : α → Result β} {xs : List α} {e : Error} :
    xs.mapM f = .error e ↔ ∃ before x behind, xs = before ++ x :: behind ∧
      (∀ y ∈ before, ∃ z, f y = .ok z) ∧ f x = .error e := by
  induction xs with
  | nil => simp [pure_ne_error]
  | cons x xs ih =>
    rw [List.mapM_cons, bind_eq_error_iff]
    simp only [bind_eq_error_iff, pure_ne_error, and_false, exists_false, or_false, ih]
    constructor
    · rintro (hx | ⟨y, hy, before, x', behind, rfl, hbefore, hx'⟩)
      · exact ⟨[], x, xs, rfl, by simp, hx⟩
      · exact ⟨x :: before, x', behind, rfl, List.forall_mem_cons.mpr ⟨⟨y, hy⟩, hbefore⟩, hx'⟩
    · rintro ⟨before, x', behind, hxs, hbefore, hx'⟩
      cases before with
      | nil =>
        cases hxs
        exact .inl hx'
      | cons y before =>
        cases hxs
        obtain ⟨⟨z, hz⟩, hbefore⟩ := List.forall_mem_cons.mp hbefore
        exact .inr ⟨z, hz, before, x', behind, rfl, hbefore, hx'⟩

/-- A step that is told positions fails over a list exactly when it fails from some member at its
position, and is taken from each member in front of that one. -/
lemma mapM_zipIdx_eq_error_iff {f : α × Nat → Result β} {xs : List α} {e : Error} :
    xs.zipIdx.mapM f = .error e ↔ ∃ before x behind, xs = before ++ x :: behind ∧
      (∀ y ∈ before.zipIdx, ∃ z, f y = .ok z) ∧ f (x, before.length) = .error e := by
  rw [mapM_eq_error_iff]
  constructor
  · rintro ⟨_, _, _, hxs, hbefore, hx⟩
    obtain ⟨before, rest, rfl, rfl, hrest⟩ := List.zipIdx_eq_append_iff.mp hxs
    obtain ⟨x, behind, rfl, rfl, _⟩ := List.zipIdx_eq_cons_iff.mp hrest.symm
    rw [Nat.zero_add] at hx
    exact ⟨before, x, behind, rfl, hbefore, hx⟩
  · rintro ⟨before, x, behind, rfl, hbefore, hx⟩
    refine ⟨before.zipIdx, (x, before.length), behind.zipIdx (before.length + 1), ?_, hbefore, hx⟩
    rw [List.zipIdx_append, List.zipIdx_cons, Nat.zero_add]

end SearchWire.Result
