import Mathlib
import SearchWire.Schema.Leaf

/-!
# Equality of leaves

Equality of floating-point numbers is no equivalence, because a NaN does not equal itself. It still
is symmetric and transitive, and so is the equality of all that is made of such numbers
(`PartialEquality`); exactly what is free of NaNs equals itself. A weight compares by its bits, and
always equals itself.
-/

namespace SearchWire

/-- A symmetric and transitive equality. Exactly the values with the given property equal
themselves. -/
structure PartialEquality {α : Type} (eq : α → α → Bool) (P : α → Prop) : Prop where
  symm : ∀ {a b : α}, eq a b = true → eq b a = true
  trans : ∀ {a b c : α}, eq a b = true → eq b c = true → eq a c = true
  self_iff : ∀ a : α, eq a a = true ↔ P a

/-! ### Options and lists -/

namespace PartialEquality

variable {α β : Type} {eq : α → α → Bool} {P : α → Prop}

lemma of_beq [BEq α] [LawfulBEq α] : PartialEquality (fun a b : α => a == b) fun _ => True where
  symm h := by
    rw [beq_iff_eq] at h ⊢
    exact h.symm
  trans h h' := by
    rw [beq_iff_eq] at h h' ⊢
    exact h.trans h'
  self_iff a := by simp only [beq_self_eq_true]

lemma option (h : PartialEquality eq P) :
    PartialEquality (Leaf.optionEq eq) fun o => ∀ a ∈ o, P a where
  symm {o o'} hoo := by
    cases o with
    | none =>
      cases o' with
      | none => rfl
      | some b => cases hoo
    | some a =>
      cases o' with
      | none => cases hoo
      | some b => exact h.symm hoo
  trans {o o' o''} hoo hoo' := by
    cases o with
    | none =>
      cases o' with
      | none => exact hoo'
      | some b => cases hoo
    | some a =>
      cases o' with
      | none => cases hoo
      | some b =>
        cases o'' with
        | none => cases hoo'
        | some c => exact h.trans hoo hoo'
  self_iff o := by
    cases o with
    | none =>
      constructor
      · intro _ a ha
        cases ha
      · intro _
        rfl
    | some a =>
      rw [Leaf.optionEq, h.self_iff]
      simp only [Option.mem_some_iff, forall_eq']

lemma listEq_cons_iff {a b : α} {as bs : List α} :
    Leaf.listEq eq (a :: as) (b :: bs) = true ↔ eq a b = true ∧ Leaf.listEq eq as bs = true := by
  rw [Leaf.listEq, Bool.and_eq_true]

lemma list (h : PartialEquality eq P) :
    PartialEquality (Leaf.listEq eq) fun as => ∀ a ∈ as, P a where
  symm {as bs} hab := by
    induction as generalizing bs with
    | nil =>
      cases bs with
      | nil => rfl
      | cons b bs => cases hab
    | cons a as ih =>
      cases bs with
      | nil => cases hab
      | cons b bs =>
        obtain ⟨hhead, htail⟩ := listEq_cons_iff.mp hab
        exact listEq_cons_iff.mpr ⟨h.symm hhead, ih htail⟩
  trans {as bs cs} hab hbc := by
    induction as generalizing bs cs with
    | nil =>
      cases bs with
      | nil => exact hbc
      | cons b bs => cases hab
    | cons a as ih =>
      cases bs with
      | nil => cases hab
      | cons b bs =>
        cases cs with
        | nil => cases hbc
        | cons c cs =>
          obtain ⟨hhead, htail⟩ := listEq_cons_iff.mp hab
          obtain ⟨hhead', htail'⟩ := listEq_cons_iff.mp hbc
          exact listEq_cons_iff.mpr ⟨h.trans hhead hhead', ih htail htail'⟩
  self_iff as := by
    induction as with
    | nil => exact ⟨fun _ => List.forall_mem_nil P, fun _ => rfl⟩
    | cons a as ih => rw [listEq_cons_iff, h.self_iff, ih, List.forall_mem_cons]

end PartialEquality

/-! ### Numbers -/

/-- Comparing positions on the line of numbers, off which the NaNs lie. -/
lemma PartialEquality.of_rank {α : Type} (isNaN : α → Bool) (rank : α → Int) :
    PartialEquality (fun x y => !isNaN x && !isNaN y && rank x == rank y)
      fun x => isNaN x = false := by
  have heq : ∀ x y, (!isNaN x && !isNaN y && rank x == rank y) = true ↔
      isNaN x = false ∧ isNaN y = false ∧ rank x = rank y := by
    intro x y
    rw [Bool.and_eq_true, Bool.and_eq_true, Bool.not_eq_true', Bool.not_eq_true', beq_iff_eq,
      and_assoc]
  refine ⟨?_, ?_, ?_⟩
  · intro x y h
    obtain ⟨hx, hy, hrank⟩ := (heq x y).mp h
    exact (heq y x).mpr ⟨hy, hx, hrank.symm⟩
  · intro x y z h h'
    obtain ⟨hx, _, hrank⟩ := (heq x y).mp h
    obtain ⟨_, hz, hrank'⟩ := (heq y z).mp h'
    exact (heq x z).mpr ⟨hx, hz, hrank.trans hrank'⟩
  · intro x
    rw [heq]
    exact ⟨fun h => h.1, fun h => ⟨h, h, rfl⟩⟩

lemma Binary32.partialEquality : PartialEquality Binary32.eq fun x => x.isNaN = false :=
  PartialEquality.of_rank isNaN rank

lemma Binary64.partialEquality : PartialEquality Binary64.eq fun x => x.isNaN = false :=
  PartialEquality.of_rank isNaN rank

/-- Every weight equals itself. -/
lemma Weight.partialEquality : PartialEquality Weight.eq fun _ => True where
  symm := PartialEquality.of_beq.symm
  trans := PartialEquality.of_beq.trans
  self_iff w := PartialEquality.of_beq.self_iff w.value.bits

/-! ### Column values, scalars and leaves -/

/-- The column value is not a NaN. -/
def ColumnValue.NaNFree : ColumnValue → Prop
  | double x => x.isNaN = false
  | text _ | integer _ | boolean _ | binary _ => True

lemma ColumnValue.partialEquality : PartialEquality ColumnValue.eq ColumnValue.NaNFree where
  symm {v w} h := by
    cases v <;> cases w <;> try cases h
    case double.double => exact Binary64.partialEquality.symm h
    all_goals exact PartialEquality.of_beq.symm h
  trans {u v w} h h' := by
    cases u <;> cases v <;> (try cases h) <;> cases w <;> try cases h'
    case double.double.double => exact Binary64.partialEquality.trans h h'
    all_goals exact PartialEquality.of_beq.trans h h'
  self_iff v := by
    cases v with
    | double x => exact Binary64.partialEquality.self_iff x
    | text s => exact PartialEquality.of_beq.self_iff s
    | integer n => exact PartialEquality.of_beq.self_iff n
    | boolean b => exact PartialEquality.of_beq.self_iff b
    | binary content => exact PartialEquality.of_beq.self_iff content

/-- The value is not a NaN. -/
def Scalar.NaNFree : (t : Scalar) → t.Value → Prop
  | float32, x => x.isNaN = false
  | float64, x => x.isNaN = false
  | column, v => v.NaNFree
  | text, _ | int32, _ | int64, _ | bool, _ | bytes, _ | enum _, _ => True

lemma Scalar.partialEquality (t : Scalar) : PartialEquality t.eq t.NaNFree := by
  cases t with
  | float32 => exact Binary32.partialEquality
  | float64 => exact Binary64.partialEquality
  | column => exact ColumnValue.partialEquality
  | text => exact PartialEquality.of_beq
  | int32 => exact PartialEquality.of_beq
  | int64 => exact PartialEquality.of_beq
  | bool => exact PartialEquality.of_beq
  | bytes => exact PartialEquality.of_beq
  | enum e => exact PartialEquality.of_beq

/-- The element is not a NaN. -/
def PackedType.NaNFree : (t : PackedType) → t.Value → Prop
  | float, x => x.isNaN = false
  | double, x => x.isNaN = false

lemma PackedType.partialEquality (t : PackedType) : PartialEquality t.eq t.NaNFree := by
  cases t with
  | float => exact Binary32.partialEquality
  | double => exact Binary64.partialEquality

/-- There is no NaN in a leaf, unless it is a weight. -/
def Leaf.NaNFree : (l : Leaf) → l.Value → Prop
  | required t, v => ∀ x ∈ v, t.NaNFree x
  | optional t, v => ∀ x ∈ v, t.NaNFree x
  | present t, v => t.NaNFree v
  | defaulted t _, v => t.NaNFree v
  | weight _, _ => True
  | list t, xs => ∀ x ∈ xs, t.NaNFree x
  | requiredList t, v => ∀ xs ∈ v, ∀ x ∈ xs, t.NaNFree x
  | vector t, xs => ∀ x ∈ xs, t.NaNFree x
  | requiredVector t, v => ∀ xs ∈ v, ∀ x ∈ xs, t.NaNFree x

lemma Leaf.partialEquality (l : Leaf) : PartialEquality l.eq l.NaNFree := by
  cases l with
  | required t => exact t.partialEquality.option
  | optional t => exact t.partialEquality.option
  | present t => exact t.partialEquality
  | defaulted t d => exact t.partialEquality
  | weight always => exact Weight.partialEquality
  | list t => exact t.partialEquality.list
  | requiredList t => exact t.partialEquality.list.option
  | vector t => exact t.partialEquality.list
  | requiredVector t => exact t.partialEquality.list.option

end SearchWire
