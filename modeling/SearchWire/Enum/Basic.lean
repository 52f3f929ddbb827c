/-!
# Enumerations with wire codes

A field whose values are words of a small fixed list travels as the integer code of the word. The
codes of one enumeration are distinct, so a code determines its value (`ofCode?_eq_some_iff`).
-/

namespace SearchWire

/-- What is fixed for one value of an enumeration: its name, the label under which it is shown, and
its code on the wire. -/
structure EnumEntry where
  name : String
  label : String
  code : Int32

/-- A finite type whose values have distinct codes on the wire. -/
class WireEnum (α : Type) [DecidableEq α] where
  /-- The name under which errors speak of the enumeration. -/
  title : String
  /-- Every value, in the order of declaration. -/
  values : List α
  /-- What is fixed for a value. -/
  entry : α → EnumEntry
  mem_values : ∀ a, a ∈ values := by intro a; cases a <;> decide
  nodup_values : values.Nodup := by decide
  nodup_codes : (values.map fun a => (entry a).code).Nodup := by decide

namespace WireEnum

variable {α : Type} [DecidableEq α] [WireEnum α]

/-- The name of a value. -/
def name (a : α) : String := (entry a).name

/-- The text under which a value is shown. -/
def label (a : α) : String := (entry a).label

/-- The code of a value on the wire. -/
def code (a : α) : Int32 := (entry a).code

/-- The value with the given code, if there is one. -/
def ofCode? (c : Int32) : Option α := values.find? (code · == c)

/-- The value with the given name, if there is one. -/
def ofName? (s : String) : Option α := values.find? (name · == s)

variable (α) in
/-- Every value, in ascending order of the codes. -/
def byCode : List α := values.mergeSort fun a b => code a ≤ code b

omit [DecidableEq α] [WireEnum α] in
private theorem eq_of_nodup_map {β : Type} {f : α → β} {l : List α} (h : (l.map f).Nodup) {a b : α}
    (ha : a ∈ l) (hb : b ∈ l) (hab : f a = f b) : a = b := by
  induction l with
  | nil => simp at ha
  | cons x l ih =>
    simp only [List.map_cons, List.nodup_cons, List.mem_map, not_exists, not_and] at h
    rcases List.mem_cons.mp ha with rfl | ha' <;> rcases List.mem_cons.mp hb with rfl | hb'
    · rfl
    · exact absurd hab.symm (h.1 b hb')
    · exact absurd hab (h.1 a ha')
    · exact ih h.2 ha' hb'

/-- Values with the same code are the same. -/
theorem code_injective {a b : α} (h : code a = code b) : a = b :=
  eq_of_nodup_map nodup_codes (mem_values a) (mem_values b) h

/-- A code finds exactly the value that has it. -/
theorem ofCode?_eq_some_iff {c : Int32} {a : α} : ofCode? c = some a ↔ code a = c := by
  constructor
  · intro h
    simpa using List.find?_some h
  · rintro rfl
    cases h : (ofCode? (code a) : Option α) with
    | none =>
      have := List.find?_eq_none.mp h a (mem_values a)
      simp at this
    | some b =>
      have hb : code b = code a := by simpa using List.find?_some h
      rw [code_injective hb]

@[simp] theorem ofCode?_code (a : α) : ofCode? (code a) = some a := ofCode?_eq_some_iff.mpr rfl

/-- A code finds nothing exactly when no value has it. -/
theorem ofCode?_eq_none_iff {c : Int32} : (ofCode? c : Option α) = none ↔ ∀ a : α, code a ≠ c := by
  simp only [ofCode?, List.find?_eq_none, beq_iff_eq]
  exact ⟨fun h a => h a (mem_values a), fun h a _ => h a⟩

end WireEnum

end SearchWire
