import Mathlib
import SearchWire.Proofs.Wire.Grammar

/-!
# The lengths of fields

Whichever way a field is spelled, it takes up its least length (`WireField.Spells.leastLength_le`),
which is more than what it holds as bytes. Fields that are spelled one behind the other take up the
sum (`WireField.SpellAll.leastLengths_le`).
-/

namespace SearchWire

lemma Varint.IsForm.length_pos {bs : Bytes} {n : Nat} (h : IsForm bs n) : 0 < bs.length := by
  cases h <;> exact Nat.succ_pos _

namespace WireField

variable {f g : WireField} {fs : List WireField}

/-- The fewest bytes that a field is spelled with: its key, and its value or the count and the
content of its value, where the key, a number and the count take one byte at least. -/
def leastLength (f : WireField) : Nat :=
  match f.value with
  | .bytes content => content.length + 2
  | .varint _ | .fixed64 _ | .fixed32 _ => 2

/-- The fewest bytes that fields are spelled with. -/
def leastLengths (fs : List WireField) : Nat := (fs.map leastLength).sum

lemma two_le_leastLength (f : WireField) : 2 ≤ f.leastLength := by
  rw [leastLength]
  split <;> omega

lemma leastLength_of_bytes {content : Bytes} (h : f.value = .bytes content) :
    f.leastLength = content.length + 2 := by
  rw [leastLength, h]

lemma Spells.leastLength_le {bs : Bytes} (h : Spells bs f) : f.leastLength ≤ bs.length := by
  obtain ⟨_, hkey, hvalue⟩ := h
  have hkeyLength := hkey.isForm.length_pos
  obtain ⟨number, value⟩ := f
  rw [leastLength, List.length_append]
  cases hvalue with
  | varint h =>
    have hlength := h.isForm.length_pos
    simp only
    omega
  | fixed64 hlength h =>
    simp only
    omega
  | bytes h =>
    have hlength := h.isForm.length_pos
    simp only [List.length_append]
    omega
  | fixed32 hlength h =>
    simp only
    omega

lemma SpellAll.leastLengths_le {bs : Bytes} (h : SpellAll bs fs) : leastLengths fs ≤ bs.length := by
  induction h with
  | nil => exact Nat.le_refl 0
  | cons hf _ ih =>
    rw [leastLengths, List.map_cons, List.sum_cons, List.length_append]
    exact Nat.add_le_add hf.leastLength_le ih

lemma leastLength_le (hf : f ∈ fs) : f.leastLength ≤ leastLengths fs :=
  List.le_sum_of_mem (List.mem_map_of_mem hf)

/-- What a field holds as bytes is shorter than the bytes that spell it among others. -/
lemma SpellAll.below_length {bs : Bytes} (h : SpellAll bs fs) (hf : f ∈ fs) :
    f.Below bs.length := by
  intro content hcontent
  have hfield := leastLength_of_bytes hcontent
  have hle := leastLength_le hf
  have hall := h.leastLengths_le
  omega

/-- Two fields take up bytes of their own. -/
lemma leastLength_add_le (hf : f ∈ fs) (hg : g ∈ fs) (hne : f ≠ g) :
    f.leastLength + g.leastLength ≤ leastLengths fs := by
  obtain ⟨before, behind, rfl⟩ := List.append_of_mem hf
  have hother : g ∈ before ++ behind := by
    rcases List.mem_append.mp hg with hg | hg
    · exact List.mem_append_left _ hg
    · rcases List.mem_cons.mp hg with rfl | hg
      · exact absurd rfl hne
      · exact List.mem_append_right _ hg
  have hle := leastLength_le hother
  simp only [leastLengths, List.map_append, List.map_cons, List.sum_append, List.sum_cons] at hle ⊢
  omega

lemma leastLengths_filter_add (p : WireField → Bool) (fs : List WireField) :
    leastLengths (fs.filter p) + leastLengths (fs.filter fun f => !p f) = leastLengths fs := by
  rw [leastLengths, leastLengths, ← List.sum_append, ← List.map_append]
  exact ((List.filter_append_perm p fs).map leastLength).sum_eq

end WireField

end SearchWire
