import Mathlib
import SearchWire.Proofs.Tree.Written

/-!
# Writable trees

When a tree can be written at all, in terms of its parts: the slots of a message go together and
each of them can be written, and a part that holds children can be written if all of them can.
-/

namespace SearchWire

open Result

namespace Tree

/-- The tree can be written; of a list of values, every one of them. -/
def Writable : {c : Code} → Tree c → Prop
  | .shape _, t => ∃ bs, t.write = .ok bs
  | .slots _ _, t => ∃ fs, t.write = .ok fs
  | .slot _ _, t => ∃ fs, t.write = .ok fs
  | .items _, ts => ∀ content ∈ ts.write, ∃ bs, content = .ok bs

variable {m : MessageType} {tag : Tag} {s : Shape} {required : Bool}

lemma writable_record_iff {slots : Slots m} :
    (record slots).Writable ↔ m.check slots = .ok () ∧ slots.Writable := by
  constructor
  · rintro ⟨_, h⟩
    obtain ⟨hcheck, fs, hfs, _⟩ := write_record_eq_ok_iff.mp h
    exact ⟨hcheck, fs, hfs⟩
  · rintro ⟨hcheck, fs, hfs⟩
    exact ⟨_, write_record_eq_ok_iff.mpr ⟨hcheck, fs, hfs, rfl⟩⟩

lemma writable_node_iff {f : Family} {k : f.Kind} {payload : Message (f.payload k)} :
    (node k payload).Writable ↔ payload.Writable := by
  constructor
  · rintro ⟨_, h⟩
    obtain ⟨content, hcontent, _⟩ := write_node_eq_ok_iff.mp h
    exact ⟨content, hcontent⟩
  · rintro ⟨content, hcontent⟩
    exact ⟨_, write_node_eq_ok_iff.mpr ⟨content, hcontent, rfl⟩⟩

lemma writable_criterion_iff {k : CriterionKind} {payload : Message k.payload} :
    (criterion k payload).Writable ↔ payload.Writable := by
  constructor
  · rintro ⟨_, h⟩
    obtain ⟨content, hcontent, _⟩ := write_criterion_eq_ok_iff.mp h
    exact ⟨content, hcontent⟩
  · rintro ⟨content, hcontent⟩
    exact ⟨_, write_criterion_eq_ok_iff.mpr ⟨content, hcontent, rfl⟩⟩

lemma writable_nil : (nil : Tree (.slots m [])).Writable := ⟨[], rfl⟩

lemma writable_cons_iff {s : Slot} {ss : List Slot} {head : Tree (.slot m s)}
    {tail : Tree (.slots m ss)} : (cons head tail).Writable ↔ head.Writable ∧ tail.Writable := by
  constructor
  · rintro ⟨_, h⟩
    obtain ⟨first, hfirst, rest, hrest, _⟩ := write_cons_eq_ok_iff.mp h
    exact ⟨⟨first, hfirst⟩, rest, hrest⟩
  · rintro ⟨⟨first, hfirst⟩, rest, hrest⟩
    exact ⟨_, write_cons_eq_ok_iff.mpr ⟨first, hfirst, rest, hrest, rfl⟩⟩

lemma writable_leaf_iff {l : Leaf} {v : l.Value} :
    (leaf v : Tree (.slot m (.leaf tag l))).Writable ↔ ∃ items, l.occurrences v = some items ∧
      ∀ x ∈ items, ∃ content, l.writeItem x = .ok content :=
  Leaf.exists_write_eq_ok_iff

lemma writable_unset_iff :
    (unset : Tree (.slot m (.child tag s required))).Writable ↔ required = false := by
  constructor
  · rintro ⟨_, h⟩
    exact (write_unset_eq_ok_iff.mp h).1
  · intro h
    exact ⟨_, write_unset_eq_ok_iff.mpr ⟨h, rfl⟩⟩

lemma writable_child_iff {value : Value s} :
    (child value : Tree (.slot m (.child tag s required))).Writable ↔ value.Writable := by
  constructor
  · rintro ⟨_, h⟩
    obtain ⟨content, hcontent, _⟩ := write_child_eq_ok_iff.mp h
    exact ⟨content, hcontent⟩
  · rintro ⟨content, hcontent⟩
    exact ⟨_, write_child_eq_ok_iff.mpr ⟨content, hcontent, rfl⟩⟩

lemma writable_children_iff {values : Tree (.items s)} :
    (children values : Tree (.slot m (.children tag s))).Writable ↔ values.Writable := by
  simp only [Writable, write, Tag.writeChildren_eq_ok_iff, exists_forall₂_iff]
  constructor
  · intro h content hcontent
    obtain ⟨_, bs, hbs, _⟩ := h content hcontent
    exact ⟨bs, hbs⟩
  · intro h content hcontent
    obtain ⟨bs, hbs⟩ := h content hcontent
    exact ⟨_, bs, hbs, rfl⟩

lemma not_writable_noParam {kind content : Tag} :
    ¬ (noParam : Tree (.slot m (.decayParam kind content))).Writable := by
  simp [Writable, write]

lemma writable_param_iff {kind content : Tag} {k : DecayParamKind} {payload : Message k.payload} :
    (param k payload : Tree (.slot m (.decayParam kind content))).Writable ↔ payload.Writable := by
  constructor
  · rintro ⟨_, h⟩
    obtain ⟨content, hcontent, _⟩ := write_param_eq_ok_iff.mp h
    exact ⟨content, hcontent⟩
  · rintro ⟨content, hcontent⟩
    exact ⟨_, write_param_eq_ok_iff.mpr ⟨content, hcontent, rfl⟩⟩

lemma writable_empty : (empty : Tree (.items s)).Writable := by
  simp [Writable, write]

lemma writable_item_iff {first : Value s} {rest : Tree (.items s)} :
    (item first rest).Writable ↔ first.Writable ∧ rest.Writable := by
  simp only [Writable, write, List.forall_mem_cons]

lemma writable_ofList_iff {ts : List (Value s)} :
    (ofList ts).Writable ↔ ∀ t ∈ ts, t.Writable := by
  induction ts with
  | nil => simp [ofList, writable_empty]
  | cons t ts ih => rw [ofList, writable_item_iff, ih, List.forall_mem_cons]

end Tree

end SearchWire
