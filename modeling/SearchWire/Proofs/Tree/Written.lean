import Mathlib
import SearchWire.Proofs.Tree.Defaults

/-!
# What trees are written as

When the encoding of a tree gives a value, in terms of the parts of the tree: one lemma for every
way to build a tree, and what they say about the numbers of the fields
(`Tree.number_mem_of_write_slots`).
-/

namespace SearchWire

open Result

/-! ### Children -/

lemma Tag.writeChild_eq_ok_iff {tag : Tag} {message : String} {index : Option Nat}
    {content : Result Bytes} {f : WireField} :
    tag.writeChild message index content = .ok f ↔
      ∃ bs, content = .ok bs ∧ (⟨tag.number, .bytes bs⟩ : WireField) = f := by
  simp only [writeChild, bind_eq_ok_iff, within_eq_ok_iff, pure_eq_ok_iff]

/-- Children are written as a field for each of them, and their positions do not matter. -/
lemma Tag.writeChildren_eq_ok_iff {tag : Tag} {message : String} {contents : List (Result Bytes)}
    {fs : List WireField} :
    tag.writeChildren message contents = .ok fs ↔
      List.Forall₂ (fun content f => ∃ bs, content = .ok bs ∧
        (⟨tag.number, .bytes bs⟩ : WireField) = f) contents fs := by
  have hmap : contents = contents.zipIdx.map Prod.fst := by simp
  conv_rhs => rw [hmap]
  simp only [writeChildren, mapM_eq_ok_iff, writeChild_eq_ok_iff, List.forall₂_map_left_iff]

lemma CriterionKind.write_eq_ok_iff {k : CriterionKind} {content : Result Bytes} {f : WireField} :
    k.write content = .ok f ↔
      ∃ bs, content = .ok bs ∧ (⟨k.tag.number, .bytes bs⟩ : WireField) = f :=
  Tag.writeChild_eq_ok_iff

namespace Tree

variable {m : MessageType} {tag : Tag} {s : Shape} {required : Bool} {bs : Bytes}
  {fs : List WireField}

/-! ### Shapes -/

lemma write_record_eq_ok_iff {slots : Slots m} :
    (record slots).write = .ok bs ↔
      m.check slots = .ok () ∧ ∃ fs, slots.write = .ok fs ∧ WireField.writeAll fs = bs := by
  simp only [write, bind_eq_ok_iff, pure_eq_ok_iff]
  constructor
  · rintro ⟨⟨⟩, hcheck, hfields⟩
    exact ⟨hcheck, hfields⟩
  · rintro ⟨hcheck, hfields⟩
    exact ⟨(), hcheck, hfields⟩

/-- A message that fails its check is not written. -/
lemma write_record_of_check_eq_error {slots : Slots m} {e : Error} (h : m.check slots = .error e) :
    (record slots).write = .error e :=
  bind_eq_error_iff.mpr (.inl h)

lemma write_node_eq_ok_iff {f : Family} {k : f.Kind} {payload : Message (f.payload k)} :
    (node k payload).write = .ok bs ↔
      ∃ content, payload.write = .ok content ∧ (⟨k, content⟩ : Envelope f).write = bs := by
  simp only [write, bind_eq_ok_iff, pure_eq_ok_iff]

lemma write_criterion_eq_ok_iff {k : CriterionKind} {payload : Message k.payload} :
    (criterion k payload).write = .ok bs ↔
      ∃ content, payload.write = .ok content ∧
        WireField.writeAll [⟨k.tag.number, .bytes content⟩] = bs := by
  simp only [write, bind_eq_ok_iff, pure_eq_ok_iff, CriterionKind.write_eq_ok_iff,
    WireField.writeAll_singleton]
  constructor
  · rintro ⟨_, ⟨content, hcontent, rfl⟩, rfl⟩
    exact ⟨content, hcontent, rfl⟩
  · rintro ⟨content, hcontent, rfl⟩
    exact ⟨_, ⟨content, hcontent, rfl⟩, rfl⟩

/-! ### Slots -/

lemma write_cons_eq_ok_iff {s : Slot} {ss : List Slot} {head : Tree (.slot m s)}
    {tail : Tree (.slots m ss)} :
    (cons head tail).write = .ok fs ↔
      ∃ first, head.write = .ok first ∧ ∃ rest, tail.write = .ok rest ∧ first ++ rest = fs := by
  simp only [write, bind_eq_ok_iff, pure_eq_ok_iff]

lemma write_unset_eq_ok_iff :
    (unset : Tree (.slot m (.child tag s required))).write = .ok fs ↔
      required = false ∧ fs = [] := by
  cases required <;> simp [write, eq_comm]

lemma write_child_eq_ok_iff {value : Value s} :
    (child value : Tree (.slot m (.child tag s required))).write = .ok fs ↔
      ∃ content, value.write = .ok content ∧ fs = [⟨tag.number, .bytes content⟩] := by
  simp only [write, bind_eq_ok_iff, pure_eq_ok_iff, Tag.writeChild_eq_ok_iff]
  constructor
  · rintro ⟨_, ⟨content, hcontent, rfl⟩, rfl⟩
    exact ⟨content, hcontent, rfl⟩
  · rintro ⟨content, hcontent, rfl⟩
    exact ⟨_, ⟨content, hcontent, rfl⟩, rfl⟩

lemma write_items (ts : Tree (.items s)) : ts.write = ts.toList.map write := by
  match ts with
  | empty => rfl
  | item first rest =>
    rw [write, write_items rest]
    rfl

lemma write_children_eq_ok_iff {values : Tree (.items s)} :
    (children values : Tree (.slot m (.children tag s))).write = .ok fs ↔
      List.Forall₂ (fun (value : Value s) f => ∃ content, value.write = .ok content ∧
        (⟨tag.number, .bytes content⟩ : WireField) = f) values.toList fs := by
  rw [write, Tag.writeChildren_eq_ok_iff, write_items, List.forall₂_map_left_iff]

lemma write_param_eq_ok_iff {kind content : Tag} {k : DecayParamKind}
    {payload : Message k.payload} :
    (param k payload : Tree (.slot m (.decayParam kind content))).write = .ok fs ↔
      ∃ bs, payload.write = .ok bs ∧
        fs = [⟨kind.number, .varint (WireEnum.code k).toInt64.toUInt64⟩,
          ⟨content.number, .bytes bs⟩] := by
  simp only [write, bind_eq_ok_iff, pure_eq_ok_iff, Tag.writeChild_eq_ok_iff]
  constructor
  · rintro ⟨_, ⟨bs, hbs, rfl⟩, rfl⟩
    exact ⟨bs, hbs, rfl⟩
  · rintro ⟨bs, hbs, rfl⟩
    exact ⟨_, ⟨bs, hbs, rfl⟩, rfl⟩

/-! ### Numbers -/

/-- A slot is written in the fields that it takes up. -/
lemma number_mem_of_write_slot {s : Slot} {t : Tree (.slot m s)} (h : t.write = .ok fs) :
    ∀ f ∈ fs, f.number ∈ s.numbers := by
  intro f hf
  cases t with
  | leaf v =>
    obtain ⟨items, _, hitems⟩ := Leaf.write_eq_ok_iff.mp h
    obtain ⟨_, _, _, _, rfl⟩ := exists_of_mem_right hitems hf
    exact List.mem_singleton.mpr rfl
  | unset =>
    obtain ⟨_, rfl⟩ := write_unset_eq_ok_iff.mp h
    exact absurd hf (List.not_mem_nil)
  | child value =>
    obtain ⟨content, _, rfl⟩ := write_child_eq_ok_iff.mp h
    rw [List.mem_singleton.mp hf]
    exact List.mem_singleton.mpr rfl
  | children values =>
    obtain ⟨_, _, _, _, rfl⟩ := exists_of_mem_right (write_children_eq_ok_iff.mp h) hf
    exact List.mem_singleton.mpr rfl
  | noParam => simp [write] at h
  | param k payload =>
    obtain ⟨bs, _, rfl⟩ := write_param_eq_ok_iff.mp h
    simp only [List.mem_cons, List.not_mem_nil, or_false] at hf
    rcases hf with rfl | rfl <;> simp [Slot.numbers]

/-- A message is written in the fields of its slots. -/
lemma number_mem_of_write_slots {ss : List Slot} {t : Tree (.slots m ss)} (h : t.write = .ok fs) :
    ∀ f ∈ fs, f.number ∈ ss.flatMap Slot.numbers := by
  induction ss generalizing fs with
  | nil =>
    cases t
    cases h
    simp
  | cons s ss ih =>
    cases t with
    | cons head tail =>
      obtain ⟨first, hfirst, rest, hrest, rfl⟩ := write_cons_eq_ok_iff.mp h
      intro f hf
      rw [List.flatMap_cons, List.mem_append]
      rcases List.mem_append.mp hf with hf | hf
      · exact .inl (number_mem_of_write_slot hfirst f hf)
      · exact .inr (ih hrest f hf)

end Tree

end SearchWire
