import Mathlib
import SearchWire.Message.Aggregation
import SearchWire.Message.Query
import SearchWire.Proofs.Schema.WireType
import SearchWire.Proofs.Tree.Accepted
import SearchWire.Proofs.Tree.Canonical

/-!
# No field is passed over

Every field of the bytes that a value is decoded from is one that the encoder writes, by its number
and its wire type, and holds what it has to (`Shape.Accepts`). So one field that does not makes the
bytes unreadable, wherever it stands and whatever follows it.
-/

namespace SearchWire

open Result

/-! ### What is written -/

/-- The value is written as the fields, one behind the other. -/
def Tree.IsWrittenAs {s : Shape} (v : Value s) (fs : List WireField) : Prop :=
  encode v = .ok (WireField.writeAll fs) ∧ ∀ f ∈ fs, IsFieldNumber f.number

/-- No value is written as two sequences of fields. -/
lemma Tree.IsWrittenAs.eq_of_writeAll {s : Shape} {v : Value s} {fs gs : List WireField}
    (h : v.IsWrittenAs fs) (hgs : ∀ g ∈ gs, IsFieldNumber g.number)
    (heq : WireField.writeAll gs = WireField.writeAll fs) : gs = fs :=
  WireField.writeAll_injective hgs h.2 heq

/-- Values of the shape are written with fields of the number, and these have the wire type. -/
structure Shape.Writes (s : Shape) (number : Nat) (t : WireType) : Prop where
  exists_field : ∃ (v : Value s) (fs : List WireField), v.IsWrittenAs fs ∧ ∃ f ∈ fs,
    f.number = number
  type_eq : ∀ (v : Value s) (fs : List WireField), v.IsWrittenAs fs → ∀ f ∈ fs,
    f.number = number → f.value.type = t

/-! ### What is accepted -/

/-- What a field of a slot has to hold: what the rule of the leaf asks for, the bytes of a child, or
the kind of a decay parameter in the one field and any bytes in the other. -/
def Slot.Admits : Slot → WireField → Prop
  | .leaf _ l, f => l.Admits f.value
  | .child _ s _, f | .children _ s, f =>
    ∃ content, f.value = .bytes content ∧ ∃ v, decode s content = .ok v
  | .decayParam kind _, f =>
    if f.number = kind.number then Scalar.Admits (.enum .decayParamKind) f.value
    else ∃ content, f.value = .bytes content

/-- What a field has to hold in the bytes of a shape. -/
def Shape.Admits : Shape → WireField → Prop
  | .message m, f => ∃ s ∈ m.slots, f.number ∈ s.numbers ∧ s.Admits f
  | .node _, f => Envelope.IsPart f
  | .criterion, f => ∃ k : CriterionKind, f.number = k.tag.number ∧
    ∃ content, f.value = .bytes content ∧ ∃ v, decode (.message k.payload) content = .ok v

/-- The field is an element, standing alone, of one of the two packed vectors: that of a vector
query or the percentiles of an aggregation. -/
def Shape.IsLoneElement : Shape → WireField → Prop
  | .message .knnVectorQuery, f => f.number = 3 ∧ f.value.type = .fixed32
  | .message .percentilesAggregation, f => f.number = 3 ∧ f.value.type = .fixed64
  | _, _ => False

/-- The field has a number that the encoder writes and the wire type that it is written with, or is
an element of a packed vector that stands alone; and it holds what it has to. -/
structure Shape.Accepts (s : Shape) (f : WireField) : Prop where
  writes : ∃ t, s.Writes f.number t ∧ (f.value.type = t ∨ s.IsLoneElement f)
  admits : s.Admits f

/-! ### Slots -/

namespace Slot

variable {m : MessageType} {s : Slot} {f : WireField} {fs gs : List WireField}

/-- The wire type in which the field of a slot with the given number is written. -/
def wireType : Slot → Nat → WireType
  | .leaf _ l, _ => l.wireType
  | .child _ _ _, _ | .children _ _, _ => .lengthDelimited
  | .decayParam kind _, number => if number = kind.number then .varint else .lengthDelimited

lemma type_of_write {ss : List Slot} (hs : RegularLayout m (s :: ss)) {t : Tree (.slot m s)}
    (h : t.write = .ok fs) (hf : f ∈ fs) : f.value.type = s.wireType f.number := by
  cases t with
  | leaf v =>
    obtain ⟨items, _, hitems⟩ := Leaf.write_eq_ok_iff.mp h
    obtain ⟨x, _, content, hcontent, rfl⟩ := exists_of_mem_right hitems hf
    exact Leaf.type_of_writeItem hcontent
  | unset =>
    obtain ⟨_, rfl⟩ := Tree.write_unset_eq_ok_iff.mp h
    cases hf
  | child value =>
    obtain ⟨content, _, rfl⟩ := Tree.write_child_eq_ok_iff.mp h
    rw [List.mem_singleton.mp hf]
    rfl
  | children values =>
    obtain ⟨_, _, _, _, rfl⟩ := exists_of_mem_right (Tree.write_children_eq_ok_iff.mp h) hf
    rfl
  | noParam => cases h
  | @param kind content k payload =>
    obtain ⟨bs, _, rfl⟩ := Tree.write_param_eq_ok_iff.mp h
    rcases List.mem_pair.mp hf with rfl | rfl
    · rw [wireType, if_pos rfl]
      rfl
    · rw [wireType, if_neg hs.content_ne_kind]
      rfl

lemma admits_of_item? {x : s.Item} (h : s.item? m f = some x) : s.Admits f := by
  obtain ⟨_, hread⟩ := item?_eq_some_iff.mp h
  cases s with
  | leaf tag l => exact Leaf.admits_of_readItem hread
  | child tag s required =>
    obtain ⟨content, hvalue, hv⟩ := readChild_eq_ok_iff.mp hread
    exact ⟨content, hvalue, x, hv⟩
  | children tag s =>
    obtain ⟨content, hvalue, hv⟩ := readChild_eq_ok_iff.mp hread
    exact ⟨content, hvalue, x, hv⟩
  | decayParam kind content =>
    rw [Admits]
    rcases x with k | bs
    · obtain ⟨hnumber, hk⟩ := readItem_eq_ok_inl_iff.mp hread
      rw [if_pos hnumber]
      exact Scalar.admits_of_read (t := .enum .decayParamKind) hk
    · obtain ⟨hnumber, hvalue⟩ := readItem_eq_ok_inr_iff.mp hread
      rw [if_neg hnumber]
      exact ⟨bs, hvalue⟩

lemma type_of_admits (h : s.Admits f) : f.value.type = s.wireType f.number ∨
    ∃ tag l t, s = .leaf tag l ∧ l.packed? = some t ∧ f.value.type = t.elementType := by
  cases s with
  | leaf tag l =>
    rcases Leaf.type_of_admits h with htype | ⟨t, ht, htype⟩
    · exact .inl htype
    · exact .inr ⟨tag, l, t, rfl, ht, htype⟩
  | child tag s required =>
    obtain ⟨content, hvalue, _⟩ := h
    rw [hvalue]
    exact .inl rfl
  | children tag s =>
    obtain ⟨content, hvalue, _⟩ := h
    rw [hvalue]
    exact .inl rfl
  | decayParam kind content =>
    rw [Admits] at h
    rw [wireType]
    by_cases hnumber : f.number = kind.number
    · rw [if_pos hnumber] at h ⊢
      exact .inl (Scalar.type_of_admits (t := .enum .decayParamKind) h)
    · rw [if_neg hnumber] at h ⊢
      obtain ⟨bs, hvalue⟩ := h
      rw [hvalue]
      exact .inl rfl

/-- A slot that something is said about is written, except that an empty vector is not. -/
lemma exists_mem_of_settle {x : s.Item} {items : List s.Item} {t : Tree (.slot m s)}
    (hx : x ∈ items) (hsettle : s.settle decode m items = .ok t) (hwritten : t.write = .ok gs)
    (hvector : ∀ tag t, s ≠ .leaf tag (.vector t)) {n : Nat} (hn : n ∈ s.numbers) :
    ∃ g ∈ gs, g.number = n := by
  cases s with
  | leaf tag l =>
    obtain rfl := List.mem_singleton.mp hn
    rw [settle] at hsettle
    split at hsettle
    · rename_i v hv
      cases hsettle
      obtain ⟨ys, hys, hgs⟩ := Leaf.write_eq_ok_iff.mp hwritten
      have hl : ∀ t, l ≠ .vector t := by
        rintro t rfl
        exact hvector tag t rfl
      cases hgs with
      | nil => exact absurd rfl (Leaf.occurrences_ne_nil hx hv hys hl)
      | cons hg _ =>
        obtain ⟨content, _, rfl⟩ := hg
        exact ⟨_, List.mem_cons_self, rfl⟩
    · cases hsettle
  | child tag s required =>
    obtain rfl := List.mem_singleton.mp hn
    rw [settle, List.getLast?_eq_some_getLast (List.ne_nil_of_mem hx)] at hsettle
    cases hsettle
    obtain ⟨content, _, rfl⟩ := Tree.write_child_eq_ok_iff.mp hwritten
    exact ⟨_, List.mem_cons_self, rfl⟩
  | children tag s =>
    obtain rfl := List.mem_singleton.mp hn
    cases hsettle
    have hgs := Tree.write_children_eq_ok_iff.mp hwritten
    rw [Tree.toList_ofList] at hgs
    cases hgs with
    | nil => cases hx
    | cons hg _ =>
      obtain ⟨content, _, rfl⟩ := hg
      exact ⟨_, List.mem_cons_self, rfl⟩
  | decayParam kind content =>
    cases t with
    | noParam => cases hwritten
    | param k payload =>
      obtain ⟨bs, _, rfl⟩ := Tree.write_param_eq_ok_iff.mp hwritten
      rcases List.mem_pair.mp hn with rfl | rfl
      · exact ⟨_, List.mem_cons_self, rfl⟩
      · exact ⟨_, List.mem_cons_of_mem _ List.mem_cons_self, rfl⟩

end Slot

/-! ### Messages -/

section

variable {m : MessageType} {ss : List Slot} {fs gs : List WireField}

lemma exists_slot_of_write (hss : RegularLayout m ss) {t : Tree (.slots m ss)}
    (h : t.write = .ok fs) {f : WireField} (hf : f ∈ fs) :
    ∃ s ∈ ss, f.number ∈ s.numbers ∧ f.value.type = s.wireType f.number := by
  induction ss generalizing fs with
  | nil =>
    cases t
    cases h
    cases hf
  | cons s ss ih =>
    cases t with
    | cons head tail =>
      obtain ⟨first, hfirst, rest, hrest, rfl⟩ := Tree.write_cons_eq_ok_iff.mp h
      rcases List.mem_append.mp hf with hf | hf
      · exact ⟨s, List.mem_cons_self, Tree.number_mem_of_write_slot hfirst f hf,
          Slot.type_of_write hss hfirst hf⟩
      · obtain ⟨s', hs', hnumber, htype⟩ := ih hss.tail hrest hf
        exact ⟨s', List.mem_cons_of_mem s hs', hnumber, htype⟩

lemma exists_mem_of_settleFields {t : Tree (.slots m ss)} (hsettle : settleFields m ss fs = .ok t)
    (hwritten : t.write = .ok gs) {s : Slot} (hs : s ∈ ss) {f : WireField} (hf : f ∈ fs)
    {x : s.Item} (hx : s.item? m f = some x) (hvector : ∀ tag t, s ≠ .leaf tag (.vector t))
    {n : Nat} (hn : n ∈ s.numbers) : ∃ g ∈ gs, g.number = n := by
  induction ss generalizing gs with
  | nil => cases hs
  | cons s' ss ih =>
    simp only [settleFields, bind_eq_ok_iff, pure_eq_ok_iff] at hsettle
    obtain ⟨head, hhead, tail, htail, rfl⟩ := hsettle
    obtain ⟨first, hfirst, rest, hrest, rfl⟩ := Tree.write_cons_eq_ok_iff.mp hwritten
    rcases List.mem_cons.mp hs with rfl | hs
    · have hitem : x ∈ s.items m fs := List.mem_filterMap.mpr ⟨f, hf, hx⟩
      obtain ⟨g, hg, hnumber⟩ := Slot.exists_mem_of_settle hitem hhead hfirst hvector hn
      exact ⟨g, List.mem_append_left rest hg, hnumber⟩
    · obtain ⟨g, hg, hnumber⟩ := ih htail hrest hs
      exact ⟨g, List.mem_append_right first hg, hnumber⟩

lemma isWrittenAs_record_iff {slots : Slots m} :
    (Tree.record slots).IsWrittenAs fs ↔ m.check slots = .ok () ∧ slots.write = .ok fs := by
  have hnumbers : ∀ {gs}, slots.write = .ok gs → ∀ g ∈ gs, IsFieldNumber g.number := by
    intro gs hgs g hg
    exact m.regular.isFieldNumber _ (Tree.number_mem_of_write_slots hgs g hg)
  constructor
  · intro h
    obtain ⟨hcheck, gs, hgs, heq⟩ := Tree.write_record_eq_ok_iff.mp h.1
    obtain rfl := h.eq_of_writeAll (hnumbers hgs) heq
    exact ⟨hcheck, hgs⟩
  · rintro ⟨hcheck, hfs⟩
    exact ⟨Tree.write_record_eq_ok_iff.mpr ⟨hcheck, fs, hfs, rfl⟩, hnumbers hfs⟩

/-- Where a slot of a message is written at all, its fields have the wire type of the slot. -/
lemma writes_of_exists {s : Slot} (hs : s ∈ m.slots) {n : Nat} (hn : n ∈ s.numbers)
    (h : ∃ (v : Message m) (fs : List WireField), v.IsWrittenAs fs ∧ ∃ f ∈ fs, f.number = n) :
    (Shape.message m).Writes n (s.wireType n) where
  exists_field := h
  type_eq := by
    rintro ⟨slots⟩ fs hwritten f hf rfl
    obtain ⟨_, hwrite⟩ := isWrittenAs_record_iff.mp hwritten
    obtain ⟨s', hs', hn', htype⟩ := exists_slot_of_write m.regular hwrite hf
    rw [htype, m.regular.eq_of_accepts hs' hs (Slot.accepts_iff.mpr hn') (Slot.accepts_iff.mpr hn)]

/-- The number of a slot that is a packed vector, and the type of its elements. -/
def Slot.packed? : Slot → Option (Nat × PackedType)
  | .leaf tag l => l.packed?.map (tag.number, ·)
  | .child _ _ _ | .children _ _ | .decayParam _ _ => none

lemma filterMap_packed? (m : MessageType) : m.slots.filterMap Slot.packed? = match m with
    | .knnVectorQuery => [(3, .float)]
    | .percentilesAggregation => [(3, .double)]
    | _ => [] := by
  cases m <;> rfl

lemma mem_filterMap_packed? {tag : Tag} {l : Leaf} {t : PackedType} (hs : .leaf tag l ∈ m.slots)
    (ht : l.packed? = some t) : (tag.number, t) ∈ m.slots.filterMap Slot.packed? :=
  List.mem_filterMap.mpr ⟨_, hs, by rw [Slot.packed?, ht, Option.map_some]⟩

lemma isLoneElement_of_mem_slots {tag : Tag} {l : Leaf} {t : PackedType}
    (hs : .leaf tag l ∈ m.slots) (ht : l.packed? = some t) {f : WireField}
    (hnumber : f.number = tag.number) (htype : f.value.type = t.elementType) :
    (Shape.message m).IsLoneElement f := by
  have hmem := mem_filterMap_packed? hs ht
  rw [filterMap_packed?] at hmem
  split at hmem
  · obtain ⟨htag, rfl⟩ := Prod.mk.inj (List.mem_singleton.mp hmem)
    exact ⟨hnumber.trans htag, htype⟩
  · obtain ⟨htag, rfl⟩ := Prod.mk.inj (List.mem_singleton.mp hmem)
    exact ⟨hnumber.trans htag, htype⟩
  · cases hmem

/-- Only the percentiles are a packed vector that is not written when it is empty. -/
lemma eq_percentilesAggregation {tag : Tag} {t : PackedType}
    (hs : .leaf tag (.vector t) ∈ m.slots) : m = .percentilesAggregation ∧ tag.number = 3 := by
  have hmem := mem_filterMap_packed? hs rfl
  rw [filterMap_packed?] at hmem
  split at hmem
  · simp [MessageType.slots] at hs
  · rw [(Prod.mk.inj (List.mem_singleton.mp hmem)).1]
    exact ⟨rfl, rfl⟩
  · cases hmem

/-- The percentiles are written, if there are any. -/
lemma exists_written_percentiles : ∃ (v : Message .percentilesAggregation) (fs : List WireField),
    v.IsWrittenAs fs ∧ ∃ f ∈ fs, f.number = 3 := by
  let x : PercentilesAggregation := { name := "p", fieldName := "f", percentiles := [⟨0⟩] }
  refine ⟨x.toMessage, _, isWrittenAs_record_iff.mpr ⟨rfl, rfl⟩, ?_⟩
  exact ⟨_, List.mem_cons_of_mem _ (List.mem_cons_of_mem _ List.mem_cons_self), rfl⟩

/-- The bytes of a message are fields that its encoder writes, and that hold what they have to. -/
lemma accepts_of_decode_message {bs : Bytes} {v : Message m} (h : decode (.message m) bs = .ok v) :
    ∃ fs, WireField.SpellAll bs fs ∧ ∀ f ∈ fs, (Shape.message m).Accepts f := by
  obtain ⟨fs, hbs, hconverts, slots, hslots, hcheck, rfl⟩ := decode_message_eq_ok_iff.mp h
  obtain ⟨_, hwritable⟩ := Tree.writable_record_iff.mp (writable_of_decode h)
  obtain ⟨gs, hgs⟩ : ∃ gs, slots.write = .ok gs := hwritable
  refine ⟨fs, hbs, ?_⟩
  intro f hf
  obtain ⟨s, hs, x, hx⟩ := hconverts f hf
  have hnumber := Slot.accepts_iff.mp (Slot.item?_eq_some_iff.mp hx).1
  have hadmits := Slot.admits_of_item? hx
  have hwritten : ∃ (v : Message m) (fs : List WireField), v.IsWrittenAs fs ∧
      ∃ g ∈ fs, g.number = f.number := by
    by_cases hvector : ∃ tag t, s = .leaf tag (.vector t)
    · obtain ⟨tag, t, rfl⟩ := hvector
      obtain ⟨rfl, htag⟩ := eq_percentilesAggregation hs
      rw [List.mem_singleton.mp hnumber, htag]
      exact exists_written_percentiles
    · -- what a field says is written again, if not with the same content
      have hne : ∀ tag t, s ≠ .leaf tag (.vector t) := by
        intro tag t hst
        exact hvector ⟨tag, t, hst⟩
      exact ⟨_, gs, isWrittenAs_record_iff.mpr ⟨hcheck, hgs⟩,
        exists_mem_of_settleFields hslots hgs hs hf hx hne hnumber⟩
  refine ⟨⟨_, writes_of_exists hs hnumber hwritten, ?_⟩, s, hs, hnumber, hadmits⟩
  rcases Slot.type_of_admits hadmits with htype | ⟨tag, l, t, rfl, ht, htype⟩
  · exact .inl htype
  · exact .inr (isLoneElement_of_mem_slots hs ht (List.mem_singleton.mp hnumber) htype)

end

/-! ### Nodes and criteria -/

lemma isWrittenAs_node_iff {f : Family} {k : f.Kind} {payload : Message (f.payload k)}
    {fs : List WireField} : (Tree.node k payload).IsWrittenAs fs ↔
      ∃ content, payload.write = .ok content ∧ (⟨k, content⟩ : Envelope f).fields = fs := by
  constructor
  · intro h
    obtain ⟨content, hcontent, heq⟩ := Tree.write_node_eq_ok_iff.mp h.1
    exact ⟨content, hcontent, h.eq_of_writeAll (Envelope.isFieldNumber _) heq⟩
  · rintro ⟨content, hcontent, rfl⟩
    exact ⟨Tree.write_node_eq_ok_iff.mpr ⟨content, hcontent, rfl⟩, Envelope.isFieldNumber _⟩

lemma isWrittenAs_criterion_iff {k : CriterionKind} {payload : Message k.payload}
    {fs : List WireField} : (Tree.criterion k payload).IsWrittenAs fs ↔
      ∃ content, payload.write = .ok content ∧ [⟨k.tag.number, .bytes content⟩] = fs := by
  have hnumbers : ∀ content, ∀ f ∈ [(⟨k.tag.number, .bytes content⟩ : WireField)],
      IsFieldNumber f.number := by
    intro content f hf
    rw [List.mem_singleton.mp hf]
    exact k.isFieldNumber
  constructor
  · intro h
    obtain ⟨content, hcontent, heq⟩ := Tree.write_criterion_eq_ok_iff.mp h.1
    exact ⟨content, hcontent, h.eq_of_writeAll (hnumbers content) heq⟩
  · rintro ⟨content, hcontent, rfl⟩
    exact ⟨Tree.write_criterion_eq_ok_iff.mpr ⟨content, hcontent, rfl⟩, hnumbers content⟩

/-- Parts of an envelope that have one number have one wire type. -/
lemma Envelope.IsPart.type_eq {x y : WireField} (hx : IsPart x) (hy : IsPart y)
    (h : x.number = y.number) : x.value.type = y.value.type := by
  rcases hx with ⟨hx, _, hxvalue⟩ | ⟨hx, _, hxvalue⟩ <;>
    rcases hy with ⟨hy, _, hyvalue⟩ | ⟨hy, _, hyvalue⟩
  · rw [hxvalue, hyvalue, WireValue.type, WireValue.type]
  · omega
  · omega
  · rw [hxvalue, hyvalue, WireValue.type, WireValue.type]

/-- An envelope is written with all its parts. -/
lemma Envelope.exists_mem_fields {f : Family} (e : Envelope f) {x : WireField} (h : IsPart x) :
    ∃ y ∈ e.fields, y.number = x.number := by
  rcases h with ⟨hnumber, _⟩ | ⟨hnumber, _⟩
  · exact ⟨_, List.mem_cons_self, hnumber.symm⟩
  · exact ⟨_, List.mem_cons_of_mem _ List.mem_cons_self, hnumber.symm⟩

lemma Envelope.isPart_of_mem_fields {f : Family} {e : Envelope f} {x : WireField}
    (h : x ∈ e.fields) : IsPart x := by
  rcases List.mem_pair.mp h with rfl | rfl
  · exact .inl ⟨rfl, _, rfl⟩
  · exact .inr ⟨rfl, _, rfl⟩

lemma accepts_of_decode_node {f : Family} {bs : Bytes} {v : Node f}
    (h : decode (.node f) bs = .ok v) :
    ∃ fs, WireField.SpellAll bs fs ∧ ∀ x ∈ fs, (Shape.node f).Accepts x := by
  obtain ⟨fs, k, content, payload, hbs, hsays, hpayload, rfl⟩ := decode_node_eq_ok_iff.mp h
  obtain ⟨content', hcontent'⟩ : ∃ content', payload.write = .ok content' :=
    writable_of_decode hpayload
  have hwritten := isWrittenAs_node_iff.mpr ⟨content', hcontent', rfl⟩
  refine ⟨fs, hbs, ?_⟩
  intro x hx
  have hpart := hsays.isPart x hx
  refine ⟨⟨x.value.type, ⟨⟨_, _, hwritten, Envelope.exists_mem_fields _ hpart⟩, ?_⟩, .inl rfl⟩,
    hpart⟩
  rintro ⟨k', payload'⟩ gs hgs g hg hnumber
  obtain ⟨_, _, rfl⟩ := isWrittenAs_node_iff.mp hgs
  exact (Envelope.isPart_of_mem_fields hg).type_eq hpart hnumber

lemma accepts_of_decode_criterion {bs : Bytes} {c : Criterion} (h : decode .criterion bs = .ok c) :
    ∃ fs, WireField.SpellAll bs fs ∧ ∀ f ∈ fs, Shape.criterion.Accepts f := by
  obtain ⟨k, content, payload, hbs, hpayload, rfl⟩ := decode_criterion_eq_ok_iff.mp h
  obtain ⟨content', hcontent'⟩ : ∃ content', payload.write = .ok content' :=
    writable_of_decode hpayload
  have hwritten := isWrittenAs_criterion_iff.mpr ⟨content', hcontent', rfl⟩
  refine ⟨_, hbs, ?_⟩
  intro f hf
  obtain rfl := List.mem_singleton.mp hf
  refine ⟨⟨.lengthDelimited, ⟨⟨_, _, hwritten, _, List.mem_cons_self, rfl⟩, ?_⟩, .inl rfl⟩,
    k, rfl, content, rfl, payload, hpayload⟩
  rintro ⟨k', payload'⟩ gs hgs g hg _
  obtain ⟨_, _, rfl⟩ := isWrittenAs_criterion_iff.mp hgs
  rw [List.mem_singleton.mp hg]
  rfl

/-! ### Main result -/

lemma Shape.accepts_of_decode {s : Shape} {bs : Bytes} {v : Value s} (h : decode s bs = .ok v) :
    ∃ fs, WireField.SpellAll bs fs ∧ ∀ f ∈ fs, s.Accepts f := by
  cases s with
  | message m => exact accepts_of_decode_message h
  | node f => exact accepts_of_decode_node h
  | criterion => exact accepts_of_decode_criterion h

/-- Bytes that a value is decoded from are spellings of fields, one behind the other. The encoder
writes fields of each of their numbers, with the wire type that the field has, unless it is an
element of a packed vector that stands alone; and each of them holds what it has to. So one field of
another number or type, or with a content that does not convert, is an error behind any other
fields and in front of anything, even of a field that would have overridden it; and so is the key of
a group. -/
theorem decode_accepts_every_field (s : Shape) :
    (∀ (bs : Bytes) (v : Value s), decode s bs = .ok v →
      ∃ fs, WireField.SpellAll bs fs ∧ ∀ f ∈ fs, s.Accepts f) ∧
    (∀ (front bytes rest : Bytes) (fs : List WireField) (f : WireField),
      WireField.SpellAll front fs → WireField.Spells bytes f → ¬ s.Accepts f →
      ∃ e, decode s (front ++ (bytes ++ rest)) = .error e) ∧
    (∀ (front key rest : Bytes) (fs : List WireField) (number : Nat) (t : WireType),
      WireField.SpellAll front fs → t = .startGroup ∨ t = .endGroup →
      Varint.Spells key (8 * number + t.code) →
      ∃ e, decode s (front ++ (key ++ rest)) = .error e) := by
  -- whatever follows the spellings of some fields is spelled as well where the whole is decoded
  have hrest : ∀ {front rest : Bytes} {fs : List WireField}, WireField.SpellAll front fs →
      (∀ gs, WireField.SpellAll rest gs → ∃ g ∈ gs, ¬ s.Accepts g) →
      ∃ e, decode s (front ++ rest) = .error e := by
    intro front rest fs hfront hnone
    cases hdecode : decode s (front ++ rest) with
    | error e => exact ⟨e, rfl⟩
    | ok v =>
      obtain ⟨all, hall, haccepts⟩ := Shape.accepts_of_decode hdecode
      obtain ⟨gs, rfl, hgs⟩ := hfront.of_append hall
      obtain ⟨g, hg, hrefused⟩ := hnone gs hgs
      exact absurd (haccepts g (List.mem_append_right fs hg)) hrefused
  refine ⟨?_, ?_, ?_⟩
  · intro bs v h
    exact Shape.accepts_of_decode h
  · intro front bytes rest fs f hfront hf hrefused
    refine hrest hfront ?_
    intro gs hgs
    have hone : WireField.SpellAll bytes [f] := by
      simpa using WireField.SpellAll.cons hf .nil
    obtain ⟨hs, rfl, _⟩ := hone.of_append hgs
    exact ⟨f, List.mem_cons_self, hrefused⟩
  · intro front key rest fs number t hfront ht hkey
    refine hrest hfront ?_
    intro gs hgs
    exact absurd hgs (WireField.not_spellAll_group ht hkey)

/-- A match query; the same with an operator that does not exist in front of the one that counts;
and with a group in front of it. -/
theorem decode_accepts_every_field_matchQuery :
    decode (.message .matchQuery) [10, 1, 97, 18, 1, 98, 32, 2] =
        .ok (MatchQuery.toMessage
          { fieldName := "a", text := "b", operator := QueryOperator.and }) ∧
      (∃ fs, WireField.SpellAll [10, 1, 97, 18, 1, 98, 32, 2] fs ∧
        ∀ f ∈ fs, (Shape.message .matchQuery).Accepts f) ∧
      (∃ e, decode (.message .matchQuery) ([10, 1, 97, 18, 1, 98] ++ ([32, 9] ++ [32, 2])) =
        .error e) ∧
      ∃ e, decode (.message .matchQuery) ([10, 1, 97, 18, 1, 98] ++ ([51] ++ [32, 2])) =
        .error e := by
  obtain ⟨haccepts, hrefuses, hgroup⟩ := decode_accepts_every_field (.message .matchQuery)
  have hread : decode (.message .matchQuery) [10, 1, 97, 18, 1, 98, 32, 2] =
      .ok (MatchQuery.toMessage
        { fieldName := "a", text := "b", operator := QueryOperator.and }) := by
    cbv
  have last : ∀ b : UInt8, b.toNat < 128 → Varint.Spells [b] b.toNat := by
    intro b hb
    exact ⟨.last hb, by simp, lt_trans hb (by decide)⟩
  have hfront : WireField.SpellAll [10, 1, 97, 18, 1, 98] [⟨1, .bytes [97]⟩, ⟨2, .bytes [98]⟩] := by
    show WireField.SpellAll (([10] ++ ([1] ++ [97])) ++ (([18] ++ ([1] ++ [98])) ++ [])) _
    refine .cons (.keyed (by decide) (last 10 (by decide)) (.bytes (last 1 (by decide)))) ?_
    exact .cons (.keyed (by decide) (last 18 (by decide)) (.bytes (last 1 (by decide)))) .nil
  refine ⟨hread, haccepts _ _ hread, ?_, ?_⟩
  · refine hrefuses _ [32, 9] _ _ ⟨4, .varint 9⟩ hfront ?_ ?_
    · show WireField.Spells ([32] ++ [9]) _
      exact .keyed (by decide) (last 32 (by decide)) (.varint (last 9 (by decide)))
    · rintro ⟨_, s, hs, hnumber, hadmits⟩
      have hslot : s = .leaf ⟨4, "operator"⟩ (.optional (.enum .queryOperator)) := by
        simp only [MessageType.slots, List.mem_cons, List.not_mem_nil, or_false] at hs
        rcases hs with rfl | rfl | rfl | rfl | rfl <;> simp [Slot.numbers] at hnumber ⊢
      rw [hslot] at hadmits
      obtain ⟨a, ha⟩ := hadmits
      cases a <;> exact absurd ha (by decide)
  · exact hgroup _ [51] _ _ 6 .startGroup hfront (.inl rfl) (last 51 (by decide))

end SearchWire
