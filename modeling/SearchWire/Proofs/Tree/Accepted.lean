import Mathlib
import SearchWire.Proofs.Envelope
import SearchWire.Proofs.Tree.RoundTrip
import SearchWire.Proofs.Tree.Settled

/-!
# Accepted bytes

What bytes are that some value is decoded from, one lemma for every shape: the bytes of a message
are fields that all convert, those of a node an envelope, and those of a criterion the one field of
its kind.
-/

namespace SearchWire

open Result

variable {bs : Bytes}

/-! ### Decay parameters -/

section

variable {child : (s : Shape) → Bytes → Result (Value s)} {message : String} {kind content : Tag}
  {x : Occurrence}

lemma Slot.readItem_eq_ok_inl_iff {k : DecayParamKind} :
    (decayParam kind content).readItem child message x = .ok (.inl k) ↔ x.number = kind.number ∧
      Scalar.read message x.toWireField (.enum .decayParamKind) = .ok k := by
  rw [readItem]
  by_cases h : x.number = kind.number
  · rw [if_pos h, bind_eq_ok_iff]
    simp [pure_eq_ok_iff, h]
  · rw [if_neg h, bind_eq_ok_iff]
    simp [pure_eq_ok_iff, h]

lemma Slot.readItem_eq_ok_inr_iff :
    (decayParam kind content).readItem child message x = .ok (.inr bs) ↔
      x.number ≠ kind.number ∧ x.value = .bytes bs := by
  rw [readItem]
  by_cases h : x.number = kind.number
  · rw [if_pos h, bind_eq_ok_iff]
    simp [pure_eq_ok_iff, h]
  · rw [if_neg h, bind_eq_ok_iff]
    simp [pure_eq_ok_iff, WireField.content_eq_ok_iff, h]

end

/-! ### Shapes -/

/-- An entry is only filed for a field that converts. -/
lemma exists_item?_of_readEntry {m : MessageType} {ss : List Slot} {f : WireField} {index : Nat}
    {e : Entry ss} (h : readEntry decode m.name ⟨f, index⟩ ss = .ok e) :
    ∃ s ∈ ss, ∃ x, s.item? m f = some x := by
  induction ss with
  | nil => cases h
  | cons s ss ih =>
    rw [readEntry] at h
    by_cases haccepts : s.accepts f.number = true
    · rw [if_pos haccepts, bind_eq_ok_iff] at h
      obtain ⟨x, hx, _⟩ := h
      have hitem := Slot.item?_eq_some_iff.mpr ⟨haccepts, Slot.readItem_eq_ok_iff.mp hx⟩
      exact ⟨s, List.mem_cons_self, x, hitem⟩
    · rw [if_neg haccepts, bind_eq_ok_iff] at h
      obtain ⟨e', he', _⟩ := h
      obtain ⟨s', hs', hitem⟩ := ih he'
      exact ⟨s', List.mem_cons_of_mem s hs', hitem⟩

/-- Of a message whose fields are collected, all fields convert. -/
lemma exists_converts_of_collect {m : MessageType} {entries : List (Entry m.slots)}
    (h : (Reader.start m.name bs).collect (fun x => readEntry decode m.name x m.slots) =
      .ok entries) : ∃ fs, WireField.SpellAll bs fs ∧ ∀ f ∈ fs, m.Converts f := by
  obtain ⟨hend, hmapM⟩ := Reader.collect_eq_ok_iff.mp h
  obtain ⟨fs, hbs, hfields⟩ := Reader.fields_eq_iff.mp (Prod.ext rfl hend)
  refine ⟨fs, hbs, fun f hf => ?_⟩
  obtain ⟨x, hx, rfl⟩ := Occurrence.exists_mem_ofFields hf []
  rw [← hfields] at hx
  obtain ⟨e, he⟩ := exists_forall₂_iff.mp ⟨entries, mapM_eq_ok_iff.mp hmapM⟩ x hx
  exact exists_item?_of_readEntry he

lemma decode_message_eq_ok_iff {m : MessageType} {v : Message m} :
    decode (.message m) bs = .ok v ↔ ∃ fs, WireField.SpellAll bs fs ∧ (∀ f ∈ fs, m.Converts f) ∧
      ∃ slots, settleFields m m.slots fs = .ok slots ∧ m.check slots = .ok () ∧
        v = .record slots := by
  have hsettled : ∀ fs, WireField.SpellAll bs fs → (∀ f ∈ fs, m.Converts f) →
      (decode (.message m) bs = .ok v ↔ ∃ slots, settleFields m m.slots fs = .ok slots ∧
        m.check slots = .ok () ∧ v = .record slots) := by
    intro fs hbs hfs
    simp only [decode_message_eq_settleFields hbs hfs, bind_eq_ok_iff, pure_eq_ok_iff]
    constructor
    · rintro ⟨slots, hslots, ⟨⟩, hcheck, rfl⟩
      exact ⟨slots, hslots, hcheck, rfl⟩
    · rintro ⟨slots, hslots, hcheck, rfl⟩
      exact ⟨slots, hslots, (), hcheck, rfl⟩
  constructor
  · intro h
    have hread := h
    rw [decode_eq, readShape, readMessage, bind_eq_ok_iff] at hread
    obtain ⟨entries, hentries, _⟩ := hread
    obtain ⟨fs, hbs, hconverts⟩ := exists_converts_of_collect hentries
    exact ⟨fs, hbs, hconverts, (hsettled fs hbs hconverts).mp h⟩
  · rintro ⟨fs, hbs, hfs, hslots⟩
    exact (hsettled fs hbs hfs).mpr hslots

lemma decode_node_eq_ok_iff {f : Family} {v : Node f} :
    decode (.node f) bs = .ok v ↔ ∃ (fs : List WireField) (k : f.Kind) (content : Bytes)
      (payload : Message (f.payload k)), WireField.SpellAll bs fs ∧
      Envelope.Says fs (WireEnum.code k) content ∧
      decode (.message (f.payload k)) content = .ok payload ∧ v = .node k payload := by
  simp only [decode_node_eq, decodePayload, bind_eq_ok_iff, pure_eq_ok_iff]
  constructor
  · rintro ⟨e, he, payload, hpayload, rfl⟩
    obtain ⟨fs, hfs, hsays⟩ := Envelope.exists_says_of_read he
    exact ⟨fs, e.kind, e.payload, payload, hfs, hsays, hpayload, rfl⟩
  · rintro ⟨fs, k, content, payload, hfs, hsays, hpayload, rfl⟩
    refine ⟨⟨k, content⟩, ?_, payload, hpayload, rfl⟩
    rw [Envelope.read_eq_of_spellAll hfs hsays, WireEnum.ofCode?_code]

lemma readCriterion_eq_ok_iff {x : Occurrence} {c : Criterion} :
    readCriterion decode x = .ok c ↔ ∃ (k : CriterionKind) (content : Bytes)
      (payload : Message k.payload), x.toWireField = ⟨k.tag.number, .bytes content⟩ ∧
      decode (.message k.payload) content = .ok payload ∧ c = .criterion k payload := by
  obtain ⟨⟨number, value⟩, index⟩ := x
  rw [readCriterion]
  cases hk : CriterionKind.ofNumber? number with
  | none =>
    constructor
    · intro h
      cases h
    · rintro ⟨k, content, payload, hx, _⟩
      cases hx
      rw [CriterionKind.ofNumber?_number] at hk
      cases hk
  | some k =>
    simp only [bind_eq_ok_iff, pure_eq_ok_iff, readChild_eq_ok_iff]
    constructor
    · rintro ⟨payload, ⟨content, rfl, hpayload⟩, rfl⟩
      rw [CriterionKind.ofNumber?_eq_some_iff.mp hk]
      exact ⟨k, content, payload, rfl, hpayload, rfl⟩
    · rintro ⟨k', content, payload, hx, hpayload, rfl⟩
      cases hx
      rw [CriterionKind.ofNumber?_number] at hk
      cases hk
      exact ⟨payload, ⟨content, rfl, hpayload⟩, rfl⟩

/-- The field holds a criterion for buckets, in the field of its kind. -/
def WireField.IsCriterion (f : WireField) : Prop :=
  ∃ (k : CriterionKind) (content : Bytes) (payload : Message k.payload),
    f = ⟨k.tag.number, .bytes content⟩ ∧ decode (.message k.payload) content = .ok payload

lemma exists_readCriterion_iff {x : Occurrence} :
    (∃ c, readCriterion decode x = .ok c) ↔ x.toWireField.IsCriterion := by
  simp only [readCriterion_eq_ok_iff, WireField.IsCriterion]
  constructor
  · rintro ⟨_, k, content, payload, hx, hpayload, rfl⟩
    exact ⟨k, content, payload, hx, hpayload⟩
  · rintro ⟨k, content, payload, hx, hpayload⟩
    exact ⟨_, k, content, payload, hx, hpayload, rfl⟩

lemma decode_criterion_eq_ok_iff {c : Criterion} :
    decode .criterion bs = .ok c ↔ ∃ (k : CriterionKind) (content : Bytes)
      (payload : Message k.payload),
      WireField.SpellAll bs [⟨k.tag.number, .bytes content⟩] ∧
      decode (.message k.payload) content = .ok payload ∧ c = .criterion k payload := by
  simp only [decode_eq .criterion, readShape, bind_eq_ok_iff, onlyCriterion_eq_ok_iff,
    exists_eq_right]
  constructor
  · intro h
    obtain ⟨hend, hmapM⟩ := Reader.collect_eq_ok_iff.mp h
    obtain ⟨fs, hbs, hfields⟩ := Reader.fields_eq_iff.mp (Prod.ext rfl hend)
    have hstart : (Reader.start Shape.criterion.name bs).fields.1 = Occurrence.ofFields [] fs :=
      hfields
    obtain ⟨x, _, hx, hnil, hxs⟩ := List.forall₂_cons_right_iff.mp (mapM_eq_ok_iff.mp hmapM)
    cases hnil
    rw [hstart] at hxs
    have hfs : fs = [x.toWireField] := by
      rw [← Occurrence.map_ofFields [] fs, hxs]
      rfl
    obtain ⟨k, content, payload, hfield, hpayload, rfl⟩ := readCriterion_eq_ok_iff.mp hx
    rw [hfs, hfield] at hbs
    exact ⟨k, content, payload, hbs, hpayload, rfl⟩
  · rintro ⟨k, content, payload, hbs, hpayload, rfl⟩
    rw [Reader.collect_of_spellAll hbs, mapM_eq_ok_iff]
    exact .cons (readCriterion_eq_ok_iff.mpr ⟨k, content, payload, rfl, hpayload, rfl⟩) .nil

end SearchWire
