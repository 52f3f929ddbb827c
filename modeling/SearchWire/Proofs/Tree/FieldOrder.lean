import Mathlib
import SearchWire.Message.Query
import SearchWire.Message.Sort
import SearchWire.Proofs.Envelope
import SearchWire.Proofs.Tree.Rearranged

/-!
# Order and repetition of fields

Messages, envelopes and nodes whose fields say the same are read alike (`decode_eq_of_agree`), with
one exception: a vector query that lacks its vector is incomplete, and one with an empty vector is
not, although neither vector has any elements (`decode_knnVectorQuery_vector`).
-/

namespace SearchWire

/-! ### Envelopes -/

namespace Envelope

variable {f : Family} {bs cs : Bytes} {fs gs : List WireField}

/-- Parts of an envelope say something about it. -/
lemma exists_says (h : ∀ x ∈ fs, IsPart x) : ∃ code payload, Says fs code payload := by
  obtain ⟨parts, rfl⟩ := exists_map_field_eq h
  exact ⟨lastKind parts, lastPayload parts, says_map_field_iff.mpr ⟨rfl, rfl⟩⟩

/-- Envelopes are read alike if the last kind and the last payload are the same. -/
lemma read_eq_of_last?_eq (hfs : WireField.SpellAll bs fs) (hgs : WireField.SpellAll cs gs)
    (hparts : ∀ x ∈ fs, IsPart x) (hparts' : ∀ x ∈ gs, IsPart x)
    (hkind : WireField.last? 1 fs = WireField.last? 1 gs)
    (hpayload : WireField.last? 2 fs = WireField.last? 2 gs) : read f bs = read f cs := by
  obtain ⟨code, payload, h⟩ := exists_says hparts
  have h' : Says gs code payload :=
    ⟨hparts', by rw [← hkind]; exact h.kind, by rw [← hpayload]; exact h.payload⟩
  rw [read_eq_of_spellAll hfs h, read_eq_of_spellAll hgs h']

/-- A node looks at its payload only as what it is read as. -/
lemma decode_eq_of_payload_eq {k : f.Kind} {payload payload' : Bytes}
    (hfs : WireField.SpellAll bs fs) (hgs : WireField.SpellAll cs gs)
    (h : Says fs (WireEnum.code k) payload) (h' : Says gs (WireEnum.code k) payload')
    (hpayload : decode (.message (f.payload k)) payload =
      decode (.message (f.payload k)) payload') :
    decode (.node f) bs = decode (.node f) cs := by
  have hread : read f bs = .ok ⟨k, payload⟩ := by
    rw [read_eq_of_spellAll hfs h, WireEnum.ofCode?_code]
  have hread' : read f cs = .ok ⟨k, payload'⟩ := by
    rw [read_eq_of_spellAll hgs h', WireEnum.ofCode?_code]
  rw [decode_node_eq, decode_node_eq, hread, hread']
  show decodePayload f k payload = decodePayload f k payload'
  rw [decodePayload, decodePayload, hpayload]

end Envelope

/-! ### Main result -/

/-- Two sequences of fields that all convert, and that say the same about every slot, are read
alike, be it as a message or as an error; so are sequences that differ only in the order of fields
of different numbers, in a field that a later one overwrites, or in the bytes of a child. An envelope
is read alike if the last kind and the last payload are the same, and the node in it if the payload
is read as the same message. -/
theorem decode_eq_of_agree :
    (∀ (m : MessageType) {bs cs : Bytes} {fs gs : List WireField}, WireField.SpellAll bs fs →
      WireField.SpellAll cs gs → (∀ f ∈ fs, m.Converts f) → (∀ g ∈ gs, m.Converts g) →
      (m.Agree fs gs ∧ m.OccurAlike fs gs) ∨ m.Rearranged fs gs →
      decode (.message m) bs = decode (.message m) cs) ∧
    (∀ (f : Family) {bs cs : Bytes} {fs gs : List WireField}, WireField.SpellAll bs fs →
      WireField.SpellAll cs gs → (∀ x ∈ fs, Envelope.IsPart x) → (∀ x ∈ gs, Envelope.IsPart x) →
      WireField.last? 1 fs = WireField.last? 1 gs → WireField.last? 2 fs = WireField.last? 2 gs →
      Envelope.read f bs = Envelope.read f cs ∧ decode (.node f) bs = decode (.node f) cs) ∧
    (∀ (f : Family) {bs cs : Bytes} {fs gs : List WireField} {k : f.Kind} {payload payload' : Bytes}
      {p : Message (f.payload k)}, WireField.SpellAll bs fs → WireField.SpellAll cs gs →
      Envelope.Says fs (WireEnum.code k) payload → Envelope.Says gs (WireEnum.code k) payload' →
      decode (.message (f.payload k)) payload = .ok p →
      decode (.message (f.payload k)) payload' = .ok p →
      decode (.node f) bs = decode (.node f) cs) := by
  refine ⟨?_, ?_, ?_⟩
  · intro m bs cs fs gs hfs hgs hconvert hconvert' h
    have hagree : m.Agree fs gs ∧ m.OccurAlike fs gs := by
      rcases h with hagree | hrearranged
      · exact hagree
      · exact hrearranged.agree hconvert
    exact decode_message_eq_of_agree hfs hgs hconvert hconvert' hagree.1 hagree.2
  · intro f bs cs fs gs hfs hgs hparts hparts' hkind hpayload
    have hread : Envelope.read f bs = Envelope.read f cs :=
      Envelope.read_eq_of_last?_eq hfs hgs hparts hparts' hkind hpayload
    refine ⟨hread, ?_⟩
    rw [decode_node_eq, decode_node_eq, hread]
  · intro f bs cs fs gs k payload payload' p hfs hgs h h' hp hp'
    exact Envelope.decode_eq_of_payload_eq hfs hgs h h' (hp.trans hp'.symm)

/-! ### Vector queries -/

lemma queryVector_mem_slots : Slot.leaf ⟨3, "queryVector"⟩ (.requiredVector .float) ∈
    MessageType.knnVectorQuery.slots := by
  simp [MessageType.slots]

lemma converts_fieldName : MessageType.knnVectorQuery.Converts ⟨1, .bytes [118]⟩ :=
  ⟨.leaf ⟨1, "fieldName"⟩ (.required .text), by simp [MessageType.slots], "v", by cbv⟩

lemma converts_topK : MessageType.knnVectorQuery.Converts ⟨2, .varint 1⟩ :=
  ⟨.leaf ⟨2, "topK"⟩ (.required .int32), by simp [MessageType.slots], (1 : Int32), by cbv⟩

/-- A vector in one stretch or element by element; a limit that is said once or twice; an envelope
whose kind is said twice; and a sorter whose payload says its order twice. -/
theorem decode_knnVectorQuery_and_innerHits :
    decode (.message .knnVectorQuery) (WireField.writeAll [⟨1, .bytes [118]⟩, ⟨2, .varint 1⟩,
          ⟨3, .fixed32 1⟩, ⟨3, .fixed32 2⟩]) =
        decode (.message .knnVectorQuery) (WireField.writeAll [⟨1, .bytes [118]⟩, ⟨2, .varint 1⟩,
          ⟨3, .bytes [1, 0, 0, 0, 2, 0, 0, 0]⟩]) ∧
      decode (.message .innerHits) (WireField.writeAll [⟨2, .varint 1⟩, ⟨3, .varint 2⟩]) =
        decode (.message .innerHits)
          (WireField.writeAll [⟨3, .varint 7⟩, ⟨2, .varint 1⟩, ⟨3, .varint 2⟩]) ∧
      Envelope.read .query (WireField.writeAll [⟨1, .varint 11⟩, ⟨2, .bytes []⟩]) =
        Envelope.read .query
          (WireField.writeAll [⟨1, .varint 1⟩, ⟨2, .bytes []⟩, ⟨1, .varint 11⟩]) ∧
      decode (.node .sorter) (WireField.writeAll [⟨1, .varint 5⟩, ⟨2, .bytes [8, 1]⟩]) =
        decode (.node .sorter) (WireField.writeAll [⟨1, .varint 5⟩, ⟨2, .bytes [8, 0, 8, 1]⟩]) := by
  obtain ⟨hmessage, henvelope, hnode⟩ := decode_eq_of_agree
  refine ⟨?_, ?_, ?_, ?_⟩
  · have hfirst : MessageType.knnVectorQuery.Converts ⟨3, .fixed32 1⟩ :=
      ⟨_, queryVector_mem_slots, ([⟨1⟩] : List Binary32), by cbv⟩
    have hsecond : MessageType.knnVectorQuery.Converts ⟨3, .fixed32 2⟩ :=
      ⟨_, queryVector_mem_slots, ([⟨2⟩] : List Binary32), by cbv⟩
    have hboth : MessageType.knnVectorQuery.Converts ⟨3, .bytes [1, 0, 0, 0, 2, 0, 0, 0]⟩ :=
      ⟨_, queryVector_mem_slots, ([⟨1⟩, ⟨2⟩] : List Binary32), by cbv⟩
    have hother : ∀ t : Slot, t.accepts 3 = false →
        t.items .knnVectorQuery [⟨1, .bytes [118]⟩, ⟨2, .varint 1⟩, ⟨3, .fixed32 1⟩,
          ⟨3, .fixed32 2⟩] = t.items .knnVectorQuery [⟨1, .bytes [118]⟩, ⟨2, .varint 1⟩,
          ⟨3, .bytes [1, 0, 0, 0, 2, 0, 0, 0]⟩] := by
      intro t ht
      have hnone : ∀ value, t.item? .knnVectorQuery ⟨3, value⟩ = none :=
        fun value => Slot.item?_eq_none_of_accepts ht
      simp only [Slot.items, List.filterMap_cons, hnone]
    refine hmessage .knnVectorQuery (Reader.spellAll_writeAll ?_) (Reader.spellAll_writeAll ?_) ?_
      ?_ (.inl ⟨?_, ?_⟩)
    · simp [WireField.Fits, WireValue.Fits, UInt32.size, UInt64.size]
    · simp [WireField.Fits, WireValue.Fits, UInt32.size, UInt64.size]
    · simp [converts_fieldName, converts_topK, hfirst, hsecond]
    · simp [converts_fieldName, converts_topK, hboth]
    · exact MessageType.forall_slots (fun s => Slot.Agree.refl) queryVector_mem_slots rfl hother rfl
    · exact MessageType.forall_slots (fun s => Slot.OccurAlike.refl) queryVector_mem_slots rfl
        hother (iff_of_false (List.cons_ne_nil _ _) (List.cons_ne_nil _ _))
  · have hoffset : MessageType.innerHits.Converts ⟨2, .varint 1⟩ :=
      ⟨.leaf ⟨2, "offset"⟩ (.optional .int32), by simp [MessageType.slots], (1 : Int32), by cbv⟩
    have hslot : Slot.leaf ⟨3, "limit"⟩ (.optional .int32) ∈ MessageType.innerHits.slots := by
      simp [MessageType.slots]
    have hlimit : MessageType.innerHits.Converts ⟨3, .varint 2⟩ :=
      ⟨_, hslot, (2 : Int32), by cbv⟩
    have hlimit' : MessageType.innerHits.Converts ⟨3, .varint 7⟩ :=
      ⟨_, hslot, (7 : Int32), by cbv⟩
    have hlater : (⟨3, .varint 2⟩ : WireField) ∈ [⟨2, .varint 1⟩, ⟨3, .varint 2⟩] := by simp
    have hrearranged : MessageType.innerHits.Rearranged ([] ++ [⟨2, .varint 1⟩, ⟨3, .varint 2⟩])
        ([] ++ ⟨3, .varint 7⟩ :: [⟨2, .varint 1⟩, ⟨3, .varint 2⟩]) :=
      .overwritten hslot trivial rfl hlater rfl
    refine hmessage .innerHits (Reader.spellAll_writeAll ?_) (Reader.spellAll_writeAll ?_) ?_ ?_
      (.inr hrearranged)
    · simp [WireField.Fits, WireValue.Fits, UInt32.size]
    · simp [WireField.Fits, WireValue.Fits, UInt32.size]
    · simp [hoffset, hlimit]
    · simp [hoffset, hlimit, hlimit']
  · have hkind : Envelope.IsPart ⟨1, .varint 11⟩ := .inl ⟨rfl, 11, rfl⟩
    have hkind' : Envelope.IsPart ⟨1, .varint 1⟩ := .inl ⟨rfl, 1, rfl⟩
    have hpayload : Envelope.IsPart ⟨2, .bytes []⟩ := .inr ⟨rfl, [], rfl⟩
    have hfs : WireField.SpellAll (WireField.writeAll [⟨1, .varint 11⟩, ⟨2, .bytes []⟩]) _ :=
      Reader.spellAll_writeAll
        (by simp [WireField.Fits, WireValue.Fits, UInt32.size, UInt64.size])
    have hgs : WireField.SpellAll
        (WireField.writeAll [⟨1, .varint 1⟩, ⟨2, .bytes []⟩, ⟨1, .varint 11⟩]) _ :=
      Reader.spellAll_writeAll
        (by simp [WireField.Fits, WireValue.Fits, UInt32.size, UInt64.size])
    have hread := henvelope .query hfs hgs (by simp [hkind, hpayload])
      (by simp [hkind, hkind', hpayload]) rfl rfl
    exact hread.1
  · have hparts : ∀ payload, Envelope.Says [⟨1, .varint 5⟩, ⟨2, .bytes payload⟩]
        (WireEnum.code SorterKind.doc) payload := by
      intro payload
      refine ⟨?_, rfl, rfl⟩
      rintro x hx
      rcases List.mem_pair.mp hx with rfl | rfl
      · exact .inl ⟨rfl, 5, rfl⟩
      · exact .inr ⟨rfl, payload, rfl⟩
    have hsort : decode (.message .docSort) [8, 1] = .ok (DocSort.of .desc).toMessage := by cbv
    have hsort' : decode (.message .docSort) [8, 0, 8, 1] = .ok (DocSort.of .desc).toMessage := by
      cbv
    refine hnode .sorter (Reader.spellAll_writeAll ?_) (Reader.spellAll_writeAll ?_) (hparts _)
      (hparts _) hsort hsort'
    · simp [WireField.Fits, WireValue.Fits, UInt32.size, UInt64.size]
    · simp [WireField.Fits, WireValue.Fits, UInt32.size, UInt64.size]

/-- No vector and an empty one have the same elements, but a vector query without one is
incomplete. -/
theorem decode_knnVectorQuery_vector :
    let fs : List WireField := [⟨1, .bytes [118]⟩, ⟨2, .varint 1⟩]
    let gs : List WireField := [⟨1, .bytes [118]⟩, ⟨2, .varint 1⟩, ⟨3, .bytes []⟩]
    WireField.SpellAll [10, 1, 118, 16, 1] fs ∧ WireField.SpellAll [10, 1, 118, 16, 1, 26, 0] gs ∧
      (∀ f ∈ fs, MessageType.knnVectorQuery.Converts f) ∧
      (∀ g ∈ gs, MessageType.knnVectorQuery.Converts g) ∧ MessageType.knnVectorQuery.Agree fs gs ∧
      decode (.message .knnVectorQuery) [10, 1, 118, 16, 1] =
        .error (.required [] "KnnVectorQuery" "queryVector") ∧
      decode (.message .knnVectorQuery) [10, 1, 118, 16, 1, 26, 0] =
        .ok (KnnVectorQuery.of "v" 1 []).toMessage := by
  intro fs gs
  have hfs : WireField.SpellAll [10, 1, 118, 16, 1] fs := by
    have hbytes : WireField.writeAll fs = [10, 1, 118, 16, 1] := by cbv
    rw [← hbytes]
    apply Reader.spellAll_writeAll
    simp [fs, WireField.Fits, WireValue.Fits, UInt32.size, UInt64.size]
  have hgs : WireField.SpellAll [10, 1, 118, 16, 1, 26, 0] gs := by
    have hbytes : WireField.writeAll gs = [10, 1, 118, 16, 1, 26, 0] := by cbv
    rw [← hbytes]
    apply Reader.spellAll_writeAll
    simp [gs, WireField.Fits, WireValue.Fits, UInt32.size, UInt64.size]
  have hvector : MessageType.knnVectorQuery.Converts ⟨3, .bytes []⟩ :=
    ⟨_, queryVector_mem_slots, ([] : List Binary32), by cbv⟩
  have hconvert : ∀ f ∈ fs, MessageType.knnVectorQuery.Converts f := by
    simp [fs, converts_fieldName, converts_topK]
  have hconvert' : ∀ g ∈ gs, MessageType.knnVectorQuery.Converts g := by
    simp [gs, converts_fieldName, converts_topK, hvector]
  refine ⟨hfs, hgs, hconvert, hconvert', ?_, ?_, ?_⟩
  · have hother : ∀ t : Slot, t.accepts 3 = false →
        t.items .knnVectorQuery fs = t.items .knnVectorQuery gs :=
      fun t ht => (MessageType.items_insert ht : t.items .knnVectorQuery (fs ++ []) =
        t.items .knnVectorQuery (fs ++ ⟨3, .bytes []⟩ :: []))
    exact MessageType.forall_slots (fun s => Slot.Agree.refl) queryVector_mem_slots rfl hother rfl
  · rw [decode_message_eq_settleFields hfs hconvert]
    cbv
  · rw [decode_message_eq_settleFields hgs hconvert']
    cbv

end SearchWire
