import Mathlib
import SearchWire.Message.Query
import SearchWire.Proofs.Tree.ReadBack

/-!
# Round trip

A value that can be written is read back from its bytes, with the weights set that are never left
out: one level of reading does that if the reader of the children does (`readShape_write`), and so
decoding does (`readsBack_decode`). The bytes have to be so few that a length among them fits the 64
bits of a variable-length number, which is true of everything that has a place in memory.
-/

namespace SearchWire

open Result

lemma Envelope.isFieldNumber {f : Family} (e : Envelope f) :
    ∀ x ∈ e.fields, IsFieldNumber x.number := by
  simp only [fields, List.forall_mem_cons, List.not_mem_nil, false_implies, implies_true, and_true]
  decide

lemma Envelope.payload_length_lt {f : Family} (e : Envelope f) :
    e.payload.length < e.write.length :=
  WireField.below_writeAll ⟨2, .bytes e.payload⟩ (by simp [fields]) e.payload rfl

/-- Two envelopes with the same fields are the same. -/
lemma Envelope.fields_injective {f : Family} {e e' : Envelope f} (h : e.fields = e'.fields) :
    e = e' := by
  simp only [fields, List.cons.injEq, WireField.mk.injEq, WireValue.bytes.injEq, true_and,
    and_true] at h
  obtain ⟨hkind, hpayload⟩ := h
  have hread := WireField.int32_varint 1 (WireEnum.code e.kind) f.name
  rw [hkind, WireField.int32_varint, Except.ok.injEq] at hread
  obtain ⟨k, payload⟩ := e
  obtain ⟨k', payload'⟩ := e'
  obtain rfl : k' = k := WireEnum.code_injective hread
  obtain rfl : payload = payload' := hpayload
  rfl

/-- An envelope is read back from its bytes. -/
lemma Envelope.read_write {f : Family} {e : Envelope f} (h : e.write.length < UInt64.size) :
    Envelope.read f e.write = .ok e := by
  have hparts : (Occurrence.ofFields [] e.fields).mapM (readPart f.name) =
      .ok [.kind (WireEnum.code e.kind), .payload e.payload] := by
    rw [mapM_eq_ok_iff]
    refine .cons ?_ (.cons rfl .nil)
    simp only [readPart, if_true, WireField.int32_varint]
    rfl
  rw [read, write, Reader.collect_writeAll (WireField.fits_of_writeAll e.isFieldNumber h),
    hparts]
  simp [lastKind, lastPayload, bind, Except.bind, pure, Except.pure]

section

variable {child : (s : Shape) → Bytes → Result (Value s)} {bs : Bytes}

/-- A message is read back from its bytes. -/
lemma readMessage_write {m : MessageType} {slots : Slots m} (hchild : ReadsBack child bs.length)
    (h : (Tree.record slots).write = .ok bs) (hlength : bs.length < UInt64.size) :
    readMessage child m bs = .ok (Tree.record slots).withDefaults := by
  obtain ⟨hcheck, fs, hfs, rfl⟩ := Tree.write_record_eq_ok_iff.mp h
  have hnumber : ∀ f ∈ fs, IsFieldNumber f.number := fun f hf =>
    m.regular.isFieldNumber _ (Tree.number_mem_of_write_slots hfs f hf)
  have hbelow : ∀ x ∈ Occurrence.ofFields [] fs,
      x.toWireField.Below (WireField.writeAll fs).length := by
    intro x hx
    exact WireField.below_writeAll _ (Occurrence.mem_of_mem_ofFields hx)
  have hxs : slots.write = .ok ((Occurrence.ofFields [] fs).map Occurrence.toWireField) := by
    rwa [Occurrence.map_ofFields]
  obtain ⟨entries, hentries, hsettle⟩ := settleAll_write m.regular hchild hxs hbelow
  rw [readMessage, Reader.collect_writeAll (WireField.fits_of_writeAll hnumber hlength),
    mapM_eq_ok_iff.mpr hentries]
  simp only [bind, Except.bind, hsettle, MessageType.check_withDefaults, hcheck]
  rfl

@[simp] lemma CriterionKind.ofNumber?_number (k : CriterionKind) :
    ofNumber? k.tag.number = some k := by
  cases k <;> rfl

lemma CriterionKind.ofNumber?_eq_some_iff {n : Nat} {k : CriterionKind} :
    ofNumber? n = some k ↔ n = k.tag.number := by
  constructor
  · intro h
    rw [ofNumber?.eq_def] at h
    split at h <;> cases h <;> rfl
  · rintro rfl
    exact ofNumber?_number k

lemma onlyCriterion_eq_ok_iff {cs : List Criterion} {c : Criterion} :
    onlyCriterion cs = .ok c ↔ cs = [c] := by
  constructor
  · intro h
    rw [onlyCriterion.eq_def] at h
    split at h <;> cases h
    rfl
  · rintro rfl
    rfl

lemma CriterionKind.isFieldNumber (k : CriterionKind) : IsFieldNumber k.tag.number := by
  cases k <;> decide

/-- A criterion is read back from its bytes. -/
lemma readCriterion_write {k : CriterionKind} {payload : Message k.payload}
    (hchild : ReadsBack child bs.length) (h : (Tree.criterion k payload).write = .ok bs)
    (hlength : bs.length < UInt64.size) :
    readShape child .criterion bs = .ok (Tree.criterion k payload).withDefaults := by
  obtain ⟨content, hcontent, rfl⟩ := Tree.write_criterion_eq_ok_iff.mp h
  have hnumber : ∀ f ∈ [(⟨k.tag.number, .bytes content⟩ : WireField)], IsFieldNumber f.number := by
    simp [k.isFieldNumber]
  have hread := hchild.readChild hcontent rfl (WireField.below_writeAll _ List.mem_cons_self)
    Shape.criterion.name k.tag none
  have hfound : (Occurrence.ofFields [] [(⟨k.tag.number, .bytes content⟩ : WireField)]).mapM
      (readCriterion child) = .ok [(Tree.criterion k payload).withDefaults] := by
    rw [mapM_eq_ok_iff]
    refine .cons ?_ .nil
    simp only [readCriterion, CriterionKind.ofNumber?_number, hread]
    rfl
  rw [readShape, Reader.collect_writeAll (WireField.fits_of_writeAll hnumber hlength), hfound]
  rfl

/-- One level of reading reads back what was written if the reader of the children does. -/
theorem readShape_write {s : Shape} {v : Value s} (hchild : ReadsBack child bs.length)
    (h : v.write = .ok bs) (hlength : bs.length < UInt64.size) :
    readShape child s bs = .ok v.withDefaults := by
  cases v with
  | record slots => exact readMessage_write hchild h hlength
  | @node f k payload =>
    obtain ⟨content, hcontent, rfl⟩ := Tree.write_node_eq_ok_iff.mp h
    have hlt := (⟨k, content⟩ : Envelope f).payload_length_lt
    simp only [readShape, Envelope.read_write hlength, bind, Except.bind,
      hchild _ payload content hcontent hlt]
    rfl
  | criterion k payload => exact readCriterion_write hchild h hlength

end

/-- Decoding reads back everything whose lengths can be counted. -/
theorem readsBack_decode : ReadsBack decode UInt64.size := by
  intro s v bs h hlength
  induction hn : bs.length using Nat.strong_induction_on generalizing s bs with
  | _ n ih =>
    subst hn
    rw [decode_eq]
    refine readShape_write (fun s' v' content hv' hlt => ?_) h hlength
    exact ih content.length hlt s' v' content hv' (lt_trans hlt hlength) rfl

/-- A value that can be written is read back from its bytes, the same but for the weights that are
set. No byte string in memory is so long that its length does not fit 64 bits. -/
theorem decode_encode {s : Shape} {v : Value s} {bs : Bytes} (h : encode v = .ok bs)
    (hlength : bs.length < UInt64.size) : decode s bs = .ok v.withDefaults :=
  readsBack_decode s v bs h hlength

/-- A prefix query of the given weight and a vector query without a weight, combined. -/
def prefixAndVector (w : Weight) : Query :=
  BoolQuery.mk [PrefixQuery.mk "a" "b" w, KnnVectorQuery.of "v" 1 []] [] [] [] none

/-- Of two queries without a weight, the prefix query comes back with one and the vector query
without. -/
theorem decode_encode_prefixAndVector :
    let bytes : Bytes := [8, 6, 18, 30, 10, 15, 8, 5, 18, 11, 10, 1, 97, 18, 1, 98, 29, 0, 0, 128,
      63, 10, 11, 8, 17, 18, 7, 10, 1, 118, 16, 1, 26, 0]
    encode (prefixAndVector .unset) = .ok bytes ∧
      decode (.node .query) bytes = .ok (prefixAndVector (.of .one)) := by
  intro bytes
  have hbytes : encode (prefixAndVector .unset) = .ok bytes := by cbv
  exact ⟨hbytes, decode_encode hbytes (by decide)⟩

end SearchWire
