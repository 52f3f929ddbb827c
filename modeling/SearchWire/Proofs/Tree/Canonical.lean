import Mathlib
import SearchWire.Proofs.Tree.RoundTrip
import SearchWire.Proofs.Tree.Writable

/-!
# Everything that is read can be written

Whatever bytes a value was read from, the value can be written (`writable_of_decode`), so reading
and writing again brings the bytes into a canonical form. Every check in front of writing has to
follow from what was checked while reading: a required slot from its entries, the length of a column
value from its blob, and the checks across slots from the same checks.
-/

namespace SearchWire

open Result

/-- What an item says can be written, as far as it is no longer bytes. -/
def Slot.Item.Writable : {s : Slot} → s.Item → Prop
  | .leaf _ l, x => ∃ content, l.writeItem x = .ok content
  | .child _ _ _, value => Tree.Writable value
  | .children _ _, value => Tree.Writable value
  | .decayParam _ _, _ => True

/-- What an entry says can be written, as far as it is no longer bytes. -/
def Entry.Writable : {ss : List Slot} → Entry ss → Prop
  | _, here x => Slot.Item.Writable x
  | _, there e => e.Writable

section

variable {child : (s : Shape) → Bytes → Result (Value s)}
  (hchild : ∀ s bs (v : Value s), child s bs = .ok v → v.Writable)

include hchild

lemma writable_of_readChild {message : String} {tag : Tag} {index : Option Nat} {s : Shape}
    {x : WireField} {v : Value s} (h : readChild child message tag index s x = .ok v) :
    v.Writable := by
  obtain ⟨content, _, hv⟩ := readChild_eq_ok_iff.mp h
  exact hchild _ _ _ hv

lemma Slot.Item.writable_of_readItem {message : String} {x : Occurrence} {s : Slot} {item : s.Item}
    (h : s.readItem child message x = .ok item) : Slot.Item.Writable item := by
  cases s with
  | leaf tag l => exact Leaf.exists_writeItem_of_readItem h
  | child tag s required => exact writable_of_readChild hchild h
  | children tag s => exact writable_of_readChild hchild h
  | decayParam kind content => trivial

lemma Entry.writable_of_readEntry {message : String} {x : Occurrence} {ss : List Slot}
    {e : Entry ss} (h : readEntry child message x ss = .ok e) : e.Writable := by
  induction ss with
  | nil => simp [readEntry] at h
  | cons s ss ih =>
    rw [readEntry] at h
    split at h
    · simp only [bind_eq_ok_iff, pure_eq_ok_iff] at h
      obtain ⟨item, hitem, rfl⟩ := h
      exact Slot.Item.writable_of_readItem hchild hitem
    · simp only [bind_eq_ok_iff, pure_eq_ok_iff] at h
      obtain ⟨e, he, rfl⟩ := h
      exact ih he

/-- A slot that is settled from what can be written can be written. -/
lemma Slot.writable_of_settle {m : MessageType} {s : Slot} (hs : s.Regular m) {items : List s.Item}
    {t : Tree (.slot m s)} (hitems : ∀ item ∈ items, Slot.Item.Writable item)
    (h : s.settle child m items = .ok t) : t.Writable := by
  cases s with
  | leaf tag l =>
    rw [settle] at h
    split at h
    · rename_i v hv
      cases h
      exact Leaf.exists_write_of_settle hs hitems hv m.name tag
    · cases h
  | child tag s required =>
    rw [settle] at h
    split at h
    · rename_i v hv
      cases h
      exact Tree.writable_child_iff.mpr (hitems v (List.mem_of_getLast? hv))
    · cases required <;> cases h
      exact Tree.writable_unset_iff.mpr rfl
  | children tag s =>
    cases h
    exact Tree.writable_children_iff.mpr (Tree.writable_ofList_iff.mpr hitems)
  | decayParam kind content =>
    rw [settle] at h
    split at h
    · cases h
    · split at h
      · cases h
      · simp only [bind_eq_ok_iff, within_eq_ok_iff, pure_eq_ok_iff] at h
        obtain ⟨payload, hpayload, rfl⟩ := h
        exact Tree.writable_param_iff.mpr (hchild _ _ _ hpayload)

lemma writable_of_settleAll {m : MessageType} {ss : List Slot} (hss : RegularLayout m ss)
    {entries : List (Entry ss)} {t : Tree (.slots m ss)} (hentries : ∀ e ∈ entries, e.Writable)
    (h : settleAll child m ss entries = .ok t) : t.Writable := by
  induction ss with
  | nil =>
    cases t
    exact Tree.writable_nil
  | cons s ss ih =>
    simp only [settleAll, bind_eq_ok_iff, pure_eq_ok_iff] at h
    obtain ⟨head, hhead, tail, htail, rfl⟩ := h
    rw [Tree.writable_cons_iff]
    constructor
    · refine Slot.writable_of_settle hchild hss.head ?_ hhead
      intro item hitem
      obtain ⟨e, he, heq⟩ := List.mem_filterMap.mp hitem
      cases e <;> cases heq
      exact hentries _ he
    · refine ih hss.tail ?_ htail
      intro e' he'
      obtain ⟨e, he, heq⟩ := List.mem_filterMap.mp he'
      cases e <;> cases heq
      exact hentries _ he

lemma writable_of_readMessage {m : MessageType} {bs : Bytes} {v : Message m}
    (h : readMessage child m bs = .ok v) : v.Writable := by
  simp only [readMessage, bind_eq_ok_iff, pure_eq_ok_iff] at h
  obtain ⟨entries, hentries, slots, hslots, ⟨⟩, hcheck, rfl⟩ := h
  refine Tree.writable_record_iff.mpr ⟨hcheck, ?_⟩
  refine writable_of_settleAll hchild m.regular ?_ hslots
  intro e he
  obtain ⟨x, _, hx⟩ := Reader.exists_of_mem_collect hentries he
  exact Entry.writable_of_readEntry hchild hx

lemma writable_of_readCriterion {x : Occurrence} {c : Criterion}
    (h : readCriterion child x = .ok c) : c.Writable := by
  rw [readCriterion] at h
  split at h
  · cases h
  · simp only [bind_eq_ok_iff, pure_eq_ok_iff] at h
    obtain ⟨payload, hpayload, rfl⟩ := h
    exact Tree.writable_criterion_iff.mpr (writable_of_readChild hchild hpayload)

/-- One level of reading gives what can be written if the reader of the children does. -/
lemma writable_of_readShape {s : Shape} {bs : Bytes} {v : Value s}
    (h : readShape child s bs = .ok v) : v.Writable := by
  cases s with
  | message m => exact writable_of_readMessage hchild h
  | node f =>
    simp only [readShape, bind_eq_ok_iff, pure_eq_ok_iff] at h
    obtain ⟨e, _, payload, hpayload, rfl⟩ := h
    exact Tree.writable_node_iff.mpr (hchild _ _ _ hpayload)
  | criterion =>
    simp only [readShape, bind_eq_ok_iff] at h
    obtain ⟨found, hfound, honly⟩ := h
    obtain rfl := onlyCriterion_eq_ok_iff.mp honly
    obtain ⟨x, _, hx⟩ := Reader.exists_of_mem_collect hfound List.mem_cons_self
    exact writable_of_readCriterion hchild hx

end

/-- What is read from any bytes can be written. -/
theorem writable_of_decode {s : Shape} {bs : Bytes} {v : Value s} (h : decode s bs = .ok v) :
    v.Writable := by
  induction hn : bs.length using Nat.strong_induction_on generalizing s bs with
  | _ n ih =>
    subst hn
    rw [decode] at h
    refine writable_of_readShape ?_ h
    intro s' content v' hv'
    split at hv'
    · rename_i hlt
      exact ih content.length hlt hv' rfl
    · cases hv'

/-- Whatever bytes a value was read from, it can be written; its bytes are read as the same value
with the weights set, unless they are longer than any in memory; and that value is written as the
same bytes again. -/
theorem encode_decode {s : Shape} {bs : Bytes} {v : Value s} (h : decode s bs = .ok v) :
    ∃ bs', encode v = .ok bs' ∧ encode v.withDefaults = .ok bs' ∧
      (bs'.length < UInt64.size → decode s bs' = .ok v.withDefaults) := by
  obtain ⟨bs', hbs'⟩ : ∃ bs', v.write = .ok bs' := writable_of_decode h
  refine ⟨bs', hbs', ?_, readsBack_decode s v bs' hbs'⟩
  rw [encode, Tree.write_withDefaults (c := .shape s) trivial v, hbs']

/-- Bytes in another order than they are written in, with a field that occurs twice, a number in
more groups than it needs and no weight, are brought into the written form. -/
theorem encode_decode_prefixQuery :
    decode (.node .query) [18, 9, 18, 1, 120, 18, 1, 98, 10, 1, 97, 8, 133, 0] =
        .ok (PrefixQuery.of "a" "b") ∧
      ∃ bs', encode (PrefixQuery.of "a" "b" : Query) = .ok bs' ∧
        encode (PrefixQuery.mk "a" "b" (.of .one) : Query) = .ok bs' ∧
        (bs'.length < UInt64.size →
          decode (.node .query) bs' = .ok (PrefixQuery.mk "a" "b" (.of .one))) := by
  have hread : decode (.node .query) [18, 9, 18, 1, 120, 18, 1, 98, 10, 1, 97, 8, 133, 0] =
      .ok (PrefixQuery.of "a" "b") := by cbv
  exact ⟨hread, encode_decode hread⟩

end SearchWire
