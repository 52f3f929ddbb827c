import Mathlib
import SearchWire.Message.Query
import SearchWire.Proofs.Tree.RoundTrip
import SearchWire.Tree.Equality

/-!
# What the bytes forget

Two values of a shape that are written as the same bytes are the same tree once their weights are
set (`withDefaults_eq_of_write`). Reading back does not settle this for values that are too long to
be read. So the values of shorter bytes are given back by a reader that is not computed
(`writtenAs`), and one level of reading does the rest.
-/

namespace SearchWire

open Result

/-- Bytes of fewer than `n` say which value was written as them. -/
def DeterminesBelow (n : Nat) : Prop :=
  ∀ s (v w : Value s) bs, v.write = .ok bs → w.write = .ok bs → bs.length < n →
    v.withDefaults = w.withDefaults

open Classical in
/-- Some value that is written as the given bytes, with its weights set. -/
noncomputable def writtenAs (s : Shape) (bs : Bytes) : Result (Value s) :=
  if h : ∃ v : Value s, v.write = .ok bs then .ok h.choose.withDefaults
  else .error (.malformed s.name (.framing .underflow))

lemma DeterminesBelow.readsBack {n : Nat} (h : DeterminesBelow n) : ReadsBack writtenAs n := by
  intro s v bs hv hlt
  have hex : ∃ v : Value s, v.write = .ok bs := ⟨v, hv⟩
  rw [writtenAs, dif_pos hex, h s hex.choose v bs hex.choose_spec hv hlt]

/-- The fields of a message say what its slots held. -/
lemma DeterminesBelow.withDefaults_slots {n : Nat} (h : DeterminesBelow n) {m : MessageType}
    {t u : Slots m} {fs : List WireField} (ht : t.write = .ok fs) (hu : u.write = .ok fs)
    (hbelow : ∀ f ∈ fs, f.Below n) : t.withDefaults = u.withDefaults := by
  have hxs := Occurrence.map_ofFields [] fs
  have hbelowx : ∀ x ∈ Occurrence.ofFields [] fs, x.toWireField.Below n := by
    rwa [← hxs, List.forall_mem_map] at hbelow
  rw [← hxs] at ht hu
  obtain ⟨entries, hentries, hsettle⟩ := settleAll_write m.regular h.readsBack ht hbelowx
  obtain ⟨entries', hentries', hsettle'⟩ := settleAll_write m.regular h.readsBack hu hbelowx
  rw [← mapM_eq_ok_iff] at hentries hentries'
  obtain rfl : entries = entries' := Except.ok.inj (hentries.symm.trans hentries')
  exact Except.ok.inj (hsettle.symm.trans hsettle')

lemma DeterminesBelow.withDefaults_record {m : MessageType} {slots slots' : Slots m} {bs : Bytes}
    (h : DeterminesBelow bs.length) (hv : (Tree.record slots).write = .ok bs)
    (hw : (Tree.record slots').write = .ok bs) :
    (Tree.record slots).withDefaults = (Tree.record slots').withDefaults := by
  obtain ⟨_, fs, hfs, rfl⟩ := Tree.write_record_eq_ok_iff.mp hv
  obtain ⟨_, gs, hgs, hbytes⟩ := Tree.write_record_eq_ok_iff.mp hw
  have hf : ∀ f ∈ fs, IsFieldNumber f.number := fun f hf =>
    m.regular.isFieldNumber _ (Tree.number_mem_of_write_slots hfs f hf)
  have hg : ∀ g ∈ gs, IsFieldNumber g.number := fun g hg =>
    m.regular.isFieldNumber _ (Tree.number_mem_of_write_slots hgs g hg)
  obtain rfl := WireField.writeAll_injective hg hf hbytes
  rw [Tree.withDefaults, Tree.withDefaults,
    h.withDefaults_slots hfs hgs WireField.below_writeAll]

lemma DeterminesBelow.withDefaults_node {f : Family} {k k' : f.Kind}
    {payload : Message (f.payload k)} {payload' : Message (f.payload k')} {bs : Bytes}
    (h : DeterminesBelow bs.length) (hv : (Tree.node k payload).write = .ok bs)
    (hw : (Tree.node k' payload').write = .ok bs) :
    (Tree.node k payload).withDefaults = (Tree.node k' payload').withDefaults := by
  obtain ⟨content, hcontent, rfl⟩ := Tree.write_node_eq_ok_iff.mp hv
  obtain ⟨content', hcontent', hbytes⟩ := Tree.write_node_eq_ok_iff.mp hw
  have hfields := WireField.writeAll_injective (Envelope.isFieldNumber _)
    (Envelope.isFieldNumber _) hbytes
  obtain ⟨rfl, rfl⟩ := Envelope.mk.inj (Envelope.fields_injective hfields)
  have hlt := (⟨k', content'⟩ : Envelope f).payload_length_lt
  rw [Tree.withDefaults, Tree.withDefaults,
    h _ payload payload' content' hcontent hcontent' hlt]

lemma DeterminesBelow.withDefaults_criterion {k k' : CriterionKind} {payload : Message k.payload}
    {payload' : Message k'.payload} {bs : Bytes} (h : DeterminesBelow bs.length)
    (hv : (Tree.criterion k payload).write = .ok bs)
    (hw : (Tree.criterion k' payload').write = .ok bs) :
    (Tree.criterion k payload).withDefaults = (Tree.criterion k' payload').withDefaults := by
  obtain ⟨content, hcontent, rfl⟩ := Tree.write_criterion_eq_ok_iff.mp hv
  obtain ⟨content', hcontent', hbytes⟩ := Tree.write_criterion_eq_ok_iff.mp hw
  have hfields := WireField.writeAll_injective (by simp [k'.isFieldNumber])
    (by simp [k.isFieldNumber]) hbytes
  simp only [List.cons.injEq, WireField.mk.injEq, WireValue.bytes.injEq, and_true] at hfields
  obtain ⟨hnumber, rfl⟩ := hfields
  have hkind := CriterionKind.ofNumber?_number k'
  rw [hnumber, CriterionKind.ofNumber?_number, Option.some.injEq] at hkind
  subst hkind
  rw [Tree.withDefaults, Tree.withDefaults, h _ payload payload' content' hcontent hcontent'
    (WireField.below_writeAll _ List.mem_cons_self content' rfl)]

/-- Bytes say which value was written as them, its weights apart. -/
theorem withDefaults_eq_of_write {s : Shape} {v w : Value s} {bs : Bytes} (hv : v.write = .ok bs)
    (hw : w.write = .ok bs) : v.withDefaults = w.withDefaults := by
  induction hn : bs.length using Nat.strong_induction_on generalizing s bs with
  | _ n ih =>
    subst hn
    have hbelow : DeterminesBelow bs.length := fun s' v' w' content hv' hw' hlt =>
      ih content.length hlt hv' hw' rfl
    cases v with
    | record slots =>
      cases w with
      | record slots' => exact hbelow.withDefaults_record hv hw
    | node k payload =>
      cases w with
      | node k' payload' => exact hbelow.withDefaults_node hv hw
    | criterion k payload =>
      cases w with
      | criterion k' payload' => exact hbelow.withDefaults_criterion hv hw

/-! ### Values -/

lemma encode_withDefaults {s : Shape} (v : Value s) : encode v.withDefaults = encode v :=
  Tree.write_withDefaults (c := .shape s) trivial v

/-! ### Vector queries -/

namespace KnnVectorQuery

/-- The substitution does not set the weight of a vector query. -/
lemma weight_eq_of_withDefaults_eq {x y : KnnVectorQuery}
    (h : (x : Query).withDefaults = (y : Query).withDefaults) : x.weight = y.weight := by
  injection h with _ _ hpayload
  exact congrArg (fun t : Message .knnVectorQuery => (ofMessage t).weight) hpayload

/-- A weight that was never set counts as one. -/
lemma eq_of_weight {x y : KnnVectorQuery} (hx : x.weight = .unset)
    (hy : y = { x with weight := .of .one }) : (x : Query).eq y = (x : Query).eq x := by
  subst hy
  obtain ⟨fieldName, topK, queryVector, filter, weight⟩ := x
  cases hx
  rfl

end KnnVectorQuery

/-- The substitution of the weights is exactly what the bytes forget: values are written as the
same bytes if and only if the substitution makes them the same, and no value is written differently
for it, or fails with another error. A vector query keeps a weight that was never set apart from one
that was set to one, although they compare equal. -/
theorem encode_eq_iff_withDefaults_eq :
    (∀ {s : Shape} (v w : Value s) (b c : Bytes), encode v = .ok b → encode w = .ok c →
      (b = c ↔ v.withDefaults = w.withDefaults)) ∧
    (∀ {s : Shape} (v : Value s), encode v.withDefaults = encode v) ∧
    (∀ x y : KnnVectorQuery, x.weight = .unset → y = { x with weight := .of .one } →
      (x : Query).eq y = (x : Query).eq x ∧
      ∀ b c, encode (x : Query) = .ok b → encode (y : Query) = .ok c → b ≠ c) := by
  have hiff : ∀ {s : Shape} (v w : Value s) (b c : Bytes), encode v = .ok b → encode w = .ok c →
      (b = c ↔ v.withDefaults = w.withDefaults) := by
    intro s v w b c hv hw
    constructor
    · rintro rfl
      exact withDefaults_eq_of_write hv hw
    · intro h
      have hbytes := encode_withDefaults v
      rw [h, encode_withDefaults, hv, hw] at hbytes
      exact (Except.ok.inj hbytes).symm
  refine ⟨hiff, encode_withDefaults, fun x y hx hy => ⟨KnnVectorQuery.eq_of_weight hx hy, ?_⟩⟩
  intro b c hb hc hbytes
  have hdefaults := (hiff _ _ b c hb hc).mp hbytes
  have hweight := KnnVectorQuery.weight_eq_of_withDefaults_eq hdefaults
  rw [hx, hy] at hweight
  cases hweight

/-- A weight that was never set is forgotten in a prefix query, and is not in a vector query. -/
theorem encode_prefixQuery_and_knnVectorQuery :
    let prefixUnset : Query := PrefixQuery.of "a" "b"
    let prefixOne : Query := PrefixQuery.mk "a" "b" (.of .one)
    let vectorUnset : Query := KnnVectorQuery.of "v" 1 []
    let vectorOne : Query := KnnVectorQuery.mk "v" (some 1) (some []) none (.of .one)
    let prefixBytes : Bytes := [8, 5, 18, 11, 10, 1, 97, 18, 1, 98, 29, 0, 0, 128, 63]
    let unsetBytes : Bytes := [8, 17, 18, 7, 10, 1, 118, 16, 1, 26, 0]
    let oneBytes : Bytes := [8, 17, 18, 12, 10, 1, 118, 16, 1, 26, 0, 45, 0, 0, 128, 63]
    encode prefixUnset = .ok prefixBytes ∧ encode prefixOne = .ok prefixBytes ∧
      prefixUnset.withDefaults = prefixOne.withDefaults ∧
      encode vectorUnset = .ok unsetBytes ∧ encode vectorOne = .ok oneBytes ∧
      unsetBytes ≠ oneBytes := by
  intro prefixUnset prefixOne vectorUnset vectorOne prefixBytes unsetBytes oneBytes
  have hprefixUnset : encode prefixUnset = .ok prefixBytes := by cbv
  have hprefixOne : encode prefixOne = .ok prefixBytes := by cbv
  have hvectorUnset : encode vectorUnset = .ok unsetBytes := by cbv
  have hvectorOne : encode vectorOne = .ok oneBytes := by cbv
  obtain ⟨hiff, _, hknn⟩ := encode_eq_iff_withDefaults_eq
  refine ⟨hprefixUnset, hprefixOne, ?_, hvectorUnset, hvectorOne, ?_⟩
  · exact (hiff _ _ _ _ hprefixUnset hprefixOne).mp rfl
  · exact (hknn _ _ rfl rfl).2 _ _ hvectorUnset hvectorOne

end SearchWire
